import Mathlib.Algebra.Group.Int.Defs
import Mathlib.Data.List.Induction
import Mathlib.Data.Rat.Defs
import Mathlib.Data.String.Basic

/-!
# JSON values

The fields of an object are kept in the order of their names.  A field is read from any value
and is absent from one that is not an object; it is set in an object, and in a null value that
becomes one.
-/

namespace DecisionEngine.Json

inductive Value where
  | null
  | bool (value : Bool)
  | int (value : Int)
  | float (value : ℚ)
  | string (text : String)
  | array (values : List Value)
  | object (fields : List (String × Value))

/-! ## Fields -/

def lookupField (key : String) : List (String × Value) → Option Value
  | [] => none
  | (name, value) :: rest => if name = key then some value else lookupField key rest

/-- Replace a field, or insert it in the order of the names. -/
def setField (key : String) (value : Value) : List (String × Value) → List (String × Value)
  | [] => [(key, value)]
  | (name, old) :: rest =>
      if name = key then (key, value) :: rest
      else if key < name then (key, value) :: (name, old) :: rest
      else (name, old) :: setField key value rest

theorem lookupField_setField (key other : String) (value : Value)
    (fields : List (String × Value)) :
    lookupField other (setField key value fields) =
      if key = other then some value else lookupField other fields := by
  induction fields with
  | nil => rfl
  | cons field rest ih =>
      rcases field with ⟨name, old⟩
      rw [setField]
      split
      · next same =>
          rw [lookupField, lookupField, same]
          split <;> rfl
      · next different =>
          split
          · rfl
          · rw [lookupField, lookupField, ih]
            split
            · next isName =>
                rw [if_neg]
                rintro rfl
                exact different isName
            · rfl

theorem lookupField_eq_none_iff {key : String} {fields : List (String × Value)} :
    lookupField key fields = none ↔ ∀ field ∈ fields, field.1 ≠ key := by
  induction fields with
  | nil => simp [lookupField]
  | cons field rest ih =>
      rcases field with ⟨name, value⟩
      rw [lookupField, List.forall_mem_cons, ← ih]
      by_cases same : name = key <;> simp [same]

/-- The first of the fields of a name counts. -/
theorem lookupField_append (key : String) (first second : List (String × Value)) :
    lookupField key (first ++ second) = (lookupField key first).or (lookupField key second) := by
  induction first with
  | nil => rfl
  | cons field rest ih =>
      rcases field with ⟨name, value⟩
      rw [List.cons_append, lookupField, lookupField, ih]
      split <;> rfl

/-- A field that may be missing. -/
theorem lookupField_toList {α : Type} (key name : String) (write : α → Value) (value : Option α) :
    lookupField key (value.map fun present => (name, write present)).toList =
      if name = key then value.map write else none := by
  cases value with
  | none =>
      split <;> rfl
  | some present => rfl

namespace Value

/-- The object with the fields, the later ones in place of earlier ones of the same name. -/
def ofFields (fields : List (String × Value)) : Value :=
  object (fields.foldl (fun set field => setField field.1 field.2 set) [])

def get (value : Value) (key : String) : Option Value :=
  match value with
  | object fields => lookupField key fields
  | null | bool _ | int _ | float _ | string _ | array _ => none

/-- Set a field; other values than objects and null have none. -/
def set (value : Value) (key : String) (field : Value) : Option Value :=
  match value with
  | object fields => some (object (setField key field fields))
  | null => some (object [(key, field)])
  | bool _ | int _ | float _ | string _ | array _ => none

def asString : Value → Option String
  | string text => some text
  | null | bool _ | int _ | float _ | array _ | object _ => none

def asArray : Value → Option (List Value)
  | array values => some values
  | null | bool _ | int _ | float _ | string _ | object _ => none

/-- An integer of 64 bits. -/
def asI64 : Value → Option Int
  | int value => if -2 ^ 63 ≤ value ∧ value < 2 ^ 63 then some value else none
  | null | bool _ | float _ | string _ | array _ | object _ => none

/-- An integer of 64 bits without a sign. -/
def asU64 : Value → Option Nat
  | int value => if 0 ≤ value ∧ value < 2 ^ 64 then some value.toNat else none
  | null | bool _ | float _ | string _ | array _ | object _ => none

theorem asU64_int {value : Nat} (small : value < 2 ^ 64) : (int value).asU64 = some value := by
  have bounds : (0 : Int) ≤ value ∧ (value : Int) < 2 ^ 64 := ⟨by omega, by exact_mod_cast small⟩
  rw [asU64, if_pos bounds, Int.toNat_natCast]

theorem lt_of_asU64 {value : Value} {number : Nat} (read : value.asU64 = some number) :
    number < 2 ^ 64 := by
  cases value with
  | int value =>
      rw [asU64] at read
      split at read
      · next bounds =>
          cases read
          have upper := bounds.2
          omega
      · cases read
  | _ => cases read

/-- A number, which may be an integer. -/
def asF64 : Value → Option ℚ
  | int value => some value
  | float value => some value
  | null | bool _ | string _ | array _ | object _ => none

/-- The value has fields, or becomes an object when one is set. -/
def IsEditable (value : Value) : Prop :=
  ∀ key field, (value.set key field).isSome = true

variable {value next field : Value} {key : String}

theorem get_set (isSet : value.set key field = some next) (other : String) :
    next.get other = if key = other then some field else value.get other := by
  cases value with
  | object fields =>
      cases isSet
      exact lookupField_setField key other field fields
  | null =>
      cases isSet
      rfl
  | _ => cases isSet

theorem get_set_self (isSet : value.set key field = some next) : next.get key = some field := by
  rw [get_set isSet, if_pos rfl]

theorem get_set_of_ne {key other : String} (isSet : value.set key field = some next)
    (different : key ≠ other) :
    next.get other = value.get other := by
  rw [get_set isSet, if_neg different]

/-- A field can be set in what a field has been set in. -/
theorem isEditable_of_set (isSet : value.set key field = some next) : next.IsEditable := by
  intro other new
  cases value with
  | object fields =>
      cases isSet
      rfl
  | null =>
      cases isSet
      rfl
  | _ => cases isSet

/-- The last field of a name counts. -/
theorem get_ofFields_concat (fields : List (String × Value)) (key : String) (value : Value)
    (other : String) :
    (ofFields (fields ++ [(key, value)])).get other =
      if key = other then some value else (ofFields fields).get other := by
  rw [ofFields, List.foldl_append]
  exact lookupField_setField ..

/-- The fields of an object that is built are looked up from the last one on. -/
theorem get_ofFields (fields : List (String × Value)) (key : String) :
    (ofFields fields).get key = lookupField key fields.reverse := by
  induction fields using List.reverseRecOn with
  | nil => rfl
  | append_singleton fields field ih =>
      rw [get_ofFields_concat, List.reverse_append, ih]
      rfl

/-- A value with a field is an object, in which fields can be set. -/
theorem isEditable_of_get {value field : Value} {key : String}
    (found : value.get key = some field) :
    value.IsEditable := by
  intro other new
  cases value with
  | object fields => rfl
  | _ => cases found

end Value

end DecisionEngine.Json
