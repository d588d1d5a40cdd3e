import DecisionEngine.Json.Record
import Mathlib.Data.List.Count
import Mathlib.Data.List.Nodup

/-!
# Types with a form in JSON

A codec writes the values of a type and reads them back.  The codec of a record is made of
its fields, each of which is written and read under its name: a required one, one that may be
null or missing, one that is left out when there is no value, and one with a default.
-/

namespace DecisionEngine.Json

variable {α β : Type}

/-- How the values of a type are written and read; none of them is null. -/
structure Codec (α : Type) where
  write : α → Value
  read : Value → Option α
  exact : ∀ value, read (write value) = some value
  notNull : ∀ value, write value ≠ .null

namespace Codec

def string : Codec String where
  write := .string
  read := Value.asString
  exact _ := rfl
  notNull _ := nofun

def f64 : Codec ℚ where
  write := .float
  read := Value.asF64
  exact _ := rfl
  notNull _ := nofun

def readI32 : Value → Option Int32
  | .int value => if -2 ^ 31 ≤ value ∧ value < 2 ^ 31 then some (Int32.ofInt value) else none
  | .null | .bool _ | .float _ | .string _ | .array _ | .object _ => none

def i32 : Codec Int32 where
  write value := .int value.toInt
  read := readI32
  exact value := by
    rw [readI32, if_pos ⟨Int32.le_toInt value, Int32.toInt_lt value⟩, Int32.ofInt_toInt]
  notNull _ := nofun

def i64 : Codec Int64 where
  write value := .int value.toInt
  read value := value.asI64.map Int64.ofInt
  exact value := by
    rw [Value.asI64, if_pos ⟨Int64.le_toInt value, Int64.toInt_lt value⟩, Option.map_some,
      Int64.ofInt_toInt]
  notNull _ := nofun

theorem mapM_write {codec : Codec α} {read : Value → Option β} {change : α → β}
    (readsWritten : ∀ value, read (codec.write value) = some (change value)) (values : List α) :
    (values.map codec.write).mapM read = some (values.map change) := by
  induction values with
  | nil => rfl
  | cons value rest ih =>
      rw [List.map_cons, List.mapM_cons, readsWritten, ih]
      rfl

def list (codec : Codec α) : Codec (List α) where
  write values := .array (values.map codec.write)
  read value := value.asArray.bind fun values => values.mapM codec.read
  exact values := (mapM_write codec.exact values).trans (congrArg some values.map_id)
  notNull _ := nofun

/-- What one codec writes of a list another one reads, if it does so for the items. -/
theorem read_list_write {first : Codec α} {second : Codec β} {change : α → β}
    (readsWritten : ∀ value, second.read (first.write value) = some (change value))
    (values : List α) :
    (list second).read ((list first).write values) = some (values.map change) :=
  mapM_write readsWritten values

/-- Variants without data, which are written as their names. -/
def variants (name : α → String) (all : List α)
    (listed : ∀ value, (all.find? fun other => name other = name value) = some value) :
    Codec α where
  write value := .string (name value)
  read
    | .string text | .object [(text, .null)] => all.find? fun other => name other = text
    | _ => none
  exact := listed
  notNull _ := nofun

end Codec

/-! ## Fields -/

/-- How a field of a record is written, if it is not left out, and how it is read, if it is
given.  An array may end before a field that is defaulted. -/
structure Field (α : Type) where
  defaulted : Bool
  write : α → Option Value
  read : Option Value → Option α
  exact : ∀ value, read (write value) = some value

namespace Field

def required (codec : Codec α) : Field α where
  defaulted := false
  write value := some (codec.write value)
  read given := given.bind codec.read
  exact := codec.exact

/-- A value that may be null or missing. -/
def readOptional (codec : Codec α) : Option Value → Option (Option α)
  | none | some .null => some none
  | some value => (codec.read value).map some

variable (codec : Codec α)

theorem readOptional_write (value : α) :
    readOptional codec (some (codec.write value)) = some (some value) := by
  rw [readOptional, codec.exact, Option.map_some]
  exact codec.notNull value

@[simp]
theorem readOptional_elim (value : Option α) :
    readOptional codec (some (value.elim .null codec.write)) = some value := by
  cases value with
  | none => rfl
  | some value => exact readOptional_write codec value

@[simp]
theorem readOptional_map (value : Option α) :
    readOptional codec (value.map codec.write) = some value := by
  cases value with
  | none => rfl
  | some value => exact readOptional_write codec value

def optional (codec : Codec α) : Field (Option α) where
  defaulted := false
  write value := some (value.elim .null codec.write)
  read := readOptional codec
  exact := readOptional_elim codec

/-- A field that is left out when there is no value. -/
def omitted (codec : Codec α) : Field (Option α) where
  defaulted := true
  write value := value.map codec.write
  read := readOptional codec
  exact := readOptional_map codec

def withDefault (default : α) : Field α where
  defaulted := true
  write value := some (codec.write value)
  read given := given.elim (some default) codec.read
  exact := codec.exact

end Field

/-- The fields that make a value of type `α` of a record of type `ρ`. -/
structure Fields (ρ α : Type) where
  names : List String
  defaulted : List String
  write : ρ → List (String × Value)
  read : (String → Option Value) → Option α
  value : ρ → α
  distinct : names.Nodup
  written : ∀ record, ((write record).map Prod.fst).Sublist names
  reads : ∀ {first second : String → Option Value},
    (∀ name ∈ names, first name = second name) → read first = read second
  exact : ∀ record, read (fun name => lookupField name (write record)) = some (value record)

namespace Fields

variable {ρ : Type}

/-- What is made of no fields. -/
def make (value : α) : Fields ρ α where
  names := []
  defaulted := []
  write _ := []
  read _ := some value
  value _ := value
  distinct := List.nodup_nil
  written _ := List.Sublist.refl _
  reads _ := rfl
  exact _ := rfl

theorem lookupField_write_of_notMem (fields : Fields ρ α) {name : String}
    (notMem : name ∉ fields.names) (record : ρ) :
    lookupField name (fields.write record) = none := by
  rw [lookupField_eq_none_iff]
  rintro field fieldMem rfl
  exact notMem ((fields.written record).subset (List.mem_map_of_mem fieldMem))

/-- The entry of a field. -/
def entry (name : String) (written : Option Value) : List (String × Value) :=
  (written.map fun value => (name, value)).toList

theorem lookupField_entry (name other : String) (written : Option Value) :
    lookupField other (entry name written) = if name = other then written else none :=
  (lookupField_toList other name id written).trans (by rw [Option.map_id, id])

/-- One more field, with the next argument of what is made. -/
def field (fields : Fields ρ (α → β)) (name : String) (field : Field α) (value : ρ → α)
    (fresh : name ∉ fields.names := by decide) : Fields ρ β where
  names := fields.names ++ [name]
  defaulted := fields.defaulted ++ if field.defaulted then [name] else []
  write record := fields.write record ++ entry name (field.write (value record))
  read given := do
    let make ← fields.read given
    let argument ← field.read (given name)
    return make argument
  value record := fields.value record (value record)
  distinct := List.nodup_append.mpr ⟨fields.distinct, List.nodup_singleton name,
    fun other otherMem _ isName same => fresh (List.mem_singleton.mp isName ▸ same ▸ otherMem)⟩
  written record := by
    rw [List.map_append]
    apply (fields.written record).append
    cases field.write (value record) with
    | none => exact List.nil_sublist _
    | some written => exact List.Sublist.refl _
  reads same := by
    rw [fields.reads fun other otherMem => same other (List.mem_append_left _ otherMem),
      same name (List.mem_append_right _ (List.mem_singleton_self name))]
  exact record := by
    have earlier : fields.read (fun other => lookupField other
        (fields.write record ++ entry name (field.write (value record)))) =
        some (fields.value record) := by
      rw [← fields.exact record]
      apply fields.reads
      intro other otherMem
      have differ : name ≠ other := fun same => fresh (same ▸ otherMem)
      rw [lookupField_append, lookupField_entry, if_neg differ, Option.or_none]
    have own : field.read (lookupField name
        (fields.write record ++ entry name (field.write (value record)))) =
        some (value record) := by
      rw [lookupField_append, fields.lookupField_write_of_notMem fresh, Option.none_or,
        lookupField_entry, if_pos rfl, field.exact]
    rw [earlier]
    beta_reduce
    rw [own]
    rfl

/-- All fields may be missing in an array. -/
def defaulting (fields : Fields ρ α) : Fields ρ α :=
  { fields with defaulted := fields.names }

end Fields

/-! ## Records -/

namespace Codec

/-- A record is read from an object, by the names of its fields, which may be given once, or
from an array, by their positions. -/
def readRecord {ρ : Type} (fields : Fields ρ α) : Value → Option α
  | .object given =>
      if fields.names.all fun name => (given.filter fun field => field.1 = name).length ≤ 1 then
        fields.read fun name => lookupField name given
      else none
  | .array values =>
      if values.length ≤ fields.names.length ∧
          ∀ name ∈ fields.names.drop values.length, name ∈ fields.defaulted then
        fields.read fun name => lookupField name (fields.names.zip values)
      else none
  | .null | .bool _ | .int _ | .float _ | .string _ => none

theorem length_filter_le_one {given : List (String × Value)} (distinct : (given.map Prod.fst).Nodup)
    (name : String) : (given.filter fun field => field.1 = name).length ≤ 1 := by
  have once := List.nodup_iff_count_le_one.mp distinct name
  rw [List.count, List.countP_map, List.countP_eq_length_filter] at once
  exact once

theorem readRecord_write {ρ : Type} {first : Fields α α} {second : Fields ρ β} {value : α}
    {other : β}
    (fieldsRead : second.read (fun name => lookupField name (first.write value)) = some other) :
    readRecord second (.object (first.write value)) = some other := by
  have distinct := first.distinct.sublist (first.written value)
  rw [readRecord, if_pos, fieldsRead]
  rw [List.all_eq_true]
  intro name _
  exact decide_eq_true (length_filter_le_one distinct name)

/-- The fields make the whole record. -/
def record (fields : Fields α α) (whole : ∀ value, fields.value value = value) : Codec α where
  write value := .object (fields.write value)
  read := readRecord fields
  exact value := readRecord_write ((fields.exact value).trans (congrArg some (whole value)))
  notNull _ := nofun

/-- What is written for one record is read as another if the fields are. -/
theorem read_record_write {first : Fields α α} {second : Fields β β}
    {firstWhole : ∀ value, first.value value = value}
    {secondWhole : ∀ value, second.value value = value} {value : α} {other : β}
    (fieldsRead : second.read (fun name => lookupField name (first.write value)) = some other) :
    (record second secondWhole).read ((record first firstWhole).write value) = some other :=
  readRecord_write fieldsRead

end Codec

end DecisionEngine.Json
