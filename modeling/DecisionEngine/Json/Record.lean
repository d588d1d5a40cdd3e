import DecisionEngine.Json.Value

/-!
# Records in JSON

A record is read from an object, by the names of its fields, or from an array, by their
positions.  From a text a field may be given once; a value that has been read before keeps
the last one.  A column holds a text, which is JSON or not.
-/

namespace DecisionEngine.Json

/-- A text in a column, with the fields of its objects in the order of the text. -/
inductive StoredText where
  | json (value : Value)
  | other (text : String)

/-- The fields of a record in a text. -/
def recordFields (names : List String) : Value → Option (List (String × Value))
  | .object fields =>
      if names.all fun name => (fields.filter fun field => field.1 = name).length ≤ 1 then
        some fields
      else none
  | .array values => if values.length ≤ names.length then some (names.zip values) else none
  | .null | .bool _ | .int _ | .float _ | .string _ => none

/-- The fields of a record in a value that has been read before. -/
def valueFields (names : List String) : Value → Option (List (String × Value))
  | .object fields => some fields.reverse
  | .array values => if values.length ≤ names.length then some (names.zip values) else none
  | .null | .bool _ | .int _ | .float _ | .string _ => none

/-! ## Fields -/

def Value.isNull : Value → Bool
  | .null => true
  | .bool _ | .int _ | .float _ | .string _ | .array _ | .object _ => false

/-- A text that may be missing or null. -/
def optionalText : Option Value → Option (Option String)
  | none | some .null => some none
  | some (.string text) => some (some text)
  | some _ => none

/-- A list of texts, which is empty when it is missing. -/
def textList : Option Value → Option (List String)
  | none => some []
  | some (.array values) => values.mapM Value.asString
  | some _ => none

/-- An integer of 32 bits without a sign, or its default. -/
def smallNumber (default : Nat) : Option Value → Option Nat
  | none => some default
  | some (.int value) => if 0 ≤ value ∧ value < 2 ^ 32 then some value.toNat else none
  | some _ => none

theorem smallNumber_natCast (default : Nat) {number : Nat} (small : number < 2 ^ 32) :
    smallNumber default (some (.int number)) = some number := by
  rw [smallNumber, if_pos ⟨Int.natCast_nonneg _, by exact_mod_cast small⟩, Int.toNat_natCast]

/-- A field that is left out when there is no value. -/
def optionalField (name : String) (text : Option String) : List (String × Value) :=
  (text.map fun text => (name, .string text)).toList

def texts (list : List String) : Value :=
  .array (list.map .string)

@[simp]
theorem textList_texts (list : List String) : textList (some (texts list)) = some list := by
  change (list.map Value.string).mapM Value.asString = some list
  induction list with
  | nil => rfl
  | cons text rest ih =>
      rw [List.map_cons, List.mapM_cons, ih]
      rfl

/-! ## Fields in order -/

/-- Fields in the order of their names, each name once. -/
def SortedFields (fields : List (String × Value)) : Prop :=
  fields.Pairwise fun first second => first.1 < second.1

variable {key : String} {fields : List (String × Value)}

theorem mem_setField {value : Value} {field : String × Value}
    (listed : field ∈ setField key value fields) :
    field.1 = key ∨ field ∈ fields := by
  induction fields with
  | nil => exact .inl (congrArg Prod.fst (List.mem_singleton.mp listed))
  | cons head rest ih =>
      rw [setField] at listed
      split at listed
      · rcases List.mem_cons.mp listed with rfl | behind
        · exact .inl rfl
        · exact .inr (List.mem_cons_of_mem _ behind)
      · split at listed
        · rcases List.mem_cons.mp listed with rfl | behind
          · exact .inl rfl
          · exact .inr behind
        · rcases List.mem_cons.mp listed with rfl | behind
          · exact .inr List.mem_cons_self
          · exact (ih behind).imp_right (List.mem_cons_of_mem _)

variable {fields : List (String × Value)}

theorem SortedFields.setField (sorted : SortedFields fields) (key : String) (value : Value) :
    SortedFields (setField key value fields) := by
  induction fields with
  | nil => exact List.pairwise_singleton _ _
  | cons head rest ih =>
      obtain ⟨first, restSorted⟩ := List.pairwise_cons.mp sorted
      rw [Json.setField]
      split
      · next same => exact List.pairwise_cons.mpr ⟨fun field behind => same ▸ first field behind,
          restSorted⟩
      · next different =>
          split
          · next before =>
              refine List.pairwise_cons.mpr ⟨?_, sorted⟩
              intro field listed
              rcases List.mem_cons.mp listed with rfl | behind
              · exact before
              · exact before.trans (first field behind)
          · next notBefore =>
              refine List.pairwise_cons.mpr ⟨?_, ih restSorted⟩
              intro field listed
              rcases mem_setField listed with same | behind
              · rw [same]
                exact lt_of_le_of_ne (not_lt.mp notBefore) different
              · exact first field behind

/-- A name above all others is set at the end. -/
theorem setField_of_above (value : Value) (above : ∀ field ∈ fields, field.1 < key) :
    setField key value fields = fields ++ [(key, value)] := by
  induction fields with
  | nil => rfl
  | cons head rest ih =>
      rw [List.forall_mem_cons] at above
      rw [setField, if_neg above.1.ne, if_neg above.1.asymm, ih above.2, List.cons_append]

/-- The fields that are set one after the other. -/
def setFields (fields : List (String × Value)) : List (String × Value) :=
  fields.foldl (fun set field => setField field.1 field.2 set) []

theorem sortedFields_setFields :
    SortedFields (setFields fields) := by
  induction fields using List.reverseRecOn with
  | nil => exact List.Pairwise.nil
  | append_singleton fields field ih =>
      rw [setFields, List.foldl_append]
      exact ih.setField _ _

/-- Of the fields that are set the last of a name counts. -/
theorem lookupField_setFields (key : String) :
    lookupField key (setFields fields) = lookupField key fields.reverse :=
  Value.get_ofFields fields key

/-- Fields that are in order stay as they are. -/
theorem setFields_of_sorted (sorted : SortedFields fields) :
    setFields fields = fields := by
  induction fields using List.reverseRecOn with
  | nil => rfl
  | append_singleton fields field ih =>
      obtain ⟨before, -, last⟩ := List.pairwise_append.mp sorted
      rw [setFields, List.foldl_append]
      change setField field.1 field.2 (setFields fields) = _
      rw [ih before]
      exact setField_of_above _ fun other listed => last other listed field List.mem_cons_self

/-- Fields in order are looked up from either end. -/
theorem SortedFields.lookupField_reverse (sorted : SortedFields fields) (key : String) :
    lookupField key fields.reverse = lookupField key fields := by
  rw [← lookupField_setFields, setFields_of_sorted sorted]

/-- Fields of other names do not count. -/
theorem lookupField_filter {keeps : String × Value → Bool}
    (keepsKey : ∀ field ∈ fields, field.1 = key → keeps field = true) :
    lookupField key (fields.filter keeps) = lookupField key fields := by
  induction fields with
  | nil => rfl
  | cons field rest ih =>
      rw [List.forall_mem_cons] at keepsKey
      rw [lookupField, List.filter_cons]
      by_cases isKey : field.1 = key
      · rw [if_pos (keepsKey.1 isKey), lookupField, if_pos isKey, if_pos isKey]
      · rw [if_neg isKey, ← ih keepsKey.2]
        split
        · rw [lookupField, if_neg isKey]
        · rfl

end DecisionEngine.Json
