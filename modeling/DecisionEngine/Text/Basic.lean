import Mathlib.Data.List.DropRight

/-!
# Text operations

The string operations of the standard library the program is written against:
trimming by the Unicode property `White_Space`, ASCII case mapping, splitting at
a character and joining.
-/

namespace DecisionEngine.Text

/-- The Unicode property `White_Space`. -/
def isWhiteSpace (char : Char) : Bool :=
  (9 ≤ char.toNat && char.toNat ≤ 13) || char.toNat = 0x20 || char.toNat = 0x85 ||
    char.toNat = 0xA0 || char.toNat = 0x1680 ||
    (0x2000 ≤ char.toNat && char.toNat ≤ 0x200A) || char.toNat = 0x2028 ||
    char.toNat = 0x2029 || char.toNat = 0x202F || char.toNat = 0x205F ||
    char.toNat = 0x3000

/-- Remove white space at both ends. -/
def trim (text : String) : String :=
  String.ofList ((text.toList.dropWhile isWhiteSpace).rdropWhile isWhiteSpace)

def toAsciiLowercase (text : String) : String :=
  String.ofList (text.toList.map Char.toLower)

def toAsciiUppercase (text : String) : String :=
  String.ofList (text.toList.map Char.toUpper)

/-- How letters are mapped to lower and to upper case. -/
class LetterCase where
  toLowercase : String → String
  toUppercase : String → String

/-- The letters of ASCII only. -/
@[reducible]
def LetterCase.ascii : LetterCase :=
  ⟨toAsciiLowercase, toAsciiUppercase⟩

/-- The pieces between the occurrences of a separator; there is always at
least one. -/
def split (separator : Char) (text : String) : List String :=
  (text.toList.splitOn separator).map String.ofList

/-- What is before and after the first occurrence of a separator. -/
def splitOnce (separator : Char) (text : String) : Option (String × String) :=
  match text.toList.dropWhile fun char => char ≠ separator with
  | [] => none
  | _ :: after =>
      some (String.ofList (text.toList.takeWhile fun char => char ≠ separator),
        String.ofList after)

/-- What is before and after the last occurrence of a separator. -/
def rsplitOnce (separator : Char) (text : String) : Option (String × String) :=
  match text.toList.reverse.dropWhile fun char => char ≠ separator with
  | [] => none
  | _ :: before =>
      some (String.ofList before.reverse,
        String.ofList (text.toList.rtakeWhile fun char => char ≠ separator))

def join (separator : String) (pieces : List String) : String :=
  separator.intercalate pieces

example : split ',' " card, ,wallet" = [" card", " ", "wallet"] := by decide

example : rsplitOnce '|' "adyen|visa|100" = some ("adyen|visa", "100") := by decide

example : toAsciiLowercase (trim " Stripe\n") = "stripe" := by decide

/-! ## Joined texts

A text that was joined with a separator splits into the pieces of the parts that it was
joined from.  Two joined texts are the same just when their parts have the same pieces.
-/

section Joining

variable {separator : Char} {text : String} {parts others : List String}

theorem join_singleton (separator : String) : join separator [text] = text :=
  String.intercalate_singleton

theorem join_cons (separator text : String) {parts : List String} (nonempty : parts ≠ []) :
    join separator (text :: parts) = text ++ separator ++ join separator parts :=
  String.intercalate_cons_of_ne_nil nonempty

/-- The first part may itself be joined. -/
theorem join_join_cons (separator : String) (nonempty : parts ≠ []) :
    join separator (join separator parts :: others) = join separator (parts ++ others) := by
  cases others with
  | nil => rw [join_singleton, List.append_nil]
  | cons other rest =>
      rw [join_cons separator _ (List.cons_ne_nil other rest)]
      exact (String.intercalate_append_of_ne_nil nonempty (List.cons_ne_nil other rest)).symm

theorem join_cons_ne_empty (separator : String) (nonempty : text ≠ "") :
    join separator (text :: parts) ≠ "" := by
  cases parts with
  | nil => rwa [join_singleton]
  | cons part rest =>
      rw [join_cons separator text (List.cons_ne_nil part rest), String.append_assoc]
      intro isEmpty
      exact nonempty (String.append_eq_empty_iff.mp isEmpty).1

/-- A text is the pieces it splits into, joined. -/
theorem join_split (separator : Char) (text : String) :
    join (String.singleton separator) (split separator text) = text := by
  apply String.toList_inj.mp
  rw [join, split, String.toList_intercalate, List.map_map, String.toList_singleton]
  have pieces : String.toList ∘ String.ofList = id := funext fun _ => String.toList_ofList
  rw [pieces, List.map_id, List.intercalate_splitOn]

theorem split_injective (separator : Char) : Function.Injective (split separator) :=
  Function.LeftInverse.injective (join_split separator)

theorem split_of_notMem (absent : separator ∉ text.toList) : split separator text = [text] := by
  rw [split, List.splitOn_eq_singleton absent, List.map_singleton, String.ofList_toList]

/-- A joined text splits into the pieces of its parts. -/
theorem split_join (nonempty : parts ≠ []) :
    split separator (join (String.singleton separator) parts) =
      parts.flatMap (split separator) := by
  induction parts with
  | nil => exact absurd rfl nonempty
  | cons part rest ih =>
      cases rest with
      | nil => rw [join_singleton, List.flatMap_singleton]
      | cons next rest =>
          rw [join_cons _ part (List.cons_ne_nil next rest), List.flatMap_cons,
            ← ih (List.cons_ne_nil next rest), split, String.toList_append, String.toList_append,
            String.toList_singleton, List.append_assoc, List.singleton_append,
            List.splitOn_append_cons_self, List.map_append]
          rfl

/-- Joined texts are the same just when their parts have the same pieces. -/
theorem join_eq_join_iff (nonempty : parts ≠ []) (othersNonempty : others ≠ []) :
    join (String.singleton separator) parts = join (String.singleton separator) others ↔
      parts.flatMap (split separator) = others.flatMap (split separator) := by
  rw [← split_join nonempty, ← split_join othersNonempty]
  exact (split_injective separator).eq_iff.symm

theorem splitOnce_eq_none_iff : splitOnce separator text = none ↔ separator ∉ text.toList := by
  rw [splitOnce]
  split
  · next nothing =>
      refine iff_of_true rfl fun listed => ?_
      have allPass := List.dropWhile_eq_nil_iff.mp nothing separator listed
      simp at allPass
  · next first after found =>
      refine iff_of_false nofun fun absent => ?_
      have nothing : text.toList.dropWhile (fun char => decide (char ≠ separator)) = [] :=
        List.dropWhile_eq_nil_iff.mpr fun char listed =>
          decide_eq_true fun isSeparator => absent (isSeparator ▸ listed)
      rw [nothing] at found
      cases found

theorem splitOnce_append {before after : String} (absent : separator ∉ before.toList) :
    splitOnce separator (before ++ String.singleton separator ++ after) =
      some (before, after) := by
  have passes : ∀ char ∈ before.toList, decide (char ≠ separator) = true :=
    fun char listed => decide_eq_true fun isSeparator => absent (isSeparator ▸ listed)
  have letters : (before ++ String.singleton separator ++ after).toList =
      before.toList ++ separator :: after.toList := by
    simp [String.toList_append]
  rw [splitOnce, letters, List.dropWhile_append_of_pos passes,
    List.takeWhile_append_of_pos passes, List.dropWhile_cons_of_neg (by simp),
    List.takeWhile_cons_of_neg (by simp), List.append_nil]
  simp only [String.ofList_toList]

theorem eq_of_splitOnce {before after : String}
    (found : splitOnce separator text = some (before, after)) :
    text = before ++ String.singleton separator ++ after ∧ separator ∉ before.toList := by
  rw [splitOnce] at found
  split at found
  · cases found
  · next first rest isRest =>
      cases found
      have stops := List.head?_dropWhile_not (fun char => decide (char ≠ separator)) text.toList
      rw [isRest, List.head?_cons] at stops
      have isSeparator : first = separator := by simpa using stops
      constructor
      · apply String.toList_inj.mp
        rw [String.toList_append, String.toList_append, String.toList_singleton,
          String.toList_ofList, String.toList_ofList, List.append_assoc, List.singleton_append,
          ← isSeparator, ← isRest, isSeparator, List.takeWhile_append_dropWhile]
      · rw [String.toList_ofList]
        intro listed
        have passes := List.mem_takeWhile_imp listed
        simp at passes

end Joining

end DecisionEngine.Text
