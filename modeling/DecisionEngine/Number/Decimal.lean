import Mathlib.Data.List.Infix
import Mathlib.Data.Nat.Digits.Defs

/-!
# Decimal numerals

A decimal numeral without a leading zero is the print of its number, and it grows with every
digit that is written after it.  One with a leading zero is not the print of any number, unless
it is the single zero.
-/

namespace DecisionEngine.Number

/-- Only the digits from zero to nine. -/
def IsNumeral (chars : List Char) : Prop :=
  ∀ char ∈ chars, char.isDigit = true

namespace IsNumeral

variable {chars rest : List Char} {char : Char}

theorem head (numeral : IsNumeral (char :: rest)) : char.isDigit = true :=
  numeral char List.mem_cons_self

theorem tail (numeral : IsNumeral (char :: rest)) : IsNumeral rest :=
  fun other listed => numeral other (List.mem_cons_of_mem _ listed)

theorem initial (numeral : IsNumeral chars) (isPrefix : rest <+: chars) : IsNumeral rest :=
  fun char listed => numeral char (isPrefix.subset listed)

end IsNumeral

/-! ## Digits -/

section Digit

variable {char : Char}

theorem isDigit_bounds (isDigit : char.isDigit = true) :
    48 ≤ char.toNat ∧ char.toNat ≤ 57 := by
  simp only [Char.isDigit, Bool.and_eq_true, decide_eq_true_eq, UInt32.le_iff_toNat_le] at isDigit
  exact isDigit

theorem digitChar_of_isDigit (isDigit : char.isDigit = true) :
    Nat.digitChar (char.toNat - 48) = char := by
  rcases isDigit_bounds isDigit with ⟨low, high⟩
  apply Char.toNat_inj.mp
  rw [Nat.toNat_digitChar_of_lt_ten (by omega)]
  omega

theorem toNat_pos_of_ne_zero (isDigit : char.isDigit = true) (notZero : char ≠ '0') :
    0 < char.toNat - 48 := by
  rcases isDigit_bounds isDigit with ⟨low, -⟩
  have different : char.toNat ≠ 48 := fun same => notZero (Char.toNat_inj.mp same)
  omega

end Digit

/-! ## Numbers -/

section Numeral

variable {chars : List Char}

theorem le_ofDigitChars (chars : List Char) (start : Nat) :
    start ≤ Nat.ofDigitChars 10 chars start := by
  induction chars generalizing start with
  | nil => exact (Nat.ofDigitChars_nil).ge
  | cons char rest ih =>
      rw [Nat.ofDigitChars_cons]
      have := ih (10 * start + (char.toNat - '0'.toNat))
      omega

/-- Every digit more makes the number larger. -/
theorem lt_ofDigitChars {start : Nat} (positive : 0 < start) (nonempty : chars ≠ []) :
    start < Nat.ofDigitChars 10 chars start := by
  cases chars with
  | nil => exact absurd rfl nonempty
  | cons char rest =>
      rw [Nat.ofDigitChars_cons]
      have := le_ofDigitChars rest (10 * start + (char.toNat - '0'.toNat))
      omega

theorem ofDigitChars_lt (numeral : IsNumeral chars) (start : Nat) :
    Nat.ofDigitChars 10 chars start < (start + 1) * 10 ^ chars.length := by
  induction chars generalizing start with
  | nil => simp
  | cons char rest ih =>
      rcases isDigit_bounds numeral.head with ⟨-, high⟩
      rw [Nat.ofDigitChars_cons, List.length_cons, Nat.pow_succ']
      have zero : '0'.toNat = 48 := rfl
      calc
        Nat.ofDigitChars 10 rest (10 * start + (char.toNat - '0'.toNat))
            < (10 * start + (char.toNat - '0'.toNat) + 1) * 10 ^ rest.length := ih numeral.tail _
        _ ≤ ((start + 1) * 10) * 10 ^ rest.length := by
              apply Nat.mul_le_mul_right
              omega
        _ = (start + 1) * (10 * 10 ^ rest.length) := Nat.mul_assoc ..

theorem toDigits_ofDigitChars_of_pos {start : Nat} (positive : 0 < start)
    (numeral : IsNumeral chars) :
    Nat.toDigits 10 (Nat.ofDigitChars 10 chars start) = Nat.toDigits 10 start ++ chars := by
  induction chars generalizing start with
  | nil => simp
  | cons char rest ih =>
      have isDigit := numeral.head
      have below : char.toNat - 48 < 10 := by
        have := (isDigit_bounds isDigit).2
        omega
      have appended := Nat.toDigits_append_toDigits (b := 10) (by decide) positive below
      rw [Nat.toDigits_of_lt_base below, digitChar_of_isDigit isDigit] at appended
      have zero : '0'.toNat = 48 := rfl
      rw [Nat.ofDigitChars_cons, zero, ih (by omega) numeral.tail, ← appended, List.append_assoc]
      rfl

/-- The print of the number that a numeral without a leading zero writes. -/
theorem toDigits_ofDigitChars {char : Char} {rest : List Char}
    (numeral : IsNumeral (char :: rest)) (notZero : char ≠ '0') :
    Nat.toDigits 10 (Nat.ofDigitChars 10 (char :: rest) 0) = char :: rest := by
  have isDigit := numeral.head
  have below : char.toNat - 48 < 10 := by
    have := (isDigit_bounds isDigit).2
    omega
  have zero : '0'.toNat = 48 := rfl
  rw [Nat.ofDigitChars_cons, zero, Nat.mul_zero, Nat.zero_add,
    toDigits_ofDigitChars_of_pos (toNat_pos_of_ne_zero isDigit notZero) numeral.tail,
    Nat.toDigits_of_lt_base below, digitChar_of_isDigit isDigit]
  rfl

theorem ofDigitChars_pos {char : Char} {rest : List Char} (isDigit : char.isDigit = true)
    (notZero : char ≠ '0') : 0 < Nat.ofDigitChars 10 (char :: rest) 0 := by
  rw [Nat.ofDigitChars_cons]
  have positive := toNat_pos_of_ne_zero isDigit notZero
  have zero : '0'.toNat = 48 := rfl
  exact lt_of_lt_of_le (by omega) (le_ofDigitChars _ _)

end Numeral

/-! ## Leading zeros -/

theorem digitChar_ne_zero {digit : Nat} (positive : 0 < digit) (below : digit < 10) :
    Nat.digitChar digit ≠ '0' := by
  intro same
  have number := Nat.toNat_digitChar_of_lt_ten below
  rw [same] at number
  have zero : '0'.toNat = 48 := rfl
  omega

/-- A number that is not zero has no leading zero. -/
theorem head?_toDigits_ne_zero {number : Nat} (positive : 0 < number) :
    (Nat.toDigits 10 number).head? ≠ some '0' := by
  induction number using Nat.strongRecOn with
  | ind number ih =>
      rw [Nat.toDigits_eq_if (by decide)]
      by_cases below : number < 10
      · rw [if_pos below, List.head?_cons]
        intro same
        exact digitChar_ne_zero positive below (Option.some.inj same)
      · rw [if_neg below, List.head?_append_of_ne_nil]
        · exact ih (number / 10) (by omega) (by omega)
        · exact Nat.toDigits_ne_nil

variable (number : Nat)

/-- No number is printed with a zero before other digits. -/
theorem toDigits_ne_cons_zero {rest : List Char} (nonempty : rest ≠ []) :
    Nat.toDigits 10 number ≠ '0' :: rest := by
  intro same
  rcases Nat.eq_zero_or_pos number with rfl | positive
  · rw [Nat.toDigits_zero] at same
    exact nonempty (List.cons.inj same).2.symm
  · apply head?_toDigits_ne_zero positive
    rw [same, List.head?_cons]

/-! ## Printed integers -/

theorem isNumeral_toDigits : IsNumeral (Nat.toDigits 10 number) :=
  fun _ listed => Nat.isDigit_of_mem_toDigits (by decide) (by decide) listed

theorem toDigits_injective : Function.Injective (Nat.toDigits 10) := by
  intro first second same
  have read := congrArg (fun digits => Nat.ofDigitChars 10 digits 0) same
  simpa only [Nat.ofDigitChars_ten_toDigits] using read

theorem toList_toString_natCast :
    (toString (number : Int)).toList = Nat.toDigits 10 number :=
  String.toList_ofList

theorem toList_toString_negSucc :
    (toString (Int.negSucc number)).toList = '-' :: Nat.toDigits 10 (number + 1) := by
  change ("-" ++ String.ofList (Nat.toDigits 10 (number + 1))).toList = _
  rw [String.toList_append]
  exact congrArg (List.cons '-') String.toList_ofList

/-- A printed integer has digits only, and a sign. -/
theorem notMem_toString {char : Char} (notSign : char ≠ '-') (notDigit : char.isDigit = false)
    (number : Int) : char ∉ (toString number).toList := by
  intro listed
  have isDigit : char.isDigit = true := by
    cases number with
    | ofNat number =>
        exact isNumeral_toDigits number char (toList_toString_natCast number ▸ listed)
    | negSucc number =>
        rw [toList_toString_negSucc] at listed
        rcases List.mem_cons.mp listed with isSign | inDigits
        · exact absurd isSign notSign
        · exact isNumeral_toDigits _ char inDigits
  rw [notDigit] at isDigit
  cases isDigit

theorem toString_ne_empty (number : Int) : (toString number).toList ≠ [] := by
  cases number with
  | ofNat number =>
      exact fun isNil => Nat.toDigits_ne_nil ((toList_toString_natCast number).symm.trans isNil)
  | negSucc number =>
      rw [toList_toString_negSucc]
      exact List.cons_ne_nil _ _

theorem sign_notMem_toDigits : '-' ∉ Nat.toDigits 10 number := fun listed =>
  absurd (isNumeral_toDigits number '-' listed) (by decide)

theorem toString_int_injective : Function.Injective (toString : Int → String) := by
  intro first second same
  have sameChars := congrArg String.toList same
  cases first with
  | ofNat first =>
      cases second with
      | ofNat second =>
          have sameDigits := (toList_toString_natCast first).symm.trans
            (sameChars.trans (toList_toString_natCast second))
          exact congrArg Int.ofNat (toDigits_injective sameDigits)
      | negSucc second =>
          rw [toList_toString_negSucc] at sameChars
          have listed : '-' ∈ Nat.toDigits 10 first :=
            (toList_toString_natCast first).symm.trans sameChars ▸ List.mem_cons_self
          exact absurd listed (sign_notMem_toDigits first)
  | negSucc first =>
      rw [toList_toString_negSucc] at sameChars
      cases second with
      | ofNat second =>
          have listed : '-' ∈ Nat.toDigits 10 second :=
            sameChars.trans (toList_toString_natCast second) ▸ List.mem_cons_self
          exact absurd listed (sign_notMem_toDigits second)
      | negSucc second =>
          rw [toList_toString_negSucc] at sameChars
          have sameDigits := toDigits_injective (List.cons.inj sameChars).2
          exact congrArg Int.negSucc (Nat.succ.inj sameDigits)

/-! ## Order of positional numbers

Numbers with equally many digits are ordered as their digits are, compared from the most
significant one on.
-/

section Positional

variable {base : Nat}

theorem ofDigits_reverse_cons (digit : Nat) (rest : List Nat) :
    Nat.ofDigits base (digit :: rest).reverse =
      Nat.ofDigits base rest.reverse + base ^ rest.length * digit := by
  rw [List.reverse_cons, Nat.ofDigits_append, Nat.ofDigits_singleton, List.length_reverse]

theorem ofDigits_reverse_lt (atLeastTwo : 1 < base) {digits : List Nat}
    (bounded : ∀ digit ∈ digits, digit < base) :
    Nat.ofDigits base digits.reverse < base ^ digits.length := by
  have below := Nat.ofDigits_lt_base_pow_length atLeastTwo
    fun digit listed => bounded digit (List.mem_reverse.mp listed)
  rwa [List.length_reverse] at below

/-- The leading digit decides, where the rest stays below its place. -/
theorem place_lt_iff {place first second left right : Nat} (leftBelow : left < place)
    (rightBelow : right < place) :
    left + place * first < right + place * second ↔
      first < second ∨ first = second ∧ left < right := by
  rcases lt_trichotomy first second with less | rfl | more
  · have room : place * first + place ≤ place * second := by
      rw [← Nat.mul_succ]
      exact Nat.mul_le_mul_left place less
    exact iff_of_true (by omega) (Or.inl less)
  · simp
  · have room : place * second + place ≤ place * first := by
      rw [← Nat.mul_succ]
      exact Nat.mul_le_mul_left place more
    exact iff_of_false (by omega) (by omega)

/-- The leading digit may be larger than the base. -/
theorem ofDigits_reverse_lt_iff (atLeastTwo : 1 < base) {first second : List Nat}
    (sameLength : first.length = second.length) (firstBounded : ∀ digit ∈ first.tail, digit < base)
    (secondBounded : ∀ digit ∈ second.tail, digit < base) :
    Nat.ofDigits base first.reverse < Nat.ofDigits base second.reverse ↔ first < second := by
  induction first generalizing second with
  | nil =>
      have isNil := List.length_eq_zero_iff.mp sameLength.symm
      subst isNil
      simp
  | cons digit rest ih =>
      cases second with
      | nil => cases sameLength
      | cons otherDigit otherRest =>
          have sameRest : rest.length = otherRest.length := Nat.succ.inj sameLength
          have restIh := ih sameRest
            (fun digit listed => firstBounded digit (List.mem_of_mem_tail listed))
            fun digit listed => secondBounded digit (List.mem_of_mem_tail listed)
          have restBelow := ofDigits_reverse_lt atLeastTwo firstBounded
          have otherBelow := ofDigits_reverse_lt atLeastTwo secondBounded
          rw [List.tail_cons, sameRest] at restBelow
          rw [List.tail_cons] at otherBelow
          rw [ofDigits_reverse_cons, ofDigits_reverse_cons, sameRest,
            place_lt_iff restBelow otherBelow, List.cons_lt_cons_iff, restIh]

end Positional

end DecisionEngine.Number
