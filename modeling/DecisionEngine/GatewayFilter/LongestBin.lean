import DecisionEngine.GatewayFilter.BinLookup
import Mathlib.Data.List.MinMax

/-!
# The longest issuer number

A lookup finds the row with the most leading digits of a card number, as long as the number
does not begin with a zero.  A number that begins with one is never found: no integer is
printed with a leading zero.  Of the card information, a row with an unknown card type is not
found either, and a shorter one or none takes its place.
-/

namespace DecisionEngine.GatewayFilter

open Number Redis Text

universe u v

/-- Six to nine leading digits of the number. -/
structure IsLeading (bin key : String) : Prop where
  isPrefix : key.toList <+: bin.toList
  long : 6 ≤ key.toList.length
  short : key.toList.length ≤ 9

/-- A stored key with as many leading digits as any. -/
structure IsLongest (keys : List String) (bin key : String) : Prop where
  leading : IsLeading bin key
  longest : ∀ other ∈ keys, IsLeading bin other → other.toList.length ≤ key.toList.length

/-- What is found is the row with the longest key, and nothing is found exactly when no key has
the leading digits. -/
structure FindsLongest {ρ : Type u} {α : Type v} (rows : List ρ) (key : ρ → String)
    (decode : ρ → Option α) (bin : String) (found : Option α) : Prop where
  isLongest : ∀ info, found = some info →
    ∃ row ∈ rows, decode row = some info ∧ IsLongest (rows.map key) bin (key row)
  eq_none_iff : found = none ↔ ∀ row ∈ rows, ¬ IsLeading bin (key row)

/-! ## Numbers of leading digits -/

section Leading

variable {bin key other : String}

theorem exists_toList_of_leading (leading : IsLeading bin key) :
    ∃ char rest, key.toList = char :: rest ∧ rest ≠ [] ∧ bin.toList.head? = some char := by
  have long := leading.long
  cases keyChars : key.toList with
  | nil =>
      rw [keyChars] at long
      cases long
  | cons char rest =>
      refine ⟨char, rest, rfl, ?_, ?_⟩
      · rintro rfl
        rw [keyChars] at long
        simp at long
      · rcases leading.isPrefix with ⟨after, split⟩
        rw [← split, keyChars]
        rfl

theorem parseI32_of_leading (numeral : IsNumeral bin.toList) (leading : IsLeading bin key) :
    parseI32 key = some (Nat.ofDigitChars 10 key.toList 0 : Int) := by
  have keyNumeral := numeral.initial leading.isPrefix
  have below : Nat.ofDigitChars 10 key.toList 0 < 2 ^ 31 := by
    have bound := ofDigitChars_lt keyNumeral 0
    have room := Nat.pow_le_pow_right (n := 10) (by decide) leading.short
    omega
  rcases exists_toList_of_leading leading with ⟨char, rest, keyChars, -⟩
  have digits : parseDigits key.toList = some (Nat.ofDigitChars 10 key.toList 0) := by
    rw [parseDigits, if_neg]
    · simp only [Nat.ofDigitChars_eq_foldl, Nat.mul_comm 10]
      rfl
    · rw [List.all_eq_true.mpr keyNumeral, keyChars]
      exact Bool.false_ne_true
  have isDigit : char.isDigit = true := (keyChars ▸ keyNumeral).head
  unfold parseI32
  split
  · rename_i sign
    rw [keyChars, List.cons.injEq] at sign
    rw [sign.1] at isDigit
    exact absurd isDigit (by decide)
  · rename_i sign
    rw [keyChars, List.cons.injEq] at sign
    rw [sign.1] at isDigit
    exact absurd isDigit (by decide)
  · rw [digits, Option.bind_some, if_pos below]

theorem stringToIntDefaultZero_of_leading (numeral : IsNumeral bin.toList)
    (leading : IsLeading bin key) :
    stringToIntDefaultZero key = (Nat.ofDigitChars 10 key.toList 0 : Int) := by
  rw [stringToIntDefaultZero, parseI32_of_leading numeral leading, Option.getD_some]

theorem toString_natCast (number : Nat) :
    toString (number : Int) = String.ofList (Nat.toDigits 10 number) :=
  rfl

/-- Without a leading zero the print of the number gives the digits back. -/
theorem toString_of_leading (numeral : IsNumeral bin.toList) (noZero : bin.toList.head? ≠ some '0')
    (leading : IsLeading bin key) : toString (stringToIntDefaultZero key) = key := by
  rcases exists_toList_of_leading leading with ⟨char, rest, keyChars, -, head⟩
  have notZero : char ≠ '0' := fun isZero => noZero (isZero ▸ head)
  have keyNumeral := keyChars ▸ numeral.initial leading.isPrefix
  rw [stringToIntDefaultZero_of_leading numeral leading, toString_natCast, keyChars,
    toDigits_ofDigitChars keyNumeral notZero, ← keyChars, String.ofList_toList]

/-- With a leading zero no number has the digits as its print. -/
theorem toString_ne_of_leadingZero (numeral : IsNumeral bin.toList)
    (zero : bin.toList.head? = some '0') (leading : IsLeading bin key)
    (otherLeading : IsLeading bin other) : toString (stringToIntDefaultZero other) ≠ key := by
  rcases exists_toList_of_leading leading with ⟨char, rest, keyChars, nonempty, head⟩
  rw [zero, Option.some.injEq] at head
  rw [stringToIntDefaultZero_of_leading numeral otherLeading, toString_natCast]
  intro same
  rw [← same, String.toList_ofList, ← head] at keyChars
  exact toDigits_ne_cons_zero _ nonempty keyChars

/-- Of the leading digits of one number the larger number has at least as many. -/
theorem length_le_of_number_le (numeral : IsNumeral bin.toList)
    (noZero : bin.toList.head? ≠ some '0') (leading : IsLeading bin key)
    (otherLeading : IsLeading bin other)
    (le : stringToIntDefaultZero other ≤ stringToIntDefaultZero key) :
    other.toList.length ≤ key.toList.length := by
  by_contra longer
  rw [not_le] at longer
  rcases List.prefix_of_prefix_length_le leading.isPrefix otherLeading.isPrefix longer.le with
    ⟨more, split⟩
  have nonempty : more ≠ [] := by
    rintro rfl
    rw [← split, List.append_nil] at longer
    exact longer.false
  rcases exists_toList_of_leading leading with ⟨char, rest, keyChars, -, head⟩
  have positive : 0 < Nat.ofDigitChars 10 key.toList 0 := by
    have notZero : char ≠ '0' := fun isZero => noZero (isZero ▸ head)
    rw [keyChars]
    exact ofDigitChars_pos (keyChars ▸ numeral.initial leading.isPrefix).head notZero
  have less := lt_ofDigitChars positive nonempty
  rw [← Nat.ofDigitChars_append, split] at less
  rw [stringToIntDefaultZero_of_leading numeral leading,
    stringToIntDefaultZero_of_leading numeral otherLeading] at le
  omega

end Leading

/-! ## Lookups -/

section Lookup

variable {ρ : Type u} {α : Type v}

/-- The rows with one of the candidates as their key, of which the one with the largest number is
found by the print of the number. -/
def lookupByMax (rows : List ρ) (key : ρ → String) (decode : ρ → Option α) (text : α → String)
    (candidates : List String) (default : String) : Option α :=
  let infos := (rows.filter fun row => candidates.contains (key row)).filterMap decode
  infos.find? fun info => text info == printOfMax default (infos.map text)

variable {rows : List ρ} {key : ρ → String} {decode : ρ → Option α} {text : α → String}
  {candidates : List String} {default bin : String}

/-- What the texts of rows that are found are. -/
structure IsLookup (key : ρ → String) (decode : ρ → Option α) (text : α → String)
    (candidates : List String) (bin : String) : Prop where
  numeral : IsNumeral bin.toList
  candidates_iff : ∀ candidate, candidate ∈ candidates ↔ IsLeading bin candidate
  text_eq : ∀ row info, IsNumeral (key row).toList → decode row = some info → text info = key row

theorem IsLookup.mem_infos_iff (lookup : IsLookup key decode text candidates bin) {info : α} :
    info ∈ (rows.filter fun row => candidates.contains (key row)).filterMap decode ↔
      ∃ row ∈ rows, IsLeading bin (key row) ∧ decode row = some info ∧ text info = key row := by
  simp only [List.mem_filterMap, List.mem_filter, List.contains_iff_mem, lookup.candidates_iff]
  constructor
  · rintro ⟨row, ⟨listed, leading⟩, decoded⟩
    exact ⟨row, listed, leading, decoded,
      lookup.text_eq row info (lookup.numeral.initial leading.isPrefix) decoded⟩
  · rintro ⟨row, listed, leading, decoded, -⟩
    exact ⟨row, ⟨listed, leading⟩, decoded⟩

/-- What is found has the largest number of all that are found, and that number's print. -/
theorem text_eq_of_lookupByMax (lookup : IsLookup key decode text candidates bin) {info : α}
    (found : lookupByMax rows key decode text candidates default = some info) :
    ∃ row ∈ rows, decode row = some info ∧ text info = key row ∧ IsLeading bin (key row) ∧
      ∃ best ∈ rows, IsLeading bin (key best) ∧
        toString (stringToIntDefaultZero (key best)) = key row ∧
        ∀ other ∈ rows, IsLeading bin (key other) → (decode other).isSome →
          stringToIntDefaultZero (key other) ≤ stringToIntDefaultZero (key best) := by
  rw [lookupByMax] at found
  rcases lookup.mem_infos_iff.mp (List.mem_of_find?_eq_some found) with
    ⟨row, listed, leading, decoded, rowText⟩
  refine ⟨row, listed, decoded, rowText, leading, ?_⟩
  have print := List.find?_some found
  rw [beq_iff_eq, printOfMax, rowText] at print
  cases max : (((((rows.filter fun row => candidates.contains (key row)).filterMap decode).map
      text).map stringToIntDefaultZero).max?) with
  | none =>
      rw [List.max?_eq_none_iff, List.map_eq_nil_iff, List.map_eq_nil_iff] at max
      have := List.mem_of_find?_eq_some found
      rw [max] at this
      cases this
  | some number =>
      rw [max, Option.map_some, Option.getD_some] at print
      rcases List.max?_eq_some_iff.mp max with ⟨attained, bound⟩
      simp only [List.mem_map, exists_exists_and_eq_and] at attained
      rcases attained with ⟨bestInfo, bestListed, rfl⟩
      rcases lookup.mem_infos_iff.mp bestListed with
        ⟨best, bestRow, bestLeading, -, bestText⟩
      refine ⟨best, bestRow, bestLeading, bestText ▸ print.symm, ?_⟩
      intro other otherRow otherLeading parses
      rcases Option.isSome_iff_exists.mp parses with ⟨otherInfo, otherDecoded⟩
      have otherText := lookup.text_eq other otherInfo
        (lookup.numeral.initial otherLeading.isPrefix) otherDecoded
      rw [← bestText, ← otherText]
      exact bound _ (List.mem_map_of_mem (List.mem_map_of_mem (lookup.mem_infos_iff.mpr
        ⟨other, otherRow, otherLeading, otherDecoded, otherText⟩)))

/-- Without a leading zero a row that parses is enough for something to be found. -/
theorem lookupByMax_isSome (default : String) (lookup : IsLookup key decode text candidates bin)
    (noZero : bin.toList.head? ≠ some '0') {row : ρ} (listed : row ∈ rows)
    (leading : IsLeading bin (key row)) (parses : (decode row).isSome) :
    (lookupByMax rows key decode text candidates default).isSome := by
  rw [lookupByMax, List.find?_isSome]
  rcases Option.isSome_iff_exists.mp parses with ⟨info, decoded⟩
  have infoListed := (lookup.mem_infos_iff).mpr ⟨row, listed, leading, decoded,
    lookup.text_eq row info (lookup.numeral.initial leading.isPrefix) decoded⟩
  cases max : (((((rows.filter fun row => candidates.contains (key row)).filterMap decode).map
      text).map stringToIntDefaultZero).max?) with
  | none =>
      rw [List.max?_eq_none_iff, List.map_eq_nil_iff, List.map_eq_nil_iff] at max
      rw [max] at infoListed
      cases infoListed
  | some number =>
      have attained := (List.max?_eq_some_iff.mp max).1
      simp only [List.mem_map, exists_exists_and_eq_and] at attained
      rcases attained with ⟨bestInfo, bestListed, rfl⟩
      refine ⟨bestInfo, bestListed, ?_⟩
      rcases lookup.mem_infos_iff.mp bestListed with ⟨best, -, bestLeading, -, bestText⟩
      rw [beq_iff_eq, printOfMax, max, Option.map_some, Option.getD_some, bestText,
        toString_of_leading lookup.numeral noZero bestLeading]

theorem exists_isLongest {row : ρ} (listed : row ∈ rows) (leading : IsLeading bin (key row)) :
    ∃ longest ∈ rows, IsLongest (rows.map key) bin (key longest) := by
  classical
  have nonempty : rows.filter (fun row => IsLeading bin (key row)) ≠ [] :=
    List.ne_nil_of_mem (List.mem_filter.mpr ⟨listed, decide_eq_true leading⟩)
  have attained : (rows.filter fun row => IsLeading bin (key row)).argmax
      (fun row => (key row).toList.length) ≠ none :=
    fun none => nonempty (List.argmax_eq_none.mp none)
  rcases Option.ne_none_iff_exists'.mp attained with ⟨longest, isMax⟩
  rcases List.mem_filter.mp (List.argmax_mem isMax) with ⟨longestListed, longestLeading⟩
  refine ⟨longest, longestListed, of_decide_eq_true longestLeading, ?_⟩
  intro other otherKey otherLeading
  rcases List.mem_map.mp otherKey with ⟨otherRow, otherListed, rfl⟩
  have otherMem : otherRow ∈ rows.filter fun row => IsLeading bin (key row) :=
    List.mem_filter.mpr ⟨otherListed, decide_eq_true otherLeading⟩
  exact List.le_of_mem_argmax (f := fun row => (key row).toList.length) otherMem isMax

theorem findsLongest_iff (lookup : IsLookup key decode text candidates bin) :
    FindsLongest rows key decode bin (lookupByMax rows key decode text candidates default) ↔
      (∀ row ∈ rows, ¬ IsLeading bin (key row)) ∨ bin.toList.head? ≠ some '0' ∧
        ∃ row ∈ rows, IsLongest (rows.map key) bin (key row) ∧ (decode row).isSome := by
  constructor
  · intro finds
    cases found : lookupByMax rows key decode text candidates default with
    | none => exact Or.inl (finds.eq_none_iff.mp found)
    | some info =>
        right
        rcases finds.isLongest info found with ⟨longest, listed, decoded, isLongest⟩
        refine ⟨?_, longest, listed, isLongest, Option.isSome_iff_exists.mpr ⟨info, decoded⟩⟩
        intro zero
        rcases text_eq_of_lookupByMax lookup found with
          ⟨row, -, -, -, leading, best, -, bestLeading, print, -⟩
        exact toString_ne_of_leadingZero lookup.numeral zero leading bestLeading print
  · rintro (noKey | ⟨noZero, longest, longestListed, isLongest, parses⟩)
    · cases found : lookupByMax rows key decode text candidates default with
      | none => exact ⟨nofun, iff_of_true rfl noKey⟩
      | some info =>
          rcases text_eq_of_lookupByMax lookup found with ⟨row, listed, -, -, leading, -⟩
          exact absurd leading (noKey row listed)
    · constructor
      · intro info found
        rcases text_eq_of_lookupByMax lookup found with
          ⟨row, listed, decoded, -, leading, best, -, bestLeading, print, bound⟩
        rw [toString_of_leading lookup.numeral noZero bestLeading] at print
        refine ⟨row, listed, decoded, leading, ?_⟩
        intro other otherKey otherLeading
        have le := bound longest longestListed isLongest.leading parses
        rw [print] at le
        exact (isLongest.longest other otherKey otherLeading).trans
          (length_le_of_number_le lookup.numeral noZero leading isLongest.leading le)
      · have some := lookupByMax_isSome default lookup noZero longestListed
          isLongest.leading parses
        refine iff_of_false (fun none => ?_) fun noKey =>
          noKey longest longestListed isLongest.leading
        rw [none] at some
        cases some

end Lookup

/-! ## The leading digits of a number -/

section Candidates

variable {bin : String}

theorem utf8ByteSize_of_numeral (numeral : IsNumeral bin.toList) :
    bin.utf8ByteSize = bin.toList.length := by
  have sizes : charsSize bin.toList = bin.toList.length := by
    have single : ∀ char ∈ bin.toList, char.utf8Size = 1 := by
      intro char listed
      have := (isDigit_bounds (numeral char listed)).2
      rw [Char.utf8Size_eq_one_iff, UInt32.le_iff_toNat_le]
      exact this.trans (by decide)
    rw [charsSize, List.map_congr_left single, List.map_const', List.sum_replicate_nat,
      Nat.mul_one]
  rw [← sizes, ← length_encodeChars, ← List.size_toByteArray]
  exact congrArg ByteArray.size (toByteArray_encodeUtf8 bin).symm

theorem isLeading_take {len : Nat} (atLeast : 6 ≤ bin.toList.length) (long : 6 ≤ len)
    (short : len ≤ 9) : IsLeading bin (String.ofList (bin.toList.take len)) := by
  constructor
  · rw [String.toList_ofList]
    exact List.take_prefix _ _
  · rw [String.toList_ofList, List.length_take]
    omega
  · rw [String.toList_ofList, List.length_take]
    omega

theorem eq_take_of_leading {key : String} (leading : IsLeading bin key) :
    String.ofList (bin.toList.take key.toList.length) = key := by
  rw [← List.prefix_iff_eq_take.mp leading.isPrefix, String.ofList_toList]

theorem mem_lens {len : Nat} : len ∈ [6, 7, 8, 9] ↔ 6 ≤ len ∧ len ≤ 9 := by
  simp only [List.mem_cons, List.not_mem_nil, or_false]
  omega

theorem mem_tokenBinList_iff (atLeast : 6 ≤ bin.toList.length) (candidate : String) :
    candidate ∈ [6, 7, 8, 9].map (fun len => String.ofList (bin.toList.take len)) ↔
      IsLeading bin candidate := by
  rw [List.mem_map]
  constructor
  · rintro ⟨len, inRange, rfl⟩
    rw [mem_lens] at inRange
    exact isLeading_take atLeast inRange.1 inRange.2
  · intro leading
    exact ⟨_, mem_lens.mpr ⟨leading.long, leading.short⟩, eq_take_of_leading leading⟩

/-- The issuer number that is parsed from leading digits has them as its text. -/
theorem exists_toIsin_of_leading {key : String} (numeral : IsNumeral bin.toList)
    (leading : IsLeading bin key) : ∃ isin, toIsin key = .ok isin ∧ isin.toText = key := by
  have keyNumeral := numeral.initial leading.isPrefix
  rcases exists_toIsin keyNumeral leading.long leading.short with ⟨isin, parsed⟩
  refine ⟨isin, parsed, ?_⟩
  rw [toText_of_toIsin parsed, List.filter_eq_self.mpr keyNumeral, String.ofList_toList]

theorem mem_isinsOf_iff (numeral : IsNumeral bin.toList) (atLeast : 6 ≤ bin.toList.length)
    (candidate : String) :
    candidate ∈ (isinsOf bin).map Isin.toText ↔ IsLeading bin candidate := by
  rw [isinsOf, utf8ByteSize_of_numeral numeral]
  by_cases longer : 6 < bin.toList.length
  · rw [if_pos longer]
    simp only [List.mem_map, List.mem_filterMap, List.mem_filter, mem_lens, decide_eq_true_eq]
    constructor
    · rintro ⟨isin, ⟨len, ⟨inRange, -⟩, parsed⟩, rfl⟩
      have leading := isLeading_take atLeast inRange.1 inRange.2
      rcases exists_toIsin_of_leading numeral leading with ⟨other, otherParsed, text⟩
      rw [otherParsed] at parsed
      cases parsed
      rwa [text]
    · intro leading
      rcases exists_toIsin_of_leading numeral leading with ⟨isin, parsed, text⟩
      refine ⟨isin, ⟨candidate.toList.length,
        ⟨⟨leading.long, leading.short⟩, leading.isPrefix.length_le⟩, ?_⟩, text⟩
      rw [eq_take_of_leading leading, parsed]
      rfl
  · rw [if_neg longer]
    have whole : IsLeading bin bin := ⟨List.prefix_refl _, atLeast, by omega⟩
    rcases exists_toIsin_of_leading numeral whole with ⟨isin, parsed, text⟩
    simp only [parsed, Except.toOption, Option.toList_some, List.map_cons, List.map_nil,
      List.mem_singleton, text]
    constructor
    · rintro rfl
      exact whole
    · intro leading
      have same : candidate.toList.length = bin.toList.length := by
        have := leading.isPrefix.length_le
        have := leading.long
        omega
      exact String.toList_injective (leading.isPrefix.eq_of_length same)

end Candidates

/-! ## Tables -/

theorem toText_of_tryFrom {row : DBCardInfo} {info : CardInfo}
    (numeral : IsNumeral row.cardIsin.toList)
    (parsed : (CardInfo.tryFrom row).toOption = some info) :
    info.cardIsin.toText = row.cardIsin := by
  unfold CardInfo.tryFrom at parsed
  cases isinParsed : toIsin row.cardIsin with
  | error message =>
      rw [isinParsed] at parsed
      cases parsed
  | ok isin =>
      cases typeParsed : cardTypeOf row.cardType with
      | error message =>
          rw [isinParsed, typeParsed] at parsed
          cases parsed
      | ok cardType =>
          rw [isinParsed, typeParsed] at parsed
          cases parsed
          rw [toText_of_toIsin isinParsed, List.filter_eq_self.mpr numeral, String.ofList_toList]

/-- The row parses unless its card type is unknown. -/
theorem isSome_tryFrom_iff {row : DBCardInfo} {bin : String} (numeral : IsNumeral bin.toList)
    (leading : IsLeading bin row.cardIsin) :
    (CardInfo.tryFrom row).toOption.isSome ↔ (cardTypeOf row.cardType).toOption.isSome := by
  rcases exists_toIsin_of_leading numeral leading with ⟨isin, parsed, -⟩
  rw [CardInfo.tryFrom, parsed]
  cases cardTypeOf row.cardType with
  | error message => exact Iff.rfl
  | ok cardType => exact iff_of_true rfl rfl

/-- The lookups of cards and of tokens find the longest key, exactly when no key has the leading
digits, or when the number does not begin with a zero and the longest key is of a known card
type. -/
theorem findsLongest_lookups_iff (cardInfos : List DBCardInfo)
    (tokenBinInfos : List TokenBinInfo) (bin : String) (numeral : IsNumeral bin.toList)
    (atLeast : 6 ≤ bin.toList.length) :
    (FindsLongest cardInfos (·.cardIsin) (fun row => (CardInfo.tryFrom row).toOption) bin
        (getCardInfoByBin (some cardInfos) (some bin)) ↔
      (∀ row ∈ cardInfos, ¬ IsLeading bin row.cardIsin) ∨
        bin.toList.head? ≠ some '0' ∧
          ∃ row ∈ cardInfos, IsLongest (cardInfos.map (·.cardIsin)) bin row.cardIsin ∧
            (cardTypeOf row.cardType).toOption.isSome) ∧
    (FindsLongest tokenBinInfos (·.tokenBin) some bin
        (getExtendedTokenBinInfo (some tokenBinInfos) bin) ↔
      (∀ row ∈ tokenBinInfos, ¬ IsLeading bin row.tokenBin) ∨
        bin.toList.head? ≠ some '0') := by
  constructor
  · have lookup : IsLookup (fun row : DBCardInfo => row.cardIsin)
        (fun row => (CardInfo.tryFrom row).toOption) (fun info => info.cardIsin.toText)
        ((isinsOf bin).map Isin.toText) bin :=
      ⟨numeral, mem_isinsOf_iff numeral atLeast, fun _ _ => toText_of_tryFrom⟩
    have isLookup : getCardInfoByBin (some cardInfos) (some bin) =
        lookupByMax cardInfos (·.cardIsin) (fun row => (CardInfo.tryFrom row).toOption)
          (·.cardIsin.toText) ((isinsOf bin).map Isin.toText) "0" := by
      have present : getTrueString (some bin) = some bin := by
        rw [getTrueString, Option.filter_some, if_pos]
        rw [bne_iff_ne]
        rintro rfl
        cases atLeast
      rw [getCardInfoByBin, present]
      rfl
    rw [isLookup, findsLongest_iff lookup]
    refine or_congr_right (and_congr_right fun _ => exists_congr fun row => ?_)
    refine and_congr_right fun _ => and_congr_right fun isLongest => ?_
    exact isSome_tryFrom_iff numeral isLongest.leading
  · have lookup : IsLookup (fun row : TokenBinInfo => row.tokenBin) some
        (fun info => info.tokenBin)
        ([6, 7, 8, 9].map fun len => String.ofList (bin.toList.take len)) bin :=
      ⟨numeral, mem_tokenBinList_iff atLeast, fun row info _ same => by cases same; rfl⟩
    have isLookup : getExtendedTokenBinInfo (some tokenBinInfos) bin =
        lookupByMax tokenBinInfos (·.tokenBin) some (·.tokenBin)
          ([6, 7, 8, 9].map fun len => String.ofList (bin.toList.take len)) "" := by
      rw [lookupByMax, List.filterMap_some]
      rfl
    rw [isLookup, findsLongest_iff lookup]
    constructor
    · exact Or.imp_right And.left
    · intro condition
      by_cases noKey : ∀ row ∈ tokenBinInfos, ¬ IsLeading bin row.tokenBin
      · exact Or.inl noKey
      · push Not at noKey
        rcases noKey with ⟨row, listed, leading⟩
        rcases exists_isLongest listed leading with
          ⟨longest, longestListed, isLongest⟩
        rcases condition with noKey | noZero
        · exact absurd leading (noKey row listed)
        · exact Or.inr ⟨noZero, longest, longestListed, isLongest, rfl⟩

/-- A card number with a leading zero, whose key is stored. -/
def leadingZeroBin : TokenBinInfo :=
  ⟨"012345", "411111", "VISA"⟩

theorem not_findsLongest_leadingZeroBin :
    ¬ ∀ (tokenBinInfos : List TokenBinInfo) (bin : String), IsNumeral bin.toList →
      6 ≤ bin.toList.length →
      FindsLongest tokenBinInfos (·.tokenBin) some bin
        (getExtendedTokenBinInfo (some tokenBinInfos) bin) := by
  intro finds
  have numeral : IsNumeral "0123456789".toList := List.all_eq_true.mp (by decide)
  have notFound : getExtendedTokenBinInfo (some [leadingZeroBin]) "0123456789" = none := by
    decide +kernel
  have noKey := (finds [leadingZeroBin] "0123456789" numeral (by decide)).eq_none_iff.mp notFound
  apply noKey leadingZeroBin (List.mem_singleton.mpr rfl)
  exact ⟨by decide, by decide, by decide⟩

/-- Six digits of a card, and of a token. -/
def visaCard : DBCardInfo :=
  ⟨"411111", "VISA", some "CREDIT", none, none, none, none, none⟩

def visaToken : TokenBinInfo :=
  ⟨"411111", "422222", "VISA"⟩

theorem findsLongest_visaCard :
    FindsLongest [visaCard] (·.cardIsin) (fun row => (CardInfo.tryFrom row).toOption)
        "4111111111111111" (getCardInfoByBin (some [visaCard]) (some "4111111111111111")) ∧
      FindsLongest [visaToken] (·.tokenBin) some "4111111111111111"
        (getExtendedTokenBinInfo (some [visaToken]) "4111111111111111") := by
  have numeral : IsNumeral "4111111111111111".toList := List.all_eq_true.mp (by decide)
  have leading : IsLeading "4111111111111111" "411111" :=
    ⟨by decide, by decide, by decide⟩
  have isLongest : IsLongest ["411111"] "4111111111111111" "411111" := by
    refine ⟨leading, ?_⟩
    intro other listed _
    rw [List.mem_singleton.mp listed]
  have lookups := findsLongest_lookups_iff [visaCard] [visaToken] "4111111111111111" numeral
    (by decide)
  constructor
  · exact lookups.1.mpr (Or.inr ⟨by decide, visaCard, List.mem_singleton.mpr rfl, isLongest, rfl⟩)
  · exact lookups.2.mpr (Or.inr (by decide))

end DecisionEngine.GatewayFilter
