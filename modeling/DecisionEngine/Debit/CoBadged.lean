import DecisionEngine.Redis.StringLayer
import Mathlib.Data.List.Induction
import Mathlib.Tactic.Ring

/-!
# Co-badged cards

A card number begins with its BIN, and the table of co-badged cards has ranges of card numbers
of 19 digits.  The rows whose range has the padded BIN are the networks of the card, which are
used when they are at least two with one global network.

That there is one global network is looked at before the rows are filtered, and a padded BIN
need not be a number of 64 bits.
-/

namespace DecisionEngine.Debit

open Redis

/-! ## Networks and cards -/

inductive Network where
  | visa
  | amex
  | diners
  | rupay
  | mastercard
  | star
  | pulse
  | accel
  | nyce
  deriving DecidableEq

namespace Network

def fromString : String → Option Network
  | "VISA" => some visa
  | "AMEX" => some amex
  | "DINERS" => some diners
  | "RUPAY" => some rupay
  | "MASTERCARD" => some mastercard
  | "STAR" => some star
  | "PULSE" => some pulse
  | "ACCEL" => some accel
  | "NYCE" => some nyce
  | _ => none

def isGlobalNetwork : Network → Bool
  | visa | amex | diners | rupay | mastercard => true
  | star | pulse | accel | nyce => false

end Network

inductive CardType where
  | credit
  | debit
  deriving DecidableEq

inductive PanOrToken where
  | pan
  | token
  deriving DecidableEq

inductive RegulatedName where
  | nonExemptWithFraud
  | unknown (bankName : String)

inductive ApiError where
  | unknownError
  | missingRequiredField (field : String)

/-- What a card is besides its network; the countries are of any type. -/
structure CardFields (Country : Type) where
  countryCode : Option Country
  cardType : Option CardType
  regulated : Option Bool
  regulatedName : Option RegulatedName
  prepaid : Option Bool
  panOrToken : PanOrToken

/-- A row of the table. -/
structure CoBadgedCardInfo (Country : Type) where
  cardBinMin : Int
  cardBinMax : Int
  cardNetwork : String
  fields : CardFields Country

/-- A row whose network is one that is known. -/
structure CoBadgedCardInfoDomainData (Country : Type) where
  cardNetwork : Network
  fields : CardFields Country

structure CoBadgedCardInfoResponse (Country : Type) where
  coBadgedCardNetworks : List Network
  issuerCountry : Country
  isRegulated : Bool
  regulatedName : Option RegulatedName
  cardType : CardType

variable {Country : Type}

def CoBadgedCardInfo.toDomain (row : CoBadgedCardInfo Country) :
    Option (CoBadgedCardInfoDomainData Country) :=
  (Network.fromString row.cardNetwork).map fun network => ⟨network, row.fields⟩

/-! ## Lists of cards -/

/-- The cards of a BIN. -/
abbrev CoBadgedCardInfoList (Country : Type) := List (CoBadgedCardInfoDomainData Country)

namespace CoBadgedCardInfoList

variable (cards : CoBadgedCardInfoList Country)

def isValidLength : Bool :=
  !(cards.length < 2)

def globalNetworkCount : Nat :=
  cards.countP fun card => card.cardNetwork.isGlobalNetwork

def isOnlyOneGlobalNetworkPresent : Bool :=
  globalNetworkCount cards = 1

def getGlobalNetworkCard : Except ApiError (CoBadgedCardInfoDomainData Country) :=
  match cards.find? fun card => card.cardNetwork.isGlobalNetwork with
  | some card => .ok card
  | none => .error .unknownError

/-- Debit cards that are not prepaid, by their own number. -/
def filterCards : CoBadgedCardInfoList Country :=
  cards.filter fun card =>
    card.fields.cardType = some .debit ∧ card.fields.panOrToken = .pan ∧
      card.fields.prepaid = some false

/-- A field that has to be there. -/
def required {T : Type} : Option T → Except ApiError T
  | some value => .ok value
  | none => .error .unknownError

def getCoBadgedCardsInfoResponse : Except ApiError (CoBadgedCardInfoResponse Country) := do
  let globalCard ← getGlobalNetworkCard cards
  let issuerCountry ← required globalCard.fields.countryCode
  let isRegulated ← required globalCard.fields.regulated
  let cardType ← required globalCard.fields.cardType
  return ⟨cards.map CoBadgedCardInfoDomainData.cardNetwork, issuerCountry, isRegulated,
    globalCard.fields.regulatedName, cardType⟩

end CoBadgedCardInfoList

/-! ## The lookup -/

/-- A number of 64 bits. -/
def parseI64 (text : String) : Option Int :=
  match text.toList with
  | '-' :: digits =>
      (parseDigits digits).bind fun value =>
        if value ≤ 2 ^ 63 then some (-(value : Int)) else none
  | '+' :: digits =>
      (parseDigits digits).bind fun value => if value < 2 ^ 63 then some (value : Int) else none
  | digits =>
      (parseDigits digits).bind fun value => if value < 2 ^ 63 then some (value : Int) else none

def padCardNumberTo19Digit (cardIsin : String) : String :=
  String.ofList (cardIsin.toList ++ List.replicate (19 - cardIsin.length) '0')

variable (table : List (CoBadgedCardInfo Country))

/-- The rows whose range has a number. -/
def findCoBadgedCardsInfoByCardBin (cardBin : Int) :
    List (CoBadgedCardInfo Country) :=
  table.filter fun row => row.cardBinMin ≤ cardBin ∧ cardBin ≤ row.cardBinMax

def coBadgedCardsInfoLookup (cardIsin : String) :
    Except ApiError (List (CoBadgedCardInfo Country)) :=
  match parseI64 (padCardNumberTo19Digit cardIsin) with
  | some parsedNumber => .ok (findCoBadgedCardsInfoByCardBin table parsedNumber)
  | none => .error .unknownError

/-- The first six digits of a BIN. -/
def sixDigits (cardIsin : String) : String :=
  String.ofList (cardIsin.toList.take 6)

/-- The cards that a response is built from, if there are some. -/
def usableCards (cards : CoBadgedCardInfoList Country) :
    Option (CoBadgedCardInfoList Country) :=
  if cards.isValidLength && cards.isOnlyOneGlobalNetworkPresent &&
      cards.filterCards.isValidLength then
    some cards.filterCards
  else none

def getCoBadgedCardsResponse (cards : CoBadgedCardInfoList Country) :
    Except ApiError (Option (CoBadgedCardInfoResponse Country)) :=
  match usableCards cards with
  | some filteredList => filteredList.getCoBadgedCardsInfoResponse.map some
  | none => .ok none

/-- The rows of a BIN; one of eight digits without rows is looked up by its first six. -/
def coBadgedCardRecords (cardIsin : String) :
    Except ApiError (List (CoBadgedCardInfo Country)) :=
  match coBadgedCardsInfoLookup table cardIsin with
  | .ok records =>
      if records.isEmpty ∧ cardIsin.length = 8 then
        coBadgedCardsInfoLookup table (sixDigits cardIsin)
      else .ok records
  | .error _ => .error .unknownError

def getCoBadgedCardsInfo (cardIsin : String) :
    Except ApiError (Option (CoBadgedCardInfoResponse Country)) :=
  match coBadgedCardRecords table cardIsin with
  | .ok records => getCoBadgedCardsResponse (records.filterMap CoBadgedCardInfo.toDomain)
  | .error failure => .error failure

/-! ## BINs -/

/-- The number that digits name. -/
def digitsValue (digits : List Char) : Nat :=
  digits.foldl (fun value digit => value * 10 + (digit.toNat - 48)) 0

/-- Six to eight decimal digits. -/
structure IsBin (cardIsin : String) : Prop where
  digits : ∀ char ∈ cardIsin.toList, char.isDigit = true
  atLeast : 6 ≤ cardIsin.length
  atMost : cardIsin.length ≤ 8

/-- The first card number of 19 digits with a BIN. -/
def paddedValue (cardIsin : String) : Nat :=
  digitsValue cardIsin.toList * 10 ^ (19 - cardIsin.length)

theorem digitsValue_concat (digits : List Char) (digit : Char) :
    digitsValue (digits ++ [digit]) = digitsValue digits * 10 + (digit.toNat - 48) := by
  rw [digitsValue, List.foldl_append]
  rfl

/-- Digits behind a number move it to the left. -/
theorem digitsValue_append (first second : List Char) :
    digitsValue (first ++ second) =
      digitsValue first * 10 ^ second.length + digitsValue second := by
  induction second using List.reverseRecOn with
  | nil => simp [digitsValue]
  | append_singleton second digit ih =>
      rw [← List.append_assoc, digitsValue_concat, digitsValue_concat, ih,
        List.length_append, List.length_singleton, Nat.pow_succ]
      ring

theorem digitsValue_zeros (count : Nat) : digitsValue (List.replicate count '0') = 0 := by
  induction count with
  | zero => rfl
  | succ count ih => simpa [digitsValue, List.replicate_succ] using ih

theorem digitsValue_padded (cardIsin : String) :
    digitsValue (padCardNumberTo19Digit cardIsin).toList = paddedValue cardIsin := by
  rw [padCardNumberTo19Digit, String.toList_ofList, digitsValue_append, digitsValue_zeros,
    List.length_replicate, paddedValue, Nat.add_zero]

/-- Digits are the number that they name, when it has 64 bits. -/
theorem parseI64_of_digits {text : String} (digits : ∀ char ∈ text.toList, char.isDigit = true)
    (nonempty : text.toList ≠ []) :
    parseI64 text = if digitsValue text.toList < 2 ^ 63 then
      some (digitsValue text.toList : Int) else none := by
  have unsigned : ∀ sign rest, text.toList = sign :: rest → sign.isDigit = true := by
    intro sign rest split
    exact digits sign (by simp [split])
  have parsed : parseDigits text.toList = some (digitsValue text.toList) := by
    have allDigits : text.toList.all Char.isDigit = true := by simpa using digits
    simp [parseDigits, nonempty, allDigits, digitsValue]
  unfold parseI64
  split
  · next rest split => exact absurd (unsigned '-' rest split) (by decide)
  · next rest split => exact absurd (unsigned '+' rest split) (by decide)
  · rw [parsed, Option.bind_some]

variable {cardIsin : String}

theorem IsBin.sixDigits (bin : IsBin cardIsin) :
    IsBin (sixDigits cardIsin) := by
  have length : (Debit.sixDigits cardIsin).length = 6 := by
    have atLeast := bin.atLeast
    rw [← String.length_toList] at atLeast
    simp [Debit.sixDigits, atLeast]
  refine ⟨?_, by omega, by omega⟩
  intro char present
  rw [Debit.sixDigits, String.toList_ofList] at present
  exact bin.digits char (List.mem_of_mem_take present)

theorem paddedValue_sixDigits_le (eight : cardIsin.length = 8) :
    paddedValue (sixDigits cardIsin) ≤ paddedValue cardIsin := by
  have length : (sixDigits cardIsin).length = 6 := by
    rw [← String.length_toList] at eight
    simp [sixDigits, eight]
  have parts := digitsValue_append (cardIsin.toList.take 6) (cardIsin.toList.drop 6)
  rw [List.take_append_drop, List.length_drop, String.length_toList, eight] at parts
  rw [paddedValue, paddedValue, length, eight, sixDigits, String.toList_ofList, parts]
  omega

/-- A BIN is looked up unless it is too large when padded. -/
theorem coBadgedCardsInfoLookup_of_bin {table : List (CoBadgedCardInfo Country)}
    {cardIsin : String} (bin : IsBin cardIsin) :
    coBadgedCardsInfoLookup table cardIsin =
      if paddedValue cardIsin < 2 ^ 63 then
        .ok (findCoBadgedCardsInfoByCardBin table (paddedValue cardIsin))
      else .error .unknownError := by
  have digits : ∀ char ∈ (padCardNumberTo19Digit cardIsin).toList, char.isDigit = true := by
    intro char present
    rw [padCardNumberTo19Digit, String.toList_ofList, List.mem_append] at present
    rcases present with own | zero
    · exact bin.digits char own
    · rw [List.eq_of_mem_replicate zero]
      rfl
  have nonempty : (padCardNumberTo19Digit cardIsin).toList ≠ [] := by
    have atMost := bin.atMost
    intro empty
    have lengths := congrArg List.length empty
    simp [padCardNumberTo19Digit] at lengths
    omega
  rw [coBadgedCardsInfoLookup, parseI64_of_digits digits nonempty, digitsValue_padded]
  by_cases fits : paddedValue cardIsin < 2 ^ 63
  · rw [if_pos fits, if_pos fits]
  · rw [if_neg fits, if_neg fits]

/-! ## What the lookup promises -/

/-- The rows of a BIN, and for one of eight digits without rows those of its first six. -/
def rowsOfBin (cardIsin : String) :
    List (CoBadgedCardInfo Country) :=
  let rows := findCoBadgedCardsInfoByCardBin table (paddedValue cardIsin)
  if rows.isEmpty ∧ cardIsin.length = 8 then
    findCoBadgedCardsInfoByCardBin table (paddedValue (sixDigits cardIsin))
  else rows

/-- The cards of a BIN. -/
def cardsOfBin (cardIsin : String) :
    CoBadgedCardInfoList Country :=
  (rowsOfBin table cardIsin).filterMap CoBadgedCardInfo.toDomain

/-- A row with what a response needs. -/
structure CoBadgedCardInfo.Complete (row : CoBadgedCardInfo Country) : Prop where
  countryCode : row.fields.countryCode.isSome
  regulated : row.fields.regulated.isSome
  cardType : row.fields.cardType.isSome

/-- Every field of a response comes from kept cards, those about the issuer from the one of a
global network. -/
structure FromCards (kept : CoBadgedCardInfoList Country)
    (response : CoBadgedCardInfoResponse Country) : Prop where
  networks : response.coBadgedCardNetworks = kept.map CoBadgedCardInfoDomainData.cardNetwork
  issuer : ∃ card ∈ kept, card.cardNetwork.isGlobalNetwork = true ∧
    card.fields.countryCode = some response.issuerCountry ∧
    card.fields.regulated = some response.isRegulated ∧
    card.fields.regulatedName = response.regulatedName ∧
    card.fields.cardType = some response.cardType

/-- At least two cards are kept, with one global network. -/
def Usable (kept : CoBadgedCardInfoList Country) : Prop :=
  2 ≤ kept.length ∧ kept.globalNetworkCount = 1

instance (kept : CoBadgedCardInfoList Country) : Decidable (Usable kept) :=
  inferInstanceAs (Decidable (_ ∧ _))

/-- The lookup has a response, from kept cards, exactly when those are usable, and it never
fails. -/
structure ExactLookup (table : List (CoBadgedCardInfo Country)) (cardIsin : String) : Prop where
  response : Usable (cardsOfBin table cardIsin).filterCards → ∃ response,
    getCoBadgedCardsInfo table cardIsin = .ok (some response) ∧
      FromCards (cardsOfBin table cardIsin).filterCards response
  nothing : ¬Usable (cardsOfBin table cardIsin).filterCards →
    getCoBadgedCardsInfo table cardIsin = .ok none

theorem coBadgedCardRecords_of_bin {table : List (CoBadgedCardInfo Country)}
    {cardIsin : String} (bin : IsBin cardIsin) :
    coBadgedCardRecords table cardIsin =
      if paddedValue cardIsin < 2 ^ 63 then .ok (rowsOfBin table cardIsin)
      else .error .unknownError := by
  rw [coBadgedCardRecords, coBadgedCardsInfoLookup_of_bin bin]
  by_cases fits : paddedValue cardIsin < 2 ^ 63
  · rw [if_pos fits, if_pos fits, rowsOfBin]
    dsimp only
    split
    · next retried =>
        rw [coBadgedCardsInfoLookup_of_bin bin.sixDigits, if_pos]
        exact (paddedValue_sixDigits_le retried.2).trans_lt fits
    · rfl
  · rw [if_neg fits, if_neg fits]

theorem getCoBadgedCardsInfo_of_bin {table : List (CoBadgedCardInfo Country)}
    {cardIsin : String} (bin : IsBin cardIsin) :
    getCoBadgedCardsInfo table cardIsin =
      if paddedValue cardIsin < 2 ^ 63 then getCoBadgedCardsResponse (cardsOfBin table cardIsin)
      else .error .unknownError := by
  rw [getCoBadgedCardsInfo, coBadgedCardRecords_of_bin bin]
  by_cases fits : paddedValue cardIsin < 2 ^ 63
  · rw [if_pos fits, if_pos fits]
    rfl
  · rw [if_neg fits, if_neg fits]

theorem getCoBadgedCardsInfoResponse_of_global {kept : CoBadgedCardInfoList Country}
    (complete : ∀ card ∈ kept, card.fields.countryCode.isSome ∧ card.fields.regulated.isSome ∧
      card.fields.cardType.isSome) (someGlobal : 0 < kept.globalNetworkCount) :
    ∃ response, kept.getCoBadgedCardsInfoResponse = .ok response ∧ FromCards kept response := by
  have found : (kept.find? fun card => card.cardNetwork.isGlobalNetwork).isSome := by
    rw [List.find?_isSome]
    exact List.countP_pos_iff.mp someGlobal
  obtain ⟨card, isFound⟩ := Option.isSome_iff_exists.mp found
  have isGlobal := List.find?_some isFound
  have present := List.mem_of_find?_eq_some isFound
  obtain ⟨hasCountry, hasRegulated, hasType⟩ := complete card present
  obtain ⟨country, countryIs⟩ := Option.isSome_iff_exists.mp hasCountry
  obtain ⟨regulated, regulatedIs⟩ := Option.isSome_iff_exists.mp hasRegulated
  obtain ⟨cardType, typeIs⟩ := Option.isSome_iff_exists.mp hasType
  refine ⟨⟨kept.map CoBadgedCardInfoDomainData.cardNetwork, country, regulated,
    card.fields.regulatedName, cardType⟩, ?_, rfl, card, present, isGlobal, countryIs,
    regulatedIs, rfl, typeIs⟩
  simp [CoBadgedCardInfoList.getCoBadgedCardsInfoResponse,
    CoBadgedCardInfoList.getGlobalNetworkCard, isFound, countryIs, regulatedIs, typeIs,
    CoBadgedCardInfoList.required, bind, Except.bind, pure, Except.pure]

/-- The cards of rows that have what a response needs have it too. -/
theorem complete_filterCards {table : List (CoBadgedCardInfo Country)}
    (complete : ∀ row ∈ table, row.Complete) (cardIsin : String) :
    ∀ card ∈ (cardsOfBin table cardIsin).filterCards, card.fields.countryCode.isSome ∧
      card.fields.regulated.isSome ∧ card.fields.cardType.isSome := by
  intro card kept
  obtain ⟨row, isRow, decoded⟩ := List.mem_filterMap.mp (List.mem_filter.mp kept).1
  have inTable : row ∈ table := by
    rw [rowsOfBin] at isRow
    split at isRow <;> exact (List.mem_filter.mp isRow).1
  obtain ⟨network, -, rfl⟩ := Option.map_eq_some_iff.mp decoded
  have rowComplete := complete row inTable
  exact ⟨rowComplete.countryCode, rowComplete.regulated, rowComplete.cardType⟩

/-- Filtered cards are used when there are two, and before the filter one global network. -/
theorem usableCards_eq (cards : CoBadgedCardInfoList Country) :
    usableCards cards =
      if 2 ≤ cards.filterCards.length ∧ cards.globalNetworkCount = 1 then some cards.filterCards
      else none := by
  have fewer : cards.filterCards.length ≤ cards.length := List.length_filter_le _ _
  simp only [usableCards, CoBadgedCardInfoList.isValidLength,
    CoBadgedCardInfoList.isOnlyOneGlobalNetworkPresent]
  congr 1
  simp only [Bool.and_eq_true, Bool.not_eq_true', decide_eq_false_iff_not, not_lt,
    decide_eq_true_eq, eq_iff_iff]
  constructor
  · rintro ⟨⟨-, one⟩, enough⟩
    exact ⟨enough, one⟩
  · rintro ⟨enough, one⟩
    exact ⟨⟨enough.trans fewer, one⟩, enough⟩

theorem getCoBadgedCardsResponse_eq (cards : CoBadgedCardInfoList Country) :
    getCoBadgedCardsResponse cards =
      if 2 ≤ cards.filterCards.length ∧ cards.globalNetworkCount = 1 then
        cards.filterCards.getCoBadgedCardsInfoResponse.map some
      else .ok none := by
  rw [getCoBadgedCardsResponse, usableCards_eq]
  by_cases used : 2 ≤ cards.filterCards.length ∧ cards.globalNetworkCount = 1
  · rw [if_pos used, if_pos used]
  · rw [if_neg used, if_neg used]

/-- The lookup is exact when the padded BIN has 64 bits and, of the cards that are at least two
when filtered, there is one global network before the filter exactly when there is after. -/
theorem exactLookup_iff {table : List (CoBadgedCardInfo Country)}
    (complete : ∀ row ∈ table, row.Complete) {cardIsin : String} (bin : IsBin cardIsin) :
    ExactLookup table cardIsin ↔
      paddedValue cardIsin < 2 ^ 63 ∧
        (2 ≤ (cardsOfBin table cardIsin).filterCards.length →
          ((cardsOfBin table cardIsin).globalNetworkCount = 1 ↔
            (cardsOfBin table cardIsin).filterCards.globalNetworkCount = 1)) := by
  have answer : getCoBadgedCardsInfo table cardIsin = _ := getCoBadgedCardsInfo_of_bin bin
  have keptComplete := complete_filterCards complete cardIsin
  rw [getCoBadgedCardsResponse_eq] at answer
  constructor
  · rintro ⟨response, nothing⟩
    have fits : paddedValue cardIsin < 2 ^ 63 := by
      by_contra large
      rw [if_neg large] at answer
      by_cases usable : Usable (cardsOfBin table cardIsin).filterCards
      · obtain ⟨response, returned, -⟩ := response usable
        rw [answer] at returned
        cases returned
      · have returned := nothing usable
        rw [answer] at returned
        cases returned
    rw [if_pos fits] at answer
    refine ⟨fits, fun enough => ⟨fun oneBefore => ?_, fun oneAfter => ?_⟩⟩
    · by_contra notOne
      have returned := nothing fun usable => notOne usable.2
      rw [answer, if_pos ⟨enough, oneBefore⟩] at returned
      cases built : (cardsOfBin table cardIsin).filterCards.getCoBadgedCardsInfoResponse with
      | error failure => rw [built] at returned; cases returned
      | ok response => rw [built] at returned; cases returned
    · by_contra notOne
      obtain ⟨response, returned, -⟩ := response ⟨enough, oneAfter⟩
      rw [answer, if_neg fun both => notOne both.2] at returned
      cases returned
  · rintro ⟨fits, sameCount⟩
    rw [if_pos fits] at answer
    constructor
    · rintro ⟨enough, oneAfter⟩
      obtain ⟨response, built, fromCards⟩ :=
        getCoBadgedCardsInfoResponse_of_global keptComplete (by omega)
      refine ⟨response, ?_, fromCards⟩
      rw [answer, if_pos ⟨enough, (sameCount enough).mpr oneAfter⟩, built]
      rfl
    · intro notUsable
      rw [answer, if_neg]
      rintro ⟨enough, oneBefore⟩
      exact notUsable ⟨enough, (sameCount enough).mp oneBefore⟩

/-- A row of a card whose BIN is 400000. -/
def sampleRow (cardNetwork : String) (cardType : CardType) : CoBadgedCardInfo String :=
  ⟨4000000000000000000, 4000009999999999999, cardNetwork,
    ⟨some "US", some cardType, some true, none, some false, .pan⟩⟩

theorem sampleRow_complete (cardNetwork : String) (cardType : CardType) :
    (sampleRow cardNetwork cardType).Complete :=
  ⟨rfl, rfl, rfl⟩

theorem isBin_sample : IsBin "400000" :=
  ⟨List.all_eq_true.mp (by decide), by decide, by decide⟩

theorem exactLookup_witness :
    ExactLookup [sampleRow "VISA" .debit, sampleRow "STAR" .debit] "400000" ↔
      paddedValue "400000" < 2 ^ 63 ∧
        (2 ≤ (cardsOfBin [sampleRow "VISA" .debit, sampleRow "STAR" .debit]
            "400000").filterCards.length →
          ((cardsOfBin [sampleRow "VISA" .debit, sampleRow "STAR" .debit]
              "400000").globalNetworkCount = 1 ↔
            (cardsOfBin [sampleRow "VISA" .debit, sampleRow "STAR" .debit]
              "400000").filterCards.globalNetworkCount = 1)) :=
  exactLookup_iff (by simp [sampleRow_complete]) isBin_sample

/-- A padded BIN that is no number of 64 bits fails, and a credit card of the global network
hides the debit cards of a BIN. -/
theorem exactLookup_counterexample :
    ¬ExactLookup ([] : List (CoBadgedCardInfo String)) "922338" ∧
      ¬ExactLookup [sampleRow "VISA" .credit, sampleRow "VISA" .debit, sampleRow "STAR" .debit]
        "400000" := by
  constructor
  · rintro ⟨-, nothing⟩
    have large : IsBin "922338" := ⟨List.all_eq_true.mp (by decide), by decide, by decide⟩
    have returned := nothing (by decide)
    rw [getCoBadgedCardsInfo_of_bin large, if_neg (by decide)] at returned
    cases returned
  · rintro ⟨response, -⟩
    obtain ⟨response, returned, -⟩ := response (by decide)
    rw [getCoBadgedCardsInfo_of_bin isBin_sample, if_pos (by decide),
      getCoBadgedCardsResponse_eq, if_neg (by decide)] at returned
    cases returned

end DecisionEngine.Debit
