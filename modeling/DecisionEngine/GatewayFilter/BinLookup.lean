import DecisionEngine.GatewayFilter.Accounts
import DecisionEngine.Number.Decimal
import DecisionEngine.Redis.StringLayer

/-!
# Lookups of issuer numbers

The information of a card, and the card behind a token, are looked up by the leading digits of
its number.  Of the rows for the first six to nine digits the one with the largest number
counts: the numbers are compared as integers, and the largest is printed to find its row.
-/

namespace DecisionEngine.GatewayFilter

open Number Redis Scoring

/-! ## Issuer numbers -/

inductive Isin where
  | isin (d1 d2 d3 d4 d5 d6 : Char)
  | isin9 (d1 d2 d3 d4 d5 d6 d7 d8 d9 : Char)
  | isin8 (d1 d2 d3 d4 d5 d6 d7 d8 : Char)
  | isin7 (d1 d2 d3 d4 d5 d6 d7 : Char)
  | isinWithSpaceAfter4 (d1 d2 d3 d4 d5 : Char)

def Isin.toText : Isin → String
  | .isin d1 d2 d3 d4 d5 d6 => String.ofList [d1, d2, d3, d4, d5, d6]
  | .isin9 d1 d2 d3 d4 d5 d6 d7 d8 d9 => String.ofList [d1, d2, d3, d4, d5, d6, d7, d8, d9]
  | .isin8 d1 d2 d3 d4 d5 d6 d7 d8 => String.ofList [d1, d2, d3, d4, d5, d6, d7, d8]
  | .isin7 d1 d2 d3 d4 d5 d6 d7 => String.ofList [d1, d2, d3, d4, d5, d6, d7]
  | .isinWithSpaceAfter4 d1 d2 d3 d4 d5 => String.ofList [d1, d2, d3, d4, ' ', d5]

/-- Characters that are not digits are left out. -/
def toIsin (text : String) : Except String Isin :=
  match text.toList.filter Char.isDigit with
  | [d1, d2, d3, d4, d5, d6] => .ok (.isin d1 d2 d3 d4 d5 d6)
  | [d1, d2, d3, d4, d5, d6, d7] => .ok (.isin7 d1 d2 d3 d4 d5 d6 d7)
  | [d1, d2, d3, d4, d5, d6, d7, d8] => .ok (.isin8 d1 d2 d3 d4 d5 d6 d7 d8)
  | [d1, d2, d3, d4, d5, d6, d7, d8, d9] => .ok (.isin9 d1 d2 d3 d4 d5 d6 d7 d8 d9)
  | _ => .error "Invalid ISIN format"

theorem toText_of_toIsin {text : String} {isin : Isin} (parsed : toIsin text = .ok isin) :
    isin.toText = String.ofList (text.toList.filter Char.isDigit) := by
  unfold toIsin at parsed
  split at parsed <;> cases parsed <;> simp only [Isin.toText, *]

theorem exists_toIsin {text : String} (numeral : IsNumeral text.toList)
    (long : 6 ≤ text.toList.length) (short : text.toList.length ≤ 9) :
    ∃ isin, toIsin text = .ok isin := by
  unfold toIsin
  rw [List.filter_eq_self.mpr numeral]
  generalize text.toList = chars at long short
  match chars with
  | [] | [_] | [_, _] | [_, _, _] | [_, _, _, _] | [_, _, _, _, _] => simp at long
  | [_, _, _, _, _, _] | [_, _, _, _, _, _, _] | [_, _, _, _, _, _, _, _]
  | [_, _, _, _, _, _, _, _, _] => exact ⟨_, rfl⟩
  | _ :: _ :: _ :: _ :: _ :: _ :: _ :: _ :: _ :: _ :: rest =>
      simp only [List.length_cons] at short
      omega

/-! ## Tables -/

structure DBCardInfo where
  cardIsin : String
  cardSwitchProvider : String
  cardType : Option String
  cardSubType : Option String
  cardSubTypeCategory : Option String
  cardIssuerCountry : Option String
  countryCode : Option String
  extendedCardType : Option String

structure CardInfo where
  cardIsin : Isin
  cardSwitchProvider : String
  cardType : Option CardType
  cardSubType : Option String
  cardSubTypeCategory : Option String
  cardIssuerCountry : Option String
  countryCode : Option String
  extendedCardType : Option String

structure TokenBinInfo where
  tokenBin : String
  cardBin : String
  provider : String

def toCardType : String → Except String CardType
  | "AADHAAR" => .ok .aadhaar
  | "ATM_CARD" => .ok .atmCard
  | "CASH" => .ok .cash
  | "CREDIT" => .ok .credit
  | "DEBIT" => .ok .debit
  | "NB" => .ok .nb
  | "PAYLATER" => .ok .paylater
  | "PREPAID" => .ok .prepaid
  | "REWARD" => .ok .reward
  | "UPI" => .ok .upi
  | "WALLET" => .ok .wallet
  | "VIRTUAL_ACCOUNT" => .ok .virtualAccount
  | "OTC" => .ok .otc
  | "RTP" => .ok .rtp
  | "CRYPTO" => .ok .crypto
  | "BLANK" => .ok .blank
  | "PAN" => .ok .pan
  | _ => .error "Invalid Card Type"

/-- An absent type is not parsed. -/
def cardTypeOf : Option String → Except String (Option CardType)
  | none => .ok none
  | some text => (toCardType text).map some

def CardInfo.tryFrom (value : DBCardInfo) : Except String CardInfo := do
  let cardIsin ← toIsin value.cardIsin
  let cardType ← cardTypeOf value.cardType
  return {
    cardIsin
    cardSwitchProvider := value.cardSwitchProvider
    cardType
    cardSubType := value.cardSubType
    cardSubTypeCategory := value.cardSubTypeCategory
    cardIssuerCountry := value.cardIssuerCountry
    countryCode := value.countryCode
    extendedCardType := value.extendedCardType }

/-- The rows that do not parse are left out. -/
def getAllCardInfoByIsins (cardInfos : Rows DBCardInfo) (isinList : List Isin) : List CardInfo :=
  let isins := isinList.map Isin.toText
  (cardInfos.findAll fun row => isins.contains row.cardIsin).filterMap fun row =>
    (CardInfo.tryFrom row).toOption

def getAllTokenBinInfoByTokenBins (tokenBinInfos : Rows TokenBinInfo) (tokenBins : List String) :
    List TokenBinInfo :=
  tokenBinInfos.findAll fun row => tokenBins.contains row.tokenBin

/-! ## Lookups -/

def stringToIntDefaultZero (text : String) : Int :=
  (parseI32 text).getD 0

/-- The print of the largest number. -/
def printOfMax (default : String) (texts : List String) : String :=
  ((texts.map stringToIntDefaultZero).max?.map toString).getD default

def getExtendedTokenBinInfo (tokenBinInfos : Rows TokenBinInfo) (tokenBin : String) :
    Option TokenBinInfo :=
  let tokenBinList := [6, 7, 8, 9].map fun len => String.ofList (tokenBin.toList.take len)
  let infos := getAllTokenBinInfoByTokenBins tokenBinInfos tokenBinList
  infos.find? fun info => info.tokenBin == printOfMax "" (infos.map (·.tokenBin))

/-- The issuer numbers that a card number is looked up by. -/
def isinsOf (bin : String) : List Isin :=
  if 6 < bin.utf8ByteSize then
    ([6, 7, 8, 9].filter (· ≤ bin.utf8ByteSize)).filterMap fun len =>
      (toIsin (String.ofList (bin.toList.take len))).toOption
  else (toIsin bin).toOption.toList

def getCardInfoByBin (cardInfos : Rows DBCardInfo) (cardBin : Option String) : Option CardInfo :=
  match getTrueString cardBin with
  | none => none
  | some bin =>
      let infos := getAllCardInfoByIsins cardInfos (isinsOf bin)
      infos.find? fun info =>
        info.cardIsin.toText == printOfMax "0" (infos.map (·.cardIsin.toText))

end DecisionEngine.GatewayFilter
