import DecisionEngine.CostIngestion.CsvReader
import DecisionEngine.CostIngestion.EnvelopeReader

/-!
# Reports with one row for each transaction

The parsers of Adyen, Braintree, Chase and Stripe map each record to a row or skip it.  Their
rows differ in where the parts of the fee are found and in whether the amount is net of them.
-/

namespace DecisionEngine.CostIngestion

open Redis Text

variable [CsvFormat] [CellText] [LetterCase]

/-! ## Shared readings -/

/-- The lowercase name of a card network. -/
def canonicalNetwork (raw : String) : String :=
  match LetterCase.toLowercase (trim raw) with
  | "" => ""
  | "mastercard" | "master card" => "mc"
  | "visa" => "visa"
  | "american express" | "amex" => "amex"
  | "discover" => "discover"
  | "diners" | "diners club" => "diners"
  | "jcb" => "jcb"
  | other => String.ofList (other.toList.filter fun char => char ≠ ' ')

/-- Debit or credit, or else unknown. -/
def fundingFromCardType (cardType : String) : String :=
  match LetterCase.toLowercase (trim cardType) with
  | "debit" => "debit"
  | "credit" => "credit"
  | _ => ""

/-- The date of a cell in the order month, day, year; the year has two digits or four. -/
def parseSlashDate (text : String) : Option Int :=
  let s := trim text
  if s = "" then none
  else
    match ((split '/' s).getLast?).map fun year => (encodeUtf8 year).length with
    | some 4 => CellText.date "%m/%d/%Y" s
    | some 2 => CellText.date "%m/%d/%y" s
    | _ => none

/-- A terminal marks a payment in person. -/
def terminalChannel (terminal : Option String) : String :=
  match terminal with
  | some id => if trim id ≠ "" then "pos" else "ecom"
  | none => "ecom"

/-- The parser that maps each record on its own. -/
def recordSource (connector : String) (columns : List Column)
    (unwrapEnvelope : List UInt8 → List UInt8)
    (mapRow : Headers → ByteRecord → Except IngestError (Option ParsedRow)) : ReportParser where
  connector
  columns
  groupsRows := false
  unwrapEnvelope
  parse headers records := parseRecords (mapRow headers) records

/-! ## Adyen -/

namespace Adyen

def columns : List Column :=
  [.require "Record Type", .require "Psp Reference", .require "Payment Method Variant",
    .require "Global Card Brand", .require "Issuer Country", .require "Settlement Currency",
    .require "Payable (SC)", .require "Commission (SC)", .require "Markup (SC)",
    .require "Scheme Fees (SC)", .require "Interchange (SC)", .require "ICSF details",
    .index "Booking Date", .index "Unique Terminal ID", .index "Card Number"]

def feeRecordTypes : List String := ["Settled"]

/-- The interchange item of the fee details. -/
def icItem (raw : String) : Option Json.Value :=
  if raw = "" then none
  else
    ((CellText.json raw).bind Json.Value.asArray).bind fun items =>
      items.find? fun item => (item.get "t").bind Json.Value.asString = some "ic"

def icCategory (raw : String) : String :=
  trim (((icItem raw).bind fun item => (item.get "n").bind Json.Value.asString).getD "")

/-- A number of a JSON value. -/
def asF64 : Json.Value → Option ℚ
  | .int value => some value
  | .float value => some value
  | .null | .bool _ | .string _ | .array _ | .object _ => none

def icBps (raw : String) : Option ℚ :=
  (icItem raw).bind fun item => (item.get "bps").bind asF64

/-- The leading digits of a card number, at most eight. -/
def binFromPan (pan : String) : String :=
  String.ofList (((trim pan).toList.takeWhile Char.isDigit).take 8)

/-- The date that the first ten bytes are. -/
def parseBookingDate (text : String) : Option Int :=
  let bytes := encodeUtf8 (trim text)
  if bytes.length < 10 then none
  else (decodeUtf8 (bytes.take 10)).bind (CellText.date "%Y-%m-%d")

/-- The payable amount is net of the fees. -/
def mapRow (headers : Headers) (record : ByteRecord) : Except IngestError (Option ParsedRow) :=
  let cell := headers.cell record
  if cell "Record Type" ∉ feeRecordTypes then .ok none
  else
    let commission := toFloat (cell "Commission (SC)")
    let markup := toFloat (cell "Markup (SC)")
    let schemeFee := toFloat (cell "Scheme Fees (SC)")
    let interchange := toFloat (cell "Interchange (SC)")
    let totalFee := commission + markup + schemeFee + interchange
    let variant := LetterCase.toLowercase (cell "Payment Method Variant")
    let interchangeBps := icBps (cell "ICSF details")
    .ok (some
      { txnRef := cell "Psp Reference"
        cardNetwork := LetterCase.toLowercase (cell "Global Card Brand")
        variant
        funding := resolveFunding variant interchangeBps
        issuerCountry := cell "Issuer Country"
        currency := cell "Settlement Currency"
        icCategory := icCategory (cell "ICSF details")
        icBps := icBpsKey interchangeBps
        txnDate := (headers.position "Booking Date").bind fun i => parseBookingDate (record.get i)
        channel := terminalChannel ((headers.position "Unique Terminal ID").map record.get)
        gross := toFloat (cell "Payable (SC)") + totalFee
        totalFee
        interchange
        schemeFee
        markup
        commission
        bin := ((headers.position "Card Number").map fun i => binFromPan (record.get i)).getD "" })

def source : ReportParser :=
  recordSource "adyen" columns id mapRow

end Adyen

/-! ## Braintree -/

namespace Braintree

def columns : List Column :=
  [.require "Transaction ID", .require "Transaction Type", .require "Settlement Currency",
    .require "Settlement Amount", .require "Card Brand", .require "Card Type",
    .require "Payment Instrument", .require "Interchange Total Amount",
    .require "Braintree Total Amount", .index "Total Scheme Fees",
    .index "Interchange Description", .index "Card Issuing Country", .index "Settlement Date",
    .index "Payment Network"]

def feeTransactionTypes : List String := ["sale"]

def withoutUnderscores (text : String) : String :=
  String.ofList (text.toList.filter fun char => char ≠ '_')

def buildVariant (instrument network funding : String) : String :=
  let inst := LetterCase.toLowercase (trim instrument)
  if contains inst "card" then
    if network ++ funding = "" then withoutUnderscores inst else network ++ funding
  else withoutUnderscores inst

/-- The brand, or else the debit network, or else the instrument. -/
def cardNetwork (brand network instrument : String) : String :=
  if canonicalNetwork brand ≠ "" then canonicalNetwork brand
  else if canonicalNetwork network ≠ "" then canonicalNetwork network
  else LetterCase.toLowercase (trim instrument)

/-- The settled amount is gross. -/
def mapRow (headers : Headers) (record : ByteRecord) : Except IngestError (Option ParsedRow) :=
  let cell := headers.cell record
  if LetterCase.toLowercase (trim (cell "Transaction Type")) ∉ feeTransactionTypes then .ok none
  else
    let interchange := toFloat (cell "Interchange Total Amount")
    let schemeFee := toFloat (cell "Total Scheme Fees")
    let commission := toFloat (cell "Braintree Total Amount")
    let markup := 0
    let network := cardNetwork (cell "Card Brand") (cell "Payment Network")
      (cell "Payment Instrument")
    let funding := fundingFromCardType (cell "Card Type")
    .ok (some
      { txnRef := cell "Transaction ID"
        cardNetwork := network
        variant := buildVariant (cell "Payment Instrument") network funding
        funding
        issuerCountry := trim (cell "Card Issuing Country")
        currency := trim (cell "Settlement Currency")
        icCategory := trim (cell "Interchange Description")
        icBps := ""
        txnDate := (headers.position "Settlement Date").bind fun i => parseSlashDate (record.get i)
        channel := "ecom"
        gross := toFloat (cell "Settlement Amount")
        totalFee := interchange + schemeFee + markup + commission
        interchange
        schemeFee
        markup
        commission
        bin := "" })

def source : ReportParser :=
  recordSource "braintree" columns id mapRow

end Braintree

/-! ## Chase -/

namespace Chase

def columns : List Column :=
  [.require "Merchant Order Number", .require "Action Type Code Text",
    .require "Payment Method Code", .require "Card Usage Type", .require "Country of Issuance",
    .require "Settlement Currency Code", .require "Interchange Qualification Code",
    .require "Transaction Amount in Presentment Currency", .require "Total Interchange Amount",
    .require "Total Assessment Amount", .index "Other Debit Passthrough Fees",
    .index "Digital Wallet Brand", .index "Submission Date", .index "Terminal Identifier"]

def saleAction : String := "SALE"

def normalizeNetwork (code : String) : String :=
  match LetterCase.toUppercase (trim code) with
  | "" => ""
  | "VI" => "visa"
  | "MC" => "mc"
  | "AX" => "amex"
  | "DI" => "discover"
  | "JC" => "jcb"
  | "DC" => "diners"
  | other => LetterCase.toLowercase other

def fundingFromUsageType (code : String) : String :=
  match trim code with
  | "1" | "2" => "debit"
  | "3" => "credit"
  | _ => ""

def creditPrograms : List String :=
  ["V148", "V105", "VBL2", "VPDM", "V987", "VINT", "V5FI", "MCRW", "MX29", "MM1", "MIP", "MIC",
    "MHB2", "MHB4", "AXSP", "DIRW", "D460", "D361", "DDEM", "DCEC", "DCED", "DPEC"]

def debitPrograms : List String :=
  ["VSDD", "VCEB", "V2DB", "MDIN"]

/-- The funding of a known interchange program. -/
def fundingFromIcCode (ic : String) : Option String :=
  if LetterCase.toUppercase (trim ic) ∈ creditPrograms then some "credit"
  else if LetterCase.toUppercase (trim ic) ∈ debitPrograms then some "debit"
  else none

def reconcileFunding (usageCode ic : String) : String :=
  (fundingFromIcCode ic).getD (fundingFromUsageType usageCode)

def buildVariant (network funding wallet : String) : String :=
  let w := LetterCase.toLowercase (trim wallet)
  if contains w "apple" then network ++ "_applepay"
  else if contains w "google" then network ++ "_googlepay"
  else if network ++ funding = "" then network
  else network ++ funding

/-- Fees are negative in the report. -/
def mapRow (headers : Headers) (record : ByteRecord) : Except IngestError (Option ParsedRow) :=
  let cell := headers.cell record
  if toAsciiLowercase (trim (cell "Action Type Code Text")) ≠ toAsciiLowercase saleAction then
    .ok none
  else
    let interchange := -toFloat (cell "Total Interchange Amount")
    let schemeFee := -toFloat (cell "Total Assessment Amount")
    let markup := -toFloat (cell "Other Debit Passthrough Fees")
    let commission := 0
    let network := normalizeNetwork (cell "Payment Method Code")
    let funding := reconcileFunding (cell "Card Usage Type") (cell "Interchange Qualification Code")
    .ok (some
      { txnRef := trim (cell "Merchant Order Number")
        cardNetwork := network
        variant := buildVariant network funding (cell "Digital Wallet Brand")
        funding
        issuerCountry := trim (cell "Country of Issuance")
        currency := trim (cell "Settlement Currency Code")
        icCategory := trim (cell "Interchange Qualification Code")
        icBps := ""
        txnDate := (headers.position "Submission Date").bind fun i => parseSlashDate (record.get i)
        channel := terminalChannel ((headers.position "Terminal Identifier").map record.get)
        gross := toFloat (cell "Transaction Amount in Presentment Currency")
        totalFee := interchange + schemeFee + markup + commission
        interchange
        schemeFee
        markup
        commission
        bin := "" })

/-- What the reader of the envelope delivers is read as the table. -/
def source : ReportParser :=
  recordSource "chase" columns EnvelopeReader.stripped mapRow

end Chase

/-! ## Stripe -/

namespace Stripe

def columns : List Column :=
  [.require "Card Brand", .require "Shopper Interaction", .require "Funding Source",
    .require "Payment Method Variant", .require "Gross Qty", .require "Cost Qty",
    .require "Refund Flag", .require "Gross Ccy", .index "Cost Ccy", .index "Month",
    .index "Fee Name", .index "Variable Fee", .index "Fixed Fee"]

def settleFlag : String := "settle"

def fundingFromSource (fundingSource : String) : String :=
  match LetterCase.toLowercase (trim fundingSource) with
  | "debit" => "debit"
  | "credit" => "credit"
  | "prepaid" => "prepaid"
  | _ => ""

def channelFromInteraction (interaction : String) : String :=
  let i := LetterCase.toLowercase (trim interaction)
  if contains i "pos" || contains i "cardpresent" || contains i "card present" then "pos"
  else "ecom"

/-- The first day of a month. -/
def parseMonth (text : String) : Option Int :=
  (splitOnce '/' (trim text)).bind fun (year, month) =>
    (parseI32 (trim year)).bind fun year =>
      ((parseUsize (trim month)).filter fun month => month < 2 ^ 32).bind fun month =>
        CellText.firstDay year month

def synthRef (parts : List String) : String :=
  "stripe|" ++ join (String.singleton (Char.ofNat 0x1f)) parts

/-- Records are texts here; each line of fees is a row. -/
def mapRow (headers : Headers) (record : ByteRecord) : Except IngestError (Option ParsedRow) :=
  if record.any fun field => (decodeUtf8 field).isNone then
    .error (.parse (CsvFormat.invalidText record))
  else
    let cell := headers.cell record
    if LetterCase.toLowercase (trim (cell "Refund Flag")) ≠ settleFlag then .ok none
    else
      let variant := LetterCase.toLowercase (trim (cell "Payment Method Variant"))
      let currency :=
        if trim (cell "Gross Ccy") = "" then trim (cell "Cost Ccy") else trim (cell "Gross Ccy")
      let month := trim (cell "Month")
      .ok (some
        { txnRef := synthRef
            [variant, trim (cell "Shopper Interaction"), trim (cell "Funding Source"),
              trim (cell "Fee Name"), trim (cell "Variable Fee"), trim (cell "Fixed Fee"),
              currency, month]
          cardNetwork := canonicalNetwork (cell "Card Brand")
          variant
          funding := fundingFromSource (cell "Funding Source")
          issuerCountry := ""
          currency
          icCategory := ""
          icBps := ""
          txnDate := parseMonth month
          channel := channelFromInteraction (cell "Shopper Interaction")
          gross := toFloat (cell "Gross Qty")
          totalFee := toFloat (cell "Cost Qty")
          interchange := 0
          schemeFee := 0
          markup := 0
          commission := 0
          bin := "" })

def source : ReportParser :=
  recordSource "stripe" columns id mapRow

end Stripe

end DecisionEngine.CostIngestion
