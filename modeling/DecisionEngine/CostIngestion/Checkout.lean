import DecisionEngine.CostIngestion.RecordSources
import DecisionEngine.Map.Grouped

/-!
# Reports with several lines for each payment

A payment in a report of Checkout.com has a line for each capture and each fee.  The parser adds
the lines of a payment up, and leaves out payments without a capture and those whose interchange
has not been billed yet.
-/

namespace DecisionEngine.CostIngestion

open Database Map Text

namespace Checkout

variable [CellText] [LetterCase]

def columns : List Column :=
  [.require "Payment ID", .require "Action Type", .require "Breakdown Type",
    .require "Holding Currency", .require "Holding Currency Amount", .require "Payment Method",
    .require "Card Type", .index "Card Category", .require "Issuer Country",
    .require "Processed On"]

/-! ## Lines -/

def skippedActions : List String := ["refund", "partial refund", "void"]

inductive Breakdown where
  | capture
  | interchange
  | scheme
  | commission
  deriving DecidableEq

/-- What a line adds to; every other fee is the processor's. -/
def breakdownOf (breakdown : String) : Breakdown :=
  if breakdown = "capture" ∨ breakdown = "partial capture" then .capture
  else if "interchange".toList.isPrefixOf breakdown.toList then .interchange
  else if "scheme ".toList.isPrefixOf breakdown.toList then .scheme
  else .commission

section Line

variable (headers : Headers) (record : ByteRecord)

def action : String :=
  LetterCase.toLowercase (trim (headers.cell record "Action Type"))

def paymentId : String :=
  trim (headers.cell record "Payment ID")

def breakdown : Breakdown :=
  breakdownOf (LetterCase.toLowercase (trim (headers.cell record "Breakdown Type")))

def amount : ℚ :=
  toFloat (headers.cell record "Holding Currency Amount")

def network : String :=
  canonicalNetwork (headers.cell record "Payment Method")

/-- The line is of a payment, and not of a refund. -/
def isKept : Bool :=
  action headers record ∉ skippedActions ∧ paymentId headers record ≠ ""

end Line

/-- A category with a capital letter. -/
def normalizeCardCategory (raw : String) : String :=
  match (LetterCase.toLowercase (trim raw)).toList with
  | [] => ""
  | first :: rest => LetterCase.toUppercase (String.singleton first) ++ String.ofList rest

def parseDate (text : String) : Option Int :=
  let s := trim text
  if s = "" then none
  else (CellText.dateTime "%Y-%m-%dT%H:%M:%S%.f" s).or (CellText.date "%Y-%m-%d" s)

/-! ## Payments -/

/-- What has been added up for a payment, with what its last capture says of it. -/
structure PaymentAcc where
  txnRef : String := ""
  cardNetwork : String := ""
  funding : String := ""
  variant : String := ""
  issuerCountry : String := ""
  currency : String := ""
  txnDate : Option Int := none
  icCategory : String := ""
  gross : ℚ := 0
  interchange : ℚ := 0
  schemeFee : ℚ := 0
  commission : ℚ := 0
  hasCapture : Bool := false

/-- Fees are negative in the report. -/
def addLine (headers : Headers) (entry : PaymentAcc) (record : ByteRecord) : PaymentAcc :=
  let cell := headers.cell record
  match breakdown headers record with
  | .capture =>
      let funding := fundingFromCardType (cell "Card Type")
      { entry with
        gross := entry.gross + amount headers record
        hasCapture := true
        txnRef := paymentId headers record
        variant := network headers record ++ funding
        cardNetwork := network headers record
        funding
        issuerCountry := trim (cell "Issuer Country")
        currency := trim (cell "Holding Currency")
        icCategory := normalizeCardCategory (cell "Card Category")
        txnDate := parseDate (cell "Processed On") }
  | .interchange => { entry with interchange := entry.interchange + -amount headers record }
  | .scheme => { entry with schemeFee := entry.schemeFee + -amount headers record }
  | .commission => { entry with commission := entry.commission + -amount headers record }

def addRecord (headers : Headers) (acc : HashMap String PaymentAcc) (record : ByteRecord) :
    HashMap String PaymentAcc :=
  if action headers record ∈ skippedActions then acc
  else if paymentId headers record = "" then acc
  else
    let entry := (acc.lookup (paymentId headers record)).getD {}
    acc.insert (paymentId headers record) (addLine headers entry record)

/-- A payment without a capture has no row. -/
def PaymentAcc.intoRow (payment : PaymentAcc) : Option ParsedRow :=
  if payment.hasCapture then
    some
      { txnRef := payment.txnRef
        cardNetwork := payment.cardNetwork
        variant := payment.variant
        funding := payment.funding
        issuerCountry := payment.issuerCountry
        currency := payment.currency
        icCategory := payment.icCategory
        icBps := ""
        txnDate := payment.txnDate
        channel := "ecom"
        gross := payment.gross
        totalFee := payment.interchange + payment.schemeFee + payment.commission
        interchange := payment.interchange
        schemeFee := payment.schemeFee
        markup := 0
        commission := payment.commission
        bin := "" }
  else none

/-- The networks on which some captured payment has interchange. -/
def interchangeNetworks (payments : List PaymentAcc) : List String :=
  (payments.filter fun payment =>
    payment.hasCapture ∧ 0 < payment.interchange ∧ payment.cardNetwork ≠ "").map
      PaymentAcc.cardNetwork

/-- The interchange of a captured payment on such a network is still to come. -/
def PaymentAcc.isIncomplete (networks : List String) (payment : PaymentAcc) : Bool :=
  payment.hasCapture ∧ payment.interchange ≤ 0 ∧ payment.cardNetwork ∈ networks

def flush (payments : List PaymentAcc) : List ParsedRow :=
  let networks := interchangeNetworks payments
  payments.filterMap fun payment =>
    if payment.isIncomplete networks then none else payment.intoRow

def accumulated (headers : Headers) (records : List ByteRecord) : HashMap String PaymentAcc :=
  records.foldl (addRecord headers) ∅

/-- The rows are handed on in the order in which the map is read. -/
def source (order : IterationOrder String PaymentAcc) : ReportParser where
  connector := "checkout"
  columns := columns
  groupsRows := true
  unwrapEnvelope := id
  parse headers records :=
    (flush ((order.entries (accumulated headers records)).map Prod.snd), .ok ())

end Checkout

end DecisionEngine.CostIngestion
