import DecisionEngine.CostIngestion.CsvReader
import Mathlib.Data.List.Infix

/-!
# Invoices

The lines of an invoice that the learned models do not price become an addition to every
transaction: the flat fees are spread over the transactions, the periodic fees and the credits
over the card volume.
-/

namespace DecisionEngine.CostIngestion

open Redis Text

/-- How a line takes part in the cost of a transaction. -/
inductive LineKind where
  | flatPerTxn
  | periodic
  | credit
  | alreadyModeled
  | volume
  deriving DecidableEq

/-- A line with its signed amount; the quantity is zero when it is not billed by the unit. -/
structure InvoiceLine where
  description : String
  kind : LineKind
  amount : ℚ
  quantity : ℕ
  currency : String
  deriving DecidableEq

structure InvoiceSummary where
  invoiceRef : String
  account : String
  cardVolume : Option ℚ
  txnCount : Option ℕ
  subtotalExTax : Option ℚ
  currency : String
  /-- The days of the billing period. -/
  periodStart : Option ℤ
  periodEnd : Option ℤ
  deriving DecidableEq

structure ParsedInvoice where
  summary : InvoiceSummary
  lines : List InvoiceLine
  deriving DecidableEq

structure CostAddon where
  pctAddonBps : ℚ
  fixedAddon : ℚ

/-- The settled volume, for an invoice that does not state its own. -/
structure VolumeFallback where
  cardVolume : ℚ
  txnCount : ℕ

def totalAmount (lines : List InvoiceLine) : ℚ :=
  (lines.map (·.amount)).sum

namespace ParsedInvoice

def sumKind (invoice : ParsedInvoice) (kind : LineKind) : ℚ :=
  totalAmount (invoice.lines.filter fun line => line.kind = kind)

/-- The transactions that the flat fees are spread over. -/
def txnCount (invoice : ParsedInvoice) (fallback : VolumeFallback) : ℕ :=
  invoice.summary.txnCount.getD fallback.txnCount

/-- The volume that the periodic fees are spread over. -/
def cardVolume (invoice : ParsedInvoice) (fallback : VolumeFallback) : ℚ :=
  (invoice.summary.cardVolume.filter fun volume => 0 < volume).getD fallback.cardVolume

/-- A missing denominator leaves its term out. -/
def reduceToAddon (invoice : ParsedInvoice) (fallback : VolumeFallback) : CostAddon :=
  let flatTotal := invoice.sumKind .flatPerTxn
  let periodicTotal := invoice.sumKind .periodic
  let creditTotal := invoice.sumKind .credit
  let txnCount := invoice.txnCount fallback
  let cardVolume := invoice.cardVolume fallback
  { pctAddonBps :=
      if 0 < cardVolume then (periodicTotal + creditTotal) / cardVolume * 10000 else 0
    fixedAddon := if 0 < txnCount then flatTotal / txnCount else 0 }

end ParsedInvoice

/-! ## Summaries -/

/-- What a parser derives from the lines: every line but the volumes is part of the subtotal. -/
def summaryOf (currency : String) (lines : List InvoiceLine) : InvoiceSummary :=
  let subtotalExTax := totalAmount (lines.filter fun line => line.kind ≠ .volume)
  let cardVolume := totalAmount (lines.filter fun line => line.kind = .volume)
  let txnCount :=
    ((lines.filter fun line => line.kind = .flatPerTxn).map (·.quantity)).max?.getD 0
  { invoiceRef := ""
    account := ""
    cardVolume := if 0 < cardVolume then some cardVolume else none
    txnCount := if 0 < txnCount then some txnCount else none
    subtotalExTax := some subtotalExTax
    currency
    periodStart := none
    periodEnd := none }

/-! ## Conservation -/

@[simp]
theorem totalAmount_nil : totalAmount [] = 0 :=
  rfl

@[simp]
theorem totalAmount_cons (line : InvoiceLine) (rest : List InvoiceLine) :
    totalAmount (line :: rest) = line.amount + totalAmount rest :=
  List.sum_cons

/-- Each line but the volumes is in the total of one kind. -/
theorem sum_of_kinds (lines : List InvoiceLine) :
    totalAmount (lines.filter fun line => line.kind = .flatPerTxn) +
        (totalAmount (lines.filter fun line => line.kind = .periodic) +
          totalAmount (lines.filter fun line => line.kind = .credit)) +
        totalAmount (lines.filter fun line => line.kind = .alreadyModeled) =
      totalAmount (lines.filter fun line => line.kind ≠ .volume) := by
  induction lines with
  | nil => simp
  | cons line rest ih =>
      cases kind : line.kind <;>
        simp only [List.filter_cons, kind, decide_true, reduceCtorEq, decide_false, ne_eq,
          not_true_eq_false, not_false_eq_true, ↓reduceIte, Bool.false_eq_true,
          totalAmount_cons] <;> linarith

namespace ParsedInvoice

variable {invoice : ParsedInvoice} {fallback : VolumeFallback}

/-- The subtotal is what the lines but the volumes add up to. -/
def Balanced (invoice : ParsedInvoice) : Prop :=
  invoice.summary.subtotalExTax =
    some (totalAmount (invoice.lines.filter fun line => line.kind ≠ .volume))

/-- The additional cost of all transactions. -/
def recovered (invoice : ParsedInvoice) (fallback : VolumeFallback) : ℚ :=
  let addon := invoice.reduceToAddon fallback
  addon.fixedAddon * invoice.txnCount fallback +
    addon.pctAddonBps / 10000 * invoice.cardVolume fallback

theorem recovered_eq (someTxns : 0 < invoice.txnCount fallback)
    (someVolume : 0 < invoice.cardVolume fallback) :
    invoice.recovered fallback = invoice.sumKind .flatPerTxn +
      (invoice.sumKind .periodic + invoice.sumKind .credit) := by
  have txns : (invoice.txnCount fallback : ℚ) ≠ 0 := by
    exact_mod_cast someTxns.ne'
  have volume : invoice.cardVolume fallback ≠ 0 := someVolume.ne'
  rw [recovered, reduceToAddon, if_pos someTxns, if_pos someVolume]
  field_simp

theorem recovered_add_alreadyModeled (balanced : invoice.Balanced)
    (someTxns : 0 < invoice.txnCount fallback) (someVolume : 0 < invoice.cardVolume fallback) :
    invoice.summary.subtotalExTax =
      some (invoice.recovered fallback + invoice.sumKind .alreadyModeled) := by
  rw [balanced, recovered_eq someTxns someVolume, ← sum_of_kinds]
  rfl

end ParsedInvoice

theorem balanced_summaryOf (currency : String) (lines : List InvoiceLine) :
    (ParsedInvoice.mk (summaryOf currency lines) lines).Balanced :=
  rfl

/-! ## Invoices of Adyen

An invoice is a document or a table.  Both give lines, whose kinds are read off their
descriptions and their signs, and a summary that is derived from the lines.  Whatever the lines
are, nothing of the subtotal is lost: it is what is added to the transactions and what the
models price already.
-/

/-- How the text of a document is extracted, and how patterns are searched in a text. -/
class DocumentText where
  extractText : List UInt8 → Except String String
  /-- What is before the leftmost match of a pattern, and the groups of the match. -/
  captures : (pattern text : String) → Option (String × List String)

namespace AdyenInvoice

/-! ## Numbers -/

def replace (char : Char) (replacement : String) (text : String) : String :=
  join replacement (split char text)

/-- A money cell without its separators of thousands; what is not a number counts as nothing. -/
def toFloat [CellText] (text : String) : ℚ :=
  (CellText.number (replace ',' "" (trim text))).getD 0

def parseEuAmount [CellText] (text : String) : Option ℚ :=
  CellText.number (replace ',' "." (replace '.' "" (trim text)))

def parseEuInt (text : String) : Option ℕ :=
  parseUsize (replace '.' "" (trim text))

/-! ## Classification -/

def has (description needle : String) : Bool :=
  needle.toList <:+: description.toList

/-- The credits are recognised first, then what the models price already. -/
def classify (description : String) (amount : ℚ) : LineKind :=
  let has := has description
  if has "refund" || has "dcc" || has "dynamic currency conversion" || has "correction" ||
      has "rebate" || amount < 0 then .credit
  else if has "payment method fees" || has "interchange" || has "commission" || has "markup" ||
      has "acquiring" || has "authorisation scheme fee" then .alreadyModeled
  else if has "non-transactional" || has "non transactional" then .periodic
  else if has "scheme fee" then .alreadyModeled
  else if has "processing fee" || has "transaction fee" || has "revenue protect" ||
      has "revenueprotect" || has "risk fee" then .flatPerTxn
  else if has "turnover" || has "volume" || has "sales" then .volume
  else .periodic

/-! ## Tables -/

/-- The columns by their labels. -/
structure Cols where
  description : ℕ
  amount : ℕ
  quantity : Option ℕ
  currency : Option ℕ

def lowercaseByte (byte : UInt8) : UInt8 :=
  if 65 ≤ byte ∧ byte ≤ 90 then byte + 32 else byte

/-- The column with a label, up to the case of the letters of ASCII. -/
def idx (header : ByteRecord) (name : String) : Option ℕ :=
  header.findIdx? fun label => label.map lowercaseByte = (encodeUtf8 name).map lowercaseByte

def Cols.resolve (header : ByteRecord) : Except IngestError Cols :=
  match idx header "Description" <|> idx header "Type" with
  | none => .error (.parse "invoice missing Description/Type column")
  | some description =>
      match idx header "Amount" <|> idx header "Booked Amount" with
      | none => .error (.parse "invoice missing Amount column")
      | some amount =>
          .ok ⟨description, amount, idx header "Quantity", idx header "Currency"⟩

section Parsing

variable [CellText] [LetterCase]

/-- The lines of the records with a description, and the first currency. -/
def csvLines (cols : Cols) (currency : String) : List ByteRecord → List InvoiceLine × String
  | [] => ([], currency)
  | record :: rest =>
      let get := fun i => trim (record.get i)
      let description := LetterCase.toLowercase (get cols.description)
      if description = "" then csvLines cols currency rest
      else
        let amount := toFloat (get cols.amount)
        let quantity := (cols.quantity.map fun i => (parseUsize (get i)).getD 0).getD 0
        let lineCcy := (cols.currency.map fun i => LetterCase.toUppercase (get i)).filter (· ≠ "")
        let currency := if currency = "" then lineCcy.getD currency else currency
        let (lines, last) := csvLines cols currency rest
        (⟨description, classify description amount, amount, quantity,
          lineCcy.getD currency⟩ :: lines, last)

def parseCsv [CsvFormat] (bytes : List UInt8) : Except IngestError ParsedInvoice := do
  let records := CsvFormat.records bytes
  let cols ← Cols.resolve (records.headD [])
  let (lines, currency) := csvLines cols "" records.tail
  return ⟨summaryOf currency lines, lines⟩

/-! ## Documents -/

variable [DocumentText]

/-- A description, a currency and an amount at the end of a line. -/
def parseSummaryLine (line : String) : Option (String × String × ℚ) :=
  match DocumentText.captures
      "(?P<ccy>[A-Z]\x7b3\x7d)\\s+(?P<amt>-?[\\d.]+,\\d\x7b2\x7d)\\s*$" line with
  | some (before, [ccy, amt]) =>
      let desc := trim before
      if desc = "" then none
      else (parseEuAmount amt).map fun amount => (desc, ccy, amount)
  | _ => none

/-- The number of transactions and the turnover. -/
def transactionFeeDetail (text : String) : Option (ℕ × ℚ) :=
  match DocumentText.captures
      "([\\d.]+)\\s+Transaction fee\\s+[A-Z]\x7b3\x7d\\s+([\\d.]+,\\d\x7b2\x7d)" text with
  | some (_, [count, turnover]) => do
      let count ← parseEuInt count
      let turnover ← parseEuAmount turnover
      return (count, turnover)
  | _ => none

/-- What was read of the summary. -/
structure Scan where
  lines : List InvoiceLine
  currency : String
  inSummary : Bool
  subtotalsSeen : ℕ

def startsWith (text start : String) : Bool :=
  start.toList <+: text.toList

/-- Read the summary up to its second subtotal, or to what follows the costs. -/
def scanSummary (scan : Scan) : List String → Scan
  | [] => scan
  | raw :: rest =>
      let line := trim raw
      if line = "" then scanSummary scan rest
      else if startsWith (LetterCase.toLowercase line) "summary (overview" then
        scanSummary { scan with inSummary := true } rest
      else if ¬ scan.inSummary then scanSummary scan rest
      else
        match parseSummaryLine line with
        | none => scanSummary scan rest
        | some (desc, ccy, amount) =>
            let d := LetterCase.toLowercase desc
            if startsWith d "invoice subtotal" then
              let scan := { scan with subtotalsSeen := scan.subtotalsSeen + 1 }
              if 2 ≤ scan.subtotalsSeen then scan else scanSummary scan rest
            else if startsWith d "invoiced on merchant" || startsWith d "invoice total" ||
                startsWith d "vat " || startsWith d "amount due" then scan
            else
              scanSummary
                { scan with
                  currency := if scan.currency = "" then ccy else scan.currency
                  lines := scan.lines ++ [⟨d, classify d amount, amount, 0, ccy⟩] } rest

/-- The first flat fee for the processing is billed by the transaction. -/
def setQuantity (count : ℕ) : List InvoiceLine → List InvoiceLine
  | [] => []
  | line :: rest =>
      if line.kind = .flatPerTxn ∧ has line.description "processing" then
        { line with quantity := count } :: rest
      else line :: setQuantity count rest

/-- The lines with the number of transactions and the turnover of the detail. -/
def enrich (lines : List InvoiceLine) (currency : String) : Option (ℕ × ℚ) → List InvoiceLine
  | none => lines
  | some (count, turnover) =>
      let lines := if 0 < count then setQuantity count lines else lines
      if 0 < turnover then lines ++ [⟨"turnover", .volume, turnover, 0, currency⟩] else lines

def parseSummaryText (text : String) : Except IngestError ParsedInvoice :=
  let scan := scanSummary ⟨[], "", false, 0⟩ (split '\n' text)
  if scan.lines.isEmpty then
    .error (.parse "no invoice summary lines found (unrecognized PDF layout)")
  else
    let lines := enrich scan.lines scan.currency (transactionFeeDetail text)
    .ok ⟨summaryOf scan.currency lines, lines⟩

def parsePdf (bytes : List UInt8) : Except IngestError ParsedInvoice :=
  match DocumentText.extractText bytes with
  | .error e => .error (.parse ("pdf text extraction failed: " ++ e))
  | .ok text => parseSummaryText text

/-- A document is recognised by its first bytes. -/
def parseInvoice [CsvFormat] (bytes : List UInt8) : Except IngestError ParsedInvoice :=
  if encodeUtf8 "%PDF" <+: bytes then parsePdf bytes else parseCsv bytes

/-! ## Conservation -/

variable {bytes : List UInt8} {invoice : ParsedInvoice}

omit [DocumentText] in
theorem balanced_of_parseCsv [CsvFormat] (parsed : parseCsv bytes = .ok invoice) :
    invoice.Balanced := by
  simp only [parseCsv, bind, Except.bind] at parsed
  split at parsed
  · cases parsed
  · cases parsed
    exact balanced_summaryOf _ _

theorem balanced_of_parsePdf (parsed : parsePdf bytes = .ok invoice) : invoice.Balanced := by
  unfold parsePdf at parsed
  split at parsed
  · cases parsed
  · unfold parseSummaryText at parsed
    dsimp only at parsed
    split at parsed
    · cases parsed
    · cases parsed
      exact balanced_summaryOf _ _

/-- What is added to all transactions, and what the models price, is the subtotal. -/
theorem subtotal_conserved [CsvFormat] (bytes : List UInt8) (invoice : ParsedInvoice)
    (fallback : VolumeFallback) (parsed : parseInvoice bytes = .ok invoice)
    (someTxns : 0 < invoice.txnCount fallback) (someVolume : 0 < invoice.cardVolume fallback) :
    some ((invoice.reduceToAddon fallback).fixedAddon * invoice.txnCount fallback +
        (invoice.reduceToAddon fallback).pctAddonBps / 10000 * invoice.cardVolume fallback +
        invoice.sumKind .alreadyModeled) =
      invoice.summary.subtotalExTax := by
  have balanced : invoice.Balanced := by
    unfold parseInvoice at parsed
    split at parsed
    · exact balanced_of_parsePdf parsed
    · exact balanced_of_parseCsv parsed
  rw [ParsedInvoice.recovered_add_alreadyModeled balanced someTxns someVolume]
  rfl

end Parsing

/-! ## An invoice -/

local instance invoiceFormat : CsvFormat where
  records bytes := ((bytes.splitOn 10).filter (· ≠ [])).map (·.splitOn 44)
  replaceInvalid _ := "\uFFFD"
  invalidText _ := ""

local instance invoiceCells : CellText := .whole

local instance invoiceLetters : LetterCase := .ascii

local instance noDocument : DocumentText where
  extractText _ := .error "not a document"
  captures _ _ := none

/-- A flat fee, a fee that the models price, and a credit. -/
def threeLines : List UInt8 :=
  (["Type,Amount,Quantity\n", "Processing Fee,30,600\n", "Markup,100,\n",
    "Refund,-5,\n"].map fun line => line.toUTF8.data.toList).flatten

def threeLinesInvoice : ParsedInvoice :=
  let lines : List InvoiceLine :=
    [⟨"processing fee", .flatPerTxn, 30, 600, ""⟩, ⟨"markup", .alreadyModeled, 100, 0, ""⟩,
      ⟨"refund", .credit, -5, 0, ""⟩]
  ⟨summaryOf "" lines, lines⟩

theorem subtotal_conserved_threeLines :
    some ((threeLinesInvoice.reduceToAddon ⟨5000, 0⟩).fixedAddon * 600 +
        (threeLinesInvoice.reduceToAddon ⟨5000, 0⟩).pctAddonBps / 10000 * 5000 +
        threeLinesInvoice.sumKind .alreadyModeled) =
      threeLinesInvoice.summary.subtotalExTax := by
  have parsed : parseInvoice threeLines = .ok threeLinesInvoice := by
    decide +kernel
  exact subtotal_conserved threeLines threeLinesInvoice ⟨5000, 0⟩ parsed (by decide +kernel)
    (by decide +kernel)

end AdyenInvoice

end DecisionEngine.CostIngestion
