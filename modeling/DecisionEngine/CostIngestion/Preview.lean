import DecisionEngine.CostIngestion.Checkout

/-!
# Previews of reports

Before a column mapping is stored, the merchant is shown what it makes of the first rows of a
report.  Only the head of the report is sent for this, and the last payment in it may lack fees.
-/

namespace DecisionEngine.CostIngestion

open Map Search Text

variable [CsvFormat] [CellText] [LetterCase]

/-! ## Connectors -/

def builtins (order : IterationOrder String Checkout.PaymentAcc) : List ReportParser :=
  [Adyen.source, Braintree.source, Chase.source, Checkout.source order, Stripe.source]

abbrev ConnectorRegistry := HashMap String ReportParser

namespace ConnectorRegistry

def withBuiltins (order : IterationOrder String Checkout.PaymentAcc) : ConnectorRegistry :=
  collect ((builtins order).map fun source => (source.connector, source))

def get (registry : ConnectorRegistry) (connector : String) : Except IngestError ReportParser :=
  match registry.lookup connector with
  | some source => .ok source
  | none => .error (.unknownConnector connector)

/-- Each connector is registered under its own name. -/
theorem get_withBuiltins_eq_ok_iff {order : IterationOrder String Checkout.PaymentAcc}
    {connector : String} {source : ReportParser} :
    (withBuiltins order).get connector = .ok source ↔
      source ∈ builtins order ∧ source.connector = connector := by
  have distinct : (((builtins order).map fun source => (source.connector, source)).map
      Prod.fst).Nodup := by
    change ["adyen", "braintree", "chase", "checkout", "stripe"].Nodup
    decide
  have isRegistered : (withBuiltins order).lookup connector = some source ↔
      source ∈ builtins order ∧ source.connector = connector := by
    rw [withBuiltins, lookup_collect distinct, List.mem_map]
    constructor
    · rintro ⟨other, listed, same⟩
      cases same
      exact ⟨listed, rfl⟩
    · rintro ⟨listed, rfl⟩
      exact ⟨source, listed, rfl⟩
  rw [← isRegistered, get]
  cases (withBuiltins order).lookup connector with
  | none => simp
  | some other => simp

end ConnectorRegistry

/-! ## Rows -/

def previewRows : ℕ := 10

/-- The text of the error with which a preview stops the parser. -/
def stop : String := "__preview_row_limit__"

/-- The distance from one to the next machine number. -/
def epsilon : ℚ := 1 / 2 ^ 52

/-- No row is taken after the tenth, which ends the parsing. -/
def stopped (parsing : Parsing) : Parsing :=
  if previewRows ≤ parsing.1.length then
    (parsing.1.take previewRows, .error (.parse stop))
  else parsing

/-- The rows to be shown.  Of a truncated report with payments of several lines, those without a
fee are left out. -/
def keptRows (source : ReportParser) (sample : List UInt8) (mapping : ColumnMapping)
    (truncated : Bool) : Except IngestError (List ParsedRow) :=
  let dropIncomplete := truncated && source.groupsRows
  let (rows, outcome) := stopped (source.parseRows sample mapping)
  let kept := if dropIncomplete then rows.filter fun row => epsilon < |row.totalFee| else rows
  match outcome with
  | .ok () => .ok kept
  | .error error => if error = .parse stop then .ok kept else .error error

end DecisionEngine.CostIngestion
