import DecisionEngine.CostIngestion.CheckoutTotals
import DecisionEngine.CostIngestion.Preview

/-!
# Previews of truncated reports

The rows of records that a sample shares with its report are rows of the report.  What the
records past them give, and what they leave out of a payment with several lines, decides whether
a preview of the sample shows only rows of the report.
-/

namespace DecisionEngine.CostIngestion

open Database Map DecisionEngine.Stream Text

/-! ## Common records -/

section Prefix

universe u

variable {α : Type u} [DecidableEq α]

/-- The longest common prefix. -/
def commonPrefix : List α → List α → List α
  | first :: rest, other :: others =>
      if first = other then first :: commonPrefix rest others else []
  | _, _ => []

theorem commonPrefix_isPrefix (left right : List α) :
    commonPrefix left right <+: left ∧ commonPrefix left right <+: right := by
  induction left generalizing right with
  | nil => exact ⟨List.nil_prefix, List.nil_prefix⟩
  | cons first rest ih =>
      cases right with
      | nil => exact ⟨List.nil_prefix, List.nil_prefix⟩
      | cons other others =>
          rw [commonPrefix]
          by_cases same : first = other
          · rw [if_pos same, same]
            have shorter := ih others
            exact ⟨List.prefix_cons_inj other |>.mpr shorter.1,
              List.prefix_cons_inj other |>.mpr shorter.2⟩
          · rw [if_neg same]
            exact ⟨List.nil_prefix, List.nil_prefix⟩

end Prefix

namespace ReportParser

variable [CsvFormat] (source : ReportParser) (sample report : List UInt8)

/-- The records that a sample shares with the report; none if it does not share the header. -/
def commonRecords : List ByteRecord :=
  if (CsvFormat.records (source.unwrapEnvelope sample)).headD [] =
      (CsvFormat.records (source.unwrapEnvelope report)).headD [] then
    commonPrefix (source.records sample) (source.records report)
  else []

/-- The records past the common ones: in the sample, the one that was cut. -/
def cutRecords : List ByteRecord :=
  (source.records sample).drop (source.commonRecords sample report).length

/-- The records of the report past the common ones. -/
def laterRecords : List ByteRecord :=
  (source.records report).drop (source.commonRecords sample report).length

/-- The header has the columns that the connector requires. -/
def HasColumns (mapping : ColumnMapping) : Prop :=
  let headers := source.headers sample mapping
  headers.finish (headers.prepare source.columns) = .ok ()

variable {source sample report} {mapping : ColumnMapping}

theorem commonRecords_isPrefix : source.commonRecords sample report <+: source.records sample ∧
    source.commonRecords sample report <+: source.records report := by
  rw [commonRecords]
  split
  · exact commonPrefix_isPrefix _ _
  · exact ⟨List.nil_prefix, List.nil_prefix⟩

variable (source sample report)

theorem records_sample : source.records sample =
    source.commonRecords sample report ++ source.cutRecords sample report := by
  exact (List.prefix_iff_eq_append.mp commonRecords_isPrefix.1).symm

theorem records_report : source.records report =
    source.commonRecords sample report ++ source.laterRecords sample report := by
  exact (List.prefix_iff_eq_append.mp commonRecords_isPrefix.2).symm

/-- Records are common only under one header. -/
theorem commonRecords_eq_nil_or (mapping : ColumnMapping) :
    source.commonRecords sample report = [] ∨
      source.headers sample mapping = source.headers report mapping := by
  rw [commonRecords, headers, headers]
  by_cases same : (CsvFormat.records (source.unwrapEnvelope sample)).headD [] =
      (CsvFormat.records (source.unwrapEnvelope report)).headD []
  · exact .inr (by rw [same])
  · exact .inl (if_neg same)

variable {source sample}

theorem parseRows_of_hasColumns (found : source.HasColumns sample mapping) :
    source.parseRows sample mapping =
      source.parse (source.headers sample mapping) (source.records sample) := by
  rw [HasColumns] at found
  rw [parseRows, found]

theorem parseRows_of_not_hasColumns (missing : ¬source.HasColumns sample mapping) :
    ∃ absent required optional found, source.parseRows sample mapping =
      ([], .error (.missingColumns absent required optional found)) := by
  rw [HasColumns, Headers.finish] at missing
  rw [parseRows, Headers.finish]
  by_cases none : ((source.headers sample mapping).prepare source.columns).missing.isEmpty
  · exact absurd (if_pos none) missing
  · rw [if_neg none]
    exact ⟨_, _, _, _, rfl⟩

end ReportParser

/-! ## Shown rows -/

/-- The parsing went through, or was stopped by the preview. -/
def IsAccepted (outcome : Except IngestError Unit) : Prop :=
  outcome = .ok () ∨ outcome = .error (.parse stop)

theorem stopped_fst (parsing : Parsing) : (stopped parsing).1 = parsing.1.take previewRows := by
  rw [stopped]
  by_cases enough : previewRows ≤ parsing.1.length
  · rw [if_pos enough]
  · rw [if_neg enough, List.take_of_length_le (Nat.le_of_not_le enough)]

theorem isAccepted_stopped {parsing : Parsing} : IsAccepted (stopped parsing).2 ↔
    previewRows ≤ parsing.1.length ∨ IsAccepted parsing.2 := by
  rw [stopped]
  by_cases enough : previewRows ≤ parsing.1.length
  · rw [if_pos enough]
    exact iff_of_true (.inr rfl) (.inl enough)
  · rw [if_neg enough, or_iff_right enough]

section Shown

variable [CsvFormat] {source : ReportParser} {sample report : List UInt8}
  {mapping : ColumnMapping}

theorem keptRows_eq_ok_iff {rows : List ParsedRow} :
    keptRows source sample mapping true = .ok rows ↔
      (previewRows ≤ (source.parseRows sample mapping).1.length ∨
        IsAccepted (source.parseRows sample mapping).2) ∧
      (if source.groupsRows then
        ((source.parseRows sample mapping).1.take previewRows).filter fun row =>
          epsilon < |row.totalFee|
      else (source.parseRows sample mapping).1.take previewRows) = rows := by
  rw [← isAccepted_stopped, ← stopped_fst, keptRows]
  rcases stopped (source.parseRows sample mapping) with ⟨taken, outcome⟩
  cases outcome with
  | ok _ => simp [IsAccepted]
  | error error =>
      by_cases isStop : error = .parse stop
      · simp [IsAccepted, isStop]
      · simp [IsAccepted, isStop]

/-- A sample without the required columns is not shown. -/
theorem keptRows_ne_ok (missing : ¬source.HasColumns sample mapping) (rows : List ParsedRow) :
    keptRows source sample mapping true ≠ .ok rows := by
  intro shown
  rcases keptRows_eq_ok_iff.mp shown with ⟨accepted, -⟩
  rcases ReportParser.parseRows_of_not_hasColumns missing with
    ⟨absent, required, optional, found, failed⟩
  rw [failed] at accepted
  rcases accepted with enough | isOk | isStop
  · exact absurd enough (Nat.not_succ_le_zero 9)
  · cases isOk
  · cases isStop

variable (source sample report mapping) in
/-- Every row that is shown of the sample has the money of a row of the report. -/
def ShowsRowsOf (whole : ReportParser) : Prop :=
  ∀ rows, keptRows source sample mapping true = .ok rows →
    ∀ row ∈ rows, row.monetary ∈ (whole.parseRows report mapping).1.map ParsedRow.monetary

end Shown

/-! ## Records on their own -/

/-- Records are read up to the first one that fails. -/
theorem parseRecords_append (mapRow : ByteRecord → Except IngestError (Option ParsedRow))
    (first second : List ByteRecord) :
    parseRecords mapRow (first ++ second) =
      match parseRecords mapRow first with
      | (rows, .error error) => (rows, .error error)
      | (rows, .ok ()) =>
          (rows ++ (parseRecords mapRow second).1, (parseRecords mapRow second).2) := by
  induction first with
  | nil => rfl
  | cons record rest ih =>
      rw [List.cons_append, parseRecords, parseRecords]
      cases mapRow record with
      | error error => rfl
      | ok row =>
          dsimp only
          rw [ih]
          rcases parseRecords mapRow rest with ⟨rows, outcome⟩
          cases outcome with
          | error error => rfl
          | ok _ => rw [← List.append_assoc]

variable {mapRow : ByteRecord → Except IngestError (Option ParsedRow)}

theorem parseRecords_append_of_ok {first : List ByteRecord}
    (isOk : (parseRecords mapRow first).2 = .ok ()) (second : List ByteRecord) :
    parseRecords mapRow (first ++ second) =
      ((parseRecords mapRow first).1 ++ (parseRecords mapRow second).1,
        (parseRecords mapRow second).2) := by
  rw [parseRecords_append]
  rcases parsing : parseRecords mapRow first with ⟨rows, outcome⟩
  rw [parsing] at isOk
  cases isOk
  rfl

theorem parseRecords_append_of_error {first : List ByteRecord}
    (failed : (parseRecords mapRow first).2 ≠ .ok ()) (second : List ByteRecord) :
    parseRecords mapRow (first ++ second) = parseRecords mapRow first := by
  rw [parseRecords_append]
  rcases parsing : parseRecords mapRow first with ⟨rows, outcome⟩
  rw [parsing] at failed
  cases outcome with
  | error error => rfl
  | ok _ => exact absurd rfl failed

/-- The rows of the first records are among the rows. -/
theorem mem_parseRecords_append {first second : List ByteRecord} {row : ParsedRow}
    (isRow : row ∈ (parseRecords mapRow first).1) :
    row ∈ (parseRecords mapRow (first ++ second)).1 := by
  by_cases isOk : (parseRecords mapRow first).2 = .ok ()
  · rw [parseRecords_append_of_ok isOk]
    exact List.mem_append_left _ isRow
  · rw [parseRecords_append_of_error isOk]
    exact isRow

/-- Each record is read on its own. -/
structure ReportParser.ReadsRecords (source : ReportParser) : Prop where
  notGrouped : source.groupsRows = false
  parse_eq : ∃ mapRow : Headers → ByteRecord → Except IngestError (Option ParsedRow),
    source.parse = fun headers => parseRecords (mapRow headers)

/-- The rows up to the tenth that the cut records give have the money of rows of the report. -/
def CutRowsTrue (before after : Parsing) (whole : List ParsedRow) : Prop :=
  before.2 = .ok () → previewRows ≤ before.1.length + after.1.length ∨ IsAccepted after.2 →
    ∀ row ∈ after.1.take (previewRows - before.1.length),
      row.monetary ∈ whole.map ParsedRow.monetary

section Records

variable [CsvFormat] {source : ReportParser} {sample report : List UInt8}
  {mapping : ColumnMapping}

/-- The rows of the common records are rows of the report. -/
theorem mem_parseRows_of_common (readsRecords : source.ReadsRecords)
    (found : source.HasColumns sample mapping) {row : ParsedRow}
    (isRow : row ∈ (source.parse (source.headers sample mapping)
      (source.commonRecords sample report)).1) :
    row ∈ (source.parseRows report mapping).1 := by
  rcases readsRecords.parse_eq with ⟨mapRow, parses⟩
  rcases source.commonRecords_eq_nil_or sample report mapping with none | same
  · rw [none, parses] at isRow
    cases isRow
  · have foundIn : source.HasColumns report mapping := by
      rw [ReportParser.HasColumns, ← same]
      exact found
    rw [ReportParser.parseRows_of_hasColumns foundIn, ← same,
      source.records_report sample, parses]
    rw [parses] at isRow
    exact mem_parseRecords_append isRow

theorem showsRowsOf_iff_cutRowsTrue (readsRecords : source.ReadsRecords)
    (found : source.HasColumns sample mapping) :
    ShowsRowsOf source sample report mapping source ↔
      CutRowsTrue
        (source.parse (source.headers sample mapping) (source.commonRecords sample report))
        (source.parse (source.headers sample mapping) (source.cutRecords sample report))
        (source.parseRows report mapping).1 := by
  have common : ∀ row, row ∈ (source.parse (source.headers sample mapping)
      (source.commonRecords sample report)).1 →
      row.monetary ∈ (source.parseRows report mapping).1.map ParsedRow.monetary :=
    fun row isRow => List.mem_map_of_mem (mem_parseRows_of_common readsRecords found isRow)
  have shown : ∀ rows, keptRows source sample mapping true = .ok rows ↔
      (previewRows ≤ (source.parseRows sample mapping).1.length ∨
        IsAccepted (source.parseRows sample mapping).2) ∧
      (source.parseRows sample mapping).1.take previewRows = rows := by
    intro rows
    rw [keptRows_eq_ok_iff, readsRecords.notGrouped, if_neg Bool.false_ne_true]
  rcases readsRecords.parse_eq with ⟨mapRow, parses⟩
  have parsing := ReportParser.parseRows_of_hasColumns found
  rw [source.records_sample sample report, parses] at parsing
  rw [parses] at common ⊢
  dsimp only at parsing common ⊢
  generalize source.headers sample mapping = headers at *
  by_cases isOk : (parseRecords (mapRow headers) (source.commonRecords sample report)).2 = .ok ()
  · rw [parseRecords_append_of_ok isOk] at parsing
    constructor
    · intro trueRows _ accepted row isRow
      apply trueRows _ ((shown _).mpr ⟨_, rfl⟩)
      · rw [parsing, List.take_append]
        exact List.mem_append_right _ isRow
      · rw [parsing, List.length_append]
        exact accepted
    · intro cutTrue rows isShown row isRow
      rcases (shown rows).mp isShown with ⟨accepted, rfl⟩
      rw [parsing, List.length_append] at accepted
      rw [parsing, List.take_append] at isRow
      rcases List.mem_append.mp isRow with ofCommon | ofCut
      · exact common row (List.mem_of_mem_take ofCommon)
      · exact cutTrue isOk accepted row ofCut
  · rw [parseRecords_append_of_error isOk] at parsing
    refine iff_of_true ?_ fun wasOk => absurd wasOk isOk
    intro rows isShown row isRow
    rcases (shown rows).mp isShown with ⟨-, rfl⟩
    rw [parsing] at isRow
    exact common row (List.mem_of_mem_take isRow)

end Records

/-! ## Payments with several lines -/

namespace Checkout

section Totals

variable [CellText] [LetterCase] {headers others : Headers}

omit [CellText] in
theorem linesOf_append (first second : List ByteRecord) (id : String) :
    linesOf headers (first ++ second) id =
      linesOf headers first id ++ linesOf headers second id := by
  rw [linesOf, kept, List.filter_append, rowsOf_append]
  rfl

theorem totalOf_append (kind : Breakdown) (first second : List ByteRecord) :
    totalOf headers kind (first ++ second) =
      totalOf headers kind first + totalOf headers kind second := by
  rw [totalOf, List.filter_append, sumOf_append]
  rfl

/-- What lines say of the money of a payment is what each kind of them adds up to. -/
theorem monetaryOf_eq_iff {lines moved : List ByteRecord} {id : String} :
    monetaryOf headers lines id = monetaryOf others moved id ↔
      ∀ kind, totalOf headers kind lines = totalOf others kind moved := by
  rw [monetaryOf, monetaryOf, totalFee_eq, totalFee_eq, Monetary.mk.injEq]
  constructor
  · rintro ⟨-, gross, -, interchange, scheme, -, commission⟩ kind
    cases kind with
    | capture => exact gross
    | interchange => exact neg_injective interchange
    | scheme => exact neg_injective scheme
    | commission => exact neg_injective commission
  · intro same
    refine ⟨rfl, same .capture, ?_, ?_, ?_, rfl, ?_⟩
    · rw [same .interchange, same .scheme, same .commission]
    · rw [same .interchange]
    · rw [same .scheme]
    · rw [same .commission]

/-- The rows of the payments are told apart by their references. -/
theorem monetaryOf_mem_parse_iff {order : IterationOrder String PaymentAcc}
    {records lines : List ByteRecord} {id : String} :
    monetaryOf headers lines id ∈ ((source order).parse others records).1.map ParsedRow.monetary ↔
      id ∈ emitted others records ∧
        monetaryOf headers lines id = monetaryOf others (linesOf others records id) id := by
  rw [(perm_monetary_parse order records).mem_iff, List.mem_map]
  constructor
  · rintro ⟨other, isEmitted, same⟩
    obtain rfl : other = id := congrArg Monetary.txnRef same
    exact ⟨isEmitted, same.symm⟩
  · rintro ⟨isEmitted, same⟩
    exact ⟨id, isEmitted, same.symm⟩

/-- In some order the row of a payment comes first. -/
theorem exists_head?_parse {records : List ByteRecord} {id : String}
    (isEmitted : id ∈ emitted headers records) :
    ∃ order row, ((source order).parse headers records).1.head? = some row ∧
      row.monetary = monetaryOf headers (linesOf headers records id) id := by
  have isPayment := List.mem_of_mem_filter isEmitted
  rcases mem_emitted.mp isEmitted with ⟨hasCapture, complete⟩
  rw [payments, mem_groupKeys] at isPayment
  have stored : (accumulated headers records).lookup id =
      some ((linesOf headers records id).foldl (addLine headers) {}) := by
    rw [accumulated_eq, lookup_foldAt, if_pos (List.mem_map.mpr isPayment)]
    rfl
  rcases IterationOrder.exists_append
    (List.nodup_singleton (id, (linesOf headers records id).foldl (addLine headers) {}))
    (by simpa using stored) with ⟨order, rest, entries⟩
  have perm : ((order.entries (accumulated headers records)).map Prod.snd).Perm
      (aggregates headers records) := perm_aggregates order records
  have unmarked := mt (isIncomplete_iff hasCapture).mp complete
  rw [← isIncomplete_perm perm] at unmarked
  rcases Option.map_eq_some_iff.mp (map_monetary_intoRow hasCapture) with ⟨row, isRow, sameMoney⟩
  refine ⟨order, row, ?_, sameMoney⟩
  change (flush ((order.entries (accumulated headers records)).map Prod.snd)).head? = some row
  rw [flush]
  generalize interchangeNetworks _ = networks at unmarked ⊢
  rw [entries, List.map_append, List.map_singleton, List.singleton_append,
    List.filterMap_cons_some (by rw [if_neg unmarked, isRow]), List.head?_cons]

end Totals

section Truncated

variable [CsvFormat] [CellText] [LetterCase] (sample report : List UInt8) (mapping : ColumnMapping)

/-- The fee of the payment in a table is not left out as nothing. -/
def HasFee (headers : Headers) (records : List ByteRecord) (id : String) : Prop :=
  epsilon < |(monetaryOf headers (linesOf headers records id) id).totalFee|

/-- The report has complete fees for every payment that can be shown, and past the common records
its lines of the payment add up to what those of the sample add up to. -/
def PaymentsSettled : Prop :=
  let source := source .stored
  let headers := source.headers sample mapping
  let whole := source.headers report mapping
  ∀ id ∈ emitted headers (source.records sample), HasFee headers (source.records sample) id →
    source.HasColumns report mapping ∧ id ∈ emitted whole (source.records report) ∧
      ∀ kind, totalOf headers kind (linesOf headers (source.cutRecords sample report) id) =
        totalOf whole kind (linesOf whole (source.laterRecords sample report) id)

variable {sample report mapping}

/-- The common records add the same to the sample and to the report. -/
theorem totalOf_records_eq_iff {kind : Breakdown} {id : String} {headers whole : Headers}
    (isSample : (source .stored).headers sample mapping = headers)
    (isReport : (source .stored).headers report mapping = whole) :
    totalOf headers kind (linesOf headers ((source .stored).records sample) id) =
        totalOf whole kind (linesOf whole ((source .stored).records report) id) ↔
      totalOf headers kind (linesOf headers ((source .stored).cutRecords sample report) id) =
        totalOf whole kind (linesOf whole ((source .stored).laterRecords sample report) id) := by
  rw [(source .stored).records_sample sample report, (source .stored).records_report sample report,
    linesOf_append, linesOf_append, totalOf_append, totalOf_append]
  rcases (source .stored).commonRecords_eq_nil_or sample report mapping with none | same
  · rw [none]
    exact Iff.of_eq (by simp [linesOf, kept, rowsOf, totalOf])
  · rw [isSample, isReport] at same
    rw [same, add_right_inj]

/-- The columns and the records do not depend on the order in which payments are read. -/
theorem parseRows_source (order : IterationOrder String PaymentAcc)
    (found : (source .stored).HasColumns sample mapping) :
    (source order).parseRows sample mapping =
      (source order).parse ((source .stored).headers sample mapping)
        ((source .stored).records sample) := by
  have own : (source order).HasColumns sample mapping := found
  exact ReportParser.parseRows_of_hasColumns own

variable {order : IterationOrder String PaymentAcc}

/-- A preview shows the rows with a fee among the first ten. -/
theorem keptRows_source_eq_ok_iff (found : (source .stored).HasColumns sample mapping)
    {rows : List ParsedRow} :
    keptRows (source order) sample mapping true = .ok rows ↔
      ((((source order).parse ((source .stored).headers sample mapping)
        ((source .stored).records sample)).1.take previewRows).filter fun row =>
          epsilon < |row.totalFee|) = rows := by
  rw [keptRows_eq_ok_iff, parseRows_source order found]
  exact and_iff_right (.inr (.inl rfl))

/-- What has a row in the report. -/
theorem monetaryOf_mem_parseRows_iff {headers : Headers} {lines : List ByteRecord} {id : String} :
    monetaryOf headers lines id ∈
        ((source order).parseRows report mapping).1.map ParsedRow.monetary ↔
      (source .stored).HasColumns report mapping ∧
        id ∈ emitted ((source .stored).headers report mapping) ((source .stored).records report) ∧
        monetaryOf headers lines id = monetaryOf ((source .stored).headers report mapping)
          (linesOf ((source .stored).headers report mapping)
            ((source .stored).records report) id) id := by
  by_cases found : (source .stored).HasColumns report mapping
  · rw [parseRows_source order found, monetaryOf_mem_parse_iff, and_iff_right found]
  · have missing : ¬(source order).HasColumns report mapping := found
    rcases ReportParser.parseRows_of_not_hasColumns missing with ⟨_, _, _, _, failed⟩
    rw [failed]
    exact iff_of_false List.not_mem_nil fun holds => found holds.1

theorem showsRowsOf_iff_paymentsSettled (found : (source .stored).HasColumns sample mapping) :
    (∀ order wholeOrder, ShowsRowsOf (source order) sample report mapping (source wholeOrder)) ↔
      PaymentsSettled sample report mapping := by
  constructor
  · intro trueRows id isEmitted hasFee
    rcases exists_head?_parse isEmitted with ⟨order, row, isFirst, isRow⟩
    rcases List.head?_eq_some_iff.mp isFirst with ⟨rest, rows⟩
    have listed := trueRows order .stored _ ((keptRows_source_eq_ok_iff found).mpr rfl) row
    rw [rows, isRow, monetaryOf_mem_parseRows_iff] at listed
    have isShown : epsilon < |row.totalFee| := by
      rw [HasFee, ← isRow] at hasFee
      exact hasFee
    rcases listed (List.mem_filter.mpr ⟨List.mem_cons_self, decide_eq_true isShown⟩) with
      ⟨foundIn, emittedIn, same⟩
    refine ⟨foundIn, emittedIn, fun kind => ?_⟩
    exact (totalOf_records_eq_iff rfl rfl).mp (monetaryOf_eq_iff.mp same kind)
  · intro settled order wholeOrder rows shown row listed
    obtain rfl := (keptRows_source_eq_ok_iff found).mp shown
    rcases List.mem_filter.mp listed with ⟨taken, isShown⟩
    have ofPayment := List.mem_map_of_mem (f := ParsedRow.monetary) (List.mem_of_mem_take taken)
    rw [(perm_monetary_parse order _).mem_iff, List.mem_map] at ofPayment
    rcases ofPayment with ⟨id, isEmitted, isRow⟩
    have hasFee : HasFee ((source .stored).headers sample mapping)
        ((source .stored).records sample) id := by
      rw [HasFee, isRow]
      exact of_decide_eq_true isShown
    rcases settled id isEmitted hasFee with ⟨foundIn, emittedIn, same⟩
    rw [← isRow, monetaryOf_mem_parseRows_iff]
    refine ⟨foundIn, emittedIn, monetaryOf_eq_iff.mpr fun kind => ?_⟩
    exact (totalOf_records_eq_iff rfl rfl).mpr (same kind)

end Truncated

end Checkout

/-! ## Previews -/

section Previews

open ConnectorRegistry

variable [CsvFormat] [CellText] [LetterCase]

variable (connector : String)

/-- In whatever order payments are read, each row that a preview of the first bytes of a report
shows has the money of the row of the report with the same reference. -/
def ShowsTrueRows (report : List UInt8) (length : ℕ) (mapping : ColumnMapping) : Prop :=
  ∀ order wholeOrder source whole, (withBuiltins order).get connector = .ok source →
    (withBuiltins wholeOrder).get connector = .ok whole →
      ShowsRowsOf source (report.take length) report mapping whole

/-- What is cut off changes no transaction that is shown. -/
def CutIsHarmless (report : List UInt8) (length : ℕ) (mapping : ColumnMapping) : Prop :=
  ∀ source, (withBuiltins .stored).get connector = .ok source →
    source.HasColumns (report.take length) mapping →
      if source.groupsRows then Checkout.PaymentsSettled (report.take length) report mapping
      else
        let headers := source.headers (report.take length) mapping
        CutRowsTrue (source.parse headers (source.commonRecords (report.take length) report))
          (source.parse headers (source.cutRecords (report.take length) report))
          (source.parseRows report mapping).1

variable {order : IterationOrder String Checkout.PaymentAcc} {source : ReportParser}

/-- All connectors but one read each record on its own. -/
theorem eq_checkout_or_readsRecords (isBuiltin : source ∈ builtins order) :
    source = Checkout.source order ∨
      source.ReadsRecords ∧ ∀ other, source ∈ builtins other := by
  have reads : ∀ {connector columns unwrapEnvelope mapRow},
      (recordSource connector columns unwrapEnvelope mapRow).ReadsRecords :=
    ⟨rfl, _, rfl⟩
  simp only [builtins, List.mem_cons, List.not_mem_nil, or_false] at isBuiltin
  rcases isBuiltin with rfl | rfl | rfl | rfl | rfl
  · exact .inr ⟨reads, fun _ => by simp [builtins]⟩
  · exact .inr ⟨reads, fun _ => by simp [builtins]⟩
  · exact .inr ⟨reads, fun _ => by simp [builtins]⟩
  · exact .inl rfl
  · exact .inr ⟨reads, fun _ => by simp [builtins]⟩

theorem get_checkout (order : IterationOrder String Checkout.PaymentAcc) :
    (withBuiltins order).get "checkout" = .ok (Checkout.source order) :=
  get_withBuiltins_eq_ok_iff.mpr ⟨by simp [builtins], rfl⟩

/-- The other connectors are the same in every order. -/
theorem readsRecords_of_get {connector : String} (notCheckout : connector ≠ "checkout")
    (isSource : (withBuiltins order).get connector = .ok source) :
    source.ReadsRecords ∧ ∀ other, (withBuiltins other).get connector = .ok source := by
  rcases get_withBuiltins_eq_ok_iff.mp isSource with ⟨isBuiltin, rfl⟩
  rcases eq_checkout_or_readsRecords isBuiltin with rfl | ⟨readsRecords, listed⟩
  · exact absurd rfl notCheckout
  · exact ⟨readsRecords, fun other => get_withBuiltins_eq_ok_iff.mpr ⟨listed other, rfl⟩⟩

theorem showsTrueRows_checkout_iff {report : List UInt8} {length : ℕ} {mapping : ColumnMapping} :
    ShowsTrueRows "checkout" report length mapping ↔
      CutIsHarmless "checkout" report length mapping := by
  have ofSources : ShowsTrueRows "checkout" report length mapping ↔
      ∀ order wholeOrder, ShowsRowsOf (Checkout.source order) (report.take length) report mapping
        (Checkout.source wholeOrder) := by
    simp only [ShowsTrueRows, get_checkout, Except.ok.injEq]
    constructor
    · intro trueRows order wholeOrder
      exact trueRows order wholeOrder _ _ rfl rfl
    · rintro trueRows order wholeOrder source whole rfl rfl
      exact trueRows order wholeOrder
  rw [ofSources, CutIsHarmless]
  have grouped : (Checkout.source .stored).groupsRows = true := rfl
  simp only [get_checkout, Except.ok.injEq, forall_eq', grouped, if_true]
  by_cases found : (Checkout.source .stored).HasColumns (report.take length) mapping
  · rw [Checkout.showsRowsOf_iff_paymentsSettled found]
    exact ⟨fun settled _ => settled, fun settled => settled found⟩
  · refine iff_of_true ?_ fun hasColumns => absurd hasColumns found
    intro order wholeOrder rows shown
    have missing : ¬(Checkout.source order).HasColumns (report.take length) mapping := found
    exact absurd shown (keptRows_ne_ok missing rows)

/-- A preview of the first bytes of a report shows only rows of the report exactly if what is cut
off is harmless. -/
theorem showsTrueRows_iff_cutIsHarmless (connector : String) (report : List UInt8) (length : ℕ)
    (mapping : ColumnMapping) :
    ShowsTrueRows connector report length mapping ↔
      CutIsHarmless connector report length mapping := by
  by_cases isCheckout : connector = "checkout"
  · rw [isCheckout]
    exact showsTrueRows_checkout_iff
  · constructor
    · intro trueRows source isSource found
      have readsRecords := (readsRecords_of_get isCheckout isSource).1
      rw [if_neg (by rw [readsRecords.notGrouped]; exact Bool.false_ne_true)]
      exact (showsRowsOf_iff_cutRowsTrue readsRecords found).mp
        (trueRows .stored .stored source source isSource isSource)
    · intro harmless order wholeOrder source whole isSource isWhole rows shown
      rcases readsRecords_of_get isCheckout isSource with ⟨readsRecords, same⟩
      obtain rfl : source = whole := Except.ok.inj ((same wholeOrder).symm.trans isWhole)
      by_cases found : source.HasColumns (report.take length) mapping
      · have cutTrue := harmless source (same .stored) found
        rw [if_neg (by rw [readsRecords.notGrouped]; exact Bool.false_ne_true)] at cutTrue
        exact (showsRowsOf_iff_cutRowsTrue readsRecords found).mpr cutTrue rows shown
      · exact absurd shown (keptRows_ne_ok found rows)

end Previews

/-! ## A payment cut between its fees -/

local instance plainFormat : CsvFormat where
  records bytes := (linesOf newline bytes).map fun line =>
    (line.filter fun byte => byte ≠ newline).splitOn ','.toUInt8
  replaceInvalid _ := "\uFFFD"
  invalidText _ := ""

local instance plainCells : CellText := .whole

local instance plainCase : LetterCase := .ascii

/-- A capture and the first fee of a payment. -/
def firstLines : List UInt8 :=
  (["Payment ID,Action Type,Breakdown Type,Holding Currency,Holding Currency Amount," ++
      "Payment Method,Card Type,Issuer Country,Processed On\n",
    "P1,Capture,Capture,EUR,100,VISA,Credit,NL,\n",
    "P1,Capture,Premium Variable Fee,EUR,-2,VISA,Credit,NL,\n"].map
      fun line => line.toUTF8.data.toList).flatten

/-- The second fee follows. -/
def splitPayment : List UInt8 :=
  firstLines ++ "P1,Capture,Scheme Fixed Fee,EUR,-1,VISA,Credit,NL,\n".toUTF8.data.toList

/-- The preview shows a fee of two, and the report has one of three. -/
theorem not_showsTrueRows_splitPayment :
    ¬ShowsTrueRows "checkout" splitPayment firstLines.length .none := by
  intro trueRows
  have shown : (keptRows (Checkout.source .stored) (splitPayment.take firstLines.length) .none
      true).map (List.map ParsedRow.monetary) = .ok [⟨"P1", 100, 2, 0, 0, 0, 2⟩] := by
    decide +kernel
  have whole : ((Checkout.source .stored).parseRows splitPayment .none).1.map
      ParsedRow.monetary = [⟨"P1", 100, 3, 0, 1, 0, 2⟩] := by
    decide +kernel
  cases isKept : keptRows (Checkout.source .stored) (splitPayment.take firstLines.length) .none
      true with
  | error error =>
      rw [isKept] at shown
      cases shown
  | ok rows =>
      rw [isKept] at shown
      have isShown : ⟨"P1", 100, 2, 0, 0, 0, 2⟩ ∈ rows.map ParsedRow.monetary := by
        rw [Except.ok.inj shown]
        exact List.mem_cons_self
      rcases List.mem_map.mp isShown with ⟨row, listed, isRow⟩
      have inReport := trueRows .stored .stored _ _ (get_checkout _) (get_checkout _) rows isKept
        row listed
      rw [isRow, whole] at inReport
      revert inReport
      decide

end DecisionEngine.CostIngestion
