import DecisionEngine.CostIngestion.Types
import DecisionEngine.Json.Value
import DecisionEngine.Map.Keyed
import DecisionEngine.Redis.StringLayer
import DecisionEngine.Search.Sorted
import Mathlib.Data.Prod.Lex

/-!
# Column mappings

A merchant may name the columns of a report otherwise than a connector expects.  A mapping
gives the merchant's label for an expected one, and is checked before it is stored.
-/

namespace DecisionEngine.CostIngestion

open Map Redis Search Text

/-- What can be wrong with a report or with a request about one. -/
inductive IngestError where
  | unknownConnector (connector : String)
  | parse (message : String)
  | missingColumns (missing required optional found : List String)
  deriving DecidableEq

/-- The label that the merchant's file has for an expected one. -/
structure ColumnMapping where
  columns : HashMap String String

namespace ColumnMapping

def none : ColumnMapping := ⟨∅⟩

/-- The label to search for; a column that is not mapped has its own label. -/
def resolve (mapping : ColumnMapping) (expected : String) : String :=
  (mapping.columns.lookup expected).getD expected

/-! ## Validation -/

/-- The problems of a pair are added, and its target is remembered. -/
def checkPair (known found : List String) (checked : List String × HashMap String String)
    (pair : String × String) : List String × HashMap String String :=
  let (problems, targets) := checked
  let (expected, theirs) := pair
  let unknown :=
    if expected ∈ known then []
    else ["'" ++ expected ++ "' is not a column this connector reads"]
  let absent :=
    if theirs ∈ found then []
    else
      ["'" ++ expected ++ "' is mapped to '" ++ theirs ++ "', which is not a column in this file"]
  let shared :=
    match targets.lookup theirs with
    | some other => ["'" ++ other ++ "' and '" ++ expected ++ "' are both mapped to '" ++
        theirs ++ "'"]
    | Option.none => []
  (problems ++ unknown ++ absent ++ shared, targets.insert theirs expected)

/-- The pairs of a mapping, sorted so that the message does not depend on the map. -/
def sortedPairs (mapping : ColumnMapping) : List (String × String) :=
  sortBy toLex (IterationOrder.stored.entries mapping.columns)

/-- The expected labels are known, the targets are in the file, and none is given twice. -/
def validate (mapping : ColumnMapping) (known found : List String) : Except IngestError Unit :=
  let problems := (mapping.sortedPairs.foldl (checkPair known found) ([], ∅)).1
  if problems.isEmpty then .ok ()
  else .error (.parse ("invalid column mapping: " ++ join "; " problems))

section Accepted

variable {known found : List String} {mapping : ColumnMapping}

variable {checked : List String × HashMap String String} {pair : String × String}

/-- A pair adds no problem if its label is known and its target is a new one of the file. -/
theorem checkPair_fst_eq_nil_iff :
    (checkPair known found checked pair).1 = [] ↔
      checked.1 = [] ∧ pair.1 ∈ known ∧ pair.2 ∈ found ∧ pair.2 ∉ checked.2 := by
  rw [checkPair, ← AList.lookup_eq_none]
  dsimp only
  rw [List.append_eq_nil_iff, List.append_eq_nil_iff, List.append_eq_nil_iff, and_assoc, and_assoc]
  refine and_congr_right fun _ => and_congr ?_ (and_congr ?_ ?_)
  · by_cases isKnown : pair.1 ∈ known
    · simp [isKnown]
    · simp [isKnown]
  · by_cases isFound : pair.2 ∈ found
    · simp [isFound]
    · simp [isFound]
  · cases checked.2.lookup pair.2 with
    | none => simp
    | some other => simp

/-- No problem is found in pairs with known labels and different new targets of the file. -/
theorem foldl_checkPair_fst_eq_nil_iff {pairs : List (String × String)} :
    (pairs.foldl (checkPair known found) checked).1 = [] ↔
      checked.1 = [] ∧ (∀ pair ∈ pairs, pair.1 ∈ known ∧ pair.2 ∈ found ∧ pair.2 ∉ checked.2) ∧
        (pairs.map Prod.snd).Nodup := by
  induction pairs generalizing checked with
  | nil => simp
  | cons pair rest ih =>
      have isTarget : ∀ {theirs}, theirs ∉ (checkPair known found checked pair).2 ↔
          theirs ≠ pair.2 ∧ theirs ∉ checked.2 := by
        intro theirs
        rw [checkPair, AList.mem_insert, not_or]
      rw [List.foldl_cons, ih, checkPair_fst_eq_nil_iff, List.map_cons, List.nodup_cons]
      constructor
      · rintro ⟨⟨noProblem, first⟩, others, distinct⟩
        refine ⟨noProblem, ?_, ?_, distinct⟩
        · intro other listed
          rcases List.mem_cons.mp listed with rfl | isLater
          · exact first
          · have own := others other isLater
            exact ⟨own.1, own.2.1, (isTarget.mp own.2.2).2⟩
        · intro repeated
          rcases List.mem_map.mp repeated with ⟨other, isLater, same⟩
          exact (isTarget.mp (others other isLater).2.2).1 same
      · rintro ⟨noProblem, each, notRepeated, distinct⟩
        refine ⟨⟨noProblem, each pair List.mem_cons_self⟩, ?_, distinct⟩
        intro other isLater
        have own := each other (List.mem_cons_of_mem _ isLater)
        refine ⟨own.1, own.2.1, isTarget.mpr ⟨?_, own.2.2⟩⟩
        intro same
        exact notRepeated (List.mem_map.mpr ⟨other, isLater, same⟩)

theorem mem_sortedPairs :
    pair ∈ mapping.sortedPairs ↔ mapping.columns.lookup pair.1 = some pair.2 := by
  rw [sortedPairs, mem_sortBy, ← IterationOrder.mem_entries]

/-- What an accepted mapping satisfies. -/
structure Accepted (mapping : ColumnMapping) (known found : List String) : Prop where
  known_found : ∀ expected theirs, mapping.columns.lookup expected = some theirs →
    expected ∈ known ∧ theirs ∈ found
  distinct : ∀ first second theirs, mapping.columns.lookup first = some theirs →
    mapping.columns.lookup second = some theirs → first = second

theorem validate_eq_ok_iff : mapping.validate known found = .ok () ↔
    mapping.Accepted known found := by
  have isOk : mapping.validate known found = .ok () ↔
      (mapping.sortedPairs.foldl (checkPair known found) ([], ∅)).1 = [] := by
    rw [validate]
    by_cases noProblem : (mapping.sortedPairs.foldl (checkPair known found) ([], ∅)).1 = []
    · rw [if_pos (List.isEmpty_iff.mpr noProblem)]
      exact iff_of_true rfl noProblem
    · rw [if_neg fun isEmpty => noProblem (List.isEmpty_iff.mp isEmpty)]
      exact iff_of_false (by simp) noProblem
  rw [isOk, foldl_checkPair_fst_eq_nil_iff, and_iff_right rfl]
  constructor
  · rintro ⟨each, distinct⟩
    constructor
    · intro expected theirs isMapped
      have own := each (expected, theirs) (mem_sortedPairs.mpr isMapped)
      exact ⟨own.1, own.2.1⟩
    · intro first second theirs isFirst isSecond
      have firstListed : (first, theirs) ∈ mapping.sortedPairs := mem_sortedPairs.mpr isFirst
      have secondListed : (second, theirs) ∈ mapping.sortedPairs := mem_sortedPairs.mpr isSecond
      exact congrArg Prod.fst (List.inj_on_of_nodup_map distinct firstListed secondListed rfl)
  · intro accepted
    refine ⟨?_, ?_⟩
    · intro pair listed
      have own := accepted.known_found _ _ (mem_sortedPairs.mp listed)
      exact ⟨own.1, own.2, AList.notMem_empty _⟩
    · have entries : mapping.sortedPairs.Nodup := by
        rw [sortedPairs, sortBy, (List.perm_insertionSort _ _).nodup_iff]
        exact List.Nodup.of_map Prod.fst (IterationOrder.stored.nodup_keys mapping.columns)
      refine List.Nodup.map_on ?_ entries
      intro first isFirst second isSecond sameTarget
      have isMapped := mem_sortedPairs.mp isSecond
      rw [← sameTarget] at isMapped
      exact Prod.ext (accepted.distinct _ _ _ (mem_sortedPairs.mp isFirst) isMapped) sameTarget

end Accepted

end ColumnMapping

/-! ## Tabular reports

The driver that every parser of a report is based on.  Columns are resolved by their labels in
the header, all that are missing are reported together, and each record may give a row.
-/

/-! ## Records -/

/-- The fields of a record. -/
abbrev ByteRecord := List (List UInt8)

/-- How the bytes of a table are cut into records, and what is shown or reported for bytes that
are not a text. -/
class CsvFormat where
  records : List UInt8 → List ByteRecord
  replaceInvalid : List UInt8 → String
  invalidText : ByteRecord → String

/-- How the numbers, days and values in a cell are read. -/
class CellText where
  number : String → Option ℚ
  json : String → Option Json.Value
  /-- The day of a date in a format. -/
  date : (format text : String) → Option Int
  /-- The day of a point in time in a format. -/
  dateTime : (format text : String) → Option Int
  /-- The first day of a month. -/
  firstDay : (year : Int) → (month : ℕ) → Option Int

/-- Whole numbers, and nothing else. -/
@[reducible]
def CellText.whole : CellText where
  number text := (parseI32 text).map fun value => (value : ℚ)
  json _ := none
  date _ _ := none
  dateTime _ _ := none
  firstDay _ _ := none

/-- A money cell; what is not a number counts as nothing. -/
def toFloat [CellText] (text : String) : ℚ :=
  (CellText.number (trim text)).getD 0

namespace ByteRecord

/-- A field, empty if there is none or if it is not a text. -/
def get (record : ByteRecord) (i : ℕ) : String :=
  (record[i]?.bind decodeUtf8).getD ""

def getOpt (record : ByteRecord) (i : Option ℕ) : String :=
  (i.map record.get).getD ""

end ByteRecord

/-! ## Headers -/

/-- A column that a connector asks for. -/
inductive Column where
  | require (name : String)
  | index (name : String)

def Column.name : Column → String
  | .require name => name
  | .index name => name

structure Headers where
  record : ByteRecord
  mapping : ColumnMapping

/-- The labels that were asked for, and the required ones that the header does not have. -/
structure Asked where
  missing : List String
  required : List String
  optional : List String

namespace Headers

/-- The column with the label, as the merchant's mapping has it. -/
def position (headers : Headers) (name : String) : Option ℕ :=
  headers.record.findIdx? fun label => label = encodeUtf8 (headers.mapping.resolve name)

def ask (headers : Headers) (asked : Asked) : Column → Asked
  | .index name => { asked with optional := asked.optional ++ [name] }
  | .require name =>
      match headers.position name with
      | some _ => { asked with required := asked.required ++ [name] }
      | none =>
          { asked with
            required := asked.required ++ [name]
            missing := asked.missing ++ [name] }

/-- Resolve the columns of a connector. -/
def prepare (headers : Headers) (columns : List Column) : Asked :=
  columns.foldl headers.ask ⟨[], [], []⟩

/-- The labels that the file has. -/
def found [CsvFormat] (headers : Headers) : List String :=
  headers.record.map fun label => (decodeUtf8 label).getD (CsvFormat.replaceInvalid label)

/-- All missing columns are one error. -/
def finish [CsvFormat] (headers : Headers) (asked : Asked) : Except IngestError Unit :=
  if asked.missing.isEmpty then .ok ()
  else .error (.missingColumns asked.missing asked.required asked.optional headers.found)

/-- The field of a record in the column with a label. -/
def cell (headers : Headers) (record : ByteRecord) (name : String) : String :=
  record.getOpt (headers.position name)

end Headers

/-! ## Rows -/

/-- A row of a report, with the parts of its fee. -/
structure ParsedRow extends SettledFeeRow where
  txnRef : String
  interchange : ℚ
  schemeFee : ℚ
  markup : ℚ
  commission : ℚ

/-- The rows that were handed on, and how the parsing ended. -/
abbrev Parsing := List ParsedRow × Except IngestError Unit

/-- Map each record to a row or to none, up to the first one that cannot be read. -/
def parseRecords (mapRow : ByteRecord → Except IngestError (Option ParsedRow)) :
    List ByteRecord → Parsing
  | [] => ([], .ok ())
  | record :: rest =>
      match mapRow record with
      | .error error => ([], .error error)
      | .ok row =>
          let (rows, outcome) := parseRecords mapRow rest
          (row.toList ++ rows, outcome)

/-- A connector's parser: its columns, whether it assembles rows from several records, what it
takes off a report before it reads the table, and how it maps the records. -/
structure ReportParser where
  connector : String
  columns : List Column
  groupsRows : Bool
  unwrapEnvelope : List UInt8 → List UInt8
  parse : Headers → List ByteRecord → Parsing

namespace ReportParser

variable [CsvFormat] (source : ReportParser) (report : List UInt8)

/-- The header and the other records of a report; an empty report has an empty header. -/
def headers (mapping : ColumnMapping) : Headers :=
  ⟨(CsvFormat.records (source.unwrapEnvelope report)).headD [], mapping⟩

def records : List ByteRecord :=
  (CsvFormat.records (source.unwrapEnvelope report)).tail

/-- The columns are resolved before any record is read. -/
def parseRows (mapping : ColumnMapping) : Parsing :=
  let headers := source.headers report mapping
  match headers.finish (headers.prepare source.columns) with
  | .error error => ([], .error error)
  | .ok () => source.parse headers (source.records report)

end ReportParser

end DecisionEngine.CostIngestion
