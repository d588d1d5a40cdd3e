import DecisionEngine.CostIngestion.RecordSources

/-!
# Columns that are read twice

A mapping that was accepted gives different targets to the columns that it maps.  A target may
still be the own label of a column that is not mapped, and both are then read from the same
column of the file.
-/

namespace DecisionEngine.CostIngestion

open Map Text

namespace Headers

variable {headers : Headers} {known : List String}

/-- No two of the columns are read from the same column of the file. -/
def ReadsApart (headers : Headers) (known : List String) : Prop :=
  ∀ first ∈ known, ∀ second ∈ known, ∀ i, headers.position first = some i →
    headers.position second = some i → first = second

/-- No target of a column is the label of another one that is not mapped and is in the file. -/
def TargetsFree (headers : Headers) (known : List String) : Prop :=
  ∀ expected ∈ known, ∀ other ∈ known,
    headers.mapping.columns.lookup expected = some other →
      headers.mapping.columns.lookup other = none → encodeUtf8 other ∉ headers.record

theorem encodeUtf8_injective : Function.Injective encodeUtf8 := by
  intro first second same
  have decoded := decodeUtf8_encodeUtf8 first
  rw [same, decodeUtf8_encodeUtf8] at decoded
  exact (Option.some.inj decoded).symm

/-- Where a column is read its label is found. -/
theorem getElem?_of_position {name : String} {i : ℕ} (found : headers.position name = some i) :
    headers.record[i]? = some (encodeUtf8 (headers.mapping.resolve name)) := by
  rw [position, List.findIdx?_eq_some_iff_getElem] at found
  rcases found with ⟨inRange, isLabel, -⟩
  rw [List.getElem?_eq_getElem inRange, of_decide_eq_true isLabel]

theorem isSome_position_iff {name : String} :
    (headers.position name).isSome ↔
      encodeUtf8 (headers.mapping.resolve name) ∈ headers.record := by
  rw [position, List.findIdx?_isSome, List.any_eq_true]
  constructor
  · rintro ⟨label, listed, isLabel⟩
    exact of_decide_eq_true isLabel ▸ listed
  · intro listed
    exact ⟨_, listed, decide_eq_true rfl⟩

/-- Columns that are read from one place have one label. -/
theorem resolve_eq_of_position {first second : String} {i : ℕ}
    (isFirst : headers.position first = some i) (isSecond : headers.position second = some i) :
    headers.mapping.resolve first = headers.mapping.resolve second := by
  have same := (getElem?_of_position isFirst).symm.trans (getElem?_of_position isSecond)
  exact encodeUtf8_injective (Option.some.inj same)

end Headers

namespace ColumnMapping

theorem resolve_of_mapped {mapping : ColumnMapping} {expected theirs : String}
    (mapped : mapping.columns.lookup expected = some theirs) :
    mapping.resolve expected = theirs := by
  rw [resolve, mapped, Option.getD_some]

theorem resolve_of_unmapped {mapping : ColumnMapping} {expected : String}
    (unmapped : mapping.columns.lookup expected = Option.none) :
    mapping.resolve expected = expected := by
  rw [resolve, unmapped, Option.getD_none]

end ColumnMapping

/-- A target that is the own label of an unmapped column is not in the file. -/
theorem Headers.TargetsFree.position_eq_none {headers : Headers} {known : List String}
    (free : headers.TargetsFree known) {expected other : String} (isExpected : expected ∈ known)
    (isOther : other ∈ known) (mapped : headers.mapping.columns.lookup expected = some other)
    (unmapped : headers.mapping.columns.lookup other = none) :
    headers.position other = none := by
  have absent := free expected isExpected other isOther mapped unmapped
  rw [← Option.not_isSome_iff_eq_none, isSome_position_iff,
    ColumnMapping.resolve_of_unmapped unmapped]
  exact absent

/-- With an accepted mapping the columns are read apart exactly if no target is the label of
another column of the file that is not mapped. -/
theorem readsApart_iff_targetsFree {headers : Headers} {known found : List String}
    (accepted : headers.mapping.validate known found = .ok ()) :
    headers.ReadsApart known ↔ headers.TargetsFree known := by
  have distinct := (ColumnMapping.validate_eq_ok_iff.mp accepted).distinct
  constructor
  · intro apart expected isExpected other isOther mapped unmapped listed
    have own : headers.mapping.resolve other = other := ColumnMapping.resolve_of_unmapped unmapped
    have same : headers.position expected = headers.position other := by
      rw [Headers.position, Headers.position, own, ColumnMapping.resolve_of_mapped mapped]
    rw [← own, ← Headers.isSome_position_iff] at listed
    rcases Option.isSome_iff_exists.mp listed with ⟨i, isPosition⟩
    have isOne := apart expected isExpected other isOther i (same.trans isPosition) isPosition
    rw [isOne, unmapped] at mapped
    cases mapped
  · intro free first isFirst second isSecond i firstRead secondRead
    have same := Headers.resolve_eq_of_position firstRead secondRead
    cases firstTarget : headers.mapping.columns.lookup first with
    | some theirs =>
        rw [ColumnMapping.resolve_of_mapped firstTarget] at same
        cases secondTarget : headers.mapping.columns.lookup second with
        | some others =>
            rw [ColumnMapping.resolve_of_mapped secondTarget] at same
            exact distinct first second others (same ▸ firstTarget) secondTarget
        | none =>
            rw [ColumnMapping.resolve_of_unmapped secondTarget] at same
            rw [free.position_eq_none isFirst isSecond (same ▸ firstTarget) secondTarget]
              at secondRead
            cases secondRead
    | none =>
        rw [ColumnMapping.resolve_of_unmapped firstTarget] at same
        cases secondTarget : headers.mapping.columns.lookup second with
        | some others =>
            rw [ColumnMapping.resolve_of_mapped secondTarget] at same
            rw [free.position_eq_none isSecond isFirst (same ▸ secondTarget) firstTarget]
              at firstRead
            cases firstRead
        | none =>
            rw [ColumnMapping.resolve_of_unmapped secondTarget] at same
            exact same

/-! ## An amount that is read as a fee -/

/-- The amount of a file is mapped to the commission, which is not mapped itself. -/
def commissionAmount : Headers where
  record := ["Record Type", "Psp Reference", "Payment Method Variant", "Global Card Brand",
    "Issuer Country", "Settlement Currency", "Net Settlement Amount", "Commission (SC)",
    "Markup (SC)", "Scheme Fees (SC)", "Interchange (SC)", "ICSF details"].map encodeUtf8
  mapping := ⟨AList.singleton "Payable (SC)" "Commission (SC)"⟩

def adyenLabels : List String :=
  Adyen.columns.map Column.name

local instance mappedFormat : CsvFormat where
  records _ := []
  replaceInvalid _ := "\uFFFD"
  invalidText _ := ""

theorem readsApart_iff_targetsFree_commissionAmount :
    commissionAmount.ReadsApart adyenLabels ↔ commissionAmount.TargetsFree adyenLabels :=
  readsApart_iff_targetsFree
    (by decide +kernel : commissionAmount.mapping.validate adyenLabels commissionAmount.found =
      .ok ())

/-- The mapping is accepted, and the amount and the commission are read from one column. -/
theorem not_readsApart_commissionAmount :
    commissionAmount.mapping.validate adyenLabels commissionAmount.found = .ok () ∧
      ¬commissionAmount.ReadsApart adyenLabels := by
  refine ⟨by decide +kernel, fun apart => ?_⟩
  have same := apart "Payable (SC)" (by decide +kernel) "Commission (SC)" (by decide +kernel) 7
    (by decide +kernel) (by decide +kernel)
  exact absurd same (by decide)

end DecisionEngine.CostIngestion
