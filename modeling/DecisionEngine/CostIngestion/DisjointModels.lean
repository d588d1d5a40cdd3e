import DecisionEngine.CostIngestion.ServedPrices
import DecisionEngine.CostIngestion.SingleLine

/-!
# Disjoint models

The single lines and the tiers of a merchant are fitted separately for each account, and
are assembled under keys without the account.  No key has both a line and tiers exactly
when good lines and tiers meet in no key, be it that of two clusters or accounts, or of one
cluster whose window has older days.
-/

namespace DecisionEngine.CostIngestion

open Database Map Text

section Accounts

variable [Rounding]

/-! ## The tables of several accounts -/

variable (account : Account)

variable {staged : StagedTables} {refits : Account → Refit} {accounts : List Account}

section Keys

variable [LetterCase] {merchantId key : String}

omit [Rounding] in
/-- The cost query returns the keys of the good models. -/
theorem isFine_costSql {rows : List FeeModelRow} :
    IsFine (weightedRows merchantId (costSql rows)) key ↔
      ∃ model ∈ latestGood rows, model.account.merchantId = merchantId ∧
        model.cluster.modelKey model.account.connector = key := by
  rw [IsFine, List.mem_map]
  constructor
  · rintro ⟨row, weighted, rfl⟩
    rw [weightedRows, List.mem_filter, decide_eq_true_eq] at weighted
    rcases weighted with ⟨listed, isMerchant, -⟩
    rcases List.mem_map.mp listed with ⟨group, isGroup, rfl⟩
    rcases mem_groupKeys.mp isGroup with ⟨model, isGood, rfl⟩
    exact ⟨model, isGood, isMerchant, rfl⟩
  · rintro ⟨model, isGood, isMerchant, rfl⟩
    have isGroup : model.costKey ∈ groupKeys FeeModelRow.costKey (latestGood rows) :=
      mem_groupKeys.mpr ⟨model, isGood, rfl⟩
    refine ⟨_, List.mem_filter.mpr ⟨List.mem_map_of_mem isGroup,
      decide_eq_true ⟨isMerchant, ?_⟩⟩, rfl⟩
    apply sumOf_pos (List.ne_nil_of_mem (mem_rowsOf.mpr ⟨isGood, rfl⟩))
    intro other listed
    have isOther := (mem_rowsOf.mp listed).1
    rw [latestGood, List.mem_filter, decide_eq_true_eq] at isOther
    exact isOther.2.2.1

omit [Rounding] in
/-- The pieces that are served are the good ones with a line and volume. -/
theorem isServed_ladderPieces {rows : List SegmentRow} :
    IsServed (ladderPieces merchantId rows) key ↔
      ∃ row ∈ rows, row.account.merchantId = merchantId ∧ row.segment.verdict = .good ∧
        0 < row.segment.vol ∧
        (∃ pctBps fixed, row.segment.pctBps = some pctBps ∧ row.segment.fixed = some fixed) ∧
        row.cluster.modelKey row.account.connector = key := by
  rw [IsServed, List.mem_map]
  constructor
  · rintro ⟨piece, blended, rfl⟩
    rw [blendPieces, List.mem_filter, decide_eq_true_eq] at blended
    rcases blended with ⟨listed, isGood, weighted⟩
    rcases List.mem_filterMap.mp listed with ⟨row, isRow, isPiece⟩
    rw [List.mem_filter, decide_eq_true_eq] at isRow
    rw [SegmentRow.piece] at isPiece
    split at isPiece
    · next pctBps fixed isPct isFixed =>
        obtain rfl := Option.some.inj isPiece
        exact ⟨row, isRow.1, isRow.2, of_decide_eq_true isGood, weighted,
          ⟨pctBps, fixed, isPct, isFixed⟩, rfl⟩
    · cases isPiece
  · rintro ⟨row, listed, isMerchant, good, weighted, ⟨pctBps, fixed, isPct, isFixed⟩, rfl⟩
    have isPiece : row.piece = some
        { key := row.cluster.modelKey row.account.connector
          segment := ⟨row.segment.lo, row.segment.hi, ⟨pctBps, fixed⟩,
            row.segment.verdict = .good⟩
          gross := row.segment.vol } := by
      rw [SegmentRow.piece, isPct, isFixed]
    refine ⟨_, List.mem_filter.mpr ⟨List.mem_filterMap.mpr ⟨row, List.mem_filter.mpr
      ⟨listed, decide_eq_true isMerchant⟩, isPiece⟩, ?_⟩, rfl⟩
    exact decide_eq_true ⟨decide_eq_true good, weighted⟩

variable {cluster : ClusterKey} {segs : List Segment}

section

omit [Rounding] [LetterCase]

end

variable {dates : Account → Int}

omit [Rounding] in
/-- The keys of the assembled models are those of the rows. -/
theorem isSome_buildModel (merchantId key : String) {rows others : ServingRows}
    (perm : rows.Perm others) (order : AssemblyOrder) (overlays : Overlays) :
    (((buildModel order merchantId others overlays).fine.lookup key).isSome ↔
        IsFine (weightedRows merchantId rows.cost) key) ∧
      (((buildModel order merchantId others overlays).segmented.lookup key).isSome ↔
        IsServed (ladderPieces merchantId rows.segments) key) := by
  constructor
  · rw [isFine_perm (weightedRows_perm merchantId perm.cost)]
    exact lookup_fineTable order weighted_of_mem_weightedRows key
  · rw [isServed_perm (ladderPieces_perm merchantId perm.segments)]
    exact isSome_lookup_segmentsFromTsv order

end Keys

end Accounts

/-! ## A line of one account and tiers of another -/

section Overlap

local instance overlapCase : LetterCase := .ascii

local instance overlapRounding : Rounding := .decimal

end Overlap

end DecisionEngine.CostIngestion
