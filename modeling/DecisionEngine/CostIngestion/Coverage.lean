import DecisionEngine.CostIngestion.DisjointModels

/-!
# Coverage

The summary for the dashboard counts the clusters of the merchant's latest day by whether a
line or tiers price them.  What is served are the lines of the latest day of each account, and
the greatest ladder of each cluster among those of the latest days of the accounts' segments.

The summary tells what is served when all accounts were last fitted on one day and what is
usable on that day is what is served.
-/

namespace DecisionEngine.CostIngestion

open Database Map Text

/-! ## The summary -/

inductive CoverageClass where
  | good
  | tiered
  | thin
  | nonLinear
  deriving DecidableEq

/-- What is said of the clusters of a class, or of all. -/
structure CoverageTotals where
  clusters : ℕ
  txns : ℚ
  gross : ℚ

structure CoverageSummary where
  total : CoverageTotals
  good : CoverageTotals
  tiered : CoverageTotals
  thin : CoverageTotals
  nonLinear : CoverageTotals
  goodTxnPct : ℚ
  pricedTxnPct : ℚ
  goodGrossPct : ℚ
  pricedGrossPct : ℚ
  bpsRmseP50 : ℚ
  bpsRmseP90 : ℚ
  reportDate : Int

section Summary

variable (merchantId : String) (tables : CostTables)

/-- The latest day with models of a merchant; without models the first day of the calendar. -/
def lastFit (models : List FeeModelRow) : Int :=
  (((models.filter fun row => row.account.merchantId = merchantId).map
    FeeModelRow.reportDate).max?).getD 0

/-- The clusters with a good tier on the latest day. -/
def tieredClusters : List (Account × ClusterKey) :=
  ((final SegmentRow.sortKey tables.segments).filter fun row =>
    row.account.merchantId = merchantId ∧ row.reportDate = lastFit merchantId tables.feeModel ∧
      row.segment.verdict = .good).map fun row => (row.account, row.cluster)

/-- The clusters that the summary is about. -/
def coveredModels : List FeeModelRow :=
  tables.feeModel.filter fun row =>
    row.account.merchantId = merchantId ∧ row.reportDate = lastFit merchantId tables.feeModel

def coverageClass (row : FeeModelRow) : CoverageClass :=
  if row.verdict = .good then .good
  else if (row.account, row.cluster) ∈ tieredClusters merchantId tables then .tiered
  else if row.verdict = .thin then .thin
  else .nonLinear

def totalsOf (rows : List FeeModelRow) : CoverageTotals :=
  ⟨rows.length, sumOf FeeModelRow.n rows, sumOf FeeModelRow.grossSum rows⟩

def pct (part whole : ℚ) : ℚ :=
  if 0 < whole then part / whole * 100 else 0

/-- The summary; the database estimates the quantiles. -/
def forMerchant (quantile : ℚ → List ℚ → Option ℚ) : CoverageSummary :=
  let rows := coveredModels merchantId tables
  let ofClass kind := rows.filter fun row => coverageClass merchantId tables row = kind
  let total := totalsOf rows
  let good := totalsOf (ofClass .good)
  let tiered := totalsOf (ofClass .tiered)
  let errors := (ofClass .good).filterMap FeeModelRow.bpsRmse
  { total := total
    good := good
    tiered := tiered
    thin := totalsOf (ofClass .thin)
    nonLinear := totalsOf (ofClass .nonLinear)
    goodTxnPct := pct good.txns total.txns
    pricedTxnPct := pct (good.txns + tiered.txns) total.txns
    goodGrossPct := pct good.gross total.gross
    pricedGrossPct := pct (good.gross + tiered.gross) total.gross
    bpsRmseP50 := (quantile (1 / 2) errors).getD 0
    bpsRmseP90 := (quantile (9 / 10) errors).getD 0
    reportDate := lastFit merchantId tables.feeModel }

/-- The summary is over as many clusters as the merchant's latest day has. -/
@[simp]
theorem forMerchant_clusters (quantile : ℚ → List ℚ → Option ℚ) :
    (forMerchant merchantId tables quantile).total.clusters =
      (coveredModels merchantId tables).length :=
  rfl

/-- A cluster is counted as good or as tiered, never as both. -/
theorem forMerchant_priced (quantile : ℚ → List ℚ → Option ℚ) :
    (forMerchant merchantId tables quantile).good.clusters +
        (forMerchant merchantId tables quantile).tiered.clusters =
      ((coveredModels merchantId tables).filter fun row =>
        coverageClass merchantId tables row = .good ∨
          coverageClass merchantId tables row = .tiered).length := by
  change (List.filter _ _).length + (List.filter _ _).length = _
  induction coveredModels merchantId tables with
  | nil => rfl
  | cons row rows ih =>
      simp only [List.filter_cons]
      cases coverageClass merchantId tables row <;>
        simp only [decide_eq_true_eq, reduceCtorEq, or_self, or_false, false_or, if_true, if_false,
          List.length_cons] <;>
        omega

end Summary

/-! ## What the summary should tell -/

section Property

variable [LetterCase]

def FeeModelRow.modelKey (row : FeeModelRow) : String :=
  row.cluster.modelKey row.account.connector

/-- The models have a line or tiers under a key. -/
def MerchantModels.prices (models : MerchantModels) (key : String) : Prop :=
  (models.fine.lookup key).isSome ∨ (models.segmented.lookup key).isSome

instance (models : MerchantModels) (key : String) : Decidable (models.prices key) :=
  inferInstanceAs (Decidable (_ ∨ _))

/-- The clusters of the latest snapshot of each account of a merchant. -/
def latestModels (merchantId : String) (models : List FeeModelRow) : List FeeModelRow :=
  models.filter fun row => row.account.merchantId = merchantId ∧ row.isLatest models

/-- The cluster has a good line, or a good tier on the merchant's latest day. -/
def IsUsable (merchantId : String) (tables : CostTables) (row : FeeModelRow) : Prop :=
  row.verdict = .good ∨ (row.account, row.cluster) ∈ tieredClusters merchantId tables

/-- The summary counts the cluster as good or tiered. -/
def CountedPriced (merchantId : String) (tables : CostTables) (row : FeeModelRow) : Prop :=
  row ∈ coveredModels merchantId tables ∧
    (coverageClass merchantId tables row = .good ∨ coverageClass merchantId tables row = .tiered)

/-- The models that are loaded from the tables, whatever the order of the rows and of the
assembly. -/
def IsLoaded (merchantId : String) (tables : CostTables) (models : MerchantModels) : Prop :=
  ∃ rows order overlays, (servingRows merchantId tables).Perm rows ∧
    models = buildModel order merchantId rows overlays

/-- The summary tells what is served. -/
structure CoverageTells (merchantId : String) (tables : CostTables) : Prop where
  /-- Of the latest snapshots of the accounts those clusters are counted as priced that the loaded
  models price. -/
  priced : ∀ models, IsLoaded merchantId tables models →
    ∀ row ∈ latestModels merchantId tables.feeModel,
      CountedPriced merchantId tables row ↔ models.prices row.modelKey
  /-- The loaded models price no key that is not the one of a cluster counted as priced. -/
  noneElse : ∀ models, IsLoaded merchantId tables models → ∀ key, models.prices key →
    ∃ row, CountedPriced merchantId tables row ∧ row.modelKey = key
  /-- The summary has as many good and tiered clusters as the loaded models price. -/
  counts : ∀ models, IsLoaded merchantId tables models → ∀ quantile,
    (forMerchant merchantId tables quantile).good.clusters +
        (forMerchant merchantId tables quantile).tiered.clusters =
      ((latestModels merchantId tables.feeModel).filter fun row =>
        models.prices row.modelKey).length
  /-- The totals are over all clusters of the latest snapshots. -/
  totals : ∀ quantile, (forMerchant merchantId tables quantile).total =
    totalsOf (latestModels merchantId tables.feeModel)

/-- A served ladder of the key has a good tier. -/
def HasServedTier (merchantId : String) (tables : CostTables) (key : String) : Prop :=
  ∃ row ∈ segmentSql merchantId tables.segments, row.segment.verdict = .good ∧
    (∃ pctBps fixed, row.segment.pctBps = some pctBps ∧ row.segment.fixed = some fixed) ∧
    row.cluster.modelKey row.account.connector = key

/-- When the summary tells what is served. -/
structure CoverageAgrees (merchantId : String) (tables : CostTables) : Prop where
  /-- Every account was last fitted on the merchant's latest day. -/
  sameDay : ∀ row ∈ tables.feeModel, row.account.merchantId = merchantId →
    ∃ other ∈ tables.feeModel, other.account = row.account ∧
      other.reportDate = lastFit merchantId tables.feeModel
  /-- Clusters with one model key are usable together. -/
  together : ∀ row ∈ coveredModels merchantId tables, ∀ other ∈ coveredModels merchantId tables,
    row.modelKey = other.modelKey → IsUsable merchantId tables row →
      IsUsable merchantId tables other
  /-- The key of a usable cluster has a good line with volume, or a good tier that is served. -/
  weighted : ∀ row ∈ coveredModels merchantId tables, IsUsable merchantId tables row →
    (∃ other ∈ coveredModels merchantId tables, other.modelKey = row.modelKey ∧
      other.verdict = .good ∧ 0 < other.grossSum) ∨
    HasServedTier merchantId tables row.modelKey
  /-- A good tier is served only under the key of a usable cluster. -/
  noneStale : ∀ key, HasServedTier merchantId tables key →
    ∃ row ∈ coveredModels merchantId tables, row.modelKey = key ∧ IsUsable merchantId tables row

variable {merchantId : String} {tables : CostTables} {models : List FeeModelRow}
  {row : FeeModelRow}

section

omit [LetterCase]

theorem mem_coveredModels : row ∈ coveredModels merchantId tables ↔
    row ∈ tables.feeModel ∧ row.account.merchantId = merchantId ∧
      row.reportDate = lastFit merchantId tables.feeModel := by
  rw [coveredModels, List.mem_filter, decide_eq_true_eq]

theorem mem_latestModels : row ∈ latestModels merchantId models ↔
    row ∈ models ∧ row.account.merchantId = merchantId ∧
      ∀ other ∈ models, other.account = row.account → other.reportDate ≤ row.reportDate := by
  rw [latestModels, List.mem_filter, decide_eq_true_eq, FeeModelRow.isLatest, List.all_eq_true]
  simp only [decide_eq_true_eq]

/-- The latest day is one with models, and no models are of a later one. -/
theorem lastFit_spec (listed : row ∈ models) (isMerchant : row.account.merchantId = merchantId) :
    (∃ last ∈ models, last.account.merchantId = merchantId ∧
        last.reportDate = lastFit merchantId models) ∧
      row.reportDate ≤ lastFit merchantId models := by
  have isOwn : row.reportDate ∈ (models.filter fun row => row.account.merchantId = merchantId).map
      FeeModelRow.reportDate :=
    List.mem_map_of_mem (List.mem_filter.mpr ⟨listed, decide_eq_true isMerchant⟩)
  cases isMax : ((models.filter fun row => row.account.merchantId = merchantId).map
      FeeModelRow.reportDate).max? with
  | none =>
      rw [List.max?_eq_none_iff.mp isMax] at isOwn
      cases isOwn
  | some day =>
      have isLast : lastFit merchantId models = day := by rw [lastFit, isMax, Option.getD_some]
      rw [List.max?_eq_some_iff] at isMax
      rcases List.mem_map.mp isMax.1 with ⟨last, lastListed, isDay⟩
      rw [List.mem_filter, decide_eq_true_eq] at lastListed
      rw [isLast]
      exact ⟨⟨last, lastListed.1, lastListed.2, isDay⟩, isMax.2 _ isOwn⟩

theorem latestModels_of_coveredModels (covered : row ∈ coveredModels merchantId tables) :
    row ∈ latestModels merchantId tables.feeModel := by
  rcases mem_coveredModels.mp covered with ⟨listed, isMerchant, isLast⟩
  refine mem_latestModels.mpr ⟨listed, isMerchant, fun other otherListed sameAccount => ?_⟩
  rw [isLast]
  exact (lastFit_spec otherListed (sameAccount ▸ isMerchant)).2

theorem counted_iff_usable :
    coverageClass merchantId tables row = .good ∨ coverageClass merchantId tables row = .tiered ↔
      IsUsable merchantId tables row := by
  rw [coverageClass, IsUsable]
  by_cases isGood : row.verdict = .good
  · simp [isGood]
  · by_cases isTiered : (row.account, row.cluster) ∈ tieredClusters merchantId tables
    · simp [isGood, isTiered]
    · by_cases isThin : row.verdict = .thin <;> simp [isGood, isTiered, isThin]

end

/-- The assembled models price the keys of good lines with volume and of served good tiers. -/
theorem IsLoaded.prices_iff (merged : final FeeModelRow.sortKey tables.feeModel = tables.feeModel)
    {loaded : MerchantModels} (isLoaded : IsLoaded merchantId tables loaded) (key : String) :
    loaded.prices key ↔
      (∃ row ∈ latestModels merchantId tables.feeModel, row.modelKey = key ∧
        row.verdict = .good ∧ 0 < row.grossSum) ∨ HasServedTier merchantId tables key := by
  obtain ⟨rows, order, overlays, perm, rfl⟩ := isLoaded
  have isKey := isSome_buildModel merchantId key perm order overlays
  rw [MerchantModels.prices, isKey.1, isKey.2]
  apply or_congr
  · rw [servingRows, isFine_costSql, latestGood, merged]
    constructor
    · rintro ⟨row, isGood, isMerchant, sameKey⟩
      rw [List.mem_filter, decide_eq_true_eq] at isGood
      refine ⟨row, List.mem_filter.mpr ⟨isGood.1, decide_eq_true ⟨isMerchant, isGood.2.2.2⟩⟩,
        sameKey, isGood.2.1, isGood.2.2.1⟩
    · rintro ⟨row, isLatest, sameKey, isGood, weighted⟩
      rw [latestModels, List.mem_filter, decide_eq_true_eq] at isLatest
      exact ⟨row, List.mem_filter.mpr ⟨isLatest.1,
        decide_eq_true ⟨isGood, weighted, isLatest.2.2⟩⟩, isLatest.2.1, sameKey⟩
  · rw [servingRows, isServed_ladderPieces, HasServedTier]
    constructor
    · rintro ⟨row, listed, -, isGood, -, hasLine, sameKey⟩
      exact ⟨row, listed, isGood, hasLine, sameKey⟩
    · rintro ⟨row, listed, isGood, hasLine, sameKey⟩
      have isLatest := List.mem_of_mem_filter listed
      rw [latestSegments, List.mem_filter, decide_eq_true_eq] at isLatest
      exact ⟨row, listed, isLatest.2.2.1, isGood, isLatest.2.1, hasLine, sameKey⟩

section

omit [LetterCase]

/-- An account with models has a latest snapshot. -/
theorem exists_latest_of_account (listed : row ∈ models)
    (isMerchant : row.account.merchantId = merchantId) :
    ∃ last ∈ latestModels merchantId models, last.account = row.account := by
  cases isLast : (rowsOf FeeModelRow.account models row.account).argmax
      FeeModelRow.reportDate with
  | none =>
      rw [List.argmax_eq_none] at isLast
      have ofRow := mem_rowsOf.mpr ⟨listed, (rfl : row.account = row.account)⟩
      rw [isLast] at ofRow
      cases ofRow
  | some last =>
      rcases mem_rowsOf.mp (List.argmax_mem isLast) with ⟨lastListed, sameAccount⟩
      refine ⟨last, mem_latestModels.mpr ⟨lastListed, sameAccount ▸ isMerchant, ?_⟩, sameAccount⟩
      intro other otherListed ofAccount
      exact List.le_of_mem_argmax (mem_rowsOf.mpr ⟨otherListed, ofAccount.trans sameAccount⟩)
        isLast

/-- The totals are over the latest snapshots when the accounts were last fitted on one day. -/
theorem coveredModels_eq_iff :
    coveredModels merchantId tables = latestModels merchantId tables.feeModel ↔
      ∀ row ∈ tables.feeModel, row.account.merchantId = merchantId →
        ∃ other ∈ tables.feeModel, other.account = row.account ∧
          other.reportDate = lastFit merchantId tables.feeModel := by
  constructor
  · intro same row listed isMerchant
    rcases exists_latest_of_account listed isMerchant with ⟨last, isLatest, sameAccount⟩
    rw [← same] at isLatest
    rcases mem_coveredModels.mp isLatest with ⟨lastListed, -, isLast⟩
    exact ⟨last, lastListed, sameAccount, isLast⟩
  · intro sameDay
    rw [coveredModels, latestModels]
    apply List.filter_congr
    intro row listed
    rw [decide_eq_decide, and_congr_right_iff]
    intro isMerchant
    constructor
    · intro isLast
      have covered := mem_coveredModels.mpr ⟨listed, isMerchant, isLast⟩
      exact (List.mem_filter.mp (latestModels_of_coveredModels covered)).2 |> of_decide_eq_true |>.2
    · intro isLatest
      rcases sameDay row listed isMerchant with ⟨other, otherListed, sameAccount, isLast⟩
      have latest := (mem_latestModels.mp (List.mem_filter.mpr
        ⟨listed, decide_eq_true ⟨isMerchant, isLatest⟩⟩)).2.2 other otherListed sameAccount
      exact le_antisymm (lastFit_spec listed isMerchant).2 (isLast ▸ latest)

/-- The clusters of the latest day are among those of the latest snapshots, so that counting them
compares them. -/
theorem totals_eq_iff :
    (∀ quantile, (forMerchant merchantId tables quantile).total =
        totalsOf (latestModels merchantId tables.feeModel)) ↔
      coveredModels merchantId tables = latestModels merchantId tables.feeModel := by
  constructor
  · intro totals
    have sameLength : (coveredModels merchantId tables).length =
        (latestModels merchantId tables.feeModel).length :=
      congrArg CoverageTotals.clusters (totals fun _ _ => none)
    have inside : coveredModels merchantId tables =
        (latestModels merchantId tables.feeModel).filter fun row =>
          row.reportDate = lastFit merchantId tables.feeModel := by
      rw [coveredModels, latestModels, List.filter_filter]
      apply List.filter_congr
      intro row listed
      rw [Bool.eq_iff_iff, Bool.and_eq_true, decide_eq_true_eq, decide_eq_true_eq,
        decide_eq_true_eq]
      constructor
      · intro ofDay
        have isLatest := latestModels_of_coveredModels (mem_coveredModels.mpr ⟨listed, ofDay⟩)
        exact ⟨ofDay.2, of_decide_eq_true (List.mem_filter.mp isLatest).2⟩
      · exact fun both => ⟨both.2.1, both.1⟩
    exact (inside ▸ List.filter_sublist).eq_of_length sameLength
  · intro same quantile
    rw [← same]
    rfl

end

/-- The summary tells what is served exactly when the accounts were last fitted on one day and
what is usable on that day is what is served. -/
theorem coverageTells_iff (merchantId : String) (tables : CostTables)
    (merged : final FeeModelRow.sortKey tables.feeModel = tables.feeModel) :
    CoverageTells merchantId tables ↔ CoverageAgrees merchantId tables := by
  constructor
  · intro tells
    have totals := totals_eq_iff.mp tells.totals
    have isLoaded : IsLoaded merchantId tables _ :=
      ⟨_, .stored, Overlays.none, ServingRows.Perm.refl _, rfl⟩
    have usable : ∀ row ∈ coveredModels merchantId tables,
        (IsUsable merchantId tables row ↔
          (∃ other ∈ coveredModels merchantId tables, other.modelKey = row.modelKey ∧
            other.verdict = .good ∧ 0 < other.grossSum) ∨
          HasServedTier merchantId tables row.modelKey) := by
      intro row covered
      have told := tells.priced _ isLoaded row (totals ▸ covered)
      rw [isLoaded.prices_iff merged, ← totals, CountedPriced, and_iff_right covered,
        counted_iff_usable] at told
      exact told
    constructor
    · exact coveredModels_eq_iff.mp totals
    · intro row covered other otherCovered sameKey isUsable
      rw [usable other otherCovered, ← sameKey, ← usable row covered]
      exact isUsable
    · exact fun row covered => (usable row covered).mp
    · intro key served
      rcases tells.noneElse _ isLoaded key ((isLoaded.prices_iff merged key).mpr (Or.inr served))
        with ⟨row, counted, isKey⟩
      exact ⟨row, counted.1, isKey, counted_iff_usable.mp counted.2⟩
  · intro agrees
    have totals := coveredModels_eq_iff.mpr agrees.sameDay
    have priced : ∀ models, IsLoaded merchantId tables models →
        ∀ row ∈ latestModels merchantId tables.feeModel,
          CountedPriced merchantId tables row ↔ models.prices row.modelKey := by
      intro models isLoaded row isLatest
      rw [← totals] at isLatest
      rw [isLoaded.prices_iff merged, ← totals, CountedPriced, and_iff_right isLatest,
        counted_iff_usable]
      constructor
      · exact agrees.weighted row isLatest
      · rintro (⟨other, otherCovered, sameKey, isGood, -⟩ | served)
        · exact agrees.together other otherCovered row isLatest sameKey (Or.inl isGood)
        · rcases agrees.noneStale _ served with ⟨other, otherCovered, sameKey, isUsable⟩
          exact agrees.together other otherCovered row isLatest sameKey isUsable
    refine ⟨priced, ?_, ?_, totals_eq_iff.mpr totals⟩
    · intro models isLoaded key isPriced
      rcases (isLoaded.prices_iff merged key).mp isPriced with
        ⟨row, isLatest, isKey, isGood, -⟩ | served
      · exact ⟨row, ⟨totals ▸ isLatest, counted_iff_usable.mpr (Or.inl isGood)⟩, isKey⟩
      · rcases agrees.noneStale key served with ⟨row, covered, isKey, isUsable⟩
        exact ⟨row, ⟨covered, counted_iff_usable.mpr isUsable⟩, isKey⟩
    · intro models isLoaded quantile
      rw [forMerchant_priced, totals]
      congr 1
      apply List.filter_congr
      intro row isLatest
      rw [decide_eq_decide, ← priced models isLoaded row isLatest, CountedPriced, totals,
        and_iff_right isLatest]

end Property

/-! ## Accounts that were last fitted on different days -/

section Paused

local instance pausedCase : LetterCase := .ascii

def fittedModel (reportDate : Int) (account : Account) (verdict : Verdict) : FeeModelRow :=
  ⟨reportDate, account, tieredCluster, some 100, some 0, 40, some 1, some 1, 4000, verdict⟩

/-- An account that was last fitted on a day before another account. -/
def pausedTables : CostTables :=
  { noTables with
    feeModel := [fittedModel 20009 ⟨"adyen", "AcmeUae", "acme"⟩ .good,
      fittedModel 20010 ⟨"stripe", "AcmeEu", "acme"⟩ .good] }

/-- The good line of the account is served and not counted. -/
theorem coverageTells_counterexample :
    ¬ CoverageTells "acme" pausedTables ∧
      (buildModel .stored "acme" (servingRows "acme" pausedTables) Overlays.none).prices
        (fittedModel 20009 ⟨"adyen", "AcmeUae", "acme"⟩ .good).modelKey ∧
      ¬ CountedPriced "acme" pausedTables
        (fittedModel 20009 ⟨"adyen", "AcmeUae", "acme"⟩ .good) := by
  refine ⟨?_, ?_, ?_⟩
  · intro tells
    exact absurd (congrArg CoverageTotals.clusters (tells.totals fun _ _ => none))
      (by decide +kernel)
  · exact Or.inl (by decide +kernel)
  · intro counted
    exact absurd counted.1 (by decide +kernel)

/-- A good tier of a cluster. -/
def fittedTier (reportDate : Int) (account : Account) (segIdx : ℕ) (lo hi : ℚ) : SegmentRow :=
  ⟨reportDate, account, tieredCluster, segIdx, ⟨lo, hi, 20, 2000, some 100, some 0, some 1, .good⟩⟩

/-- A line of one connector and tiers of another one, of the same day. -/
def coveredTables : CostTables :=
  { noTables with
    feeModel := [fittedModel 20010 ⟨"adyen", "AcmeUae", "acme"⟩ .good,
      fittedModel 20010 ⟨"stripe", "AcmeEu", "acme"⟩ .nonLinear]
    segments := [fittedTier 20010 ⟨"stripe", "AcmeEu", "acme"⟩ 0 0 100,
      fittedTier 20010 ⟨"stripe", "AcmeEu", "acme"⟩ 1 100 1000] }

theorem coverageTells_iff_covered : CoverageTells "acme" coveredTables := by
  have usable : ∀ row ∈ coveredModels "acme" coveredTables,
      row.verdict = .good ∨ (row.account, row.cluster) ∈ tieredClusters "acme" coveredTables := by
    decide +kernel
  have eitherModel : ∀ row ∈ coveredModels "acme" coveredTables,
      row = fittedModel 20010 ⟨"adyen", "AcmeUae", "acme"⟩ .good ∨
        row = fittedModel 20010 ⟨"stripe", "AcmeEu", "acme"⟩ .nonLinear := by
    decide +kernel
  refine (coverageTells_iff "acme" coveredTables (by decide +kernel)).mpr ⟨?_, ?_, ?_, ?_⟩
  · decide +kernel
  · exact fun _ _ other otherCovered _ _ => usable other otherCovered
  · intro row covered _
    rcases eitherModel row covered with rfl | rfl
    · exact Or.inl ⟨_, covered, rfl, rfl, by decide +kernel⟩
    · exact Or.inr ⟨fittedTier 20010 ⟨"stripe", "AcmeEu", "acme"⟩ 0 0 100, by decide +kernel, rfl,
        ⟨100, 0, rfl, rfl⟩, rfl⟩
  · rintro key ⟨row, listed, -, -, rfl⟩
    have ofTiered : ∀ row ∈ segmentSql "acme" coveredTables.segments,
        row.cluster.modelKey row.account.connector =
          (fittedModel 20010 ⟨"stripe", "AcmeEu", "acme"⟩ .nonLinear).modelKey := by
      decide +kernel
    exact ⟨fittedModel 20010 ⟨"stripe", "AcmeEu", "acme"⟩ .nonLinear, by decide +kernel,
      (ofTiered row listed).symm, usable _ (by decide +kernel)⟩

end Paused

end DecisionEngine.CostIngestion
