import DecisionEngine.CostIngestion.Rollup
import DecisionEngine.CostIngestion.Segment
import Mathlib.Data.List.MinMax

/-!
# Fit of the cost models

The query that fits one line for each cluster of an account from the daily statistics, the
segmentation of the clusters that one line does not fit, and the snapshot that replaces the
stored models of a day.
-/

namespace DecisionEngine.CostIngestion

open Database Map

def baseWindowDays : Int := 90

def maxWindowDays : Int := 365

def minSamples : ℚ := 200

/-! ## Stored models -/

/-- A row of `cost_fee_model`. -/
structure FeeModelRow where
  reportDate : Int
  account : Account
  cluster : ClusterKey
  pctBps : Option ℚ
  fixed : Option ℚ
  n : ℚ
  bpsRmse : Option ℚ
  r2 : Option ℚ
  grossSum : ℚ
  verdict : Verdict
  deriving DecidableEq

/-- The columns of a cluster that the stored models are sorted by: all but the funding. -/
structure UnfundedKey where
  cardNetwork : String
  variant : String
  issuerCountry : String
  currency : String
  icCategory : String
  cardProduct : String
  deriving DecidableEq

def ClusterKey.withoutFunding (cluster : ClusterKey) : UnfundedKey :=
  ⟨cluster.cardNetwork, cluster.variant, cluster.issuerCountry, cluster.currency,
    cluster.icCategory, cluster.cardProduct⟩

/-- The columns of the sort key of `cost_fee_model`. -/
def FeeModelRow.sortKey (row : FeeModelRow) : Account × Int × UnfundedKey :=
  (row.account, row.reportDate, row.cluster.withoutFunding)

/-- A row of `cost_fee_model_segment`. -/
structure SegmentRow where
  reportDate : Int
  account : Account
  cluster : ClusterKey
  segIdx : ℕ
  segment : Segment
  deriving DecidableEq

/-- The columns of the sort key of `cost_fee_model_segment`. -/
def SegmentRow.sortKey (row : SegmentRow) : Account × Int × UnfundedKey × ℕ :=
  (row.account, row.reportDate, row.cluster.withoutFunding, row.segIdx)

structure CostTables extends StagedTables where
  feeModel : List FeeModelRow
  segments : List SegmentRow

/-- The daily statistics of an account, each bucket once. -/
def accountStats (account : Account) (dailyStats : List DailyStat) : List DailyStat :=
  (final DailyStat.sortKey dailyStats).filter fun row => row.account = account

/-- The latest day with transactions. -/
def latestDay (rows : List DailyStat) : Option Int :=
  (rows.map fun row => row.bucket.txnDate).max?

/-- The first day of a window that ends with the latest day. -/
def windowStart (days : Int) (rows : List DailyStat) : Int :=
  match latestDay rows with
  | some day => day - days
  | none => 0

/-! ## The query of the fit -/

structure DayBandKey where
  cluster : ClusterKey
  band : Int
  txnDate : Int
  deriving DecidableEq

def DailyStat.dayBandKey (row : DailyStat) : DayBandKey :=
  ⟨row.bucket.cluster, row.bucket.band, row.bucket.txnDate⟩

/-- The sums of each cluster, day and band in the greatest window. -/
def dayBand (maxWindowStart : Int) (rows : List DailyStat) : List (DayBandKey × SuffStats) :=
  groupSum DailyStat.dayBandKey DailyStat.stats
    (rows.filter fun row => maxWindowStart ≤ row.bucket.txnDate)

/-- The transactions of each cluster and day. -/
def dayCounts (days : List (DayBandKey × SuffStats)) : List ((ClusterKey × Int) × ℚ) :=
  groupSum (fun day : DayBandKey × SuffStats => (day.1.cluster, day.1.txnDate)) (·.2.n) days

/-- The transactions of the cluster on later days. -/
def cumNBefore (counts : List ((ClusterKey × Int) × ℚ)) (day : ClusterKey × Int) : ℚ :=
  sumOf Prod.snd (counts.filter fun other => other.1.1 = day.1 ∧ day.2 < other.1.2)

/-- The days of the base window, and older ones until there are enough transactions. -/
def windowedDays (baseWindowStart : Int) (days : List (DayBandKey × SuffStats)) :
    List (ClusterKey × Int) :=
  ((dayCounts days).filter fun day =>
    baseWindowStart ≤ day.1.2 ∨ cumNBefore (dayCounts days) day.1 < minSamples).map Prod.fst

/-- The sums of each cluster and band over the days of the window. -/
def perBand (baseWindowStart : Int) (days : List (DayBandKey × SuffStats)) :
    List ((ClusterKey × Int) × SuffStats) :=
  groupSum (fun day : DayBandKey × SuffStats => (day.1.cluster, day.1.band)) Prod.snd
    (days.filter fun day => (day.1.cluster, day.1.txnDate) ∈ windowedDays baseWindowStart days)

/-- The sums of each cluster. -/
def wholeStats (bands : List ((ClusterKey × Int) × SuffStats)) : List (ClusterKey × SuffStats) :=
  groupSum (fun band : (ClusterKey × Int) × SuffStats => band.1.1) Prod.snd bands

section Query

variable [Rounding]

/-- The line of a cluster, with nothing for what is not a number. -/
structure WholeFit where
  slope : Option ℚ
  intercept : Option ℚ
  r2 : Option ℚ
  aStar : ℚ
  ciBps : ℚ

def wholeFit (s : SuffStats) : WholeFit :=
  let denom := s.n * s.sxx - s.sx * s.sx
  let slope := (s.n * s.sxy - s.sx * s.sy) / denom
  let intercept := (s.sy - slope * s.sx) / s.n
  { slope := if denom = 0 then none else some slope
    intercept := if denom = 0 then none else some intercept
    r2 :=
      if denom = 0 ∨ s.n * s.syy - s.sy * s.sy = 0 then none
      else some ((s.n * s.sxy - s.sx * s.sy) ^ 2 / (denom * (s.n * s.syy - s.sy * s.sy)))
    aStar := if denom ≠ 0 ∧ 0 < slope ∧ 0 < intercept then intercept / slope else 0
    ciBps :=
      if 2 < s.n ∧ 0 < denom then
        196 / 100 * Rounding.sqrt
          (max 0 (s.syy - intercept * s.sy - slope * s.sxy) / (s.n - 2) * s.n / denom) * 10000
      else 999999 }

variable (bands : List ((ClusterKey × Int) × SuffStats))

/-- The sums of a cluster over the bands that reach above its crossover. -/
def aboveStats (cluster : ClusterKey) (aStar : ℚ) : SuffStats :=
  sumOf Prod.snd (bands.filter fun band =>
    band.1.1 = cluster ∧ aStar < Rounding.pow10 ((band.1.2 + 1) / 10))

/-- The error of the line above the crossover. -/
def aboveBpsRmse (line : WholeFit) (above : SuffStats) : Option ℚ :=
  if above.n = 0 then some 999999
  else
    match line.slope, line.intercept with
    | some slope, some intercept =>
        some (Rounding.sqrt (max 0 (intercept * intercept * above.suu +
          above.n * slope * slope + above.syyuu - 2 * intercept * above.suuy -
          2 * slope * above.suy + 2 * intercept * slope * above.su) / above.n) * 10000)
    | _, _ => none

/-- A line is good with enough transactions, or with a slope that is certain. -/
def fitVerdict (n nAbove : ℚ) (bpsRmse : Option ℚ) (ciBps : ℚ) : Verdict :=
  let isPoor : Bool := nAbove = 0 ∨ bpsRmse.all fun bps => 15 < bps
  if isPoor ∧ 200 ≤ n then .nonLinear
  else if isPoor then .thin
  else if 200 ≤ n then .good
  else if 30 ≤ n ∧ ciBps ≤ 15 then .good
  else .thin

variable (account : Account) (reportDate : Int)

def feeModelRow (bands : List ((ClusterKey × Int) × SuffStats)) (whole : ClusterKey × SuffStats) :
    FeeModelRow :=
  let line := wholeFit whole.2
  let above := aboveStats bands whole.1 line.aStar
  let bpsRmse := aboveBpsRmse line above
  { reportDate
    account
    cluster := whole.1
    pctBps := line.slope.map fun slope => slope * 10000
    fixed := line.intercept
    n := whole.2.n
    bpsRmse
    r2 := line.r2
    grossSum := whole.2.sx
    verdict := fitVerdict whole.2.n above.n bpsRmse line.ciBps }

/-- One model for each cluster with transactions in its window. -/
def fitSql (rows : List DailyStat) : List FeeModelRow :=
  let bands := perBand (windowStart baseWindowDays rows)
    (dayBand (windowStart maxWindowDays rows) rows)
  (wholeStats bands).map (feeModelRow account reportDate bands)

/-! ## Segments of the clusters -/

/-- The sums of each cluster and band in the base window. -/
def segmentStats (rows : List DailyStat) : List ((ClusterKey × Int) × SuffStats) :=
  groupSum (fun row : DailyStat => (row.bucket.cluster, row.bucket.band)) DailyStat.stats
    (rows.filter fun row => windowStart baseWindowDays rows ≤ row.bucket.txnDate)

variable (stats : List ((ClusterKey × Int) × SuffStats))

/-- The bands of a cluster, ascending. -/
def bandsOf (cluster : ClusterKey) : Bands :=
  ((stats.filter fun row => row.1.1 = cluster).map fun row => (row.1.2, row.2)).insertionSort
    fun first second => first.1 ≤ second.1

variable (order : IterationOrder ClusterKey Bands)

/-- The clusters that segments recover, in the order of iteration. -/
def segmentClusters (stats : List ((ClusterKey × Int) × SuffStats)) :
    List (ClusterKey × List Segment) :=
  (order.entries (insertKeys ∅ (stats.map fun row => row.1.1) (bandsOf stats))).filterMap
    fun entry => (tiersOf entry.2).map fun segs => (entry.1, segs)

/-- The numbered rows of the segments of a cluster. -/
def tierRows (entry : ClusterKey × List Segment) :
    List SegmentRow :=
  entry.2.mapIdx fun idx segment => ⟨reportDate, account, entry.1, idx, segment⟩

def segmentRows (clusters : List (ClusterKey × List Segment)) : List SegmentRow :=
  clusters.flatMap (tierRows account reportDate)

/-! ## The snapshot -/

/-- What a fit is given besides the tables. -/
structure Refit where
  reportDate : Int
  clusterOrder : IterationOrder ClusterKey Bands

/-- The fit of an account gave no model, and the account is named. -/
def shouldPurgeEmpty (total : ℕ) (account : Account) : Bool :=
  total = 0 ∧ account.connector ≠ "" ∧ account.account ≠ "" ∧ account.merchantId ≠ ""

variable (rows : List DailyStat)

/-- Replace the models of an account and day; without models, delete those of all days. -/
def refreshModels (stored : List FeeModelRow) : List FeeModelRow :=
  let cleared := stored.filter fun row => ¬ (row.account = account ∧ row.reportDate = reportDate)
  let fitted := cleared ++ fitSql account reportDate rows
  let total := (fitted.filter fun row =>
    row.account = account ∧ row.reportDate = reportDate).length
  if shouldPurgeEmpty total account then fitted.filter fun row => row.account ≠ account
  else fitted

/-- Replace the segments of an account and day. -/
def refreshSegments (refit : Refit) (rows : List DailyStat) (stored : List SegmentRow) :
    List SegmentRow :=
  let cleared := stored.filter fun row =>
    ¬ (row.account = account ∧ row.reportDate = refit.reportDate)
  let clusters := segmentClusters refit.clusterOrder (segmentStats rows)
  if clusters.isEmpty then cleared
  else cleared ++ segmentRows account refit.reportDate clusters

def fitSnapshot (refit : Refit) (tables : CostTables) : CostTables :=
  let rows := accountStats account tables.dailyStats
  { tables with
    feeModel := refreshModels account refit.reportDate rows tables.feeModel
    segments := refreshSegments account refit rows tables.segments }

/-! ## Fitted clusters -/

variable {cluster : ClusterKey}

omit [Rounding] in
theorem exists_mem_dayBand_iff {maxWindowStart : Int} {rows : List DailyStat} :
    (∃ day ∈ dayBand maxWindowStart rows, day.1.cluster = cluster) ↔
      ∃ row ∈ rows, maxWindowStart ≤ row.bucket.txnDate ∧ row.bucket.cluster = cluster := by
  constructor
  · rintro ⟨⟨key, total⟩, isDay, rfl⟩
    rcases (mem_groupSum.mp isDay).1 with ⟨row, inWindow, rfl⟩
    rw [List.mem_filter, decide_eq_true_eq] at inWindow
    exact ⟨row, inWindow.1, inWindow.2, rfl⟩
  · rintro ⟨row, listed, inWindow, rfl⟩
    refine ⟨(row.dayBandKey, _), mem_groupSum.mpr ⟨⟨row, ?_, rfl⟩, rfl⟩, rfl⟩
    rw [List.mem_filter, decide_eq_true_eq]
    exact ⟨listed, inWindow⟩

variable {baseWindowStart : Int} {days : List (DayBandKey × SuffStats)}

variable {day : DayBandKey × SuffStats}

omit [Rounding] in
/-- The latest day of a cluster is in its window, since no transactions come later. -/
theorem latest_mem_windowedDays (listed : day ∈ days)
    (latest : ∀ other ∈ days, other.1.cluster = day.1.cluster → other.1.txnDate ≤ day.1.txnDate) :
    (day.1.cluster, day.1.txnDate) ∈ windowedDays baseWindowStart days := by
  have noneLater : cumNBefore (dayCounts days) (day.1.cluster, day.1.txnDate) = 0 := by
    rw [cumNBefore, List.filter_eq_nil_iff.mpr, sumOf_nil]
    rintro ⟨⟨cluster, date⟩, total⟩ isCount
    rcases (mem_groupSum.mp isCount).1 with ⟨other, isDay, same⟩
    cases same
    rw [decide_eq_true_eq]
    rintro ⟨sameCluster, later⟩
    exact absurd later (not_lt.mpr (latest other isDay sameCluster))
  rw [windowedDays, List.mem_map]
  refine ⟨_, List.mem_filter.mpr ⟨mem_groupSum.mpr ⟨⟨day, listed, rfl⟩, rfl⟩, ?_⟩, rfl⟩
  rw [decide_eq_true_eq, noneLater]
  exact Or.inr (by norm_num [minSamples])

omit [Rounding] in
/-- The window of a cluster has transactions of the cluster. -/
theorem exists_mem_windowedDays (listed : day ∈ days) :
    ∃ other ∈ days, other.1.cluster = day.1.cluster ∧
      (other.1.cluster, other.1.txnDate) ∈ windowedDays baseWindowStart days := by
  let own := days.filter fun other => other.1.cluster = day.1.cluster
  have isOwn : ∀ other, other ∈ own ↔ other ∈ days ∧ other.1.cluster = day.1.cluster := by
    intro other
    rw [List.mem_filter, decide_eq_true_eq]
  cases isMax : own.argmax fun other => other.1.txnDate with
  | none =>
      rw [List.argmax_eq_none] at isMax
      have dayOwn := (isOwn day).mpr ⟨listed, rfl⟩
      rw [isMax] at dayOwn
      cases dayOwn
  | some last =>
      have lastOwn := (isOwn last).mp (List.argmax_mem isMax)
      refine ⟨last, lastOwn.1, lastOwn.2, latest_mem_windowedDays lastOwn.1 ?_⟩
      intro other isDay same
      have otherOwn := (isOwn other).mpr ⟨isDay, same.trans lastOwn.2⟩
      exact List.le_of_mem_argmax (f := fun day => day.1.txnDate) otherOwn isMax

variable {cluster : ClusterKey}

omit [Rounding] in
theorem mem_map_fst_wholeStats :
    cluster ∈ (wholeStats (perBand baseWindowStart days)).map Prod.fst ↔
      ∃ day ∈ days, day.1.cluster = cluster := by
  rw [wholeStats, map_fst_groupSum, mem_groupKeys]
  constructor
  · rintro ⟨⟨key, total⟩, isBand, rfl⟩
    rcases (mem_groupSum.mp isBand).1 with ⟨day, windowed, rfl⟩
    exact ⟨day, List.mem_of_mem_filter windowed, rfl⟩
  · rintro ⟨day, listed, rfl⟩
    rcases exists_mem_windowedDays listed with ⟨other, isDay, same, windowed⟩
    refine ⟨((other.1.cluster, other.1.band), _), mem_groupSum.mpr ⟨⟨other, ?_, rfl⟩, rfl⟩, same⟩
    rw [List.mem_filter, decide_eq_true_eq]
    exact ⟨isDay, windowed⟩

theorem map_cluster_fitSql :
    (fitSql account reportDate rows).map FeeModelRow.cluster =
      (wholeStats (perBand (windowStart baseWindowDays rows)
        (dayBand (windowStart maxWindowDays rows) rows))).map Prod.fst := by
  rw [fitSql, List.map_map]
  rfl

/-- A cluster is fitted if it has transactions in the greatest window. -/
theorem mem_map_cluster_fitSql {account : Account} {reportDate : Int} {rows : List DailyStat} :
    cluster ∈ (fitSql account reportDate rows).map FeeModelRow.cluster ↔
      ∃ row ∈ rows, windowStart maxWindowDays rows ≤ row.bucket.txnDate ∧
        row.bucket.cluster = cluster := by
  rw [map_cluster_fitSql, mem_map_fst_wholeStats, exists_mem_dayBand_iff]

/-- Every cluster is fitted once. -/
theorem nodup_map_cluster_fitSql :
    ((fitSql account reportDate rows).map FeeModelRow.cluster).Nodup := by
  rw [map_cluster_fitSql, wholeStats, map_fst_groupSum]
  exact nodup_groupKeys _ _

theorem key_of_mem_fitSql {account : Account} {reportDate : Int} {rows : List DailyStat}
    {row : FeeModelRow} (fitted : row ∈ fitSql account reportDate rows) :
    row.account = account ∧ row.reportDate = reportDate := by
  rcases List.mem_map.mp fitted with ⟨whole, -, rfl⟩
  exact ⟨rfl, rfl⟩

/-! ## Tiered clusters -/

theorem tiersOf_nil : tiersOf [] = none := by
  have notClean : isCleanRecovery (segmentCluster []) = false := rfl
  rw [tiersOf, notClean]
  exact ite_self none

variable {segs : List Segment}

theorem mem_map_cluster_of_tiersOf {stats : List ((ClusterKey × Int) × SuffStats)}
    (tiered : tiersOf (bandsOf stats cluster) = some segs) :
    cluster ∈ stats.map fun row => row.1.1 := by
  by_contra absent
  have noBands : bandsOf stats cluster = [] := by
    rw [bandsOf, List.filter_eq_nil_iff.mpr]
    · rfl
    · intro row isRow
      rw [decide_eq_true_eq]
      rintro rfl
      exact absent (List.mem_map_of_mem isRow)
  rw [noBands, tiersOf_nil] at tiered
  cases tiered

/-- The clusters with tiers and their tiers, in some order. -/
theorem mem_segmentClusters {order : IterationOrder ClusterKey Bands}
    {stats : List ((ClusterKey × Int) × SuffStats)} :
    (cluster, segs) ∈ segmentClusters order stats ↔
      tiersOf (bandsOf stats cluster) = some segs := by
  rw [segmentClusters, List.mem_filterMap]
  constructor
  · rintro ⟨⟨other, bands⟩, met, tiered⟩
    rcases Option.map_eq_some_iff.mp tiered with ⟨own, isTiers, same⟩
    cases same
    rw [IterationOrder.mem_entries, lookup_insertKeys, AList.lookup_empty] at met
    split at met
    · cases met
      exact isTiers
    · cases met
  · intro tiered
    refine ⟨(cluster, bandsOf stats cluster), ?_, by rw [tiered]; rfl⟩
    rw [IterationOrder.mem_entries, lookup_insertKeys]
    by_cases listed : cluster ∈ stats.map fun row => row.1.1
    · rw [if_pos listed]
    · exact absurd (mem_map_cluster_of_tiersOf tiered) listed

theorem nodup_map_fst_segmentClusters (stats : List ((ClusterKey × Int) × SuffStats)) :
    ((segmentClusters order stats).map Prod.fst).Nodup := by
  have distinct := order.nodup_keys (insertKeys ∅ (stats.map fun row => row.1.1) (bandsOf stats))
  rw [IterationOrder.keys] at distinct
  apply List.Nodup.sublist _ distinct
  rw [segmentClusters]
  induction order.entries (insertKeys ∅ (stats.map fun row => row.1.1) (bandsOf stats)) with
  | nil => exact List.Sublist.refl []
  | cons entry rest ih =>
      cases tiered : tiersOf entry.2 with
      | none =>
          rw [List.filterMap_cons_none (by rw [tiered]; rfl)]
          exact ih.cons entry.1
      | some segs =>
          rw [List.filterMap_cons_some (by rw [tiered]; rfl)]
          exact ih.cons_cons entry.1

omit [Rounding]

variable {row : SegmentRow}

theorem mem_tierRows {account : Account} {reportDate : Int} {entry : ClusterKey × List Segment} :
    row ∈ tierRows account reportDate entry ↔
      row.account = account ∧ row.reportDate = reportDate ∧ row.cluster = entry.1 ∧
        entry.2[row.segIdx]? = some row.segment := by
  rw [tierRows, List.mem_mapIdx]
  constructor
  · rintro ⟨idx, inside, rfl⟩
    exact ⟨rfl, rfl, rfl, List.getElem?_eq_getElem inside⟩
  · rcases row with ⟨date, own, cluster, idx, segment⟩
    rintro ⟨rfl, rfl, rfl, isSegment⟩
    rcases List.getElem?_eq_some_iff.mp isSegment with ⟨inside, same⟩
    exact ⟨idx, inside, congrArg (SegmentRow.mk date own entry.1 idx) same⟩

theorem map_segIdx_tierRows (entry : ClusterKey × List Segment) :
    (tierRows account reportDate entry).map SegmentRow.segIdx = List.range entry.2.length := by
  rw [tierRows, List.mapIdx_eq_zipIdx_map, List.map_map, List.range_eq_range',
    ← List.zipIdx_map_snd]
  rfl

variable {clusters : List (ClusterKey × List Segment)}

theorem mem_segmentRows {account : Account} {reportDate : Int} :
    row ∈ segmentRows account reportDate clusters ↔
      row.account = account ∧ row.reportDate = reportDate ∧
        ∃ segs, (row.cluster, segs) ∈ clusters ∧ segs[row.segIdx]? = some row.segment := by
  rw [segmentRows, List.mem_flatMap]
  constructor
  · rintro ⟨⟨cluster, segs⟩, listed, isRow⟩
    rcases mem_tierRows.mp isRow with ⟨sameAccount, sameDate, rfl, isSegment⟩
    exact ⟨sameAccount, sameDate, segs, listed, isSegment⟩
  · rintro ⟨sameAccount, sameDate, segs, listed, isSegment⟩
    exact ⟨(row.cluster, segs), listed, mem_tierRows.mpr ⟨sameAccount, sameDate, rfl, isSegment⟩⟩

/-- The rows of tiers have distinct keys if the clusters differ in more than the funding. -/
theorem nodup_sortKey_segmentRows {account : Account} {reportDate : Int}
    (distinct : (clusters.map fun entry => entry.1.withoutFunding).Nodup) :
    ((segmentRows account reportDate clusters).map SegmentRow.sortKey).Nodup := by
  rw [segmentRows, List.map_flatMap, List.nodup_flatMap]
  constructor
  · intro entry listed
    apply List.Nodup.of_map fun key : Account × Int × UnfundedKey × ℕ => key.2.2.2
    have indices := map_segIdx_tierRows account reportDate entry
    rw [List.map_map]
    exact indices ▸ List.nodup_range
  · rw [List.Nodup, List.pairwise_map] at distinct
    apply distinct.imp
    intro first second differ key inFirst inSecond
    rcases List.mem_map.mp inFirst with ⟨row, isRow, rfl⟩
    rcases List.mem_map.mp inSecond with ⟨other, isOther, same⟩
    have sameKey : other.cluster.withoutFunding = row.cluster.withoutFunding :=
      congrArg (fun key => key.2.2.1) same
    rw [(mem_tierRows.mp isRow).2.2.1, (mem_tierRows.mp isOther).2.2.1] at sameKey
    exact differ sameKey.symm

end Query

end DecisionEngine.CostIngestion
