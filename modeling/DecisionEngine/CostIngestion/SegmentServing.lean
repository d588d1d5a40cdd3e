import DecisionEngine.CostIngestion.FitStorage
import DecisionEngine.Transition.Run

/-!
# Served segments

The query that loads the segments for serving takes the rows of the latest date of each
account.  A fit replaces the rows of its own date only, so that the segments served are
those of the last fit as long as no rows of another date outlive it.
-/

namespace DecisionEngine.CostIngestion

open Database Map Transition

/-! ## The query -/

/-- The account has no segments of a later date. -/
def SegmentRow.isLatest (rows : List SegmentRow) (row : SegmentRow) : Bool :=
  rows.all fun other => other.account = row.account → other.reportDate ≤ row.reportDate

/-- The segments of the latest date of each account of a merchant. -/
def latestSegments (merchantId : String) (rows : List SegmentRow) : List SegmentRow :=
  (final SegmentRow.sortKey rows).filter fun row =>
    0 < row.segment.vol ∧ row.account.merchantId = merchantId ∧ row.isLatest rows

/-- The volume of an account's ladder for a cluster. -/
def ladderVol (latest : List SegmentRow) (row : SegmentRow) : ℚ :=
  sumOf (fun other => other.segment.vol) (latest.filter fun other =>
    other.account = row.account ∧ other.cluster = row.cluster)

/-- No other account of the connector has a greater ladder for the cluster. -/
def SegmentRow.isDominant (latest : List SegmentRow) (row : SegmentRow) : Bool :=
  latest.all fun other =>
    other.account.connector = row.account.connector ∧ other.cluster = row.cluster →
      ladderVol latest other ≤ ladderVol latest row

/-- The segments that a merchant is served with. -/
def segmentSql (merchantId : String) (rows : List SegmentRow) : List SegmentRow :=
  let latest := latestSegments merchantId rows
  latest.filter fun row => row.isDominant latest

/-- The segments that a cluster of the account's merchant and connector is served with. -/
def servedTiers (account : Account) (rows : List SegmentRow) (cluster : ClusterKey) :
    List Segment :=
  (((segmentSql account.merchantId rows).filter fun row =>
    row.account.connector = account.connector ∧ row.cluster = cluster).insertionSort
      fun first second => first.segIdx ≤ second.segIdx).map SegmentRow.segment

/-! ## Ladders of one account -/

theorem isLatest_final (rows : List SegmentRow) (row : SegmentRow) :
    row.isLatest (final SegmentRow.sortKey rows) = row.isLatest rows := by
  rw [Bool.eq_iff_iff, SegmentRow.isLatest, SegmentRow.isLatest, List.all_eq_true,
    List.all_eq_true]
  constructor
  · intro latest other listed
    have hasLast : other.sortKey ∈ (final SegmentRow.sortKey rows).map SegmentRow.sortKey :=
      mem_map_final.mpr (List.mem_map_of_mem listed)
    rcases List.mem_map.mp hasLast with ⟨last, kept, same⟩
    have sameAccount : last.account = other.account := congrArg (fun key => key.1) same
    have sameDate : last.reportDate = other.reportDate := congrArg (fun key => key.2.1) same
    rw [← sameAccount, ← sameDate]
    exact latest last kept
  · intro latest other kept
    exact latest other (mem_of_mem_final kept)

/-- Merging the rows does not change what is served. -/
theorem servedTiers_final (account : Account) (rows : List SegmentRow) (cluster : ClusterKey) :
    servedTiers account (final SegmentRow.sortKey rows) cluster =
      servedTiers account rows cluster := by
  have sameLatest : latestSegments account.merchantId (final SegmentRow.sortKey rows) =
      latestSegments account.merchantId rows := by
    rw [latestSegments, latestSegments, final_of_nodup (nodup_map_final SegmentRow.sortKey rows)]
    simp only [isLatest_final]
  rw [servedTiers, servedTiers, segmentSql, segmentSql, sameLatest]

/-- The ladders of a single account are all dominant. -/
theorem isDominant_of_own {account : Account} {latest : List SegmentRow}
    (own : ∀ row ∈ latest, row.account = account) {row : SegmentRow} (listed : row ∈ latest) :
    row.isDominant latest := by
  rw [SegmentRow.isDominant, List.all_eq_true]
  intro other otherListed
  rw [decide_eq_true_eq]
  rintro ⟨-, sameCluster⟩
  rw [ladderVol, ladderVol, own row listed, own other otherListed, sameCluster]

theorem segmentSql_of_own {account : Account} {rows : List SegmentRow}
    (own : ∀ row ∈ rows, row.account = account) (merchantId : String) :
    segmentSql merchantId rows = latestSegments merchantId rows := by
  have ownLatest : ∀ row ∈ latestSegments merchantId rows, row.account = account :=
    fun row listed => own row (mem_of_mem_final (List.mem_of_mem_filter listed))
  rw [segmentSql]
  exact List.filter_eq_self.mpr fun row listed => isDominant_of_own ownLatest listed

section Rows

variable {account : Account} {reportDate : Int} {stored inserted : List SegmentRow}

/-- Inserted rows of a later date are the latest ones. -/
theorem latestSegments_append (distinct : (inserted.map SegmentRow.sortKey).Nodup)
    (isInserted : ∀ row ∈ inserted,
      row.account = account ∧ row.reportDate = reportDate ∧ 0 < row.segment.vol)
    (nonempty : inserted ≠ [])
    (isEarlier : ∀ row ∈ stored, row.account = account ∧ row.reportDate < reportDate) :
    latestSegments account.merchantId (stored ++ inserted) = inserted := by
  rcases List.exists_mem_of_ne_nil inserted nonempty with ⟨last, lastListed⟩
  rw [latestSegments, final_append, final_of_nodup distinct, List.filter_append,
    List.filter_eq_nil_iff.mpr, List.nil_append, List.filter_eq_self]
  · intro row listed
    have isRow := isInserted row listed
    rw [decide_eq_true_eq, SegmentRow.isLatest, List.all_eq_true]
    refine ⟨isRow.2.2, by rw [isRow.1], ?_⟩
    intro other present
    rw [decide_eq_true_eq, isRow.2.1]
    intro _
    rcases List.mem_append.mp present with before | otherInserted
    · exact (isEarlier other before).2.le
    · exact (isInserted other otherInserted).2.1.le
  · intro row kept
    have isRow := isEarlier row (mem_of_mem_final (List.mem_of_mem_filter kept))
    rw [decide_eq_true_eq, SegmentRow.isLatest, List.all_eq_true]
    rintro ⟨-, -, latest⟩
    have later := latest last (List.mem_append_right stored lastListed)
    rw [decide_eq_true_eq] at later
    have isLast := isInserted last lastListed
    have notLater := later (isLast.1.trans isRow.1.symm)
    rw [isLast.2.1] at notLater
    exact absurd isRow.2 (not_lt.mpr notLater)

theorem map_segment_tierRows (entry : ClusterKey × List Segment) :
    (tierRows account reportDate entry).map SegmentRow.segment = entry.2 := by
  rw [tierRows, List.mapIdx_eq_zipIdx_map, List.map_map]
  exact List.zipIdx_map_fst 0 entry.2

theorem insertionSort_tierRows (entry : ClusterKey × List Segment) :
    (tierRows account reportDate entry).insertionSort
      (fun first second => first.segIdx ≤ second.segIdx) = tierRows account reportDate entry := by
  apply List.Pairwise.insertionSort_eq
  have ascending : ((tierRows account reportDate entry).map SegmentRow.segIdx).Pairwise (· ≤ ·) :=
    map_segIdx_tierRows account reportDate entry ▸ List.pairwise_le_range
  exact List.pairwise_map.mp ascending

/-- The rows of a cluster are those of its tiers. -/
theorem filter_cluster_segmentRows {clusters : List (ClusterKey × List Segment)}
    (distinct : (clusters.map Prod.fst).Nodup) (cluster : ClusterKey) :
    (segmentRows account reportDate clusters).filter (fun row => row.cluster = cluster) =
      ((clusters.find? fun entry => entry.1 = cluster).map
        (tierRows account reportDate)).getD [] := by
  induction clusters with
  | nil => rfl
  | cons entry rest ih =>
      rw [List.map_cons, List.nodup_cons] at distinct
      have split : segmentRows account reportDate (entry :: rest) =
          tierRows account reportDate entry ++ segmentRows account reportDate rest := rfl
      have sameCluster : ∀ row ∈ tierRows account reportDate entry, row.cluster = entry.1 :=
        fun row listed => (mem_tierRows.mp listed).2.2.1
      rw [split, List.filter_append, ih distinct.2]
      by_cases isFirst : entry.1 = cluster
      · have notLater : rest.find? (fun entry => entry.1 = cluster) = none := by
          rw [List.find?_eq_none]
          intro other listed
          rw [decide_eq_true_eq]
          rintro rfl
          exact distinct.1 (isFirst ▸ List.mem_map_of_mem listed)
        rw [List.find?_cons_of_pos (by rw [decide_eq_true_eq]; exact isFirst), notLater,
          List.filter_eq_self.mpr]
        · exact List.append_nil _
        · intro row listed
          rw [decide_eq_true_eq, sameCluster row listed, isFirst]
      · rw [List.find?_cons_of_neg (by rw [decide_eq_true_eq]; exact isFirst),
          List.filter_eq_nil_iff.mpr, List.nil_append]
        intro row listed
        rw [decide_eq_true_eq, sameCluster row listed]
        exact isFirst

end Rows

/-! ## A fit replaces the served segments -/

section Tiers

variable [Rounding] {account : Account}

/-- The tiers that a fit of the stored data gives a cluster. -/
def currentTiers (account : Account) (dailyStats : List DailyStat) (cluster : ClusterKey) :
    Option (List Segment) :=
  tiersOf (bandsOf (segmentStats (accountStats account dailyStats)) cluster)

/-- Every cluster is served with the tiers of the data, and without tiers with nothing. -/
def TiersFresh (account : Account) (tables : CostTables) : Prop :=
  ∀ cluster, servedTiers account tables.segments cluster =
    (currentTiers account tables.dailyStats cluster).getD []

/-- The stored segments that a fit does not replace are of earlier dates, there are none if
the data gives no tiers, and the clusters with tiers differ in more than the funding. -/
structure ReplacesTiers (account : Account) (refit : Refit) (tables : CostTables) : Prop where
  notLater : ∀ row ∈ tables.segments, row.account = account → row.reportDate ≤ refit.reportDate
  noneLeft : (∀ cluster, currentTiers account tables.dailyStats cluster = none) →
    ∀ row ∈ tables.segments, row.account = account → row.reportDate = refit.reportDate
  determined : TiersDetermined (segmentStats (accountStats account tables.dailyStats))

variable {dailyStats : List DailyStat} {cluster : ClusterKey} {segs : List Segment}

theorem vol_pos_of_currentTiers (positive : ∀ row ∈ dailyStats, 0 < row.stats.sx)
    (tiered : currentTiers account dailyStats cluster = some segs) {segment : Segment}
    (listed : segment ∈ segs) : 0 < segment.vol := by
  rw [(tiersOf_eq_some tiered).1] at listed
  apply vol_pos_of_mem_segmentCluster _ listed
  intro band isBand
  rw [bandsOf, List.mem_insertionSort, List.mem_map] at isBand
  rcases isBand with ⟨⟨key, total⟩, isStat, rfl⟩
  rcases mem_groupSum.mp (List.mem_of_mem_filter isStat) with ⟨⟨row, inWindow, isKey⟩, isTotal⟩
  change 0 < total.sx
  rw [isTotal]
  apply SuffStats.sx_sumOf_pos
  · exact List.ne_nil_of_mem (mem_rowsOf.mpr ⟨inWindow, isKey⟩)
  · intro other isOther
    have ofAccount := List.mem_of_mem_filter (mem_rowsOf.mp isOther).1
    exact positive other (mem_of_mem_final (List.mem_of_mem_filter ofAccount))

/-- The tiers of a cluster are those that the loop over the clusters finds. -/
theorem find?_segmentClusters (order : IterationOrder ClusterKey Bands)
    (dailyStats : List DailyStat) (cluster : ClusterKey) :
    ((segmentClusters order (segmentStats (accountStats account dailyStats))).find? fun entry =>
      entry.1 = cluster) =
      (currentTiers account dailyStats cluster).map fun segs => (cluster, segs) := by
  cases found : (segmentClusters order
      (segmentStats (accountStats account dailyStats))).find? fun entry => entry.1 = cluster with
  | some entry =>
      rcases entry with ⟨own, segs⟩
      have isCluster : own = cluster := of_decide_eq_true (List.find?_some found :)
      have tiered := mem_segmentClusters.mp (List.mem_of_find?_eq_some found)
      rw [← isCluster, currentTiers, tiered]
      rfl
  | none =>
      cases tiered : currentTiers account dailyStats cluster with
      | none => rfl
      | some segs =>
          have listed := List.find?_eq_none.mp found (cluster, segs)
            (mem_segmentClusters.mpr tiered)
          exact absurd (decide_eq_true rfl) listed

variable {reportDate : Int} {order : IterationOrder ClusterKey Bands}

/-- What is served once the rows of a fit are the latest ones. -/
theorem servedTiers_of_latest {rows : List SegmentRow} (own : ∀ row ∈ rows, row.account = account)
    (latest : latestSegments account.merchantId rows =
      segmentRows account reportDate
        (segmentClusters order (segmentStats (accountStats account dailyStats))))
    (cluster : ClusterKey) :
    servedTiers account rows cluster = (currentTiers account dailyStats cluster).getD [] := by
  have onCluster : (segmentRows account reportDate
      (segmentClusters order (segmentStats (accountStats account dailyStats)))).filter
        (fun row => row.account.connector = account.connector ∧ row.cluster = cluster) =
      (segmentRows account reportDate
        (segmentClusters order (segmentStats (accountStats account dailyStats)))).filter
          fun row => row.cluster = cluster := by
    apply List.filter_congr
    intro row listed
    rw [decide_eq_decide, (mem_segmentRows.mp listed).1, eq_self, true_and]
  rw [servedTiers, segmentSql_of_own own, latest, onCluster,
    filter_cluster_segmentRows (nodup_map_fst_segmentClusters order _), find?_segmentClusters]
  cases currentTiers account dailyStats cluster with
  | none => rfl
  | some segs =>
      rw [Option.map_some, Option.map_some, Option.getD_some, insertionSort_tierRows,
        map_segment_tierRows]
      rfl

theorem segments_fitSnapshot (refit : Refit) (tables : CostTables) :
    (fitSnapshot account refit tables).segments =
      (tables.segments.filter fun row =>
        ¬ (row.account = account ∧ row.reportDate = refit.reportDate)) ++
      segmentRows account refit.reportDate (segmentClusters refit.clusterOrder
        (segmentStats (accountStats account tables.dailyStats))) := by
  rw [fitSnapshot, refreshSegments]
  by_cases empty : segmentClusters refit.clusterOrder
      (segmentStats (accountStats account tables.dailyStats)) = []
  · rw [empty]
    exact (List.append_nil _).symm
  · exact if_neg fun isEmpty => empty (List.isEmpty_iff.mp isEmpty)

variable {refit : Refit} {tables : CostTables}

theorem own_fitSnapshot (own : ∀ row ∈ tables.segments, row.account = account) :
    ∀ row ∈ (fitSnapshot account refit tables).segments, row.account = account := by
  intro row listed
  rw [segments_fitSnapshot] at listed
  rcases List.mem_append.mp listed with kept | inserted
  · exact own row (List.mem_of_mem_filter kept)
  · exact (mem_segmentRows.mp inserted).1

/-- Tiers have rows. -/
theorem segmentRows_ne_nil (tiered : currentTiers account dailyStats cluster = some segs) :
    segmentRows account reportDate
      (segmentClusters order (segmentStats (accountStats account dailyStats))) ≠ [] := by
  have atLeastTwo := (tiersOf_eq_some tiered).2
  have inside : 0 < segs.length := by omega
  apply List.ne_nil_of_mem (a := ⟨reportDate, account, cluster, 0, segs[0]⟩)
  exact mem_segmentRows.mpr ⟨rfl, rfl, segs, mem_segmentClusters.mpr tiered,
    List.getElem?_eq_getElem inside⟩

theorem segmentClusters_eq_nil {order : IterationOrder ClusterKey Bands}
    {dailyStats : List DailyStat}
    (noTiers : ∀ cluster, currentTiers account dailyStats cluster = none) :
    segmentClusters order (segmentStats (accountStats account dailyStats)) = [] := by
  rw [List.eq_nil_iff_forall_not_mem]
  intro entry listed
  have isTiers := mem_segmentClusters.mp listed
  exact absurd (isTiers.symm.trans (noTiers entry.1)) (Option.some_ne_none entry.2)

/-- The rows of a fit that replaces the served ones are the latest ones. -/
theorem latestSegments_fitSnapshot (own : ∀ row ∈ tables.segments, row.account = account)
    (positive : ∀ row ∈ tables.dailyStats, 0 < row.stats.sx)
    (replaces : ReplacesTiers account refit tables) :
    latestSegments account.merchantId (fitSnapshot account refit tables).segments =
      segmentRows account refit.reportDate (segmentClusters refit.clusterOrder
        (segmentStats (accountStats account tables.dailyStats))) := by
  have kept : ∀ row ∈ tables.segments.filter (fun row =>
      ¬ (row.account = account ∧ row.reportDate = refit.reportDate)),
      row ∈ tables.segments ∧ row.account = account ∧ row.reportDate ≠ refit.reportDate := by
    intro row listed
    rw [List.mem_filter, decide_eq_true_eq] at listed
    have isOwn := own row listed.1
    exact ⟨listed.1, isOwn, fun sameDate => listed.2 ⟨isOwn, sameDate⟩⟩
  rw [segments_fitSnapshot]
  by_cases tiered : ∃ cluster segs, currentTiers account tables.dailyStats cluster = some segs
  · rcases tiered with ⟨cluster, segs, tiered⟩
    apply latestSegments_append
    · exact nodup_sortKey_segmentRows
        (nodup_withoutFunding_segmentClusters replaces.determined refit.clusterOrder)
    · intro row listed
      rcases mem_segmentRows.mp listed with ⟨isOwn, isDate, own, isTiers, isSegment⟩
      exact ⟨isOwn, isDate, vol_pos_of_currentTiers positive (mem_segmentClusters.mp isTiers)
        (List.mem_of_getElem? isSegment)⟩
    · exact segmentRows_ne_nil tiered
    · intro row listed
      rcases kept row listed with ⟨present, isOwn, otherDate⟩
      exact ⟨isOwn, lt_of_le_of_ne (replaces.notLater row present isOwn) otherDate⟩
  · have noTiers : ∀ cluster, currentTiers account tables.dailyStats cluster = none := by
      intro cluster
      cases isTiers : currentTiers account tables.dailyStats cluster with
      | none => rfl
      | some segs => exact absurd ⟨cluster, segs, isTiers⟩ tiered
    have noRows : (tables.segments.filter fun row =>
        ¬ (row.account = account ∧ row.reportDate = refit.reportDate)) = [] := by
      rw [List.eq_nil_iff_forall_not_mem]
      intro row listed
      rcases kept row listed with ⟨present, isOwn, otherDate⟩
      exact otherDate (replaces.noneLeft noTiers row present isOwn)
    rw [segmentClusters_eq_nil noTiers, noRows]
    rfl

/-- A fit whose rows replace the served ones serves the tiers of the data. -/
theorem tiersFresh_fitSnapshot (own : ∀ row ∈ tables.segments, row.account = account)
    (positive : ∀ row ∈ tables.dailyStats, 0 < row.stats.sx)
    (replaces : ReplacesTiers account refit tables) :
    TiersFresh account (fitSnapshot account refit tables) :=
  servedTiers_of_latest (own_fitSnapshot own) (latestSegments_fitSnapshot own positive replaces)

/-! ## Runs of ingestions, deletions and fits -/

inductive CostEvent where
  | ingest (ingestion : Ingestion) (report : List SettledFeeRow)
      (clusterOrder : IterationOrder ClusterKey Bands)
  | delete (ingestionId : String) (refit : Refit)
  | refit (refit : Refit)
  /-- The database merges the rows that replace each other. -/
  | merge

/-- The tables once the data of an event is there or gone, before its fit. -/
def stageEvent (account : Account) (tables : CostTables) : CostEvent → CostTables
  | .ingest ingestion report _ =>
      { tables with toStagedTables := stageReport account ingestion report tables.toStagedTables }
  | .delete ingestionId _ =>
      { tables with
        dailyStats := tables.dailyStats.filter fun row =>
          ¬ (row.account = account ∧ row.ingestionId = ingestionId) }
  | .refit _ => tables
  | .merge =>
      { tables with
        dailyStats := final DailyStat.sortKey tables.dailyStats
        feeModel := final FeeModelRow.sortKey tables.feeModel
        segments := final SegmentRow.sortKey tables.segments }

/-- The fit that an event ends with. -/
def CostEvent.fit : CostEvent → Option Refit
  | .ingest ingestion _ clusterOrder => some ⟨ingestion.date, clusterOrder⟩
  | .delete _ following => some following
  | .refit own => some own
  | .merge => none

def applyEvent (account : Account) (tables : CostTables) (event : CostEvent) : CostTables :=
  match event.fit with
  | some refit => fitSnapshot account refit (stageEvent account tables event)
  | none => stageEvent account tables event

/-- The fit of an event replaces the served segments. -/
def ReplacesServed (account : Account) (tables : CostTables) (event : CostEvent) : Prop :=
  ∀ refit, event.fit = some refit →
    ReplacesTiers account refit (stageEvent account tables event)

/-- What an account's events keep: its own segments only, volumes, and served tiers. -/
structure TiersKept (account : Account) (tables : CostTables) : Prop where
  own : ∀ row ∈ tables.segments, row.account = account
  positive : ∀ row ∈ tables.dailyStats, 0 < row.stats.sx
  fresh : TiersFresh account tables

theorem positive_stageEvent (account : Account)
    (positive : ∀ row ∈ tables.dailyStats, 0 < row.stats.sx) (event : CostEvent) :
    ∀ row ∈ (stageEvent account tables event).dailyStats, 0 < row.stats.sx := by
  intro row listed
  cases event with
  | ingest ingestion report clusterOrder =>
      rcases List.mem_append.mp listed with before | inserted
      · exact positive row before
      · exact sx_pos_of_mem_intoRows inserted
  | delete ingestionId refit => exact positive row (List.mem_of_mem_filter listed)
  | refit refit => exact positive row listed
  | merge => exact positive row (mem_of_mem_final listed)

variable {tables : CostTables}

theorem own_stageEvent (own : ∀ row ∈ tables.segments, row.account = account) (event : CostEvent) :
    ∀ row ∈ (stageEvent account tables event).segments, row.account = account := by
  intro row listed
  cases event with
  | ingest ingestion report clusterOrder => exact own row listed
  | delete ingestionId refit => exact own row listed
  | refit refit => exact own row listed
  | merge => exact own row (mem_of_mem_final listed)

/-- Merging changes neither the data nor what is served. -/
theorem tiersFresh_merge (fresh : TiersFresh account tables) :
    TiersFresh account (stageEvent account tables .merge) := by
  intro cluster
  have sameData : accountStats account (final DailyStat.sortKey tables.dailyStats) =
      accountStats account tables.dailyStats := by
    rw [accountStats, final_of_nodup (nodup_map_final DailyStat.sortKey _)]
    rfl
  rw [stageEvent, servedTiers_final, currentTiers, sameData]
  exact fresh cluster

theorem tiersKept_applyEvent {event : CostEvent} (kept : TiersKept account tables)
    (replaces : ReplacesServed account tables event) :
    TiersKept account (applyEvent account tables event) := by
  have own := own_stageEvent kept.own event
  have positive := positive_stageEvent account kept.positive event
  cases isFit : event.fit with
  | some refit =>
      rw [applyEvent, isFit]
      exact
        { own := own_fitSnapshot own
          positive
          fresh := tiersFresh_fitSnapshot own positive (replaces refit isFit) }
  | none =>
      cases event with
      | merge => exact { own, positive, fresh := tiersFresh_merge kept.fresh }
      | ingest ingestion report clusterOrder => cases isFit
      | delete ingestionId refit => cases isFit
      | refit refit => cases isFit

/-- Along every run of an account's events whose fits replace the served segments, every
cluster is served with the tiers of the data. -/
theorem tiersFresh_of_run {start tables : CostTables} {trace : List CostEvent}
    (noData : start.dailyStats = []) (noSegments : start.segments = [])
    (run : Run (fun before event after =>
      applyEvent account before event = after ∧ ReplacesServed account before event)
      start trace tables) :
    TiersFresh account tables := by
  have initially : TiersKept account start := by
    constructor
    · intro row listed
      rw [noSegments] at listed
      cases listed
    · intro row listed
      rw [noData] at listed
      cases listed
    · intro cluster
      rw [noSegments, noData]
      rfl
  have keeps : ∀ (trace : List CostEvent) (middle : CostTables) (event : CostEvent)
      (target : CostTables), TiersKept account middle → ReplacesServed account middle event →
        applyEvent account middle event = target → TiersKept account target := by
    rintro trace middle event target kept replaces rfl
    exact tiersKept_applyEvent kept replaces
  exact (run.invariant_of_allowed (fun _ middle => TiersKept account middle) initially keeps).fresh

end Tiers

/-! ## A tiered report that is deleted -/

section Deleted

local instance deletedRounding : Rounding := .decimal

def tieredAccount : Account :=
  ⟨"adyen", "AcmeUae", "acme"⟩

def tieredCluster : ClusterKey :=
  ⟨"visa", "visadebit", "debit", "AE", "AED", "", ""⟩

def tieredRow (gross totalFee : ℚ) : SettledFeeRow where
  cardNetwork := "visa"
  variant := "visadebit"
  funding := "debit"
  issuerCountry := "AE"
  currency := "AED"
  icCategory := ""
  icBps := ""
  txnDate := some 20000
  channel := "ecom"
  gross
  totalFee
  bin := ""

/-- One hundredth of small amounts and one tenth of great ones. -/
def tieredReport : List SettledFeeRow :=
  (List.replicate 13 [tieredRow 100 1, tieredRow 120 (12 / 10), tieredRow 1000 100,
    tieredRow 1200 120]).flatten

def noTables : CostTables :=
  ⟨⟨[], []⟩, [], []⟩

def tieredIngestion : CostEvent :=
  .ingest ⟨"upload", 20010, .stored, .stored, .stored⟩ tieredReport .stored

def tieredTables : CostTables :=
  applyEvent tieredAccount noTables tieredIngestion

/-- The day after, another report of such payments is ingested. -/
def laterIngestion : CostEvent :=
  .ingest ⟨"later", 20011, .stored, .stored, .stored⟩ tieredReport .stored

/-- Both fits store tiers, and the later ones replace those of the day before. -/
theorem tiersFresh_of_run_tiered :
    TiersFresh tieredAccount (applyEvent tieredAccount tieredTables laterIngestion) ∧
      (servedTiers tieredAccount (applyEvent tieredAccount tieredTables laterIngestion).segments
        tieredCluster).length = 2 := by
  have determined {dailyStats : List DailyStat}
      (only : ∀ cluster ∈ (segmentStats (accountStats tieredAccount dailyStats)).map
        (fun row => row.1.1), cluster = tieredCluster) :
      TiersDetermined (segmentStats (accountStats tieredAccount dailyStats)) := by
    intro first second firstSegs secondSegs firstTiered secondTiered _
    rw [only first (mem_map_cluster_of_tiersOf firstTiered),
      only second (mem_map_cluster_of_tiersOf secondTiered)]
  constructor
  · have first : ReplacesServed tieredAccount noTables tieredIngestion := by
      rintro refit ⟨⟩
      refine ⟨?_, ?_, determined ?_⟩
      · intro row listed
        cases listed
      · intro _ row listed
        cases listed
      · decide +kernel
    have second : ReplacesServed tieredAccount tieredTables laterIngestion := by
      rintro refit ⟨⟩
      have earlier : ∀ row ∈ (stageEvent tieredAccount tieredTables laterIngestion).segments,
          row.reportDate ≤ 20011 := by decide +kernel
      have tiered : currentTiers tieredAccount
          (stageEvent tieredAccount tieredTables laterIngestion).dailyStats tieredCluster ≠
            none := by decide +kernel
      refine ⟨fun row listed _ => earlier row listed, fun none => absurd (none _) tiered,
        determined ?_⟩
      decide +kernel
    have isTables : applyEvent tieredAccount noTables tieredIngestion = tieredTables := rfl
    exact tiersFresh_of_run rfl rfl ((Run.single ⟨isTables, first⟩).snoc ⟨rfl, second⟩)
  · decide +kernel

/-- The day after, the report is deleted, and its tiers are still served. -/
theorem not_tiersFresh_deleted :
    ∃ tables, Run (fun before event after => applyEvent tieredAccount before event = after)
      noTables [tieredIngestion, .delete "upload" ⟨20011, .stored⟩] tables ∧
      tables.dailyStats = [] ∧ ¬ TiersFresh tieredAccount tables := by
  refine ⟨_, Run.snoc (Run.single rfl) rfl, by decide +kernel, ?_⟩
  intro fresh
  have served : servedTiers tieredAccount (applyEvent tieredAccount
      (applyEvent tieredAccount noTables tieredIngestion)
      (.delete "upload" ⟨20011, .stored⟩)).segments tieredCluster ≠
      (currentTiers tieredAccount (applyEvent tieredAccount
        (applyEvent tieredAccount noTables tieredIngestion)
        (.delete "upload" ⟨20011, .stored⟩)).dailyStats tieredCluster).getD [] := by
    decide +kernel
  exact served (fresh tieredCluster)

end Deleted

end DecisionEngine.CostIngestion
