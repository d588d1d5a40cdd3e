import DecisionEngine.CostIngestion.Fit

/-!
# Storage of the fitted clusters

The fit groups on all columns of a cluster, and the tables of its results keep one row for
each value of a sort key without the funding.  Every fitted cluster is in the tables exactly
when no two clusters of the fit differ in the funding alone.
-/

namespace DecisionEngine.CostIngestion

open Database Map

section Stored

variable [Rounding]

/-! ## What the tables keep -/

/-- The stored models of an account and day for a cluster, each sort key once. -/
def storedModels (tables : CostTables) (account : Account) (reportDate : Int)
    (cluster : ClusterKey) : List FeeModelRow :=
  (final FeeModelRow.sortKey tables.feeModel).filter fun row =>
    row.account = account ∧ row.reportDate = reportDate ∧ row.cluster = cluster

/-- The stored segments of an account and day for a piece of a cluster. -/
def storedSegments (tables : CostTables) (account : Account) (reportDate : Int)
    (cluster : ClusterKey) (segIdx : ℕ) : List SegmentRow :=
  (final SegmentRow.sortKey tables.segments).filter fun row =>
    row.account = account ∧ row.reportDate = reportDate ∧ row.cluster = cluster ∧
      row.segIdx = segIdx

/-- After a fit, a final read returns exactly the fitted row of every fitted cluster, and of
every piece of a cluster with tiers. -/
def EveryFitStored (account : Account) (refit : Refit) (tables : CostTables) : Prop :=
  (∀ row ∈ fitSql account refit.reportDate (accountStats account tables.dailyStats),
    storedModels (fitSnapshot account refit tables) account refit.reportDate row.cluster =
      [row]) ∧
  ∀ row ∈ segmentRows account refit.reportDate
      (segmentClusters refit.clusterOrder (segmentStats (accountStats account tables.dailyStats))),
    storedSegments (fitSnapshot account refit tables) account refit.reportDate row.cluster
      row.segIdx = [row]

/-- Rows of the greatest window that agree on the other columns of a cluster agree on the
funding. -/
def FundingDetermined (rows : List DailyStat) : Prop :=
  ∀ first ∈ rows, ∀ second ∈ rows,
    windowStart maxWindowDays rows ≤ first.bucket.txnDate →
    windowStart maxWindowDays rows ≤ second.bucket.txnDate →
    first.bucket.cluster.withoutFunding = second.bucket.cluster.withoutFunding →
    first.bucket.cluster.funding = second.bucket.cluster.funding

/-! ## Clusters that differ in more than the funding -/

omit [Rounding] in
theorem ClusterKey.eq_of_withoutFunding {first second : ClusterKey}
    (same : first.withoutFunding = second.withoutFunding)
    (sameFunding : first.funding = second.funding) : first = second := by
  rcases first with ⟨_, _, _, _, _, _, _⟩
  rcases second with ⟨_, _, _, _, _, _, _⟩
  cases same
  cases sameFunding
  rfl

variable {account : Account} {reportDate : Int} {rows : List DailyStat}

theorem eq_of_mem_fitSql (determined : FundingDetermined rows) {first second : FeeModelRow}
    (firstFitted : first ∈ fitSql account reportDate rows)
    (secondFitted : second ∈ fitSql account reportDate rows)
    (same : first.cluster.withoutFunding = second.cluster.withoutFunding) : first = second := by
  rcases mem_map_cluster_fitSql.mp (List.mem_map_of_mem firstFitted) with
    ⟨row, listed, inWindow, isFirst⟩
  rcases mem_map_cluster_fitSql.mp (List.mem_map_of_mem secondFitted) with
    ⟨other, otherListed, otherInWindow, isSecond⟩
  rw [← isFirst, ← isSecond] at same
  have sameCluster := ClusterKey.eq_of_withoutFunding same
    (determined row listed other otherListed inWindow otherInWindow same)
  rw [isFirst, isSecond] at sameCluster
  exact List.inj_on_of_nodup_map (nodup_map_cluster_fitSql account reportDate rows) firstFitted
    secondFitted sameCluster

theorem nodup_sortKey_fitSql (determined : FundingDetermined rows) :
    ((fitSql account reportDate rows).map FeeModelRow.sortKey).Nodup := by
  apply List.Nodup.map_on
  · intro first firstFitted second secondFitted same
    exact eq_of_mem_fitSql determined firstFitted secondFitted (Prod.mk.inj (Prod.mk.inj same).2).2
  · exact (nodup_map_cluster_fitSql account reportDate rows).of_map _

omit [Rounding] in
theorem windowStart_max_le_base (rows : List DailyStat) :
    windowStart maxWindowDays rows ≤ windowStart baseWindowDays rows := by
  rw [windowStart, windowStart]
  cases latestDay rows with
  | none => exact le_refl 0
  | some day => exact Int.sub_le_sub_left (by decide) day

/-- A cluster with tiers has transactions in the greatest window. -/
theorem exists_mem_of_tiersOf {cluster : ClusterKey} {segs : List Segment}
    (tiered : tiersOf (bandsOf (segmentStats rows) cluster) = some segs) :
    ∃ row ∈ rows, windowStart maxWindowDays rows ≤ row.bucket.txnDate ∧
      row.bucket.cluster = cluster := by
  rcases List.mem_map.mp (mem_map_cluster_of_tiersOf tiered) with ⟨⟨key, total⟩, isStat, rfl⟩
  rcases (mem_groupSum.mp isStat).1 with ⟨row, inWindow, rfl⟩
  rw [List.mem_filter, decide_eq_true_eq] at inWindow
  exact ⟨row, inWindow.1, (windowStart_max_le_base rows).trans inWindow.2, rfl⟩

/-- Clusters with tiers differ in more than the funding. -/
def TiersDetermined (stats : List ((ClusterKey × Int) × SuffStats)) : Prop :=
  ∀ first second firstSegs secondSegs, tiersOf (bandsOf stats first) = some firstSegs →
    tiersOf (bandsOf stats second) = some secondSegs →
    first.withoutFunding = second.withoutFunding → first = second

theorem tiersDetermined_of_fundingDetermined (determined : FundingDetermined rows) :
    TiersDetermined (segmentStats rows) := by
  intro first second firstSegs secondSegs firstTiered secondTiered same
  rcases exists_mem_of_tiersOf firstTiered with ⟨row, listed, inWindow, isFirst⟩
  rcases exists_mem_of_tiersOf secondTiered with ⟨other, otherListed, otherInWindow, isSecond⟩
  have sameFunding := determined row listed other otherListed inWindow otherInWindow
    (by rw [isFirst, isSecond, same])
  rw [isFirst, isSecond] at sameFunding
  exact ClusterKey.eq_of_withoutFunding same sameFunding

theorem nodup_withoutFunding_segmentClusters {stats : List ((ClusterKey × Int) × SuffStats)}
    (determined : TiersDetermined stats) (order : IterationOrder ClusterKey Bands) :
    ((segmentClusters order stats).map fun entry => entry.1.withoutFunding).Nodup := by
  have distinct := nodup_map_fst_segmentClusters order stats
  apply List.Nodup.map_on
  · intro first firstListed second secondListed same
    have sameCluster := determined first.1 second.1 first.2 second.2
      (mem_segmentClusters.mp firstListed) (mem_segmentClusters.mp secondListed) same
    exact List.inj_on_of_nodup_map distinct firstListed secondListed sameCluster
  · exact distinct.of_map _

/-! ## When every fitted cluster is stored -/

/-- A fit with models replaces those of its day. -/
theorem refreshModels_of_mem {stored : List FeeModelRow} {row : FeeModelRow}
    (fitted : row ∈ fitSql account reportDate rows) :
    refreshModels account reportDate rows stored =
      (stored.filter fun row => ¬ (row.account = account ∧ row.reportDate = reportDate)) ++
        fitSql account reportDate rows := by
  have isKey := key_of_mem_fitSql fitted
  have counted : row ∈ ((stored.filter fun row =>
      ¬ (row.account = account ∧ row.reportDate = reportDate)) ++
        fitSql account reportDate rows).filter fun row =>
          row.account = account ∧ row.reportDate = reportDate := by
    rw [List.mem_filter, decide_eq_true_eq]
    exact ⟨List.mem_append_right _ fitted, isKey⟩
  have notEmpty := List.ne_nil_of_mem counted
  rw [refreshModels]
  apply if_neg
  intro purged
  rw [shouldPurgeEmpty, decide_eq_true_eq] at purged
  exact notEmpty (List.length_eq_zero_iff.mp purged.1)

theorem refreshSegments_of_mem {refit : Refit} {stored : List SegmentRow} {row : SegmentRow}
    (listed : row ∈ segmentRows account refit.reportDate
      (segmentClusters refit.clusterOrder (segmentStats rows))) :
    refreshSegments account refit rows stored =
      (stored.filter fun row =>
        ¬ (row.account = account ∧ row.reportDate = refit.reportDate)) ++
        segmentRows account refit.reportDate
          (segmentClusters refit.clusterOrder (segmentStats rows)) := by
  rw [refreshSegments]
  apply if_neg
  intro empty
  rw [List.isEmpty_iff] at empty
  rw [empty] at listed
  cases listed

omit [Rounding] in
theorem mem_final_of_storedModels {tables : CostTables} {row : FeeModelRow}
    (stored : storedModels tables account reportDate row.cluster = [row]) :
    row ∈ final FeeModelRow.sortKey tables.feeModel := by
  have kept : row ∈ storedModels tables account reportDate row.cluster := by
    rw [stored]
    exact List.mem_cons_self
  exact List.mem_of_mem_filter kept

/-- Every fitted cluster is stored exactly when no two clusters of the window differ in the
funding alone. -/
theorem everyFitStored_iff (account : Account) (refit : Refit) (tables : CostTables) :
    EveryFitStored account refit tables ↔
      FundingDetermined (accountStats account tables.dailyStats) := by
  constructor
  · rintro ⟨modelsStored, -⟩ first firstListed second secondListed inWindow otherInWindow same
    have isFitted : ∀ row ∈ accountStats account tables.dailyStats,
        windowStart maxWindowDays (accountStats account tables.dailyStats) ≤
          row.bucket.txnDate →
        ∃ model ∈ fitSql account refit.reportDate (accountStats account tables.dailyStats),
          model.cluster = row.bucket.cluster := fun row listed inWindow =>
      List.mem_map.mp (mem_map_cluster_fitSql.mpr ⟨row, listed, inWindow, rfl⟩)
    rcases isFitted first firstListed inWindow with ⟨firstRow, firstFitted, isFirst⟩
    rcases isFitted second secondListed otherInWindow with ⟨secondRow, secondFitted, isSecond⟩
    have firstKey := key_of_mem_fitSql firstFitted
    have secondKey := key_of_mem_fitSql secondFitted
    have sameKey : firstRow.sortKey = secondRow.sortKey := by
      rw [FeeModelRow.sortKey, FeeModelRow.sortKey, firstKey.1, firstKey.2, secondKey.1,
        secondKey.2, isFirst, isSecond, same]
    -- One row of a sort key is left, so both clusters are that row's.
    have sameRow := List.inj_on_of_nodup_map (nodup_map_final FeeModelRow.sortKey _)
      (mem_final_of_storedModels (modelsStored firstRow firstFitted))
      (mem_final_of_storedModels (modelsStored secondRow secondFitted)) sameKey
    rw [← isFirst, ← isSecond, sameRow]
  · intro determined
    constructor
    · intro row fitted
      have isKey := key_of_mem_fitSql fitted
      apply filter_eq_singleton (nodup_map_final FeeModelRow.sortKey _)
      · rw [fitSnapshot, refreshModels_of_mem fitted]
        exact mem_final_append (nodup_sortKey_fitSql determined) fitted
      · rw [decide_eq_true_eq]
        exact ⟨isKey.1, isKey.2, rfl⟩
      · intro other _ isOther
        rw [decide_eq_true_eq] at isOther
        rw [FeeModelRow.sortKey, FeeModelRow.sortKey, isOther.1, isOther.2.1, isOther.2.2,
          isKey.1, isKey.2]
    · intro row listed
      have isRow := mem_segmentRows.mp listed
      apply filter_eq_singleton (nodup_map_final SegmentRow.sortKey _)
      · rw [fitSnapshot, refreshSegments_of_mem listed]
        exact mem_final_append
          (nodup_sortKey_segmentRows (nodup_withoutFunding_segmentClusters
            (tiersDetermined_of_fundingDetermined determined) _)) listed
      · rw [decide_eq_true_eq]
        exact ⟨isRow.1, isRow.2.1, rfl, rfl⟩
      · intro other _ isOther
        rw [decide_eq_true_eq] at isOther
        rw [SegmentRow.sortKey, SegmentRow.sortKey, isOther.1, isOther.2.1, isOther.2.2.1,
          isOther.2.2.2, isRow.1, isRow.2.1]

end Stored

/-! ## A card scheme with both fundings -/

/-- A transaction of a co-badged card, whose funding is told by the interchange rate. -/
def coBadgedRow (icBps : ℚ) : SettledFeeRow where
  cardNetwork := "cartebancaire"
  variant := "cartebancaire"
  funding := resolveFunding "cartebancaire" (some icBps)
  issuerCountry := "FR"
  currency := "EUR"
  icCategory := ""
  icBps := icBpsKey (some icBps)
  txnDate := some 20000
  channel := "ecom"
  gross := 100
  totalFee := 1
  bin := ""

def coBadgedAccount : Account :=
  ⟨"adyen", "AcmeEcom", "acme"⟩

/-- The tables after a report with two rates that round to the same card product. -/
def coBadgedTables [Rounding] : CostTables where
  toStagedTables := stageReport coBadgedAccount ⟨"upload", 20010, .stored, .stored, .stored⟩
    [coBadgedRow 25, coBadgedRow (254 / 10)] ⟨[], []⟩
  feeModel := []
  segments := []

/-- The two rates are counted as debit and as credit, and of their two models only one is
left. -/
theorem not_everyFitStored_coBadged :
    ¬ @EveryFitStored .decimal coBadgedAccount ⟨20010, .stored⟩ (@coBadgedTables .decimal) := by
  let _ : Rounding := .decimal
  intro stored
  have lost : ∃ row ∈ fitSql coBadgedAccount 20010
      (accountStats coBadgedAccount coBadgedTables.dailyStats),
      storedModels (fitSnapshot coBadgedAccount ⟨20010, .stored⟩ coBadgedTables)
        coBadgedAccount 20010 row.cluster ≠ [row] := by decide +kernel
  rcases lost with ⟨row, fitted, notStored⟩
  exact notStored (stored.1 row fitted)

end DecisionEngine.CostIngestion
