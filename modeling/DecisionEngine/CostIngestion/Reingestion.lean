import DecisionEngine.CostIngestion.Fit

/-!
# Ingesting a report again

A report that is ingested again replaces the rows of its buckets.  A bucket depends on the
card products learned so far, which an ingestion itself adds to, and for undated rows on
the day, so that the rows of a report may fall in other buckets the next time.  The sums of
the clusters stay exactly if the report as a whole has the same buckets and sums.
-/

namespace DecisionEngine.CostIngestion

open Database Map

variable [Rounding]

/-- The tables after a report has been ingested a number of times. -/
def ingestTimes (account : Account) (ingestions : ℕ → Ingestion) (report : List SettledFeeRow)
    (tables : StagedTables) : ℕ → StagedTables
  | 0 => tables
  | times + 1 =>
      stageReport account (ingestions times) report
        (ingestTimes account ingestions report tables times)

/-- The sums of a cluster over the daily statistics of an account. -/
def clusterStats (account : Account) (tables : StagedTables) (cluster : ClusterKey) : SuffStats :=
  sumOf DailyStat.stats
    (rowsOf (fun row => row.bucket.cluster) (accountStats account tables.dailyStats) cluster)

/-- However often a report is ingested, the sums of the clusters are those after the first
time. -/
def Reingestible (account : Account) (ingestions : ℕ → Ingestion) (report : List SettledFeeRow)
    (binProduct : List BinProductRow) : Prop :=
  ∀ dailyStats times cluster,
    clusterStats account (ingestTimes account ingestions report ⟨dailyStats, binProduct⟩
      (times + 1)) cluster =
    clusterStats account (ingestTimes account ingestions report ⟨dailyStats, binProduct⟩ 1)
      cluster

/-- The card products that are known after a number of ingestions. -/
def productsAt (account : Account) (ingestions : ℕ → Ingestion) (report : List SettledFeeRow)
    (binProduct : List BinProductRow) (times : ℕ) : BinProductMap :=
  loadBinProduct (ingestions times).productOrder
    (ingestTimes account ingestions report ⟨[], binProduct⟩ times).binProduct

/-- The bucket that a row gets after a number of ingestions. -/
def bucketAt (account : Account) (ingestions : ℕ → Ingestion) (report : List SettledFeeRow)
    (binProduct : List BinProductRow) (times : ℕ) (row : SettledFeeRow) : BucketKey :=
  bucketKey (productsAt account ingestions report binProduct times) (ingestions times).date row

/-- The counted rows of a report have the same buckets as the first time, and the same sums
in every cluster. -/
structure SameBuckets (account : Account) (ingestions : ℕ → Ingestion)
    (report : List SettledFeeRow) (binProduct : List BinProductRow) (times : ℕ) : Prop where
  buckets : ∀ bucket,
    bucket ∈ (counted report).map (bucketAt account ingestions report binProduct times) ↔
      bucket ∈ (counted report).map (bucketAt account ingestions report binProduct 0)
  sums : ∀ cluster,
    sumOf SettledFeeRow.stats (rowsOf
      (fun row => (bucketAt account ingestions report binProduct times row).cluster)
      (counted report) cluster) =
    sumOf SettledFeeRow.stats (rowsOf
      (fun row => (bucketAt account ingestions report binProduct 0 row).cluster)
      (counted report) cluster)

/-! ## One more ingestion -/

/-- The buckets that meet a condition have the sums of the rows whose buckets meet it. -/
theorem sumOf_filter_intoRows (account : Account) (ingestion : Ingestion)
    (binProduct : BinProductMap) (fallbackDate : Int) (report : List SettledFeeRow)
    (holds : BucketKey → Bool) :
    sumOf DailyStat.stats
        ((intoRows account ingestion (aggregate binProduct fallbackDate report)).filter
          fun row => holds row.bucket) =
      sumOf SettledFeeRow.stats
        ((counted report).filter fun row => holds (bucketKey binProduct fallbackDate row)) := by
  let rows := (intoRows account ingestion (aggregate binProduct fallbackDate report)).filter
    fun row => holds row.bucket
  let own := (counted report).filter fun row => holds (bucketKey binProduct fallbackDate row)
  have distinct : (rows.map DailyStat.bucket).Nodup :=
    (nodup_map_bucket_intoRows account ingestion _).sublist (List.filter_sublist.map _)
  have complete : ∀ row ∈ own,
      bucketKey binProduct fallbackDate row ∈ rows.map DailyStat.bucket := by
    intro row isOwn
    rw [List.mem_filter] at isOwn
    rcases List.mem_map.mp (mem_map_bucket_intoRows.mpr (List.mem_map_of_mem isOwn.1)) with
      ⟨stat, isStat, same⟩
    exact List.mem_map.mpr ⟨stat, List.mem_filter.mpr ⟨isStat, by rw [same, isOwn.2]⟩, same⟩
  have isSum : ∀ row ∈ rows, row.stats = sumOf SettledFeeRow.stats
      (rowsOf (bucketKey binProduct fallbackDate) own row.bucket) := by
    intro row listed
    rw [List.mem_filter] at listed
    rw [(mem_intoRows.mp listed.1).2.2.2, rowsOf, rowsOf, List.filter_filter]
    refine congrArg (sumOf SettledFeeRow.stats) (List.filter_congr ?_)
    intro transaction _
    by_cases same : bucketKey binProduct fallbackDate transaction = row.bucket
    · rw [same, listed.2, Bool.and_true]
    · rw [decide_eq_false same, Bool.false_and]
  calc
    sumOf DailyStat.stats rows =
        ((rows.map DailyStat.bucket).map fun bucket => sumOf SettledFeeRow.stats
          (rowsOf (bucketKey binProduct fallbackDate) own bucket)).sum := by
      rw [sumOf, List.map_map]
      exact congrArg List.sum (List.map_congr_left isSum)
    _ = sumOf SettledFeeRow.stats own := sum_sumOf_rowsOf SettledFeeRow.stats distinct complete

omit [Rounding] in
/-- An ingestion replaces the buckets of the report. -/
theorem accountStats_append_intoRows (account : Account) (ingestion : Ingestion)
    (dailyStats : List DailyStat) (acc : RollupAccumulator) :
    accountStats account (dailyStats ++ intoRows account ingestion acc) =
      (accountStats account dailyStats).filter
        (fun row => row.bucket ∉ (intoRows account ingestion acc).map DailyStat.bucket) ++
        intoRows account ingestion acc := by
  have ownRows : ∀ row ∈ intoRows account ingestion acc, row.account = account := by
    intro row listed
    rcases List.mem_map.mp listed with ⟨entry, -, rfl⟩
    rfl
  have sameKey : ∀ row : DailyStat, row.account = account →
      (row.sortKey ∈ (intoRows account ingestion acc).map DailyStat.sortKey ↔
        row.bucket ∈ (intoRows account ingestion acc).map DailyStat.bucket) := by
    intro row isOwn
    rw [List.mem_map, List.mem_map]
    constructor
    · rintro ⟨other, listed, same⟩
      exact ⟨other, listed, (Prod.mk.inj same).2⟩
    · rintro ⟨other, listed, same⟩
      exact ⟨other, listed, Prod.ext ((ownRows other listed).trans isOwn.symm) same⟩
  have isKept : (intoRows account ingestion acc).filter (fun row => row.account = account) =
      intoRows account ingestion acc :=
    List.filter_eq_self.mpr fun row listed => decide_eq_true (ownRows row listed)
  rw [accountStats, accountStats, final_append,
    final_of_nodup (nodup_sortKey_intoRows account ingestion acc), List.filter_append, isKept,
    List.filter_filter, List.filter_filter]
  refine congrArg (· ++ intoRows account ingestion acc) (List.filter_congr ?_)
  intro row _
  by_cases isOwn : row.account = account
  · rw [decide_eq_true isOwn, Bool.true_and, Bool.and_true, decide_eq_decide, sameKey row isOwn]
  · rw [decide_eq_false isOwn, Bool.false_and, Bool.and_false]

/-! ## Buckets at every ingestion -/

section Times

variable {account : Account} {ingestions : ℕ → Ingestion} {report : List SettledFeeRow}
  {binProduct : List BinProductRow} {times : ℕ}

variable (dailyStats : List DailyStat)

/-- What is learned does not depend on the daily statistics. -/
theorem binProduct_ingestTimes :
    (ingestTimes account ingestions report ⟨dailyStats, binProduct⟩ times).binProduct =
      (ingestTimes account ingestions report ⟨[], binProduct⟩ times).binProduct := by
  induction times with
  | zero => rfl
  | succ times ih =>
      rw [ingestTimes, ingestTimes, stageReport, stageReport, ih]

/-- The rows that an ingestion inserts. -/
def reportRows (account : Account) (ingestions : ℕ → Ingestion) (report : List SettledFeeRow)
    (binProduct : List BinProductRow) (times : ℕ) : List DailyStat :=
  intoRows account (ingestions times)
    (aggregate (productsAt account ingestions report binProduct times) (ingestions times).date
      report)

/-- The daily statistics of the account after a number of ingestions. -/
def statsAfter (account : Account) (ingestions : ℕ → Ingestion) (report : List SettledFeeRow)
    (binProduct : List BinProductRow) (dailyStats : List DailyStat) (times : ℕ) :
    List DailyStat :=
  accountStats account
    (ingestTimes account ingestions report ⟨dailyStats, binProduct⟩ times).dailyStats

theorem statsAfter_succ :
    statsAfter account ingestions report binProduct dailyStats (times + 1) =
      (statsAfter account ingestions report binProduct dailyStats times).filter
        (fun row => row.bucket ∉
          (reportRows account ingestions report binProduct times).map DailyStat.bucket) ++
        reportRows account ingestions report binProduct times := by
  rw [statsAfter, ingestTimes, stageReport, binProduct_ingestTimes]
  exact accountStats_append_intoRows account (ingestions times) _ _

theorem mem_map_bucket_reportRows {bucket : BucketKey} :
    bucket ∈ (reportRows account ingestions report binProduct times).map DailyStat.bucket ↔
      bucket ∈ (counted report).map (bucketAt account ingestions report binProduct times) :=
  mem_map_bucket_intoRows

theorem sumOf_rowsOf_reportRows (cluster : ClusterKey) :
    sumOf DailyStat.stats (rowsOf (fun row => row.bucket.cluster)
        (reportRows account ingestions report binProduct times) cluster) =
      sumOf SettledFeeRow.stats (rowsOf
        (fun row => (bucketAt account ingestions report binProduct times row).cluster)
        (counted report) cluster) :=
  sumOf_filter_intoRows account (ingestions times) _ _ report fun bucket => bucket.cluster = cluster

/-- All rows of a report are counted once, whatever their buckets. -/
theorem sumOf_reportRows :
    sumOf DailyStat.stats (reportRows account ingestions report binProduct times) =
      sumOf SettledFeeRow.stats (counted report) := by
  have allRows := sumOf_filter_intoRows account (ingestions times)
    (productsAt account ingestions report binProduct times) (ingestions times).date report
    fun _ => true
  rw [List.filter_true, List.filter_true] at allRows
  exact allRows

/-! ## Reports with the same buckets -/

/-- After the first ingestion, a report with the same buckets replaces its own rows only. -/
theorem statsAfter_of_sameBuckets
    (same : ∀ times, SameBuckets account ingestions report binProduct times) :
    statsAfter account ingestions report binProduct dailyStats (times + 1) =
      (accountStats account dailyStats).filter
        (fun row => row.bucket ∉
          (reportRows account ingestions report binProduct 0).map DailyStat.bucket) ++
        reportRows account ingestions report binProduct times := by
  have sameMem : ∀ times bucket,
      bucket ∈ (reportRows account ingestions report binProduct times).map DailyStat.bucket ↔
        bucket ∈ (reportRows account ingestions report binProduct 0).map DailyStat.bucket := by
    intro times bucket
    rw [mem_map_bucket_reportRows, mem_map_bucket_reportRows, (same times).buckets]
  induction times with
  | zero => exact statsAfter_succ dailyStats
  | succ times ih =>
      rw [statsAfter_succ, ih, List.filter_append, List.filter_filter]
      have replaced : (reportRows account ingestions report binProduct times).filter
          (fun row => row.bucket ∉
            (reportRows account ingestions report binProduct (times + 1)).map
              DailyStat.bucket) = [] := by
        rw [List.filter_eq_nil_iff]
        intro row listed
        rw [decide_eq_true_eq, not_not, sameMem, ← sameMem times]
        exact List.mem_map_of_mem listed
      rw [replaced, List.append_nil]
      refine congrArg (· ++ reportRows account ingestions report binProduct (times + 1))
        (List.filter_congr ?_)
      intro row _
      simp only [sameMem (times + 1), Bool.and_self]

theorem reingestible_of_sameBuckets
    (same : ∀ times, SameBuckets account ingestions report binProduct times) :
    Reingestible account ingestions report binProduct := by
  intro dailyStats times cluster
  change sumOf _ (rowsOf _ (statsAfter account ingestions report binProduct dailyStats (times + 1))
    cluster) = sumOf _ (rowsOf _
      (statsAfter account ingestions report binProduct dailyStats 1) cluster)
  rw [statsAfter_of_sameBuckets dailyStats same, statsAfter_succ, rowsOf_append, rowsOf_append,
    sumOf_append, sumOf_append, sumOf_rowsOf_reportRows, sumOf_rowsOf_reportRows,
    (same times).sums]
  rfl

/-! ## Reports whose sums stay -/

theorem sx_pos_of_mem_statsAfter_nil {row : DailyStat}
    (listed : row ∈ statsAfter account ingestions report binProduct [] times) :
    0 < row.stats.sx := by
  induction times with
  | zero => cases listed
  | succ times ih =>
      rw [statsAfter_succ] at listed
      rcases List.mem_append.mp listed with kept | inserted
      · exact ih (List.mem_of_mem_filter kept)
      · exact sx_pos_of_mem_intoRows inserted

theorem sumOf_statsAfter (reingestible : Reingestible account ingestions report binProduct)
    (dailyStats : List DailyStat) (times : ℕ) :
    sumOf DailyStat.stats
        (statsAfter account ingestions report binProduct dailyStats (times + 1)) =
      sumOf DailyStat.stats (statsAfter account ingestions report binProduct dailyStats 1) :=
  sumOf_eq_of_groups fun cluster => reingestible dailyStats times cluster

theorem statsAfter_nil_one : statsAfter account ingestions report binProduct [] 1 =
    reportRows account ingestions report binProduct 0 :=
  statsAfter_succ []

section

variable (reingestible : Reingestible account ingestions report binProduct)

include reingestible

/-- In tables without other data, a report replaces all of its rows, since otherwise some
transactions would count twice. -/
theorem statsAfter_nil :
    statsAfter account ingestions report binProduct [] (times + 1) =
      reportRows account ingestions report binProduct times := by
  have total := sumOf_statsAfter reingestible [] times
  rw [statsAfter_nil_one, statsAfter_succ, sumOf_append, sumOf_reportRows, sumOf_reportRows,
    add_eq_right] at total
  rw [statsAfter_succ]
  by_cases noneLeft : (statsAfter account ingestions report binProduct [] times).filter
      (fun row => row.bucket ∉
        (reportRows account ingestions report binProduct times).map DailyStat.bucket) = []
  · rw [noneLeft, List.nil_append]
  · have positive := SuffStats.sx_sumOf_pos noneLeft fun row listed =>
      sx_pos_of_mem_statsAfter_nil (List.mem_of_mem_filter listed)
    rw [total] at positive
    exact absurd positive (lt_irrefl 0)

theorem sums_of_reingestible (cluster : ClusterKey) :
    sumOf SettledFeeRow.stats (rowsOf
      (fun row => (bucketAt account ingestions report binProduct times row).cluster)
      (counted report) cluster) =
    sumOf SettledFeeRow.stats (rowsOf
      (fun row => (bucketAt account ingestions report binProduct 0 row).cluster)
      (counted report) cluster) := by
  have sameSum : sumOf DailyStat.stats (rowsOf (fun row => row.bucket.cluster)
      (statsAfter account ingestions report binProduct [] (times + 1)) cluster) =
    sumOf DailyStat.stats (rowsOf (fun row => row.bucket.cluster)
      (statsAfter account ingestions report binProduct [] 1) cluster) :=
    reingestible [] times cluster
  rw [statsAfter_nil reingestible, statsAfter_nil_one, sumOf_rowsOf_reportRows,
    sumOf_rowsOf_reportRows] at sameSum
  exact sameSum

/-- Buckets that the report had are still those of the report. -/
theorem buckets_mono 
    {earlier : ℕ} (isEarlier : earlier ≤ times) {bucket : BucketKey}
    (had : bucket ∈
      (reportRows account ingestions report binProduct earlier).map DailyStat.bucket) :
    bucket ∈ (reportRows account ingestions report binProduct times).map DailyStat.bucket := by
  induction times, isEarlier using Nat.le_induction with
  | base => exact had
  | succ times _ ih =>
      rcases List.mem_map.mp ih with ⟨row, listed, rfl⟩
      by_contra replaced
      have kept : row ∈ statsAfter account ingestions report binProduct [] (times + 1 + 1) := by
        rw [statsAfter_succ, statsAfter_nil reingestible]
        apply List.mem_append_left
        rw [List.mem_filter, decide_eq_true_eq]
        exact ⟨listed, replaced⟩
      rw [statsAfter_nil reingestible] at kept
      exact replaced (List.mem_map_of_mem kept)

end

theorem mem_statsAfter {dailyStats : List DailyStat} {row : DailyStat}
    (listed : row ∈ statsAfter account ingestions report binProduct dailyStats times) :
    row ∈ accountStats account dailyStats ∨
      ∃ earlier < times, row ∈ reportRows account ingestions report binProduct earlier := by
  induction times with
  | zero => exact Or.inl listed
  | succ times ih =>
      rw [statsAfter_succ] at listed
      rcases List.mem_append.mp listed with kept | inserted
      · rcases ih (List.mem_of_mem_filter kept) with before | ⟨earlier, isEarlier, isRow⟩
        · exact Or.inl before
        · exact Or.inr ⟨earlier, isEarlier.trans (Nat.lt_succ_self times), isRow⟩
      · exact Or.inr ⟨times, Nat.lt_succ_self times, inserted⟩

/-- A report has no new buckets, since the data that is there would be lost. -/
theorem buckets_of_reingestible
    (reingestible : Reingestible account ingestions report binProduct) {bucket : BucketKey}
    (has : bucket ∈
      (reportRows account ingestions report binProduct times).map DailyStat.bucket) :
    bucket ∈ (reportRows account ingestions report binProduct 0).map DailyStat.bucket := by
  by_contra isNew
  -- One transaction of another report is in the new bucket from the start.
  let other : DailyStat := ⟨account, "", bucket, .ofTransaction 1 1⟩
  have start : accountStats account [other] = [other] :=
    List.filter_eq_self.mpr fun row listed => decide_eq_true (by
      rw [List.mem_singleton.mp (mem_of_mem_final listed)])
  have first : statsAfter account ingestions report binProduct [other] 1 =
      other :: reportRows account ingestions report binProduct 0 := by
    rw [statsAfter_succ]
    change (accountStats account [other]).filter _ ++ _ = _
    rw [start, List.filter_cons_of_pos (by rw [decide_eq_true_eq]; exact isNew)]
    rfl
  have last : statsAfter account ingestions report binProduct [other] (times + 1) =
      reportRows account ingestions report binProduct times := by
    rw [statsAfter_succ, List.filter_eq_nil_iff.mpr, List.nil_append]
    intro row listed
    rw [decide_eq_true_eq, not_not]
    rcases mem_statsAfter listed with before | ⟨earlier, isEarlier, isRow⟩
    · rw [start, List.mem_singleton] at before
      rw [before]
      exact has
    · exact buckets_mono reingestible isEarlier.le (List.mem_map_of_mem isRow)
  have total := sumOf_statsAfter reingestible [other] times
  rw [first, last, sumOf_cons, sumOf_reportRows, sumOf_reportRows, right_eq_add] at total
  have volume : (0 : ℚ) = 1 := congrArg SuffStats.sx total.symm
  exact absurd volume (by norm_num)

/-- The sums of the clusters stay exactly if the report keeps its buckets and sums. -/
theorem reingestible_iff (account : Account) (ingestions : ℕ → Ingestion)
    (report : List SettledFeeRow) (binProduct : List BinProductRow) :
    Reingestible account ingestions report binProduct ↔
      ∀ times, SameBuckets account ingestions report binProduct times := by
  constructor
  · intro reingestible times
    constructor
    · intro bucket
      rw [← mem_map_bucket_reportRows, ← mem_map_bucket_reportRows]
      exact ⟨buckets_of_reingestible reingestible, buckets_mono reingestible times.zero_le⟩
    · exact sums_of_reingestible reingestible
  · exact reingestible_of_sameBuckets

end Times

/-! ## An issuer with two rates -/

/-- A transaction of one issuer with the given interchange rate. -/
def fanRow (icBps : ℚ) : SettledFeeRow where
  cardNetwork := "mc"
  variant := "mccommercialcredit"
  funding := "credit"
  issuerCountry := "FR"
  currency := "EUR"
  icCategory := "Intra EEA Enhanced Electronic"
  icBps := icBpsKey (some icBps)
  txnDate := some 20000
  channel := "ecom"
  gross := 100
  totalFee := icBps / 100
  bin := "512345"

omit [Rounding] in
/-- The second ingestion counts the row with the rarer rate under the product that the first
one learned, and its old bucket stays. -/
theorem not_reingestible_fan :
    ¬ @Reingestible .decimal ⟨"adyen", "AcmeEcom", "acme"⟩
      (fun _ => ⟨"upload", 20010, .stored, .stored, .stored⟩)
      [fanRow 135, fanRow 135, fanRow 180] [] := by
  let _ : Rounding := .decimal
  intro reingestible
  have twice := reingestible [] 1
    ⟨"mc", "mccommercialcredit", "credit", "FR", "EUR", "Intra EEA Enhanced Electronic", "135"⟩
  exact absurd (congrArg SuffStats.n twice) (by decide +kernel)

end DecisionEngine.CostIngestion
