import DecisionEngine.CostIngestion.Types
import DecisionEngine.Database.Replacing
import DecisionEngine.Map.Grouped
import DecisionEngine.Search.FirstBest

/-!
# Aggregation of a report

A report is folded into sufficient statistics for each bucket, a cluster on a day in an
amount band and a channel, and into observations of the card products of issuers.  The
product of a card is the one that the observations of its issuer favour, or else the rate
of the row itself.
-/

namespace DecisionEngine.CostIngestion

open Database Map Search

/-! ## The accumulator -/

structure BucketKey where
  txnDate : Int
  cluster : ClusterKey
  channel : String
  band : Int
  deriving DecidableEq

structure BinKey where
  bin : String
  cardNetwork : String
  issuerCountry : String
  funding : String
  cardProduct : String
  deriving DecidableEq

/-- The dominant card product of the issuers that have one. -/
abbrev BinProductMap := String → Option String

structure RollupAccumulator where
  buckets : HashMap BucketKey SuffStats
  bins : HashMap BinKey Nat
  binProduct : BinProductMap

def RollupAccumulator.new (binProduct : BinProductMap) : RollupAccumulator :=
  ⟨∅, ∅, binProduct⟩

/-- The product that the map has for the issuer, or else the rate of the row. -/
def resolveCardProduct (binProduct : BinProductMap) (row : SettledFeeRow) : String :=
  if row.bin ≠ "" then
    ((binProduct (binKey row.bin)).filter fun product => product ≠ "").getD row.icBps
  else row.icBps

def SettledFeeRow.binObservation (row : SettledFeeRow) : BinKey :=
  ⟨binKey row.bin, row.cardNetwork, row.issuerCountry, row.funding, row.icBps⟩

def SettledFeeRow.stats (row : SettledFeeRow) : SuffStats :=
  .ofTransaction row.gross row.totalFee

/-- A row without a date is counted on the day of the ingestion. -/
def bucketKey [Rounding] (binProduct : BinProductMap) (fallbackDate : Int)
    (row : SettledFeeRow) : BucketKey where
  txnDate := row.txnDate.getD fallbackDate
  cluster :=
    { cardNetwork := row.cardNetwork
      variant := row.variant
      funding := row.funding
      issuerCountry := row.issuerCountry
      currency := row.currency
      icCategory := row.icCategory
      cardProduct := resolveCardProduct binProduct row }
  channel := row.channel
  band := amountBand row.gross

/-- Rows that are not positive count as observations only. -/
def RollupAccumulator.addRow [Rounding] (fallbackDate : Int) (acc : RollupAccumulator)
    (row : SettledFeeRow) : RollupAccumulator :=
  let bins := if row.bin ≠ "" then addAt acc.bins row.binObservation 1 else acc.bins
  if row.gross ≤ 0 then { acc with bins }
  else
    { acc with
      bins
      buckets := addAt acc.buckets (bucketKey acc.binProduct fallbackDate row) row.stats }

/-- The rows that are counted in a bucket. -/
def counted (report : List SettledFeeRow) : List SettledFeeRow :=
  report.filter fun row => 0 < row.gross

theorem gross_pos_of_mem_counted {report : List SettledFeeRow} {row : SettledFeeRow}
    (isCounted : row ∈ counted report) : 0 < row.gross := by
  exact of_decide_eq_true (List.mem_filter.mp isCounted).2

/-- Folding a report adds its counted rows to their buckets. -/
theorem buckets_foldl_addRow [Rounding] (fallbackDate : Int) (report : List SettledFeeRow)
    (acc : RollupAccumulator) :
    (report.foldl (RollupAccumulator.addRow fallbackDate) acc).buckets =
      (counted report).foldl
        (fun map row => addAt map (bucketKey acc.binProduct fallbackDate row) row.stats)
        acc.buckets := by
  induction report generalizing acc with
  | nil => rfl
  | cons row rest ih =>
      rw [List.foldl_cons, ih]
      by_cases positive : 0 < row.gross
      · have isCounted : counted (row :: rest) = row :: counted rest :=
          List.filter_cons_of_pos (decide_eq_true positive)
        rw [isCounted, List.foldl_cons, RollupAccumulator.addRow, if_neg (not_le.mpr positive)]
      · have notCounted : counted (row :: rest) = counted rest :=
          List.filter_cons_of_neg (by rw [decide_eq_true_eq]; exact positive)
        rw [notCounted, RollupAccumulator.addRow, if_pos (not_lt.mp positive)]

/-! ## Staged rows -/

/-- A row of `cost_daily_stats`. -/
structure DailyStat where
  account : Account
  ingestionId : String
  bucket : BucketKey
  stats : SuffStats

/-- The columns of the sort key of `cost_daily_stats`. -/
def DailyStat.sortKey (row : DailyStat) : Account × BucketKey :=
  (row.account, row.bucket)

/-- A row of `cost_bin_product`, whose support is summed over equal keys. -/
structure BinProductRow where
  key : BinKey
  supportN : Nat

/-- The tables that an ingestion writes before the fit. -/
structure StagedTables where
  dailyStats : List DailyStat
  binProduct : List BinProductRow

/-- What an ingestion is given besides the report. -/
structure Ingestion where
  ingestionId : String
  /-- The day of the ingestion. -/
  date : Int
  bucketOrder : IterationOrder BucketKey SuffStats
  binOrder : IterationOrder BinKey Nat
  /-- The order in which the database meets the products of an issuer. -/
  productOrder : IterationOrder (String × String) Nat

/-- The support of each issuer and product. -/
def productSupport (rows : List BinProductRow) : HashMap (String × String) Nat :=
  accumulate (fun row => (row.key.bin, row.key.cardProduct)) (·.supportN)
    (rows.filter fun row => row.key.cardProduct ≠ "")

/-- The product with the greatest support for each issuer; of equal ones the first. -/
def loadBinProduct (order : IterationOrder (String × String) Nat) (rows : List BinProductRow) :
    BinProductMap := fun bin =>
  if bin = "" then none
  else
    (firstBest Prod.snd ((order.entries (productSupport rows)).filter
      fun entry => entry.1.1 = bin)).map (·.1.2)

/-- The accumulator after a report. -/
def aggregate [Rounding] (binProduct : BinProductMap) (fallbackDate : Int)
    (report : List SettledFeeRow) : RollupAccumulator :=
  report.foldl (RollupAccumulator.addRow fallbackDate) (.new binProduct)

/-- The buckets of an accumulator as rows of the table. -/
def intoRows (account : Account) (ingestion : Ingestion) (acc : RollupAccumulator) :
    List DailyStat :=
  (ingestion.bucketOrder.entries acc.buckets).map fun entry =>
    ⟨account, ingestion.ingestionId, entry.1, entry.2⟩

def binRows (ingestion : Ingestion) (acc : RollupAccumulator) : List BinProductRow :=
  (ingestion.binOrder.entries acc.bins).map fun entry => ⟨entry.1, entry.2⟩

/-- Aggregate a report with the products observed so far, and insert its buckets and its
own observations. -/
def stageReport [Rounding] (account : Account) (ingestion : Ingestion)
    (report : List SettledFeeRow) (tables : StagedTables) : StagedTables :=
  let binProduct := loadBinProduct ingestion.productOrder tables.binProduct
  let acc := aggregate binProduct ingestion.date report
  { dailyStats := tables.dailyStats ++ intoRows account ingestion acc
    binProduct := tables.binProduct ++ binRows ingestion acc }

/-! ## The rows of a report -/

variable [Rounding] {account : Account} {ingestion : Ingestion} {binProduct : BinProductMap}
  {fallbackDate : Int} {report : List SettledFeeRow}

/-- The statistics of a bucket are the sums over its rows. -/
theorem lookup_buckets_aggregate (bucket : BucketKey) :
    (aggregate binProduct fallbackDate report).buckets.lookup bucket =
      if bucket ∈ (counted report).map (bucketKey binProduct fallbackDate) then
        some (sumOf SettledFeeRow.stats
          (rowsOf (bucketKey binProduct fallbackDate) (counted report) bucket))
      else none := by
  rw [aggregate, buckets_foldl_addRow]
  exact lookup_accumulate (bucketKey binProduct fallbackDate) SettledFeeRow.stats _ bucket

/-- The rows of a report: one for each bucket of a counted row. -/
theorem mem_intoRows {row : DailyStat} :
    row ∈ intoRows account ingestion (aggregate binProduct fallbackDate report) ↔
      row.account = account ∧ row.ingestionId = ingestion.ingestionId ∧
        row.bucket ∈ (counted report).map (bucketKey binProduct fallbackDate) ∧
        row.stats = sumOf SettledFeeRow.stats
          (rowsOf (bucketKey binProduct fallbackDate) (counted report) row.bucket) := by
  rw [intoRows, List.mem_map]
  constructor
  · rintro ⟨⟨bucket, stats⟩, met, rfl⟩
    rw [IterationOrder.mem_entries, lookup_buckets_aggregate] at met
    split at met
    · exact ⟨rfl, rfl, by assumption, (Option.some.inj met).symm⟩
    · cases met
  · rintro ⟨rfl, sameId, listed, isSum⟩
    refine ⟨(row.bucket, row.stats), ?_, ?_⟩
    · rw [IterationOrder.mem_entries, lookup_buckets_aggregate, if_pos listed, isSum]
    · rw [← sameId]

theorem mem_map_bucket_intoRows {bucket : BucketKey} :
    bucket ∈ (intoRows account ingestion (aggregate binProduct fallbackDate report)).map
        DailyStat.bucket ↔
      bucket ∈ (counted report).map (bucketKey binProduct fallbackDate) := by
  rw [List.mem_map]
  constructor
  · rintro ⟨row, isRow, rfl⟩
    exact (mem_intoRows.mp isRow).2.2.1
  · intro listed
    exact ⟨⟨account, ingestion.ingestionId, bucket, sumOf SettledFeeRow.stats
      (rowsOf (bucketKey binProduct fallbackDate) (counted report) bucket)⟩,
      mem_intoRows.mpr ⟨rfl, rfl, listed, rfl⟩, rfl⟩

/-- Every bucket of a report has a volume. -/
theorem sx_pos_of_mem_intoRows {row : DailyStat}
    (isRow : row ∈ intoRows account ingestion (aggregate binProduct fallbackDate report)) :
    0 < row.stats.sx := by
  rcases mem_intoRows.mp isRow with ⟨-, -, isBucket, isSum⟩
  rcases List.mem_map.mp isBucket with ⟨transaction, isCounted, sameBucket⟩
  rw [isSum]
  apply SuffStats.sx_sumOf_pos
  · exact List.ne_nil_of_mem (mem_rowsOf.mpr ⟨isCounted, sameBucket⟩)
  · intro other isOther
    exact gross_pos_of_mem_counted (mem_rowsOf.mp isOther).1

omit [Rounding]

/-- The rows of a report have distinct buckets. -/
theorem nodup_map_bucket_intoRows (account : Account) (ingestion : Ingestion)
    (acc : RollupAccumulator) :
    ((intoRows account ingestion acc).map DailyStat.bucket).Nodup := by
  rw [intoRows, List.map_map]
  exact ingestion.bucketOrder.nodup_keys acc.buckets

theorem nodup_sortKey_intoRows (account : Account) (ingestion : Ingestion)
    (acc : RollupAccumulator) :
    ((intoRows account ingestion acc).map DailyStat.sortKey).Nodup := by
  apply List.Nodup.of_map Prod.snd
  rw [List.map_map]
  exact nodup_map_bucket_intoRows account ingestion acc

end DecisionEngine.CostIngestion
