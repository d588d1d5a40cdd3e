import DecisionEngine.CostIngestion.Reingestion
import DecisionEngine.Regression.LeastSquares

/-!
# Lines from sufficient statistics

The sums of the stored rows are those of the transactions, however these are split into
ingestions that share no bucket.  The fitted line is the one of ordinary least squares over
the transactions, and its proportional error is the mean of their squared relative errors.
-/

namespace DecisionEngine.CostIngestion

open Database Regression

/-! ## Ingestions -/

/-- Transactions that are ingested together, with the products known at the time. -/
structure Batch where
  ingestion : Ingestion
  binProduct : BinProductMap
  report : List SettledFeeRow

namespace Batch

variable [Rounding]

def bucket (batch : Batch) (row : SettledFeeRow) : BucketKey :=
  bucketKey batch.binProduct batch.ingestion.date row

/-- The rows that the ingestion inserts. -/
def rows (account : Account) (batch : Batch) : List DailyStat :=
  intoRows account batch.ingestion
    (aggregate batch.binProduct batch.ingestion.date batch.report)

/-- The counted transactions whose buckets meet a condition. -/
def selected (holds : BucketKey → Bool) (batch : Batch) : List SettledFeeRow :=
  (counted batch.report).filter fun row => holds (batch.bucket row)

end Batch

section Stored

variable [Rounding]

/-- The table after the ingestions of an account. -/
def storedRows (account : Account) (batches : List Batch) : List DailyStat :=
  final DailyStat.sortKey (batches.flatMap (Batch.rows account))

/-- The transactions whose buckets meet a condition. -/
def selectedRows (holds : BucketKey → Bool) (batches : List Batch) : List SettledFeeRow :=
  batches.flatMap (Batch.selected holds)

/-- No two ingestions have transactions of one bucket. -/
def SeparateBuckets (batches : List Batch) : Prop :=
  batches.Pairwise fun first second =>
    ∀ row ∈ counted first.report, ∀ other ∈ counted second.report,
      first.bucket row ≠ second.bucket other

variable {account : Account} {batches : List Batch}

theorem mem_rows_sortKey {batch : Batch} {row : DailyStat}
    (listed : row ∈ batch.rows account) :
    row.account = account ∧ ∃ transaction ∈ counted batch.report,
      batch.bucket transaction = row.bucket := by
  rcases mem_intoRows.mp listed with ⟨isAccount, -, isBucket, -⟩
  exact ⟨isAccount, List.mem_map.mp isBucket⟩

theorem nodup_sortKey_of_separate (separate : SeparateBuckets batches) :
    ((batches.flatMap (Batch.rows account)).map DailyStat.sortKey).Nodup := by
  induction batches with
  | nil => exact List.nodup_nil
  | cons batch rest ih =>
      rw [SeparateBuckets, List.pairwise_cons] at separate
      rw [List.flatMap_cons, List.map_append, List.nodup_append]
      refine ⟨nodup_sortKey_intoRows .., ih separate.2, ?_⟩
      intro key isFirst other isLater same
      rcases List.mem_map.mp isFirst with ⟨row, isRow, rfl⟩
      rcases List.mem_map.mp isLater with ⟨later, isLaterRow, rfl⟩
      rcases List.mem_flatMap.mp isLaterRow with ⟨laterBatch, isBatch, inBatch⟩
      rcases mem_rows_sortKey isRow with ⟨-, transaction, isCounted, isBucket⟩
      rcases mem_rows_sortKey inBatch with ⟨-, laterTransaction, isLaterCounted, isLaterBucket⟩
      apply separate.1 laterBatch isBatch transaction isCounted laterTransaction isLaterCounted
      rw [isBucket, isLaterBucket]
      exact congrArg Prod.snd same

/-- The stored statistics add up to those of the transactions. -/
theorem sumOf_filter_storedRows (account : Account) (separate : SeparateBuckets batches)
    (holds : BucketKey → Bool) :
    sumOf DailyStat.stats
        ((storedRows account batches).filter fun row => holds row.bucket) =
      sumOf SettledFeeRow.stats (selectedRows holds batches) := by
  rw [storedRows, final_of_nodup (nodup_sortKey_of_separate separate)]
  clear separate
  induction batches with
  | nil => rfl
  | cons batch rest ih =>
      rw [List.flatMap_cons, List.filter_append, sumOf_append, ih, selectedRows, selectedRows,
        List.flatMap_cons, sumOf_append]
      congr 1
      exact sumOf_filter_intoRows ..

end Stored

/-! ## Sums of the transactions -/

/-- The amount and the fee of a transaction. -/
def SettledFeeRow.point (row : SettledFeeRow) : ℚ × ℚ :=
  (row.gross, row.totalFee)

/-- All points count alike. -/
def evenly (_ : ℚ × ℚ) : ℚ :=
  1

/-- The weight with which the squared error is relative to the amount. -/
def relatively (point : ℚ × ℚ) : ℚ :=
  1 / point.1 * (1 / point.1)

/-- The sum of the squared relative errors of a line. -/
def relativeError (points : List (ℚ × ℚ)) (intercept slope : ℚ) : ℚ :=
  sumOf (fun point => ((intercept + slope * point.1 - point.2) / point.1) ^ 2) points

theorem relativeError_eq (points : List (ℚ × ℚ)) (intercept slope : ℚ) :
    relativeError points intercept slope = squaredError relatively points intercept slope := by
  rw [relativeError, squaredError, total]
  congr 1
  funext point
  rw [relatively]
  ring

variable {rows : List SettledFeeRow}

/-- A field of the statistics is the sum of the field. -/
theorem sumOf_stats_field {field : SuffStats → ℚ} (zero : field 0 = 0)
    (add : ∀ first second, field (first + second) = field first + field second)
    {weight value : ℚ × ℚ → ℚ}
    (isTerm : ∀ row ∈ rows, field row.stats = weight row.point * value row.point) :
    field (sumOf SettledFeeRow.stats rows) =
      total weight value (rows.map SettledFeeRow.point) := by
  rw [total]
  induction rows with
  | nil => exact zero
  | cons row rest ih =>
      rw [List.forall_mem_cons] at isTerm
      rw [List.map_cons, sumOf_cons, sumOf_cons, add, ih isTerm.2, isTerm.1]

theorem moments_evenly :
    moments evenly (rows.map SettledFeeRow.point) =
      { n := (sumOf SettledFeeRow.stats rows).n
        sx := (sumOf SettledFeeRow.stats rows).sx
        sy := (sumOf SettledFeeRow.stats rows).sy
        sxx := (sumOf SettledFeeRow.stats rows).sxx
        sxy := (sumOf SettledFeeRow.stats rows).sxy } := by
  rw [moments]
  congr 1 <;> symm
  · exact sumOf_stats_field rfl (fun _ _ => rfl) fun row _ => (one_mul 1).symm
  · exact sumOf_stats_field rfl (fun _ _ => rfl) fun row _ => (one_mul _).symm
  · exact sumOf_stats_field rfl (fun _ _ => rfl) fun row _ => (one_mul _).symm
  · exact sumOf_stats_field rfl (fun _ _ => rfl) fun row _ => (one_mul _).symm
  · exact sumOf_stats_field rfl (fun _ _ => rfl) fun row _ => (one_mul _).symm

theorem moments_relatively (positive : ∀ row ∈ rows, 0 < row.gross) :
    moments relatively (rows.map SettledFeeRow.point) =
      { n := (sumOf SettledFeeRow.stats rows).suu
        sx := (sumOf SettledFeeRow.stats rows).su
        sy := (sumOf SettledFeeRow.stats rows).suuy
        sxx := (sumOf SettledFeeRow.stats rows).n
        sxy := (sumOf SettledFeeRow.stats rows).suy } := by
  have nonzero : ∀ row ∈ rows, row.gross ≠ 0 := fun row listed => (positive row listed).ne'
  rw [moments]
  congr 1 <;> symm
  · exact sumOf_stats_field rfl (fun _ _ => rfl) fun row _ => (mul_one _).symm
  all_goals
    refine sumOf_stats_field rfl (fun _ _ => rfl) fun row listed => ?_
    have isNonzero := nonzero row listed
    simp only [SettledFeeRow.stats, SuffStats.ofTransaction, SettledFeeRow.point, relatively]
  · field_simp
  · ring
  · field_simp
  · field_simp

theorem syyuu_sumOf :
    (sumOf SettledFeeRow.stats rows).syyuu =
      total relatively (fun point => point.2 * point.2) (rows.map SettledFeeRow.point) := by
  refine sumOf_stats_field rfl (fun _ _ => rfl) fun row listed => ?_
  simp only [SettledFeeRow.stats, SuffStats.ofTransaction, SettledFeeRow.point, relatively]
  ring

theorem n_sumOf :
    (sumOf SettledFeeRow.stats rows).n = rows.length := by
  induction rows with
  | nil => rfl
  | cons row rest ih =>
      rw [sumOf_cons, SuffStats.add_n, ih, List.length_cons, Nat.cast_succ, add_comm]
      rfl

/-! ## Fitted lines -/

section Fitted

variable [Rounding]

/-- The proportional error of a line is the root of the mean squared relative error. -/
theorem exists_evalBps (nonempty : rows ≠ []) (positive : ∀ row ∈ rows, 0 < row.gross)
    (intercept slope : ℚ) :
    ∃ mean, evalBps intercept slope (sumOf SettledFeeRow.stats rows) =
        some (Rounding.sqrt mean * 10000) ∧
      rows.length * mean =
        relativeError (rows.map SettledFeeRow.point) intercept slope := by
  have nPos : (0 : ℚ) < rows.length := Nat.cast_pos.mpr (List.length_pos_of_ne_nil nonempty)
  have error : relativeError (rows.map SettledFeeRow.point) intercept slope =
      (sumOf SettledFeeRow.stats rows).syyuu +
        intercept * intercept * (sumOf SettledFeeRow.stats rows).suu +
        (sumOf SettledFeeRow.stats rows).n * slope * slope -
        2 * intercept * (sumOf SettledFeeRow.stats rows).suuy -
        2 * slope * (sumOf SettledFeeRow.stats rows).suy +
        2 * intercept * slope * (sumOf SettledFeeRow.stats rows).su := by
    rw [relativeError_eq, squaredError_eq, moments_relatively positive, ← syyuu_sumOf]
    ring
  have nonneg : 0 ≤ relativeError (rows.map SettledFeeRow.point) intercept slope := by
    apply List.sum_nonneg
    intro term listed
    rcases List.mem_map.mp listed with ⟨point, -, rfl⟩
    exact sq_nonneg _
  refine ⟨relativeError (rows.map SettledFeeRow.point) intercept slope / rows.length, ?_, ?_⟩
  · rw [evalBps, n_sumOf, if_neg (not_le.mpr nPos), ← n_sumOf, ← error]
    dsimp only
    rw [max_eq_left nonneg]
  · exact mul_div_cancel₀ _ nPos.ne'

theorem fit_eq_none_iff (s : SuffStats) :
    fit s = none ↔ s.n < 2 ∨ s.n * s.sxx - s.sx * s.sx ≤ 0 := by
  rw [fit]
  split
  · next few => exact iff_of_true rfl (Or.inl few)
  · next enough =>
      rw [or_iff_right enough]
      dsimp only
      split
      · next flat => exact iff_of_true rfl flat
      · next spread => exact iff_of_false nofun spread

theorem fit_eq_some {s : SuffStats} {line : Line} (fitted : fit s = some line) :
    line.slope = (s.n * s.sxy - s.sx * s.sy) / (s.n * s.sxx - s.sx * s.sx) ∧
      line.intercept = (s.sy - line.slope * s.sx) / s.n ∧
      line.bpsRmse = evalBps line.intercept line.slope s := by
  rw [fit] at fitted
  split at fitted
  · cases fitted
  · dsimp only at fitted
    split at fitted
    · cases fitted
    · cases fitted
      exact ⟨rfl, rfl, rfl⟩

omit [Rounding] in
/-- Transactions of different amounts are two at least. -/
theorem two_le_n {first second : SettledFeeRow} (isFirst : first ∈ rows) (isSecond : second ∈ rows)
    (different : first.gross ≠ second.gross) : 2 ≤ (sumOf SettledFeeRow.stats rows).n := by
  rw [n_sumOf]
  match rows with
  | [] => cases isFirst
  | [only] =>
      rw [List.mem_singleton] at isFirst isSecond
      exact absurd (isFirst.trans isSecond.symm ▸ rfl) different
  | head :: next :: rest =>
      rw [List.length_cons, List.length_cons]
      exact_mod_cast Nat.le_add_left 2 rest.length

/-- No line is fitted exactly when all amounts are the same. -/
theorem fit_sumOf_eq_none_iff :
    fit (sumOf SettledFeeRow.stats rows) = none ↔
      ∀ first ∈ rows, ∀ second ∈ rows, first.gross = second.gross := by
  have apart : 0 < (moments evenly (rows.map SettledFeeRow.point)).determinant ↔ _ :=
    determinant_pos_iff fun _ _ => one_pos
  rw [moments_evenly, Moments.determinant] at apart
  rw [fit_eq_none_iff, ← not_iff_not, not_or, not_lt, not_le, apart]
  push Not
  constructor
  · rintro ⟨-, point, isPoint, other, isOther, different⟩
    rcases List.mem_map.mp isPoint with ⟨first, isFirst, rfl⟩
    rcases List.mem_map.mp isOther with ⟨second, isSecond, rfl⟩
    exact ⟨first, isFirst, second, isSecond, different⟩
  · rintro ⟨first, isFirst, second, isSecond, different⟩
    exact ⟨two_le_n isFirst isSecond different, _, List.mem_map_of_mem isFirst, _,
      List.mem_map_of_mem isSecond, different⟩

/-- The sums of the transactions give the line with the least squared error. -/
theorem fit_least {line : Line} (fitted : fit (sumOf SettledFeeRow.stats rows) = some line) :
    (∀ intercept slope, squaredError evenly (rows.map SettledFeeRow.point) line.intercept
        line.slope ≤ squaredError evenly (rows.map SettledFeeRow.point) intercept slope) ∧
      ∀ intercept slope, squaredError evenly (rows.map SettledFeeRow.point) intercept slope ≤
          squaredError evenly (rows.map SettledFeeRow.point) line.intercept line.slope →
        intercept = line.intercept ∧ slope = line.slope := by
  have isSome : fit (sumOf SettledFeeRow.stats rows) ≠ none := by
    rw [fitted]
    exact nofun
  rw [Ne, fit_eq_none_iff, not_or, not_le] at isSome
  rcases fit_eq_some fitted with ⟨isSlope, isIntercept, -⟩
  have slope : line.slope = (moments evenly (rows.map SettledFeeRow.point)).slope := by
    rw [moments_evenly, isSlope]
    rfl
  have intercept : line.intercept =
      (moments evenly (rows.map SettledFeeRow.point)).intercept := by
    rw [Moments.intercept, ← slope, moments_evenly, isIntercept]
  have positive : 0 < (moments evenly (rows.map SettledFeeRow.point)).determinant := by
    rw [moments_evenly]
    exact isSome.2
  have even : ∀ point ∈ rows.map SettledFeeRow.point, 0 ≤ evenly point :=
    fun _ _ => zero_le_one
  rw [slope, intercept]
  exact ⟨squaredError_le even positive, fun _ _ => eq_of_squaredError_le even positive⟩

theorem gross_pos_of_mem_selectedRows {holds : BucketKey → Bool} {batches : List Batch}
    {row : SettledFeeRow} (listed : row ∈ selectedRows holds batches) : 0 < row.gross := by
  rcases List.mem_flatMap.mp listed with ⟨batch, -, isSelected⟩
  exact gross_pos_of_mem_counted (List.mem_filter.mp isSelected).1

/-- The rollup refines the regression.  Transactions in any order are split into ingestions
that share no bucket, and some buckets are selected, such as those of a cluster.  No line is
fitted to the stored statistics exactly when the amounts are all the same, a fitted line is
the only one of least squares over the transactions, and the proportional error of any line is
the root of its mean squared relative error. -/
theorem fit_storedRows (account : Account) (batches : List Batch)
    (separate : SeparateBuckets batches) (holds : BucketKey → Bool) :
    let transactions := selectedRows holds batches
    let points := transactions.map SettledFeeRow.point
    let stats := sumOf DailyStat.stats
      ((storedRows account batches).filter fun row => holds row.bucket)
    (fit stats = none ↔
        ∀ first ∈ transactions, ∀ second ∈ transactions, first.gross = second.gross) ∧
      (∀ line, fit stats = some line →
        (∀ intercept slope, squaredError evenly points line.intercept line.slope ≤
            squaredError evenly points intercept slope) ∧
          (∀ intercept slope, squaredError evenly points intercept slope ≤
              squaredError evenly points line.intercept line.slope →
            intercept = line.intercept ∧ slope = line.slope) ∧
          line.bpsRmse = evalBps line.intercept line.slope stats) ∧
      (transactions ≠ [] → ∀ intercept slope, ∃ mean,
        evalBps intercept slope stats = some (Rounding.sqrt mean * 10000) ∧
          transactions.length * mean = relativeError points intercept slope) := by
  dsimp only
  rw [sumOf_filter_storedRows account separate holds]
  refine ⟨fit_sumOf_eq_none_iff, fun line fitted => ?_, fun nonempty => ?_⟩
  · rcases fit_least fitted with ⟨least, unique⟩
    exact ⟨least, unique, (fit_eq_some fitted).2.2⟩
  · exact exists_evalBps nonempty fun row => gross_pos_of_mem_selectedRows

end Fitted

/-! ## The weighted error, and shared buckets -/

/-- Roots with eight decimals. -/
local instance lineRounding : Rounding := .decimal

def lineRow (gross totalFee : ℚ) : SettledFeeRow :=
  ⟨"visa", "visacredit", "credit", "DE", "EUR", "consumer", "", some 1, "ecom", gross, totalFee,
    ""⟩

def noProducts : BinProductMap := fun _ => none

def lineIngestion (ingestionId : String) : Ingestion :=
  ⟨ingestionId, 1, .stored, .stored, .stored⟩

/-- Three transactions that are on no line. -/
def bentBatch : Batch :=
  ⟨lineIngestion "job_a", noProducts, [lineRow 1 1, lineRow 2 3, lineRow 4 4]⟩

def lineAccount : Account :=
  ⟨"adyen", "AcmeEu", "acme"⟩

def allBuckets (_ : BucketKey) : Bool :=
  true

theorem fit_storedRows_bent :
    ∃ mean, evalBps (1 / 2) (13 / 14) (sumOf DailyStat.stats
        ((storedRows lineAccount [bentBatch]).filter fun row => allBuckets row.bucket)) =
          some (Rounding.sqrt mean * 10000) ∧
      (selectedRows allBuckets [bentBatch]).length * mean =
        relativeError ((selectedRows allBuckets [bentBatch]).map SettledFeeRow.point) (1 / 2)
          (13 / 14) := by
  have nonempty : selectedRows allBuckets [bentBatch] ≠ [] := by decide +kernel
  exact (fit_storedRows lineAccount [bentBatch] (List.pairwise_singleton _ _) allBuckets).2.2
    nonempty (1 / 2) (13 / 14)

/-- The fitted line does not have the least relative error, and of two ingestions with a bucket
in common only the second one counts. -/
theorem fit_storedRows_counterexample :
    (∃ line, fit (sumOf DailyStat.stats (storedRows lineAccount [bentBatch])) = some line ∧
      relativeError (bentBatch.report.map SettledFeeRow.point) (-1 / 3) (4 / 3) <
        relativeError (bentBatch.report.map SettledFeeRow.point) line.intercept line.slope) ∧
    (sumOf DailyStat.stats (storedRows lineAccount
      [⟨lineIngestion "job_a", noProducts, [lineRow 10 1]⟩,
        ⟨lineIngestion "job_b", noProducts, [lineRow 10 2]⟩])).n = 1 := by
  constructor
  · have isLine : (fit (sumOf DailyStat.stats (storedRows lineAccount [bentBatch]))).map
        (fun line => (line.slope, line.intercept)) = some (13 / 14, 1 / 2) := by decide +kernel
    rcases Option.map_eq_some_iff.mp isLine with ⟨line, fitted, isPair⟩
    have slope : line.slope = 13 / 14 := congrArg Prod.fst isPair
    have intercept : line.intercept = 1 / 2 := congrArg Prod.snd isPair
    refine ⟨line, fitted, ?_⟩
    rw [slope, intercept]
    decide +kernel
  · decide +kernel

end DecisionEngine.CostIngestion
