import DecisionEngine.Calibration.AutoCalibration

/-!
# The bounds of the calibrated parameters

The bounds are read one by one, each with a default of its own, and nothing compares them.  The
bucket sizes are between their bounds where the bounds are in order.  The hedging percentages
are at most their cap where the cap admits the percentage of an idle cluster, and is not below
its own rounding.
-/

namespace DecisionEngine.Calibration

open CostIngestion

/-- A value of the configuration, or its default where it is absent or not positive. -/
def positiveOr {α : Type} [Zero α] [LT α] [DecidableLT α] (value : Option α) (default : α) : α :=
  (value.filter fun value => 0 < value).getD default

theorem positiveOr_pos {value : Option ℚ} {default : ℚ} (positive : 0 < default) :
    0 < positiveOr value default := by
  rw [positiveOr]
  cases kept : value.filter fun value => 0 < value with
  | none => exact positive
  | some number => simpa using (Option.filter_eq_some_iff.mp kept).2

/-- What is calibrated for a cluster is between the bounds, and its calibration does not
panic. -/
structure CalibrationParams.WithinBounds [Rounding] (params : CalibrationParams)
    (volume gateways : ℤ) : Prop where
  bucket : ∃ bucket, autoBucket volume gateways params = some bucket ∧
    params.minBucket ≤ bucket ∧ bucket ≤ params.maxBucket
  hedge : ∀ bucket, 0 ≤ autoHedgePct bucket volume gateways params ∧
    autoHedgePct bucket volume gateways params ≤ params.maxHedgingPct

/-- The bounds of the bucket sizes are in order, and the cap of the hedging percentages is
neither below the five percent of an idle cluster nor below its own rounding to hundredths. -/
structure SrAutoCalibrationConfig.BoundsAgree (config : SrAutoCalibrationConfig) : Prop where
  buckets : positiveOr config.minBucketSize 100 ≤ positiveOr config.maxBucketSize 2000
  idle : 5 ≤ positiveOr config.maxHedgingPercent 30
  hundredths : (roundAway (positiveOr config.maxHedgingPercent 30 * 100) : ℚ) / 100 ≤
    positiveOr config.maxHedgingPercent 30

/-! ## Bucket sizes -/

section Bucket

variable (params : CalibrationParams)

theorem clampBucket_spec {params : CalibrationParams}
    (ordered : params.minBucket ≤ params.maxBucket) (bucket : Int32) :
    ∃ clamped, clampBucket params bucket = some clamped ∧ params.minBucket ≤ clamped ∧
      clamped ≤ params.maxBucket := by
  rw [clampBucket, if_neg (Int32.not_lt.mpr ordered)]
  by_cases below : bucket < params.minBucket
  · rw [if_pos below]
    exact ⟨_, rfl, Int32.le_refl _, ordered⟩
  · rw [if_neg below]
    by_cases above : params.maxBucket < bucket
    · rw [if_pos above]
      exact ⟨_, rfl, ordered, Int32.le_refl _⟩
    · rw [if_neg above]
      exact ⟨_, rfl, Int32.not_lt.mp below, Int32.not_lt.mp above⟩

/-- The order of the bounds decides, whatever the traffic. -/
theorem autoBucket_between_iff [Rounding] (volume gateways : ℤ) :
    (∃ bucket, autoBucket volume gateways params = some bucket ∧
      params.minBucket ≤ bucket ∧ bucket ≤ params.maxBucket) ↔
      params.minBucket ≤ params.maxBucket := by
  constructor
  · rintro ⟨bucket, -, low, high⟩
    exact Int32.le_trans low high
  · intro ordered
    rw [autoBucket]
    by_cases idle : gateways < 2 ∨ volume ≤ 0
    · rw [if_pos idle]
      exact ⟨_, rfl, Int32.le_refl _, ordered⟩
    · rw [if_neg idle]
      exact clampBucket_spec ordered _

/-- Bounds in the wrong order are a panic for every cluster that has traffic. -/
theorem autoBucket_eq_none_iff [Rounding] (volume gateways : ℤ) :
    autoBucket volume gateways params = none ↔
      params.maxBucket < params.minBucket ∧ 2 ≤ gateways ∧ 0 < volume := by
  rw [autoBucket]
  by_cases idle : gateways < 2 ∨ volume ≤ 0
  · rw [if_pos idle]
    simp only [reduceCtorEq, false_iff, not_and]
    omega
  · rw [if_neg idle]
    rw [not_or, not_lt, not_le] at idle
    simp only [idle, and_true]
    constructor
    · intro panics
      by_contra ordered
      rcases clampBucket_spec (Int32.not_lt.mp ordered)
        (round25 (5 * Rounding.sqrt (volume / (gateways - 1 : ℤ)))) with ⟨clamped, done, -⟩
      rw [panics] at done
      cases done
    · intro reversed
      rw [clampBucket, if_pos reversed]

end Bucket

/-! ## Hedging percentages -/

theorem roundAway_of_nonneg {x : ℚ} (nonneg : 0 ≤ x) : roundAway x = ⌊x + 1 / 2⌋ :=
  if_pos nonneg

theorem roundAway_nonneg {x : ℚ} (nonneg : 0 ≤ x) : 0 ≤ roundAway x := by
  rw [roundAway_of_nonneg nonneg]
  exact Int.floor_nonneg.mpr (by linarith)

theorem roundAway_mono {x y : ℚ} (nonneg : 0 ≤ x) (le : x ≤ y) : roundAway x ≤ roundAway y := by
  rw [roundAway_of_nonneg nonneg, roundAway_of_nonneg (nonneg.trans le)]
  exact Int.floor_le_floor (by linarith)

/-- The percentage before it is rounded. -/
def totalHedgePct (bucket : Int32) (volume gateways : ℤ) (params : CalibrationParams) : ℚ :=
  let others : ℚ := (gateways - 1 : ℤ)
  let perPgCap := params.maxHedgingPct / 100 / others
  let volumeInHorizon := volume * (params.reactionHorizonSecs / params.lookbackSecs)
  let refreshShare := if 0 < volumeInHorizon then bucket.toInt / volumeInHorizon else perPgCap
  min (max (min refreshShare perPgCap) (1 / 100) * others * 100) params.maxHedgingPct

section Hedge

variable {bucket : Int32} {volume gateways : ℤ} {params : CalibrationParams}

theorem autoHedgePct_of_busy (busy : ¬ (gateways < 2 ∨ volume ≤ 0)) :
    autoHedgePct bucket volume gateways params =
      roundAway (totalHedgePct bucket volume gateways params * 100) / 100 :=
  if_neg busy

theorem totalHedgePct_le : totalHedgePct bucket volume gateways params ≤ params.maxHedgingPct :=
  min_le_right _ _

/-- Every other gateway gets one percent at least, up to the cap. -/
theorem min_le_totalHedgePct (bucket : Int32) (volume : ℤ) (params : CalibrationParams)
    (several : 2 ≤ gateways) :
    min ((gateways - 1 : ℤ) : ℚ) params.maxHedgingPct ≤
      totalHedgePct bucket volume gateways params := by
  have others : (0 : ℚ) ≤ (gateways - 1 : ℤ) := by
    exact_mod_cast (by omega : 0 ≤ gateways - 1)
  apply min_le_min_right
  rw [mul_right_comm]
  apply le_mul_of_one_le_left others
  have share := le_max_right
    (min (if 0 < volume * (params.reactionHorizonSecs / params.lookbackSecs) then
        (bucket.toInt : ℚ) / (volume * (params.reactionHorizonSecs / params.lookbackSecs))
      else params.maxHedgingPct / 100 / ((gateways - 1 : ℤ) : ℚ))
      (params.maxHedgingPct / 100 / ((gateways - 1 : ℤ) : ℚ))) (1 / 100)
  linarith

theorem autoHedgePct_between (positive : 0 < params.maxHedgingPct) (idle : 5 ≤ params.maxHedgingPct)
    (hundredths : (roundAway (params.maxHedgingPct * 100) : ℚ) / 100 ≤ params.maxHedgingPct) :
    0 ≤ autoHedgePct bucket volume gateways params ∧
      autoHedgePct bucket volume gateways params ≤ params.maxHedgingPct := by
  by_cases isIdle : gateways < 2 ∨ volume ≤ 0
  · rw [autoHedgePct, if_pos isIdle]
    exact ⟨by norm_num, idle⟩
  · rw [autoHedgePct_of_busy isIdle]
    have several : 2 ≤ gateways := by omega
    have nonneg : 0 ≤ totalHedgePct bucket volume gateways params * 100 := by
      have low := min_le_totalHedgePct bucket volume params several
      have others : (0 : ℚ) ≤ (gateways - 1 : ℤ) := by
        exact_mod_cast (by omega : 0 ≤ gateways - 1)
      have := (le_min others positive.le).trans low
      positivity
    constructor
    · exact div_nonneg (by exact_mod_cast roundAway_nonneg nonneg) (by norm_num)
    · calc
        (roundAway (totalHedgePct bucket volume gateways params * 100) : ℚ) / 100
            ≤ roundAway (params.maxHedgingPct * 100) / 100 := by
              gcongr
              exact roundAway_mono nonneg
                (mul_le_mul_of_nonneg_right totalHedgePct_le (by norm_num))
        _ ≤ params.maxHedgingPct := hundredths

/-- With as many gateways as the cap has percents the cap is reached. -/
theorem exists_autoHedgePct_eq (bucket : Int32) (params : CalibrationParams) :
    ∃ gateways, autoHedgePct bucket 1 gateways params =
      roundAway (params.maxHedgingPct * 100) / 100 := by
  have large : params.maxHedgingPct ≤ (max ⌈params.maxHedgingPct⌉ 1 : ℤ) :=
    (Int.le_ceil _).trans (by exact_mod_cast le_max_left _ _)
  have several := le_max_right ⌈params.maxHedgingPct⌉ 1
  refine ⟨max ⌈params.maxHedgingPct⌉ 1 + 1, ?_⟩
  rw [autoHedgePct_of_busy (by omega)]
  have low := min_le_totalHedgePct bucket 1 params
    (by omega : 2 ≤ max ⌈params.maxHedgingPct⌉ 1 + 1)
  rw [add_sub_cancel_right, min_eq_right large] at low
  rw [le_antisymm totalHedgePct_le low]

end Hedge

/-! ## Configurations -/

/-- The calibration of every traffic is between the bounds exactly when the bounds agree. -/
theorem withinBounds_iff_boundsAgree [Rounding] (config : SrAutoCalibrationConfig) :
    (∀ volume gateways : ℤ, (CalibrationParams.fromConfig config).WithinBounds volume gateways) ↔
      config.BoundsAgree := by
  constructor
  · intro within
    rcases exists_autoHedgePct_eq 100 (CalibrationParams.fromConfig config) with
      ⟨gateways, reached⟩
    exact
      { buckets := (autoBucket_between_iff _ 0 0).mp (within 0 0).bucket
        idle := ((within 0 0).hedge 100).2
        hundredths := reached ▸ ((within 1 gateways).hedge 100).2 }
  · intro agree volume gateways
    exact
      { bucket := (autoBucket_between_iff _ volume gateways).mpr agree.buckets
        hedge := fun bucket => autoHedgePct_between (positiveOr_pos (by norm_num)) agree.idle
          agree.hundredths }

/-- Buckets of at most 25 payments, with the smallest size left at its default. -/
def snappyConfig : SrAutoCalibrationConfig :=
  ⟨none, some 25, none, none, none, none⟩

theorem not_withinBounds_snappyConfig :
    ¬ ∀ (_ : Rounding) (config : SrAutoCalibrationConfig) (volume gateways : ℤ),
      (CalibrationParams.fromConfig config).WithinBounds volume gateways := by
  intro within
  let rounding : Rounding := .decimal
  rcases (within rounding snappyConfig 1000 3).bucket with ⟨bucket, done, -⟩
  have panics := (autoBucket_eq_none_iff (.fromConfig snappyConfig) 1000 3).mpr (by decide)
  rw [panics] at done
  cases done

end DecisionEngine.Calibration
