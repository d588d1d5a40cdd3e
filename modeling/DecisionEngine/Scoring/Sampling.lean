import DecisionEngine.Scoring.Elimination
import DecisionEngine.Scoring.KeyAgreement
import DecisionEngine.Scoring.ResetConsistency

/-!
# Sampling of the scores

The scores by success rate go through the reset, the extra score and a distribution.  The beta
distribution needs a score strictly between 0 and 1; the score of a gateway that has never
failed is 1.
-/

namespace DecisionEngine.Scoring

open Feedback Map Number Redis Transition

/-- The cached scores and what the distributions draw are in their ranges. -/
structure SamplesInRange (reads : SrV3Reads ℚ) : Prop where
  cached : ∀ size key, 0 ≤ reads.cachedScore size key ∧ reads.cachedScore size key ≤ 1
  binomial : ∀ gateway (trials : Int) probability, 0 ≤ trials →
    (reads.binomialSample gateway trials probability : Int) ≤ trials
  beta : ∀ gateway success failure, 0 < success → 0 < failure →
    0 ≤ reads.betaSample gateway success failure ∧ reads.betaSample gateway success failure ≤ 1

/-- The scores that are read from a store are in the range. -/
theorem getScoreFromRedis_mem_range (parse : String → Option ℚ) (store : Store) (key : String)
    (bucketSize : Int) :
    0 ≤ getScoreFromRedis parse store key bucketSize ∧
      getScoreFromRedis parse store key bucketSize ≤ 1 := by
  have clamped : ∀ score, 0 ≤ Feedback.clamp score ∧ Feedback.clamp score ≤ 1 :=
    fun score => ⟨le_max_left _ _, max_le (by norm_num) (min_le_left _ _)⟩
  rw [getScoreFromRedis]
  split
  · exact clamped _
  · dsimp only
    split
    · exact clamped _
    · exact clamped _

/-- Every functional gateway gets a score between 0 and 1. -/
def GivesScores (functionalGateways : List Gateway)
    (result : Except Panic (GatewayScoreMap ℚ × List SrV3Reset)) : Prop :=
  ∃ scores resets, result = .ok (scores, resets) ∧ ∀ gateway ∈ functionalGateways,
    ∃ score, scores.lookup gateway = some score ∧ 0 ≤ score ∧ score ≤ 1

section Adjustment

variable (sqrt : ℚ → ℚ) (reads : SrV3Reads ℚ) (pmt pm : String) (dimensions : SrRoutingDimensions)
  (bucketSize : Int)

/-! ## The score that is sampled -/

/-- The score of a gateway after the reset. -/
def resetAdjusted (best score : ℚ) : ℚ :=
  let upper := resetFactor reads (getSrV3UpperResetFactor · pmt pm dimensions)
    defaultSrV3BasedUpperResetFactor
  let lower := resetFactor reads (getSrV3LowerResetFactor · pmt pm dimensions)
    defaultSrV3BasedLowerResetFactor
  if reads.resetOnSrV3 ∧ score < resetThreshold sqrt best bucketSize upper then
    ((bucketSize - numberOfZeros (failureShare sqrt best bucketSize lower) bucketSize : Int) : ℚ) /
      bucketSize
  else score

/-- The score of a gateway with the extra score, before it is cut to the range. -/
def extraAdjusted (gateway : Gateway) (score : ℚ) : ℚ :=
  if reads.extraScoreOnSrV3 then
    score + sqrt (score * (1 - score) / bucketSize) *
      ((getSrV3GatewaySigmaFactor reads.merchantSrV3InputConfig pmt pm gateway dimensions).or
        (getSrV3GatewaySigmaFactor reads.defaultSrV3InputConfig pmt pm gateway dimensions)).getD 0
  else score

variable {sqrt reads pmt pm dimensions bucketSize}

variable {score : ℚ}

theorem resetAdjusted_mem_range {best : ℚ} (roomy : reads.resetOnSrV3 = true → 2 ≤ bucketSize)
    (inRange : 0 ≤ score ∧ score ≤ 1) :
    0 ≤ resetAdjusted sqrt reads pmt pm dimensions bucketSize best score ∧
      resetAdjusted sqrt reads pmt pm dimensions bucketSize best score ≤ 1 := by
  rw [resetAdjusted]
  split
  · next isReset =>
      have notShort := roomy isReset.1
      have atMost := numberOfZeros_le (failureShare sqrt best bucketSize
        (resetFactor reads (getSrV3LowerResetFactor · pmt pm dimensions)
          defaultSrV3BasedLowerResetFactor)) notShort
      have atLeast : 2 ≤ numberOfZeros (failureShare sqrt best bucketSize
        (resetFactor reads (getSrV3LowerResetFactor · pmt pm dimensions)
          defaultSrV3BasedLowerResetFactor)) bucketSize := le_max_left _ _
      generalize numberOfZeros _ bucketSize = zeros at atMost atLeast
      have positive : (0 : ℚ) < bucketSize := by
        have cast : (2 : ℚ) ≤ bucketSize := by exact_mod_cast notShort
        linarith
      have zerosLe : (zeros : ℚ) ≤ bucketSize := by exact_mod_cast atMost
      have zerosPos : (2 : ℚ) ≤ zeros := by exact_mod_cast atLeast
      rw [Int.cast_sub, le_div_iff₀ positive, div_le_iff₀ positive]
      constructor
      · linarith
      · linarith
  · exact inRange

/-! ## The steps -/

variable {scoreMap : GatewayScoreMap ℚ}

theorem scoresAfterReset_eq_error {order : IterationOrder Gateway ℚ} {keyMap : GatewayRedisKeyMap}
    (isOn : reads.resetOnSrV3 = true) (short : bucketSize < 2) :
    @scoresAfterReset ℚ (exactNumbers sqrt) reads order scoreMap bucketSize keyMap pmt pm
      dimensions = .error .clampBounds := by
  unfold scoresAfterReset
  rw [if_pos isOn, resetSrV3Score_short _ _ short]

theorem scoresAfterReset_eq_ok (sqrt : ℚ → ℚ) (order : IterationOrder Gateway ℚ)
    (scoreMap : GatewayScoreMap ℚ) (keyMap : GatewayRedisKeyMap) (pmt pm : String)
    (dimensions : SrRoutingDimensions) (roomy : reads.resetOnSrV3 = true → 2 ≤ bucketSize) :
    ∃ updated resets, @scoresAfterReset ℚ (exactNumbers sqrt) reads order scoreMap bucketSize
        keyMap pmt pm dimensions = .ok (updated, resets) ∧
      ∀ gateway score, scoreMap.lookup gateway = some score → updated.lookup gateway =
        some (resetAdjusted sqrt reads pmt pm dimensions bucketSize (bestScore order scoreMap)
          score) := by
  unfold scoresAfterReset
  by_cases isOn : reads.resetOnSrV3 = true
  · have notShort : ¬bucketSize < 2 := not_lt.mpr (roomy isOn)
    rw [if_pos isOn, resetSrV3Score_eq order scoreMap notShort]
    refine ⟨_, _, rfl, ?_⟩
    intro gateway score found
    rw [lookup_mapEntries, found, Option.map_some, resetAdjusted]
    congr 1
    apply if_congr _ rfl rfl
    rw [and_iff_right isOn]
    exact lt_exact
  · rw [if_neg isOn]
    refine ⟨_, _, rfl, ?_⟩
    intro gateway score found
    rw [found, resetAdjusted, if_neg fun both => isOn both.1]

theorem clamp_unit (sqrt : ℚ → ℚ) (value : ℚ) :
    @clamp ℚ (exactNumbers sqrt) value 0 1 = Max.max 0 (Min.min 1 value) := by
  have unfolded : @clamp ℚ (exactNumbers sqrt) value 0 1 =
      if gt (if lt value 0 then 0 else value) 1 then 1 else if lt value 0 then 0 else value := rfl
  rw [unfolded]
  by_cases negative : value < 0
  · rw [if_pos (lt_exact.mpr negative), if_neg (by simp), min_eq_right (by linarith),
      max_eq_left negative.le]
  · rw [if_neg fun isLt => negative (lt_exact.mp isLt)]
    by_cases tooLarge : 1 < value
    · rw [if_pos (gt_exact.mpr tooLarge), min_eq_left tooLarge.le, max_eq_right (by norm_num)]
    · rw [if_neg fun isGt => tooLarge (gt_exact.mp isGt), min_eq_right (not_lt.mp tooLarge),
        max_eq_right (not_lt.mp negative)]

theorem unit_mem_range (value : ℚ) :
    0 ≤ Max.max 0 (Min.min 1 value) ∧ Max.max 0 (Min.min 1 value) ≤ 1 :=
  ⟨le_max_left _ _, max_le (by norm_num) (min_le_left _ _)⟩

variable {functionalGateways : List Gateway} {gateway : Gateway}

theorem scoresAfterExtra_lookup (functional : gateway ∈ functionalGateways)
    (found : scoreMap.lookup gateway = some score) (inRange : 0 ≤ score ∧ score ≤ 1) :
    (@scoresAfterExtra ℚ (exactNumbers sqrt) reads functionalGateways scoreMap bucketSize pmt pm
      dimensions).lookup gateway = some (Max.max 0 (Min.min 1
        (extraAdjusted sqrt reads pmt pm dimensions bucketSize gateway score))) := by
  unfold scoresAfterExtra
  rw [extraAdjusted]
  by_cases isOn : reads.extraScoreOnSrV3 = true
  · rw [if_pos isOn, if_pos isOn, lookup_insertKeys, if_pos functional, ← clamp_unit sqrt]
    unfold addExtraScore
    rw [found]
    rfl
  · rw [if_neg isOn, if_neg isOn, found, min_eq_right inRange.2, max_eq_right inRange.1]

theorem sampleFromBinomialDistribution_eq_ok (inSampleRange : SamplesInRange reads)
    (positive : 0 < bucketSize) (found : scoreMap.lookup gateway = some score)
    (inRange : 0 ≤ score ∧ score ≤ 1) :
    ∃ sample, @sampleFromBinomialDistribution ℚ (exactNumbers sqrt) reads scoreMap bucketSize
        gateway = .ok sample ∧ 0 ≤ sample ∧ sample ≤ 1 := by
  have isProbability : (ge score 0 && le score 1) = true := by
    rw [Bool.and_eq_true, ge_exact, le_exact]
    exact inRange
  refine ⟨(reads.binomialSample gateway bucketSize score : Int) / bucketSize, ?_, ?_⟩
  · unfold sampleFromBinomialDistribution
    rw [found]
    exact if_pos isProbability
  · have few := inSampleRange.binomial gateway bucketSize score positive.le
    have cast : (0 : ℚ) < bucketSize := by exact_mod_cast positive
    refine ⟨by positivity, ?_⟩
    rw [div_le_one cast]
    exact_mod_cast few

/-- The parameters of the beta distribution are positive for a score strictly inside the range. -/
theorem betaParameters_iff (positive : 0 < bucketSize) :
    (gt ((bucketSize : ℚ) * score) 0 && gt ((bucketSize : ℚ) - bucketSize * score) 0) = true ↔
      0 < score ∧ score < 1 := by
  have cast : (0 : ℚ) < bucketSize := by exact_mod_cast positive
  rw [Bool.and_eq_true, gt_exact, gt_exact, mul_pos_iff_of_pos_left cast, sub_pos]
  constructor
  · rintro ⟨scorePos, less⟩
    exact ⟨scorePos, by nlinarith⟩
  · rintro ⟨scorePos, less⟩
    exact ⟨scorePos, by nlinarith⟩

theorem sampleFromBetaDistribution_eq_ok (inSampleRange : SamplesInRange reads)
    (positive : 0 < bucketSize) (found : scoreMap.lookup gateway = some score)
    (inside : 0 < score ∧ score < 1) :
    ∃ sample, @sampleFromBetaDistribution ℚ (exactNumbers sqrt) reads scoreMap bucketSize
        gateway = .ok sample ∧ 0 ≤ sample ∧ sample ≤ 1 := by
  have areValid := (betaParameters_iff positive).mpr inside
  refine ⟨reads.betaSample gateway (bucketSize * score) (bucketSize - bucketSize * score), ?_, ?_⟩
  · unfold sampleFromBetaDistribution
    rw [found]
    exact if_pos areValid
  · rw [Bool.and_eq_true, gt_exact, gt_exact] at areValid
    exact inSampleRange.beta gateway _ _ areValid.1 areValid.2

theorem inside_of_sampleFromBetaDistribution (positive : 0 < bucketSize)
    {scoreMap : GatewayScoreMap ℚ} {gateway : Gateway} {score sample : ℚ}
    (found : scoreMap.lookup gateway = some score)
    (returned : @sampleFromBetaDistribution ℚ (exactNumbers sqrt) reads scoreMap bucketSize
      gateway = .ok sample) : 0 < score ∧ score < 1 := by
  rw [← betaParameters_iff positive]
  unfold sampleFromBetaDistribution at returned
  rw [found] at returned
  by_contra isInvalid
  cases (if_neg isInvalid).symm.trans returned

/-- The scores that leave the distribution, if the sampled scores allow it. -/
theorem scoresAfterDistribution_iff (sqrt : ℚ → ℚ) (inSampleRange : SamplesInRange reads)
    (positive : 0 < bucketSize) {scoreOf : Gateway → ℚ}
    (found : ∀ gateway ∈ functionalGateways, scoreMap.lookup gateway = some (scoreOf gateway))
    (inRange : ∀ gateway ∈ functionalGateways, 0 ≤ scoreOf gateway ∧ scoreOf gateway ≤ 1) :
    (∃ scores, @scoresAfterDistribution ℚ (exactNumbers sqrt) reads functionalGateways scoreMap
          bucketSize = .ok scores ∧ ∀ gateway ∈ functionalGateways,
        ∃ score, scores.lookup gateway = some score ∧ 0 ≤ score ∧ score ≤ 1) ↔
      (reads.binomialDistributionOnSrV3 = false → reads.betaDistributionOnSrV3 = true →
        ∀ gateway ∈ functionalGateways, 0 < scoreOf gateway ∧ scoreOf gateway < 1) := by
  have fromSamples : ∀ {sample : Gateway → Except Panic ℚ}, (∀ gateway ∈ functionalGateways,
      ∃ score, sample gateway = .ok score ∧ 0 ≤ score ∧ score ≤ 1) →
      ∃ scores, insertKeysM (∅ : GatewayScoreMap ℚ) sample functionalGateways = .ok scores ∧
        ∀ gateway ∈ functionalGateways,
          ∃ score, scores.lookup gateway = some score ∧ 0 ≤ score ∧ score ≤ 1 := by
    intro sample sampled
    choose! score isSample sampleRange using sampled
    refine ⟨_, insertKeysM_eq_ok isSample, ?_⟩
    intro gateway functional
    exact ⟨score gateway, by rw [lookup_insertKeys, if_pos functional],
      sampleRange gateway functional⟩
  unfold scoresAfterDistribution
  by_cases isBinomial : reads.binomialDistributionOnSrV3 = true
  · rw [if_pos isBinomial]
    apply iff_of_true
    · apply fromSamples
      intro gateway functional
      exact sampleFromBinomialDistribution_eq_ok inSampleRange positive (found gateway functional)
        (inRange gateway functional)
    · intro notBinomial
      rw [isBinomial] at notBinomial
      cases notBinomial
  · rw [if_neg isBinomial]
    by_cases isBeta : reads.betaDistributionOnSrV3 = true
    · rw [if_pos isBeta]
      constructor
      · rintro ⟨scores, returned, -⟩ - - gateway functional
        rcases ok_of_insertKeysM returned gateway functional with ⟨sample, isSample⟩
        exact inside_of_sampleFromBetaDistribution positive (found gateway functional) isSample
      · intro inside
        apply fromSamples
        intro gateway functional
        exact sampleFromBetaDistribution_eq_ok inSampleRange positive (found gateway functional)
          (inside (Bool.eq_false_iff.mpr isBinomial) isBeta gateway functional)
    · rw [if_neg isBeta]
      apply iff_of_true
      · exact ⟨scoreMap, rfl, fun gateway functional =>
          ⟨scoreOf gateway, found gateway functional, inRange gateway functional⟩⟩
      · intro _ isOn
        exact absurd isOn isBeta

end Adjustment

/-! ## The pipeline -/

section Pipeline

variable {sqrt : ℚ → ℚ} {reads : SrV3Reads ℚ}

/-- The cached score of a functional gateway. -/
def cachedScoreOf (reads : SrV3Reads ℚ) (keys : KeyReads) (functionalGateways : List Gateway)
    (bucketSize : Int) (gateway : Gateway) : ℚ :=
  reads.cachedScore bucketSize
    (((keys.consumerKey .srV3Key functionalGateways).lookup gateway).getD "")

/-- Every functional gateway has a key and a cached score. -/
theorem lookup_cachedScores (keys : KeyReads) {functionalGateways : List Gateway}
    (bucketSize : Int) {gateway : Gateway} (functional : gateway ∈ functionalGateways) :
    (cachedScores reads bucketSize (keys.consumerKey .srV3Key functionalGateways)
      functionalGateways).lookup gateway =
      some (cachedScoreOf reads keys functionalGateways bucketSize gateway) := by
  have isSome : ∃ key,
      (keys.consumerKey .srV3Key functionalGateways).lookup gateway = some key := by
    rw [KeyReads.consumerKey, getConsumerKey, getUnifiedKey, lookup_mapEntries,
      lookup_gwRefIdMap _ _ functional]
    exact ⟨_, rfl⟩
  rcases isSome with ⟨key, found⟩
  have listed := lookup_collect_keys functionalGateways
    (fun gateway => ((keys.consumerKey .srV3Key functionalGateways).lookup gateway).map fun key =>
      reads.cachedScore bucketSize key) gateway
  simp only [Option.map_map, Function.comp_def] at listed
  rw [cachedScores, listed, if_pos functional, cachedScoreOf, found]
  rfl

theorem unit_inside_iff {value : ℚ} :
    (0 < Max.max 0 (Min.min 1 value) ∧ Max.max 0 (Min.min 1 value) < 1) ↔
      0 < value ∧ value < 1 := by
  rw [lt_max_iff, lt_min_iff, max_lt_iff, min_lt_iff]
  constructor
  · rintro ⟨positive, less⟩
    exact ⟨(positive.resolve_left (lt_irrefl 0)).2, less.2.resolve_left (lt_irrefl 1)⟩
  · rintro ⟨positive, less⟩
    exact ⟨Or.inr ⟨one_pos, positive⟩, one_pos, Or.inr less⟩

/-- Every functional gateway gets a score exactly when the reset has room for its failures and
the beta distribution is not asked for a score at an end of the range. -/
theorem givesScores_iff (inSampleRange : SamplesInRange reads) (order : IterationOrder Gateway ℚ)
    (keys : KeyReads) (functionalGateways : List Gateway) (pmt pm : String)
    (dimensions : SrRoutingDimensions) (abUseAutopilot : Bool) :
    GivesScores functionalGateways (@getCachedScoresBasedOnSrV3 ℚ (exactNumbers sqrt) reads order
        (keys.consumerKey .srV3Key functionalGateways) functionalGateways pmt pm dimensions
        abUseAutopilot) ↔
      (reads.resetOnSrV3 = true → 2 ≤ srV3BucketSize reads pmt pm dimensions abUseAutopilot) ∧
        (reads.binomialDistributionOnSrV3 = false → reads.betaDistributionOnSrV3 = true →
          ∀ gateway ∈ functionalGateways,
            let bucketSize := srV3BucketSize reads pmt pm dimensions abUseAutopilot
            let best := bestScore order (cachedScores reads bucketSize
              (keys.consumerKey .srV3Key functionalGateways) functionalGateways)
            let sampled := extraAdjusted sqrt reads pmt pm dimensions bucketSize gateway
              (resetAdjusted sqrt reads pmt pm dimensions bucketSize best
                (cachedScoreOf reads keys functionalGateways bucketSize gateway))
            0 < sampled ∧ sampled < 1) := by
  have positive := srV3BucketSize_pos reads pmt pm dimensions abUseAutopilot
  unfold getCachedScoresBasedOnSrV3
  generalize srV3BucketSize reads pmt pm dimensions abUseAutopilot = bucketSize at positive
  dsimp only
  by_cases roomy : reads.resetOnSrV3 = true → 2 ≤ bucketSize
  · rw [and_iff_right roomy]
    rcases scoresAfterReset_eq_ok sqrt order
        (cachedScores reads bucketSize (keys.consumerKey .srV3Key functionalGateways)
          functionalGateways)
        (keys.consumerKey .srV3Key functionalGateways) pmt pm dimensions roomy with
      ⟨updated, resets, returned, adjusted⟩
    generalize bestScore order (cachedScores reads bucketSize
      (keys.consumerKey .srV3Key functionalGateways) functionalGateways) = best at adjusted
    rw [returned]
    have found : ∀ gateway ∈ functionalGateways, updated.lookup gateway =
        some (resetAdjusted sqrt reads pmt pm dimensions bucketSize best
          (cachedScoreOf reads keys functionalGateways bucketSize gateway)) := by
      intro gateway functional
      exact adjusted gateway _ (lookup_cachedScores keys bucketSize functional)
    have afterExtra : ∀ gateway ∈ functionalGateways,
        (@scoresAfterExtra ℚ (exactNumbers sqrt) reads functionalGateways updated bucketSize pmt pm
          dimensions).lookup gateway = some (Max.max 0 (Min.min 1
            (extraAdjusted sqrt reads pmt pm dimensions bucketSize gateway
              (resetAdjusted sqrt reads pmt pm dimensions bucketSize best
                (cachedScoreOf reads keys functionalGateways bucketSize gateway))))) := by
      intro gateway functional
      exact scoresAfterExtra_lookup functional (found gateway functional)
        (resetAdjusted_mem_range roomy (inSampleRange.cached _ _))
    have distribution := scoresAfterDistribution_iff sqrt inSampleRange positive afterExtra
      fun gateway _ => unit_mem_range _
    simp only [unit_inside_iff] at distribution
    rw [← distribution]
    constructor
    · rintro ⟨scores, written, isResult, inRange⟩
      rcases bind_eq_ok.mp isResult with ⟨_, isReset, later⟩
      cases isReset
      rcases bind_eq_ok.mp later with ⟨sampled, isSampled, isPair⟩
      cases isPair
      exact ⟨scores, isSampled, inRange⟩
    · rintro ⟨scores, isSampled, inRange⟩
      exact ⟨scores, resets, bind_eq_ok.mpr ⟨_, rfl, bind_eq_ok.mpr ⟨scores, isSampled, rfl⟩⟩,
        inRange⟩
  · apply iff_of_false
    · rw [Classical.not_imp, not_le] at roomy
      rw [scoresAfterReset_eq_error roomy.1 roomy.2]
      rintro ⟨scores, resets, returned, -⟩
      cases returned
    · rintro ⟨isRoomy, -⟩
      exact roomy isRoomy

end Pipeline

/-! ## A gateway without a failure -/

/-- The windows of a store, with the means of the distributions for their samples. -/
def meanReads (store : Redis.Store) (withBeta : Bool) : SrV3Reads ℚ where
  merchantSrV3InputConfig := none
  defaultSrV3InputConfig := none
  cachedScore size key := getScoreFromRedis parseOutcome store key size
  resetOnSrV3 := true
  extraScoreOnSrV3 := false
  binomialDistributionOnSrV3 := !withBeta
  betaDistributionOnSrV3 := withBeta
  binomialSample _ trials _ := trials.toNat
  betaSample _ success failure := success / (success + failure)

theorem samplesInRange_meanReads (store : Redis.Store) (withBeta : Bool) :
    SamplesInRange (meanReads store withBeta) where
  cached size key := getScoreFromRedis_mem_range parseOutcome store key size
  binomial _ trials _ nonneg := by
    rw [meanReads, Int.toNat_of_nonneg nonneg]
  beta _ success failure successPos failurePos := by
    refine ⟨div_nonneg successPos.le (by linarith), ?_⟩
    rw [meanReads, div_le_one (by linarith)]
    linarith

def freshKeys : KeyReads :=
  ⟨noConfigs, cardData, fun _ => none⟩

/-- Every window has a success and a failure. -/
def evenWindows : Redis.Store :=
  fun _ => some (.list ["1", "0"])

theorem givesScores_iff_beta :
    GivesScores ["stripe", "adyen"] (@getCachedScoresBasedOnSrV3 ℚ (exactNumbers Rat.sqrt)
      (meanReads evenWindows true) IterationOrder.stored
      (freshKeys.consumerKey .srV3Key ["stripe", "adyen"]) ["stripe", "adyen"] "CARD" "DEBIT"
      ⟨none, none, none, none, none⟩ true) :=
  (givesScores_iff (samplesInRange_meanReads evenWindows true) IterationOrder.stored freshKeys
    ["stripe", "adyen"] "CARD" "DEBIT" ⟨none, none, none, none, none⟩ true).mpr
    ⟨fun _ => by decide, fun _ _ => by decide +kernel⟩

/-- The score of a gateway without a failure is 1, from which the beta distribution is invalid. -/
theorem givesScores_counterexample :
    SamplesInRange (meanReads (fun _ => none) true) ∧
      ¬GivesScores ["stripe"] (@getCachedScoresBasedOnSrV3 ℚ (exactNumbers Rat.sqrt)
        (meanReads (fun _ => none) true) IterationOrder.stored
        (freshKeys.consumerKey .srV3Key ["stripe"]) ["stripe"] "CARD" "DEBIT"
        ⟨none, none, none, none, none⟩ true) := by
  refine ⟨samplesInRange_meanReads _ true, ?_⟩
  rintro ⟨scores, resets, returned, -⟩
  have failed : (getCachedScoresBasedOnSrV3 (meanReads (fun _ => none) true) IterationOrder.stored
      (freshKeys.consumerKey .srV3Key ["stripe"]) ["stripe"] "CARD" "DEBIT"
      ⟨none, none, none, none, none⟩ true).toOption.isSome = false := by decide +kernel
  rw [show getCachedScoresBasedOnSrV3 (meanReads (fun _ => none) true) _ _ _ _ _ _ _ = _ from
    returned] at failed
  cases failed

end DecisionEngine.Scoring
