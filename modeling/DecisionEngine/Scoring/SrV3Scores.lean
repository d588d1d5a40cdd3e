import DecisionEngine.Scoring.ScoreMap
import DecisionEngine.Scoring.SrV3Config
import DecisionEngine.Transition.Effect

/-!
# Success-rate scores

The scores of the functional gateways by their success rate: the cached scores, the
reset of the low ones, the extra score and the sampled distributions.  Clamping to an
empty range and sampling from an invalid distribution stop the program.
-/

namespace DecisionEngine.Scoring

open Map Number Transition

/-- What the scores are computed from, besides the payment: the configurations, the
answers of the feature flags, the cached scores and the samples. -/
structure SrV3Reads (F : Type) where
  merchantSrV3InputConfig : Option (SrV3InputConfig F)
  defaultSrV3InputConfig : Option (SrV3InputConfig F)
  /-- The score for a bucket size and a key, from the memory or from the store. -/
  cachedScore : Int → RedisKey → F
  resetOnSrV3 : Bool
  extraScoreOnSrV3 : Bool
  binomialDistributionOnSrV3 : Bool
  betaDistributionOnSrV3 : Bool
  /-- The successes that a gateway draws from a number of trials and a probability. -/
  binomialSample : Gateway → Int → F → Nat
  betaSample : Gateway → F → F → F

/-- A list of outcomes that replaces the window behind a key, with its successes. -/
structure SrV3Reset where
  key : RedisKey
  score : Int
  scoreList : List String

/-! ## The cached scores -/

section Cached

variable {F : Type}

variable (reads : SrV3Reads F)

/-- The cached scores of the gateways that have a key. -/
def cachedScores (bucketSize : Int) (keyMap : GatewayRedisKeyMap)
    (functionalGateways : List Gateway) : GatewayScoreMap F :=
  collect (functionalGateways.filterMap fun gateway =>
    (keyMap.lookup gateway).map fun key => (gateway, reads.cachedScore bucketSize key))

theorem functional_of_mem_cachedScores {reads : SrV3Reads F} {bucketSize : Int}
    {keyMap : GatewayRedisKeyMap} {functionalGateways : List Gateway} {gateway : Gateway}
    (scored : gateway ∈ cachedScores reads bucketSize keyMap functionalGateways) :
    gateway ∈ functionalGateways := by
  rw [cachedScores, mem_collect] at scored
  rcases List.mem_map.mp scored with ⟨entry, listed, rfl⟩
  rcases List.mem_filterMap.mp listed with ⟨functional, isFunctional, found⟩
  rcases Option.map_eq_some_iff.mp found with ⟨key, -, rfl⟩
  exact isFunctional

/-- The bucket size of the merchant, else the one of the service. -/
def srV3BucketSize (pmt pm : String) (dimensions : SrRoutingDimensions) (abUseAutopilot : Bool) :
    Int :=
  ((getSrV3BucketSize reads.merchantSrV3InputConfig pmt pm dimensions abUseAutopilot).or
    (getSrV3BucketSize reads.defaultSrV3InputConfig pmt pm dimensions abUseAutopilot)).getD
    defaultSrV3BasedBucketSize

theorem srV3BucketSize_pos (pmt pm : String) (dimensions : SrRoutingDimensions)
    (abUseAutopilot : Bool) :
    0 < srV3BucketSize reads pmt pm dimensions abUseAutopilot := by
  cases merchant : getSrV3BucketSize reads.merchantSrV3InputConfig pmt pm dimensions
      abUseAutopilot with
  | some size =>
      rw [srV3BucketSize, merchant]
      exact getSrV3BucketSize_pos merchant
  | none =>
      cases service : getSrV3BucketSize reads.defaultSrV3InputConfig pmt pm dimensions
          abUseAutopilot with
      | some size =>
          rw [srV3BucketSize, merchant, service]
          exact getSrV3BucketSize_pos service
      | none =>
          rw [srV3BucketSize, merchant, service]
          decide

end Cached

section Scores

variable {F : Type} [MachineNumber F]

/-! ## Reset of the low scores -/

/-- The outcomes of a reset window, with the failures spread over it. -/
def resetScoreList (bucketSize : Int) (intervalBetweenZeros : F) : List String :=
  let outcomes := (List.range' 1 bucketSize.toNat).reverse.foldl
    (fun (state : Int × List String) i =>
      if ge ((ofInt bucketSize : F) - ofInt i) (ofInt state.1 * intervalBetweenZeros) then
        (state.1 + 1, state.2 ++ ["0"])
      else (state.1, state.2 ++ ["1"]))
    (0, [])
  outcomes.2.reverse

variable (order : IterationOrder Gateway F)

/-- The scores below the threshold are lifted to the score of a reset window, which
replaces the windows behind their keys. -/
def resetSrV3Score (scoreMap : GatewayScoreMap F) (bucketSize : Int)
    (srGatewayRedisKeyMap : GatewayRedisKeyMap) (upperResetFactor lowerResetFactor : F) :
    Except Panic (GatewayScoreMap F × List SrV3Reset) :=
  let maxScore := ((getMaxScoreGateway order scoreMap).map Prod.snd).getD (ofRat 1)
  let floatBucketSize : F := ofInt bucketSize
  let var := max (maxScore * (ofRat 1 - maxScore)) (ofRat 0.09) / floatBucketSize
  let sigma := MachineNumber.sqrt var
  let scoreResetThreshold := maxScore - upperResetFactor * sigma
  let zeros := MachineNumber.floorToI32
    ((ofRat 1 - maxScore + lowerResetFactor * sigma) * floatBucketSize)
  if bucketSize < 2 then .error .clampBounds
  else
    let numberOfZeros := Max.max 2 (Min.min zeros bucketSize)
    let intervalBetweenZeros := (floatBucketSize - ofRat 1) / (ofInt numberOfZeros - ofRat 1)
    let scoreList := resetScoreList bucketSize intervalBetweenZeros
    let scoreResetValue := bucketSize - numberOfZeros
    let keyScoreMap := (order.entries scoreMap).filterMap fun entry =>
      (srGatewayRedisKeyMap.lookup entry.1).map fun key => (key, entry.2)
    let keysForReset := (keyScoreMap.filter fun entry =>
      lt entry.2 scoreResetThreshold).map Prod.fst
    .ok
      (mapEntries scoreMap fun _ score =>
          if lt score scoreResetThreshold then ofInt scoreResetValue / floatBucketSize else score,
        keysForReset.map fun key => ⟨key, scoreResetValue, scoreList⟩)

theorem sameKeys_resetSrV3Score {order : IterationOrder Gateway F}
    {scoreMap updated : GatewayScoreMap F} {bucketSize : Int} {keyMap : GatewayRedisKeyMap}
    {upper lower : F} {resets : List SrV3Reset}
    (returned : resetSrV3Score order scoreMap bucketSize keyMap upper lower =
      .ok (updated, resets)) :
    SameKeys updated scoreMap := by
  rw [resetSrV3Score] at returned
  split at returned
  · cases returned
  · cases returned
    exact sameKeys_mapEntries scoreMap _

/-! ## Extra score and samples -/

variable (reads : SrV3Reads F) (updatedScoreMapAfterReset : GatewayScoreMap F)
  (merchantBucketSize : Int) (pmt pm : String)

def addExtraScore (gateway : Gateway) (dimensions : SrRoutingDimensions) : F :=
  let gatewaySigmaFactor :=
    ((getSrV3GatewaySigmaFactor reads.merchantSrV3InputConfig pmt pm gateway dimensions).or
      (getSrV3GatewaySigmaFactor reads.defaultSrV3InputConfig pmt pm gateway dimensions)).getD
      defaultSrV3BasedGatewaySigmaFactor
  let score := (updatedScoreMapAfterReset.lookup gateway).getD (ofRat 1)
  let var := (score * (ofRat 1 - score)) / ofInt merchantBucketSize
  let extraScore := MachineNumber.sqrt var * gatewaySigmaFactor
  clamp (score + extraScore) (ofRat 0) (ofRat 1)

variable (finalScoreMap : GatewayScoreMap F)

/-- The distribution is invalid unless the score is a probability. -/
def sampleFromBinomialDistribution (merchantBucketSize : Int) (gateway : Gateway) :
    Except Panic F :=
  let score := (finalScoreMap.lookup gateway).getD (ofRat 1)
  if ge score (ofRat 0) && le score (ofRat 1) then
    .ok (ofInt (reads.binomialSample gateway merchantBucketSize score) /
      ofInt merchantBucketSize)
  else .error .invalidDistribution

/-- The distribution is invalid unless both of its parameters are positive. -/
def sampleFromBetaDistribution (merchantBucketSize : Int) (gateway : Gateway) : Except Panic F :=
  let score := (finalScoreMap.lookup gateway).getD (ofRat 1)
  let success := ofInt merchantBucketSize * score
  let failure := ofInt merchantBucketSize - success
  if gt success (ofRat 0) && gt failure (ofRat 0) then
    .ok (reads.betaSample gateway success failure)
  else .error .invalidDistribution

/-! ## The scores -/

/-- A factor of the merchant, else the one of the service, else the default. -/
def resetFactor (factor : Option (SrV3InputConfig F) → Option F) (default : F) : F :=
  ((factor reads.merchantSrV3InputConfig).or (factor reads.defaultSrV3InputConfig)).getD default

def scoresAfterReset (order : IterationOrder Gateway F) (scoreMap : GatewayScoreMap F)
    (merchantBucketSize : Int) (srGatewayRedisKeyMap : GatewayRedisKeyMap) (pmt pm : String)
    (dimensions : SrRoutingDimensions) : Except Panic (GatewayScoreMap F × List SrV3Reset) :=
  if reads.resetOnSrV3 then
    resetSrV3Score order scoreMap merchantBucketSize srGatewayRedisKeyMap
      (resetFactor reads (getSrV3UpperResetFactor · pmt pm dimensions)
        defaultSrV3BasedUpperResetFactor)
      (resetFactor reads (getSrV3LowerResetFactor · pmt pm dimensions)
        defaultSrV3BasedLowerResetFactor)
  else .ok (scoreMap, [])

theorem sameKeys_scoresAfterReset {reads : SrV3Reads F} {order : IterationOrder Gateway F}
    {scoreMap updated : GatewayScoreMap F} {bucketSize : Int} {keyMap : GatewayRedisKeyMap}
    {pmt pm : String} {dimensions : SrRoutingDimensions} {resets : List SrV3Reset}
    (returned : scoresAfterReset reads order scoreMap bucketSize keyMap pmt pm dimensions =
      .ok (updated, resets)) :
    SameKeys updated scoreMap := by
  rw [scoresAfterReset] at returned
  split at returned
  · exact sameKeys_resetSrV3Score returned
  · cases returned
    exact SameKeys.refl scoreMap

variable (functionalGateways : List Gateway)

def scoresAfterExtra (updatedScoreMapAfterReset : GatewayScoreMap F) (merchantBucketSize : Int)
    (pmt pm : String) (dimensions : SrRoutingDimensions) : GatewayScoreMap F :=
  if reads.extraScoreOnSrV3 then
    insertKeys ∅ functionalGateways fun gateway =>
      addExtraScore reads updatedScoreMapAfterReset merchantBucketSize pmt pm gateway dimensions
  else updatedScoreMapAfterReset

theorem mem_scoresAfterExtra {reads : SrV3Reads F} {functionalGateways : List Gateway}
    {scoreMap : GatewayScoreMap F} {bucketSize : Int} {pmt pm : String}
    {dimensions : SrRoutingDimensions} {gateway : Gateway}
    (scored : gateway ∈
      scoresAfterExtra reads functionalGateways scoreMap bucketSize pmt pm dimensions) :
    gateway ∈ functionalGateways ∨ gateway ∈ scoreMap := by
  rw [scoresAfterExtra] at scored
  split at scored
  · rcases mem_insertKeys.mp scored with isFunctional | inEmpty
    · exact Or.inl isFunctional
    · exact absurd inEmpty (AList.notMem_empty gateway)
  · exact Or.inr scored

def scoresAfterDistribution (finalScoreMap : GatewayScoreMap F) (merchantBucketSize : Int) :
    Except Panic (GatewayScoreMap F) :=
  if reads.binomialDistributionOnSrV3 then
    insertKeysM ∅ (sampleFromBinomialDistribution reads finalScoreMap merchantBucketSize)
      functionalGateways
  else if reads.betaDistributionOnSrV3 then
    insertKeysM ∅ (sampleFromBetaDistribution reads finalScoreMap merchantBucketSize)
      functionalGateways
  else .ok finalScoreMap

theorem mem_scoresAfterDistribution {reads : SrV3Reads F} {functionalGateways : List Gateway}
    {scoreMap sampled : GatewayScoreMap F} {bucketSize : Int}
    (returned : scoresAfterDistribution reads functionalGateways scoreMap bucketSize =
      .ok sampled)
    {gateway : Gateway} (scored : gateway ∈ sampled) :
    gateway ∈ functionalGateways ∨ gateway ∈ scoreMap := by
  have fromSamples : ∀ {sample : Gateway → Except Panic F},
      insertKeysM ∅ sample functionalGateways = .ok sampled →
      gateway ∈ functionalGateways := by
    intro sample filled
    rcases (mem_insertKeysM filled).mp scored with isFunctional | inEmpty
    · exact isFunctional
    · exact absurd inEmpty (AList.notMem_empty gateway)
  rw [scoresAfterDistribution] at returned
  split at returned
  · exact Or.inl (fromSamples returned)
  · split at returned
    · exact Or.inl (fromSamples returned)
    · cases returned
      exact Or.inr scored

def getCachedScoresBasedOnSrV3 (order : IterationOrder Gateway F)
    (srGatewayRedisKeyMap : GatewayRedisKeyMap) (functionalGateways : List Gateway)
    (pmt pm : String) (dimensions : SrRoutingDimensions) (abUseAutopilot : Bool) :
    Except Panic (GatewayScoreMap F × List SrV3Reset) :=
  let merchantBucketSize := srV3BucketSize reads pmt pm dimensions abUseAutopilot
  let scoreMap := cachedScores reads merchantBucketSize srGatewayRedisKeyMap functionalGateways
  scoresAfterReset reads order scoreMap merchantBucketSize srGatewayRedisKeyMap pmt pm
      dimensions >>= fun reset =>
    scoresAfterDistribution reads functionalGateways
        (scoresAfterExtra reads functionalGateways reset.1 merchantBucketSize pmt pm dimensions)
        merchantBucketSize >>= fun scores =>
      .ok (scores, reset.2)

/-- Only functional gateways get a success-rate score. -/
theorem functional_of_mem_getCachedScoresBasedOnSrV3 {reads : SrV3Reads F}
    {order : IterationOrder Gateway F} {keyMap : GatewayRedisKeyMap}
    {functionalGateways : List Gateway} {pmt pm : String} {dimensions : SrRoutingDimensions}
    {abUseAutopilot : Bool} {scores : GatewayScoreMap F} {resets : List SrV3Reset}
    (returned : getCachedScoresBasedOnSrV3 reads order keyMap functionalGateways pmt pm
      dimensions abUseAutopilot = .ok (scores, resets)) {gateway : Gateway}
    (scored : gateway ∈ scores) : gateway ∈ functionalGateways := by
  rcases bind_eq_ok.mp returned with ⟨⟨afterReset, written⟩, reset, later⟩
  rcases bind_eq_ok.mp later with ⟨sampled, distributed, isResult⟩
  cases isResult
  rcases mem_scoresAfterDistribution distributed scored with isFunctional | afterExtra
  · exact isFunctional
  · rcases mem_scoresAfterExtra afterExtra with isFunctional | present
    · exact isFunctional
    · exact functional_of_mem_cachedScores
        ((sameKeys_scoresAfterReset reset gateway).mp present)

end Scores

/-! ## State of a decision

The approach of a decision, how a downtime changes it, and the state that the scoring
writes.  What only logs read is left out.
-/

inductive GatewayDeciderApproach where
  | srSelection
  | srSelectionV2Routing
  | srSelectionV3Routing
  | priorityLogic
  | default
  | none
  | merchantPreference
  | plAllDowntimeRouting
  | plDowntimeRouting
  | plGlobalDowntimeRouting
  | srV2AllDowntimeRouting
  | srV2DowntimeRouting
  | srV2GlobalDowntimeRouting
  | srV2Hedging
  | srV2AllDowntimeHedging
  | srV2DowntimeHedging
  | srV2GlobalDowntimeHedging
  | srV3AllDowntimeRouting
  | srV3DowntimeRouting
  | srV3GlobalDowntimeRouting
  | srV3Hedging
  | srV3AllDowntimeHedging
  | srV3DowntimeHedging
  | srV3GlobalDowntimeHedging
  | ntwBasedRouting
  | abTestStaticAlgorithm
  | srSelectionMultiObjective
  deriving DecidableEq

inductive DownTime where
  | allDowntime
  | globalDowntime
  | downtime
  | noDowntime
  deriving DecidableEq

def GatewayDeciderApproach.isHedging : GatewayDeciderApproach → Bool
  | .srV2Hedging | .srV2AllDowntimeHedging | .srV2DowntimeHedging | .srV2GlobalDowntimeHedging
  | .srV3Hedging | .srV3AllDowntimeHedging | .srV3DowntimeHedging
  | .srV3GlobalDowntimeHedging => true
  | _ => false

/-- Every approach that is not a success-rate approach becomes one of priority logic. -/
def modifyGatewayDeciderApproach (approach : GatewayDeciderApproach) (downTime : DownTime) :
    GatewayDeciderApproach :=
  match approach, downTime with
  | .srSelectionV3Routing, .allDowntime => .srV3AllDowntimeRouting
  | .srSelectionV3Routing, .globalDowntime => .srV3GlobalDowntimeRouting
  | .srSelectionV3Routing, .downtime => .srV3DowntimeRouting
  | .srSelectionV3Routing, .noDowntime => .srSelectionV3Routing
  | .srV3Hedging, .allDowntime => .srV3AllDowntimeHedging
  | .srV3Hedging, .globalDowntime => .srV3GlobalDowntimeHedging
  | .srV3Hedging, .downtime => .srV3DowntimeHedging
  | .srV3Hedging, .noDowntime => .srV3Hedging
  | .srSelectionV2Routing, .allDowntime => .srV2AllDowntimeRouting
  | .srSelectionV2Routing, .globalDowntime => .srV2GlobalDowntimeRouting
  | .srSelectionV2Routing, .downtime => .srV2DowntimeRouting
  | .srSelectionV2Routing, .noDowntime => .srSelectionV2Routing
  | .srV2Hedging, .allDowntime => .srV2AllDowntimeHedging
  | .srV2Hedging, .globalDowntime => .srV2GlobalDowntimeHedging
  | .srV2Hedging, .downtime => .srV2DowntimeHedging
  | .srV2Hedging, .noDowntime => .srV2Hedging
  | _, .allDowntime => .plAllDowntimeRouting
  | _, .globalDowntime => .plGlobalDowntimeRouting
  | _, .downtime => .plDowntimeRouting
  | _, .noDowntime => .priorityLogic

/-- An approach needs more than one gateway to choose from. -/
def getGatewayDeciderApproach {F : Type} (scoreMap : GatewayScoreMap F)
    (approach : GatewayDeciderApproach) : GatewayDeciderApproach :=
  if scoreMap.keys.length = 0 then .none
  else if scoreMap.keys.length = 1 then .default
  else approach

/-- The state of a decision; the resets are what the scoring writes to the store. -/
structure Writer (F : Type) where
  gwScoreMap : GatewayScoreMap F
  gwDeciderApproach : GatewayDeciderApproach
  isScheduledOutage : Bool
  isSrV3MetricEnabled : Bool
  topGatewayBeforeSRDowntimeEvaluation : Option Gateway
  srV3Resets : List SrV3Reset

end DecisionEngine.Scoring
