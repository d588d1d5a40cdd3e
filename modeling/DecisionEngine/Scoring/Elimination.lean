import DecisionEngine.Scoring.ScoringData
import DecisionEngine.Scoring.SrV3Scores

/-!
# Elimination by success rate

The penalties of the gateways whose success rate is below a threshold, for all
merchants and for one merchant, and the downtime that they tell.
-/

namespace DecisionEngine.Scoring

open Map Number

inductive EliminationLevel where
  | gateway
  | paymentMethodType
  | paymentMethod
  | none
  | forcedPaymentMethod
  deriving DecidableEq

structure GatewayWiseSuccessRateBasedRoutingInput (F : Type) where
  gateway : Gateway
  eliminationThreshold : Option F
  eliminationMaxCountThreshold : Option Int
  selectionMaxCountThreshold : Option Int
  softTxnResetCount : Option Int
  gatewayLevelEliminationThreshold : Option F
  eliminationLevel : Option EliminationLevel
  currentScore : Option F
  lastResetTimeStamp : Option Int

structure GatewaySuccessRateBasedRoutingInput (F : Type) where
  gatewayWiseInputs : Option (List (GatewayWiseSuccessRateBasedRoutingInput F))
  defaultEliminationThreshold : F
  defaultEliminationLevel : EliminationLevel
  enabledPaymentMethodTypes : List String
  globalGatewayWiseInputs : Option (List (GatewayWiseSuccessRateBasedRoutingInput F))
  defaultGlobalEliminationThreshold : Option F
  defaultGlobalEliminationMaxCountThreshold : Option Int
  defaultGlobalEliminationLevel : Option EliminationLevel
  defaultGlobalSoftTxnResetCount : Option Int
  defaultGatewayLevelEliminationThreshold : Option F

/-- The score of a gateway for one merchant. -/
structure GatewayScore (F : Type) where
  score : F
  lastResetTimestamp : Int

/-- The scores of a gateway for each merchant. -/
structure GlobalGatewayScore (F : Type) where
  merchants : List F

/-- What the keys of the scores are built from. -/
structure KeyReads where
  configs : ServiceConfigs
  scoringData : GatewayScoringData
  referenceId : Gateway → Option String

def KeyReads.consumerKey (reads : KeyReads) (scoreKeyType : ScoreKeyType)
    (gatewayList : List Gateway) : GatewayRedisKeyMap :=
  getConsumerKey reads.configs reads.scoringData scoreKeyType false gatewayList reads.referenceId

/-- What the elimination is computed from, besides the payment and the keys. -/
structure EliminationReads (F : Type) where
  eliminationBasedRouting : Bool
  defaultSuccessRateBasedRoutingInput : Option (GatewaySuccessRateBasedRoutingInput F)
  gatewaySuccessRateMerchantInput : Option (GatewaySuccessRateBasedRoutingInput F)
  srBasedGatewayEliminationThreshold : Option F
  srBasedTxnResetCount : Option Int
  eliminationV2 : Bool
  /-- The threshold of the second version, where its rates are known. -/
  eliminationV2Threshold : Option F
  optimizationDuringDowntime : Bool
  globalGatewayScore : RedisKey → Option (GlobalGatewayScore F)
  merchantEliminationGatewayScore : RedisKey → Option (GatewayScore F)

/-! ## Global defaults -/

structure SRGlobalRoutingDefaults (F : Type) where
  defaultGlobalEliminationThreshold : Option F
  defaultGlobalEliminationMaxCountThreshold : Option Int
  defaultGlobalEliminationLevel : Option EliminationLevel

def EliminationLevel.debug : EliminationLevel → String
  | .gateway => "Gateway"
  | .paymentMethodType => "PaymentMethodType"
  | .paymentMethod => "PaymentMethod"
  | .none => "None"
  | .forcedPaymentMethod => "ForcedPaymentMethod"

def debugLevel : Option EliminationLevel → String
  | none => "None"
  | some level => "Some(" ++ level.debug ++ ")"

section Defaults

variable {F : Type}

def isForcedPm (input : GatewaySuccessRateBasedRoutingInput F) : Bool :=
  input.defaultGlobalEliminationLevel == some .forcedPaymentMethod

/-- A missing level is not the level `none`. -/
def globalElimLvlNotNone (input : GatewaySuccessRateBasedRoutingInput F) : Bool :=
  input.defaultGlobalEliminationLevel != some .none

def GatewaySuccessRateBasedRoutingInput.globalDefaults
    (input : GatewaySuccessRateBasedRoutingInput F) : SRGlobalRoutingDefaults F where
  defaultGlobalEliminationThreshold := input.defaultGlobalEliminationThreshold
  defaultGlobalEliminationMaxCountThreshold := input.defaultGlobalEliminationMaxCountThreshold
  defaultGlobalEliminationLevel := input.defaultGlobalEliminationLevel

def SRGlobalRoutingDefaults.or (first second : SRGlobalRoutingDefaults F) :
    SRGlobalRoutingDefaults F where
  defaultGlobalEliminationThreshold :=
    first.defaultGlobalEliminationThreshold.or second.defaultGlobalEliminationThreshold
  defaultGlobalEliminationMaxCountThreshold :=
    first.defaultGlobalEliminationMaxCountThreshold.or
      second.defaultGlobalEliminationMaxCountThreshold
  defaultGlobalEliminationLevel :=
    first.defaultGlobalEliminationLevel.or second.defaultGlobalEliminationLevel

/-- A merchant that forces the payment method does not need the service. -/
def checkSrGlobalRoutingDefaults
    (globalInput merchantInput : Option (GatewaySuccessRateBasedRoutingInput F)) :
    Except String (SRGlobalRoutingDefaults F) :=
  match globalInput, merchantInput with
  | some global, some merchant =>
      if (globalElimLvlNotNone global && globalElimLvlNotNone merchant) || isForcedPm merchant then
        .ok (merchant.globalDefaults.or global.globalDefaults)
      else
        .error ("Global and merchant inputs are present, global defaultGlobalEliminationLevel = " ++
          debugLevel global.defaultGlobalEliminationLevel ++
          ", merchant defaultGlobalEliminationLevel = " ++
          debugLevel merchant.defaultGlobalEliminationLevel)
  | some global, none =>
      if globalElimLvlNotNone global then .ok global.globalDefaults
      else
        .error ("Only global input is present, global defaultGlobalEliminationLevel = " ++
          debugLevel global.defaultGlobalEliminationLevel)
  | none, some merchant =>
      if isForcedPm merchant then .ok merchant.globalDefaults
      else
        .error ("Only merchant input is present, merchant defaultGlobalEliminationLevel = " ++
          debugLevel merchant.defaultGlobalEliminationLevel)
  | none, none => .error "SR routing inputs not present."

end Defaults

section Elimination

variable {F : Type} [MachineNumber F]

/-- The current score is known and below a known threshold. -/
def isBelowThreshold (input : GatewayWiseSuccessRateBasedRoutingInput F) : Bool :=
  match input.currentScore, input.eliminationThreshold with
  | some currentScore, some threshold => lt currentScore threshold
  | _, _ => false

/-! ## Scores of all merchants -/

def getGatewayWiseRoutingInputsForGlobalSr (gateway : Gateway)
    (merchantInput globalInput : Option (GatewaySuccessRateBasedRoutingInput F))
    (defaults : SRGlobalRoutingDefaults F) : GatewayWiseSuccessRateBasedRoutingInput F :=
  let gatewayWiseInput (input : Option (GatewaySuccessRateBasedRoutingInput F)) :=
    ((input.bind (·.globalGatewayWiseInputs)).getD []).find? fun entry => entry.gateway == gateway
  let newEntry : GatewayWiseSuccessRateBasedRoutingInput F :=
    { gateway
      eliminationThreshold := defaults.defaultGlobalEliminationThreshold
      eliminationMaxCountThreshold := defaults.defaultGlobalEliminationMaxCountThreshold
      selectionMaxCountThreshold := none
      softTxnResetCount := none
      gatewayLevelEliminationThreshold := none
      eliminationLevel := defaults.defaultGlobalEliminationLevel
      currentScore := none
      lastResetTimeStamp := none }
  let entry := ((gatewayWiseInput merchantInput).or (gatewayWiseInput globalInput)).getD newEntry
  { entry with
    eliminationLevel :=
      (entry.eliminationLevel.or (globalInput.bind (·.defaultGlobalEliminationLevel))).or
        (some .paymentMethod)
    eliminationMaxCountThreshold :=
      entry.eliminationMaxCountThreshold.or defaults.defaultGlobalEliminationMaxCountThreshold
    eliminationThreshold :=
      entry.eliminationThreshold.or defaults.defaultGlobalEliminationThreshold }

/-- The current score is put below the threshold when enough merchants are there and
all of them are below it, else at the threshold. -/
def getGlobalGatewayScore (reads : EliminationReads F) (redisKey : RedisKey)
    (maxCount : Option Int) (scoreThreshold : Option F) : Option F :=
  match maxCount, scoreThreshold with
  | some maxCount, some scoreThreshold =>
      (reads.globalGatewayScore redisKey).map fun globalGatewayScore =>
        -- The count is read as an unsigned number of 64 bits.
        let count := (maxCount % 2 ^ 64).toNat
        let merchants := globalGatewayScore.merchants.take count
        let shouldPenalize :=
          decide (count ≤ merchants.length) && merchants.all fun score => lt score scoreThreshold
        if shouldPenalize then scoreThreshold - ofRat 0.1 else scoreThreshold
  | _, _ => none

variable (reads : EliminationReads F)

def getGlobalEliminationGatewayScore (gatewayKeyMap : GatewayRedisKeyMap)
    (input : GatewayWiseSuccessRateBasedRoutingInput F) :
    Option F :=
  if input.eliminationLevel = some .none then none
  else
    getGlobalGatewayScore reads ((gatewayKeyMap.lookup input.gateway).getD "")
      input.eliminationMaxCountThreshold input.eliminationThreshold

variable (scoreMap : GatewayScoreMap F)

def penalizeGsr (input : GatewayWiseSuccessRateBasedRoutingInput F) : GatewayScoreMap F :=
  modify scoreMap input.gateway fun score => score / ofRat 5

variable (input : GatewayWiseSuccessRateBasedRoutingInput F)

theorem sameKeys_penalizeGsr :
    SameKeys (penalizeGsr scoreMap input) scoreMap :=
  sameKeys_modify scoreMap input.gateway _

variable (keys : KeyReads) (order : IterationOrder Gateway F)

/-- The penalized scores and the penalized gateways, if global routing is configured. -/
def updateGatewayScoreBasedOnGlobalSuccessRate (gatewayScore : GatewayScoreMap F) :
    GatewayScoreMap F × Option (List (GatewayWiseSuccessRateBasedRoutingInput F)) :=
  match checkSrGlobalRoutingDefaults reads.defaultSuccessRateBasedRoutingInput
      reads.gatewaySuccessRateMerchantInput with
  | .error _ => (gatewayScore, none)
  | .ok defaults =>
      let gatewayList := order.keys gatewayScore
      let inputs := gatewayList.map fun gateway =>
        getGatewayWiseRoutingInputsForGlobalSr gateway reads.gatewaySuccessRateMerchantInput
          reads.defaultSuccessRateBasedRoutingInput defaults
      let keyMap := keys.consumerKey .eliminationGlobalKey gatewayList
      let updatedInputs := inputs.filterMap fun input =>
        (getGlobalEliminationGatewayScore reads keyMap input).map fun score =>
          { input with currentScore := some score }
      let filteredInputs := updatedInputs.filter isBelowThreshold
      (filteredInputs.foldl penalizeGsr gatewayScore, some filteredInputs)

/-- The penalty for all merchants keeps the gateways. -/
theorem sameKeys_updateGatewayScoreBasedOnGlobalSuccessRate (gatewayScore : GatewayScoreMap F) :
    SameKeys (updateGatewayScoreBasedOnGlobalSuccessRate reads keys order gatewayScore).1
      gatewayScore := by
  rw [updateGatewayScoreBasedOnGlobalSuccessRate]
  split
  · exact SameKeys.refl gatewayScore
  · exact SameKeys.foldl sameKeys_penalizeGsr _ gatewayScore

/-! ## Scores of one merchant -/

def getGatewayWiseRoutingInputsForMerchantSr (gateway : Gateway)
    (abTestEliminationThreshold : Option F) : GatewayWiseSuccessRateBasedRoutingInput F :=
  let merchant := reads.gatewaySuccessRateMerchantInput
  let service := reads.defaultSuccessRateBasedRoutingInput
  let eliminationThreshold := abTestEliminationThreshold.getD
    ((merchant.map (·.defaultEliminationThreshold)).getD
      ((service.map (·.defaultEliminationThreshold)).getD
        (reads.srBasedGatewayEliminationThreshold.getD (ofRat 0.05))))
  let eliminationThresholdUpdated :=
    if reads.eliminationV2 then reads.eliminationV2Threshold.getD eliminationThreshold
    else eliminationThreshold
  let merchantLevel := merchant.map (·.defaultEliminationLevel)
  match ((merchant.bind (·.gatewayWiseInputs)).getD []).find? fun entry =>
      entry.gateway == gateway with
  -- The entry keeps its own threshold, also when it has none.
  | some entry =>
      { entry with
        eliminationLevel := (entry.eliminationLevel.or merchantLevel).or (some .gateway) }
  | none =>
      { gateway
        eliminationThreshold := some eliminationThresholdUpdated
        eliminationMaxCountThreshold := none
        selectionMaxCountThreshold := none
        softTxnResetCount :=
          (merchant.map (·.defaultGlobalSoftTxnResetCount)).getD
            ((service.map (·.defaultGlobalSoftTxnResetCount)).getD
              (some (reads.srBasedTxnResetCount.getD 10)))
        gatewayLevelEliminationThreshold :=
          (merchant.map (·.defaultGatewayLevelEliminationThreshold)).getD
            ((service.map (·.defaultGatewayLevelEliminationThreshold)).getD (some (ofRat 0.02)))
        eliminationLevel :=
          (merchantLevel.or (service.map (·.defaultEliminationLevel))).or (some .paymentMethod)
        currentScore := none
        lastResetTimeStamp := none }

omit [MachineNumber F] in
def updateCurrentScore (keyMap : GatewayRedisKeyMap)
    (input : GatewayWiseSuccessRateBasedRoutingInput F) :
    GatewayWiseSuccessRateBasedRoutingInput F :=
  let score := reads.merchantEliminationGatewayScore ((keyMap.lookup input.gateway).getD "")
  { input with
    currentScore := score.map (·.score)
    lastResetTimeStamp := score.map (·.lastResetTimestamp) }

def updateScoreWithLog (input : GatewayWiseSuccessRateBasedRoutingInput F) : GatewayScoreMap F :=
  mapEntries scoreMap fun gateway score =>
    if gateway = input.gateway then score / ofRat 5 else score

theorem sameKeys_updateScoreWithLog :
    SameKeys (updateScoreWithLog scoreMap input) scoreMap :=
  sameKeys_mapEntries scoreMap _

variable (abTestEliminationThreshold : Option F)

/-- The gateways of the map that are below the threshold of the merchant. -/
def gatewaysBelowThreshold (scoreMap : GatewayScoreMap F) :
    List (GatewayWiseSuccessRateBasedRoutingInput F) :=
  let gatewayList := order.keys scoreMap
  let inputs := gatewayList.map fun gateway =>
    getGatewayWiseRoutingInputsForMerchantSr reads gateway abTestEliminationThreshold
  let keyMap := keys.consumerKey .eliminationMerchantKey gatewayList
  (inputs.map (updateCurrentScore reads keyMap)).filter isBelowThreshold

/-! ## The elimination -/

/-- An empty list of payment method types enables them all. -/
def isPaymentMethodTypeEnabled (txnCardInfo : TxnCardInfo) : Bool :=
  let paymentMethodType :=
    if isCardTransaction txnCardInfo then card else txnCardInfo.paymentMethodType
  let enabled := (reads.gatewaySuccessRateMerchantInput.map (·.enabledPaymentMethodTypes)).getD []
  enabled.isEmpty || enabled.contains paymentMethodType

variable (isSrMetricEnabled : Bool) (initialGwScores newGatewayScore : GatewayScoreMap F)
  (filteredInputs : List (GatewayWiseSuccessRateBasedRoutingInput F))

/-- The scores after the penalties and the downtime that they tell.  When every gateway is
below its threshold, the scores before the elimination may be kept. -/
def scoresAfterDowntime
    (globalElimination : Option (List (GatewayWiseSuccessRateBasedRoutingInput F))) :
    GatewayScoreMap F × DownTime :=
  if 1 < filteredInputs.length ∧ newGatewayScore.keys.length = filteredInputs.length then
    if reads.optimizationDuringDowntime && !isSrMetricEnabled then
      (initialGwScores, .allDowntime)
    else (newGatewayScore, .allDowntime)
  else if !(globalElimination.getD []).isEmpty then (newGatewayScore, .globalDowntime)
  else if !filteredInputs.isEmpty then (newGatewayScore, .downtime)
  else (newGatewayScore, .noDowntime)

omit [MachineNumber F] in
theorem scoresAfterDowntime_eq
    (globalElimination : Option (List (GatewayWiseSuccessRateBasedRoutingInput F))) :
    (scoresAfterDowntime reads isSrMetricEnabled initialGwScores newGatewayScore filteredInputs
        globalElimination).1 = initialGwScores ∨
      (scoresAfterDowntime reads isSrMetricEnabled initialGwScores newGatewayScore filteredInputs
        globalElimination).1 = newGatewayScore := by
  unfold scoresAfterDowntime
  split
  · split
    · exact Or.inl rfl
    · exact Or.inr rfl
  · split
    · exact Or.inr rfl
    · split <;> exact Or.inr rfl

def updateGatewayScoreBasedOnSuccessRate (payment : Payment) (isSrMetricEnabled : Bool)
    (initialGwScores : GatewayScoreMap F) (eliminationEnabled : Option Bool)
    (abTestEliminationThreshold : Option F) (writer : Writer F) : Writer F :=
  if !(reads.eliminationBasedRouting || eliminationEnabled == some true) ||
      !isPaymentMethodTypeEnabled reads payment.txnCardInfo then writer
  else
    let (gatewayScoreGlobalSr, globalElimination) :=
      updateGatewayScoreBasedOnGlobalSuccessRate reads keys order writer.gwScoreMap
    if (order.keys gatewayScoreGlobalSr).isEmpty then
      { writer with gwScoreMap := gatewayScoreGlobalSr }
    else
      let filteredInputs :=
        gatewaysBelowThreshold reads keys order abTestEliminationThreshold gatewayScoreGlobalSr
      let newGatewayScore := filteredInputs.foldl updateScoreWithLog gatewayScoreGlobalSr
      let (gwScore, downtimeStatus) :=
        scoresAfterDowntime reads isSrMetricEnabled initialGwScores newGatewayScore
          filteredInputs globalElimination
      { writer with
        gwScoreMap := gwScore
        gwDeciderApproach := modifyGatewayDeciderApproach writer.gwDeciderApproach
          downtimeStatus }

/-- The elimination keeps the gateways. -/
theorem sameKeys_updateGatewayScoreBasedOnSuccessRate {reads : EliminationReads F}
    {keys : KeyReads} {order : IterationOrder Gateway F} {payment : Payment}
    {isSrMetricEnabled : Bool} {initialGwScores : GatewayScoreMap F}
    {eliminationEnabled : Option Bool} {abTestEliminationThreshold : Option F}
    {writer : Writer F} (initial : SameKeys initialGwScores writer.gwScoreMap) :
    SameKeys (updateGatewayScoreBasedOnSuccessRate reads keys order payment isSrMetricEnabled
      initialGwScores eliminationEnabled abTestEliminationThreshold writer).gwScoreMap
      writer.gwScoreMap := by
  have afterGlobal :=
    sameKeys_updateGatewayScoreBasedOnGlobalSuccessRate reads keys order writer.gwScoreMap
  have afterMerchant : ∀ inputs : List (GatewayWiseSuccessRateBasedRoutingInput F), SameKeys
      (inputs.foldl updateScoreWithLog
        (updateGatewayScoreBasedOnGlobalSuccessRate reads keys order writer.gwScoreMap).1)
      writer.gwScoreMap := by
    intro inputs
    exact (SameKeys.foldl sameKeys_updateScoreWithLog inputs _).trans afterGlobal
  unfold updateGatewayScoreBasedOnSuccessRate
  split
  · exact SameKeys.refl writer.gwScoreMap
  · dsimp only
    split
    · exact afterGlobal
    · rcases scoresAfterDowntime_eq reads isSrMetricEnabled initialGwScores _ _ _ with
        isInitial | isNew
      · rw [isInitial]
        exact initial
      · rw [isNew]
        exact afterMerchant _

end Elimination

end DecisionEngine.Scoring
