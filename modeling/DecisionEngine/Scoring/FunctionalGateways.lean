import DecisionEngine.Scoring.Decision

/-!
# Functional gateways

Which decisions are about functional gateways only: those of a single gateway, and
those whose scheduled outages name functional gateways.  The penalty of an outage gives
a score to the gateway that it names, functional or not.
-/

namespace DecisionEngine.Scoring

open Map Number

section Functional

variable {F : Type}

/-- The scored gateways and the decided one are functional. -/
structure OnlyFunctional (functionalGateways : List Gateway) (scored : Writer F)
    (decision : Except ErrorResponse (DecidedGateway F)) : Prop where
  scores : ∀ gateway ∈ scored.gwScoreMap, gateway ∈ functionalGateways
  decided : ∀ result, decision = .ok result → result.decidedGateway ∈ functionalGateways

/-- The outages of the payment name functional gateways. -/
def OutagesFunctional (reads : OutageReads) (payment : Payment)
    (functionalGateways : List Gateway) : Prop :=
  ∀ outage ∈ applicableOutages reads payment, ∀ gateway, outage.gateway = some gateway →
    gateway ∈ functionalGateways

variable [MachineNumber F] {reads : ScoringReads F} {decisionReads : DecisionReads F}
  {order : IterationOrder Gateway F} {payment : Payment}
  {functionalGateways gatewayPriorityList : List Gateway}
  {rankingAlgorithm : Option RankingAlgorithm} {eliminationEnabled : Option Bool}
  {writer scored : Writer F}

theorem scores_functional_iff
    (returned : scoringFlow reads order payment functionalGateways gatewayPriorityList
      rankingAlgorithm eliminationEnabled writer = .ok scored) :
    (∀ gateway ∈ scored.gwScoreMap, gateway ∈ functionalGateways) ↔
      functionalGateways.length = 1 ∨
        OutagesFunctional reads.outage payment functionalGateways := by
  by_cases single : functionalGateways.length = 1
  · constructor
    · intro _
      exact Or.inl single
    · intro _ gateway present
      exact (mem_scoringFlow_of_single single returned).mp present
  · rcases mem_scoringFlow single returned with ⟨first, isFirst, present⟩
    constructor
    · intro functional
      right
      intro outage applies gateway named
      exact functional gateway ((present gateway).mpr (Or.inl ⟨outage, applies, named⟩))
    · intro condition gateway inResult
      rcases (present gateway).mp inResult with ⟨outage, applies, named⟩ | scoredFirst
      · rcases condition with isSingle | outagesFunctional
        · exact absurd isSingle single
        · exact outagesFunctional outage applies gateway named
      · exact functional_of_mem_initialScores isFirst scoredFirst

/-- The scoring and its decision are about functional gateways only exactly when there is
a single gateway or every outage of the payment names a functional one. -/
theorem onlyFunctional_iff
    (returned : scoringFlow reads order payment functionalGateways gatewayPriorityList
      rankingAlgorithm eliminationEnabled writer = .ok scored) :
    OnlyFunctional functionalGateways scored (decideGateway decisionReads order scored) ↔
      functionalGateways.length = 1 ∨
        OutagesFunctional reads.outage payment functionalGateways := by
  rw [← scores_functional_iff returned]
  constructor
  · intro only
    exact only.scores
  · intro functional
    constructor
    · exact functional
    · intro result decided
      exact functional _ (mem_of_decideGateway decided)

end Functional

/-! ## An outage of a gateway that is not functional -/

def noServiceConfigs : ServiceConfigs :=
  ⟨fun _ => none, none, none, none⟩

def visaPayment : Payment where
  merchantId := "m"
  txnDetail := { sourceObject := none, txnObjectType := some .orderPayment, country := none }
  txnCardInfo :=
    { paymentMethodType := "CARD"
      paymentMethod := "VISA"
      cardIsin := none
      cardSwitchProvider := none
      cardType := some .credit
      authType := none
      paymentSource := none }
  currency := "USD"

/-- An outage of a gateway for an hour, at every merchant. -/
def outageOf (gateway : Gateway) : GatewayOutage where
  startTime := 0
  endTime := 3600 * 10 ^ 9
  gateway := some gateway
  merchantId := none
  bank := none
  paymentMethodType := none
  paymentMethod := none
  juspayBankCodeId := none
  metadata := none

/-- Routing by priority, with every feature off, during the given outages. -/
def priorityReads (outages : List GatewayOutage) : ScoringReads ℚ where
  keys :=
    { configs := noServiceConfigs
      scoringData := cardOrder
      referenceId := fun _ => none }
  srV3 :=
    { merchantSrV3InputConfig := none
      defaultSrV3InputConfig := none
      cachedScore := fun _ _ => 1
      resetOnSrV3 := false
      extraScoreOnSrV3 := false
      binomialDistributionOnSrV3 := false
      betaDistributionOnSrV3 := false
      binomialSample := fun _ _ _ => 0
      betaSample := fun _ _ _ => 0 }
  outage :=
    { currentTime := 10 ^ 9
      scheduledOutageValidationDuration := none
      cachedOutages := none
      gatewayOutages := some outages
      juspayBankCode := none }
  elimination :=
    { eliminationBasedRouting := false
      defaultSuccessRateBasedRoutingInput := none
      gatewaySuccessRateMerchantInput := none
      srBasedGatewayEliminationThreshold := none
      srBasedTxnResetCount := none
      eliminationV2 := false
      eliminationV2Threshold := none
      optimizationDuringDowntime := false
      globalGatewayScore := fun _ => none
      merchantEliminationGatewayScore := fun _ => none }
  abTestSrOverride := none
  srBasedRouting := false
  gatewaySelectionBasedOnSrV3Input := false
  exploreAndExploitOnSrV3 := false
  routeRandomTrafficSrV3 := false
  exploreNumber := 50
  randomTrafficNumber := 50

def plainDecision : DecisionReads ℚ where
  abTestSrOverride := none
  enableMultiObjectiveOverride := none
  multiObjectiveRoutingEnabled := false
  configuredMargin := none
  costs := ∅

def emptyWriter : Writer ℚ where
  gwScoreMap := ∅
  gwDeciderApproach := .none
  isScheduledOutage := false
  isSrV3MetricEnabled := false
  topGatewayBeforeSRDowntimeEvaluation := none
  srV3Resets := []

theorem onlyFunctional_iff_priority :
    ∃ scored, scoringFlow (priorityReads [outageOf "stripe"]) .stored visaPayment
        ["razorpay", "stripe"] ["stripe", "razorpay"] none none emptyWriter = .ok scored ∧
      (OnlyFunctional ["razorpay", "stripe"] scored (decideGateway plainDecision .stored scored) ↔
        ["razorpay", "stripe"].length = 1 ∨
          OutagesFunctional (priorityReads [outageOf "stripe"]).outage visaPayment
            ["razorpay", "stripe"]) := by
  have returns : ∃ scored, scoringFlow (priorityReads [outageOf "stripe"]) .stored visaPayment
      ["razorpay", "stripe"] ["stripe", "razorpay"] none none emptyWriter = .ok scored :=
    ⟨_, rfl⟩
  rcases returns with ⟨scored, returned⟩
  exact ⟨scored, returned, onlyFunctional_iff returned⟩

/-- Both functional gateways are in an outage, one of them twice, and so is a third
gateway, which gets the greatest score and is decided. -/
theorem decideGateway_not_functional :
    ∃ scored, scoringFlow
        (priorityReads
          [outageOf "razorpay", outageOf "razorpay", outageOf "payu", outageOf "stripe"])
        .stored visaPayment ["razorpay", "payu"] ["razorpay", "payu"] none none emptyWriter =
          .ok scored ∧
      ((decideGateway plainDecision .stored scored).toOption.map (·.decidedGateway)) =
        some "stripe" ∧
      ¬OnlyFunctional ["razorpay", "payu"] scored
        (decideGateway plainDecision .stored scored) := by
  refine ⟨_, rfl, by decide +kernel, ?_⟩
  intro only
  exact absurd (only.scores "stripe" (by decide +kernel)) (by decide)

end DecisionEngine.Scoring
