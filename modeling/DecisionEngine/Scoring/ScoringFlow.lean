import DecisionEngine.Scoring.Elimination
import DecisionEngine.Scoring.Outage

/-!
# The scoring flow

The functional gateways are scored by success rate or by priority, penalized for the
scheduled outages, and penalized again by elimination.
-/

namespace DecisionEngine.Scoring

open Map Number Transition

inductive RankingAlgorithm where
  | srBasedRouting
  | plBasedRouting
  | ntwBasedRouting
  | ntwSrHybridRouting
  deriving DecidableEq

/-- What an arm of an experiment sets in place of the configuration. -/
structure SrConfigOverride (F : Type) where
  hedgingPercent : Option F
  eliminationThreshold : Option F
  enableMultiObjective : Option Bool
  margin : Option F
  useAutopilot : Option Bool

/-- What the scoring is computed from, besides the payment and the gateways. -/
structure ScoringReads (F : Type) where
  keys : KeyReads
  srV3 : SrV3Reads F
  outage : OutageReads
  elimination : EliminationReads F
  abTestSrOverride : Option (SrConfigOverride F)
  srBasedRouting : Bool
  gatewaySelectionBasedOnSrV3Input : Bool
  exploreAndExploitOnSrV3 : Bool
  routeRandomTrafficSrV3 : Bool
  /-- The random numbers, between 0 and 100. -/
  exploreNumber : F
  randomTrafficNumber : F

section Flow

variable {F : Type} [MachineNumber F]

/-! ## The first scores -/

def abUseAutopilot (reads : ScoringReads F) : Bool :=
  (reads.abTestSrOverride.bind (·.useAutopilot)).getD true

/-- The percentage of the experiment, the merchant, the service or the default. -/
def hedgingPercent (reads : ScoringReads F) (payment : Payment) : F :=
  let configured (config : Option (SrV3InputConfig F)) :=
    getSrV3HedgingPercent config payment.txnCardInfo.paymentMethodType
      payment.txnCardInfo.paymentMethod payment.srRoutingDimensions (abUseAutopilot reads)
  (((reads.abTestSrOverride.bind (·.hedgingPercent)).or
    (configured reads.srV3.merchantSrV3InputConfig)).or
    (configured reads.srV3.defaultSrV3InputConfig)).getD defaultSrV3BasedHedgingPercent

/-- The payment explores, that is, it takes no account of the scores. -/
def shouldExplore (reads : ScoringReads F) (payment : Payment) : Bool :=
  reads.exploreAndExploitOnSrV3 && lt reads.exploreNumber (hedgingPercent reads payment)

def initialSrGwScores (reads : ScoringReads F) (payment : Payment)
    (functionalGateways : List Gateway) (srScores : GatewayScoreMap F) : GatewayScoreMap F :=
  if shouldExplore reads payment then createScoreMap functionalGateways else srScores

/-- The scores after the random traffic, and whether it changed them. -/
def srGwScore (reads : ScoringReads F) (order : IterationOrder Gateway F) (payment : Payment)
    (scores : GatewayScoreMap F) : Except Panic (GatewayScoreMap F × Bool) :=
  if reads.routeRandomTrafficSrV3 && !reads.exploreAndExploitOnSrV3 then
    routeRandomTraffic order scores (hedgingPercent reads payment) reads.randomTrafficNumber
  else .ok (scores, false)

variable {reads : ScoringReads F} {order : IterationOrder Gateway F} {payment : Payment}

theorem sameKeys_srGwScore {scores routed : GatewayScoreMap F} {hedged : Bool}
    (returned : srGwScore reads order payment scores = .ok (routed, hedged)) :
    SameKeys routed scores := by
  rw [srGwScore] at returned
  split at returned
  · exact sameKeys_routeRandomTraffic returned
  · cases returned
    exact SameKeys.refl scores

/-- Score by success rate; the second part says whether there was a gateway to score. -/
def scoreBasedOnSrV3 (reads : ScoringReads F) (order : IterationOrder Gateway F)
    (payment : Payment) (functionalGateways : List Gateway) (writer : Writer F) :
    Except Panic (Writer F × Bool) :=
  let pmt := payment.txnCardInfo.paymentMethodType
  let pm := getPaymentMethod pmt payment.txnCardInfo.paymentMethod
    (payment.txnDetail.sourceObject.getD "")
  getCachedScoresBasedOnSrV3 reads.srV3 order
      (reads.keys.consumerKey .srV3Key functionalGateways) functionalGateways pmt pm
      payment.srRoutingDimensions (abUseAutopilot reads) >>= fun srScores =>
    let initial := initialSrGwScores reads payment functionalGateways srScores.1
    if initial.keys.isEmpty then .ok ({ writer with srV3Resets := srScores.2 }, false)
    else
      srGwScore reads order payment initial >>= fun routed =>
        .ok ({ writer with
          srV3Resets := srScores.2
          gwScoreMap := routed.1
          gwDeciderApproach :=
            if shouldExplore reads payment || routed.2 then .srV3Hedging
            else .srSelectionV3Routing }, true)

/-- Score by success rate where that is enabled, else by priority. -/
def initialScores (reads : ScoringReads F) (order : IterationOrder Gateway F)
    (payment : Payment) (functionalGateways gatewayPriorityList : List Gateway)
    (rankingAlgorithm : Option RankingAlgorithm) (writer : Writer F) :
    Except Panic (Writer F) :=
  let bySuccessRate := rankingAlgorithm == some .srBasedRouting
  (if (reads.srBasedRouting || bySuccessRate) &&
      (reads.gatewaySelectionBasedOnSrV3Input || bySuccessRate) then
    scoreBasedOnSrV3 reads order payment functionalGateways writer
  else .ok (writer, false)) >>= fun scored =>
    if scored.2 then .ok { scored.1 with isSrV3MetricEnabled := true }
    else
      .ok { scored.1 with
        isSrV3MetricEnabled := false
        gwDeciderApproach := .priorityLogic
        gwScoreMap := getScoreWithPriority functionalGateways gatewayPriorityList }

variable {functionalGateways : List Gateway} {gateway : Gateway}

theorem functional_of_mem_scoreBasedOnSrV3 {writer scored : Writer F}
    (returned : scoreBasedOnSrV3 reads order payment functionalGateways writer = .ok (scored, true))
    (present : gateway ∈ scored.gwScoreMap) :
    gateway ∈ functionalGateways := by
  rcases bind_eq_ok.mp returned with ⟨⟨srScores, resets⟩, cached, later⟩
  dsimp only at later
  split at later
  · cases later
  · rcases bind_eq_ok.mp later with ⟨⟨routed, hedged⟩, traffic, isScored⟩
    cases isScored
    have inInitial := (sameKeys_srGwScore traffic gateway).mp present
    unfold initialSrGwScores at inInitial
    split at inInitial
    · exact mem_createScoreMap.mp inInitial
    · exact functional_of_mem_getCachedScoresBasedOnSrV3 cached inInitial

/-- The first scores are scores of functional gateways. -/
theorem functional_of_mem_initialScores {gatewayPriorityList : List Gateway}
    {rankingAlgorithm : Option RankingAlgorithm} {writer scored : Writer F}
    (returned : initialScores reads order payment functionalGateways gatewayPriorityList
      rankingAlgorithm writer = .ok scored)
    (present : gateway ∈ scored.gwScoreMap) :
    gateway ∈ functionalGateways := by
  rcases bind_eq_ok.mp returned with ⟨⟨metric, isMetric⟩, bySuccessRate, later⟩
  cases isMetric with
  | false =>
      cases later
      exact mem_getScoreWithPriority.mp present
  | true =>
      cases later
      split at bySuccessRate
      · exact functional_of_mem_scoreBasedOnSrV3 bySuccessRate present
      · cases bySuccessRate

/-! ## The flow -/

/-- A single gateway is not scored, and not penalized for outages. -/
def scoringFlow (reads : ScoringReads F) (order : IterationOrder Gateway F) (payment : Payment)
    (functionalGateways gatewayPriorityList : List Gateway)
    (rankingAlgorithm : Option RankingAlgorithm) (eliminationEnabled : Option Bool)
    (writer : Writer F) : Except Panic (Writer F) :=
  let eliminate (isSrMetricEnabled : Bool) (writer : Writer F) :=
    updateGatewayScoreBasedOnSuccessRate reads.elimination reads.keys order payment
      isSrMetricEnabled writer.gwScoreMap eliminationEnabled
      (reads.abTestSrOverride.bind (·.eliminationThreshold)) writer
  if functionalGateways.length = 1 then
    .ok (eliminate false { writer with
      gwScoreMap := createScoreMap functionalGateways
      gwDeciderApproach := .default
      topGatewayBeforeSRDowntimeEvaluation := functionalGateways.head? })
  else
    initialScores reads order payment functionalGateways gatewayPriorityList rankingAlgorithm
        writer >>= fun scored =>
      let outageScores := updateScoreForOutage reads.outage payment scored.gwScoreMap
      .ok (eliminate scored.isSrV3MetricEnabled { scored with
        gwScoreMap := outageScores
        isScheduledOutage :=
          scored.isScheduledOutage || !(applicableOutages reads.outage payment).isEmpty
        topGatewayBeforeSRDowntimeEvaluation :=
          (getMaxScoreGateway order outageScores).map Prod.fst })

section Result

variable {reads : ScoringReads F} {order : IterationOrder Gateway F} {payment : Payment}
  {functionalGateways gatewayPriorityList : List Gateway}
  {rankingAlgorithm : Option RankingAlgorithm} {eliminationEnabled : Option Bool}
  {writer scored : Writer F}

theorem mem_scoringFlow_of_single (single : functionalGateways.length = 1)
    (returned : scoringFlow reads order payment functionalGateways gatewayPriorityList
      rankingAlgorithm eliminationEnabled writer = .ok scored) {gateway : Gateway} :
    gateway ∈ scored.gwScoreMap ↔ gateway ∈ functionalGateways := by
  unfold scoringFlow at returned
  rw [if_pos single] at returned
  cases returned
  rw [sameKeys_updateGatewayScoreBasedOnSuccessRate (SameKeys.refl _) gateway]
  exact mem_createScoreMap

/-- The gateways of the result are those of the first scores, and those that an outage of
the payment names. -/
theorem mem_scoringFlow (notSingle : functionalGateways.length ≠ 1)
    (returned : scoringFlow reads order payment functionalGateways gatewayPriorityList
      rankingAlgorithm eliminationEnabled writer = .ok scored) :
    ∃ first, initialScores reads order payment functionalGateways gatewayPriorityList
        rankingAlgorithm writer = .ok first ∧
      ∀ gateway, gateway ∈ scored.gwScoreMap ↔
        (∃ outage ∈ applicableOutages reads.outage payment, outage.gateway = some gateway) ∨
          gateway ∈ first.gwScoreMap := by
  unfold scoringFlow at returned
  rw [if_neg notSingle] at returned
  rcases bind_eq_ok.mp returned with ⟨first, isFirst, isScored⟩
  cases isScored
  refine ⟨first, isFirst, ?_⟩
  intro gateway
  rw [sameKeys_updateGatewayScoreBasedOnSuccessRate (SameKeys.refl _) gateway]
  exact mem_updateScoreForOutage

end Result

end Flow

end DecisionEngine.Scoring
