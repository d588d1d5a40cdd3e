import DecisionEngine.Scoring.FunctionalGateways
import Mathlib.Data.List.Destutter

/-!
# The flow of a decision

A request for a decision names the gateways that may be decided, and a preferred one.  A
preferred gateway is decided without scores where there is nothing to choose from; else the
gateways are narrowed by the priority logic, scored and decided.
-/

namespace DecisionEngine.Scoring

open Map Number Transition

/-! ## Requests -/

/-- The part of a request for a decision that the flow depends on. -/
structure DomainDeciderRequest where
  payment : Payment
  preferredGateway : Option Gateway
  eligibleGatewayList : Option (List Gateway)
  rankingAlgorithm : Option RankingAlgorithm
  eliminationEnabled : Option Bool

/-- The part of the output of the priority logic that the decision depends on. -/
structure GatewayPriorityLogicOutput where
  isEnforcement : Bool
  gws : List Gateway

/-- What the flow is computed from, besides the request. -/
structure FlowReads (F : Type) where
  /-- The output of the priority logic of the merchant. -/
  priorityLogic : GatewayPriorityLogicOutput
  scoring : ScoringReads F
  decision : DecisionReads F

/-- What the answer to a request is computed from, besides the request. -/
structure DeciderReads (F : Type) where
  merchantFound : Bool
  /-- What an experiment decides that puts the payment on a static arm. -/
  staticArm : Option (DecidedGateway F)
  debitRoutingEnabled : Bool
  /-- There are debit networks for the card of the payment. -/
  debitNetworksFound : Bool
  flow : FlowReads F

/-! ## Narrowing -/

/-- An empty list enforces nothing. -/
def handleEnforcedGateway (gatewayList : Option (List Gateway)) : Option (List Gateway) :=
  match gatewayList with
  | none => none
  | some [] => none
  | some list => some list

def addPreferredGatewaysToPriorityList (gwPriority : List Gateway)
    (preferredGateway : Option Gateway) : List Gateway :=
  match preferredGateway with
  | none => gwPriority
  | some pgw => pgw :: gwPriority.filter fun gw => gw ≠ pgw

/-- The fallback of a priority logic changes its tag and its reasons, and not its gateways. -/
def handleFallbackLogic (primaryLogicOutput : GatewayPriorityLogicOutput) :
    GatewayPriorityLogicOutput :=
  primaryLogicOutput

def filterFunctionalGatewaysWithEnforcement (fGws priorityGws : List Gateway)
    (plOp : GatewayPriorityLogicOutput) (preferredGw : Option Gateway) :
    List Gateway × GatewayPriorityLogicOutput :=
  let enforcedGateways := fGws.filter fun gw => gw ∈ priorityGws
  if enforcedGateways.isEmpty then
    let updatedPlOp := handleFallbackLogic plOp
    let fallBackGwPriority := addPreferredGatewaysToPriorityList updatedPlOp.gws preferredGw
    if updatedPlOp.isEnforcement then
      let updatedEnforcedGateways := fGws.filter fun gw => gw ∈ fallBackGwPriority
      if updatedEnforcedGateways.isEmpty then
        (updatedEnforcedGateways, handleFallbackLogic updatedPlOp)
      else (updatedEnforcedGateways, updatedPlOp)
    else (fGws, updatedPlOp)
  else (enforcedGateways, plOp)

/-! ## The flow -/

section Flow

variable {F : Type} [MachineNumber F]

def merchantPreference (pgw : Gateway) : DecidedGateway F where
  decidedGateway := pgw
  fallbackGateways := []
  gatewayPriorityMap := AList.singleton pgw (ofRat 1)
  routingApproach := .merchantPreference
  gatewayBeforeEvaluation := some pgw
  isScheduledOutage := false
  multiObjectiveInfo := none

/-- Success-rate routing does not ask the priority logic. -/
def gwPLogic (reads : FlowReads F) (rankingAlgorithm : Option RankingAlgorithm)
    (functionalGateways : List Gateway) : GatewayPriorityLogicOutput :=
  if rankingAlgorithm ≠ some .srBasedRouting then reads.priorityLogic
  else ⟨false, functionalGateways⟩

/-- The gateways that are scored: runs of the same gateway count once. -/
def scoredGateways (reads : FlowReads F) (request : DomainDeciderRequest)
    (rankingAlgorithm : Option RankingAlgorithm) (functionalGateways : List Gateway) :
    List Gateway × GatewayPriorityLogicOutput :=
  let plOp := gwPLogic reads rankingAlgorithm functionalGateways
  let narrowed :=
    if plOp.isEnforcement then
      filterFunctionalGatewaysWithEnforcement functionalGateways
        (addPreferredGatewaysToPriorityList plOp.gws request.preferredGateway) plOp
        request.preferredGateway
    else (functionalGateways, plOp)
  (narrowed.1.destutter (· ≠ ·), narrowed.2)

def runDeciderFlow (reads : FlowReads F) (order : IterationOrder Gateway F)
    (request : DomainDeciderRequest) (rankingAlgorithm : Option RankingAlgorithm)
    (writer : Writer F) : Except Panic (Except ErrorResponse (DecidedGateway F)) :=
  let enforced := handleEnforcedGateway request.eligibleGatewayList
  let functionalGateways := enforced.getD []
  let dynamicSwitchingEnabled := enforced.any fun list => list.length > 1
  match request.preferredGateway, dynamicSwitchingEnabled with
  | some pgw, false =>
      if pgw ∈ functionalGateways then .ok (.ok (merchantPreference pgw))
      else .ok (.error (gatewayNotFound .none))
  | _, _ =>
      let scored := scoredGateways reads request rankingAlgorithm functionalGateways
      (scoringFlow reads.scoring order request.payment scored.1 scored.2.gws rankingAlgorithm
        request.eliminationEnabled writer).map (decideGateway reads.decision order)

def merchantNotFound : ErrorResponse where
  status := "Invalid Request"
  errorCode := "invalid_request_error"
  errorMessage := "Merchant not found"
  routingApproach := none
  errorInfo :=
    { code := "MERCHANT_NOT_FOUND"
      userMessage := "Merchant not found"
      developerMessage := "Merchant not found" }

def debitRoutingNotEnabled (merchantId : String) : ErrorResponse where
  status := "Forbidden"
  errorCode := "debit_routing_not_enabled"
  errorMessage := "Debit routing is not enabled for merchant: " ++ merchantId
  routingApproach := none
  errorInfo :=
    { code := "TE_05"
      userMessage := "Debit routing is not enabled for this merchant"
      developerMessage :=
        "Merchant " ++ merchantId ++ " does not have debit routing enabled. Enable it via the " ++
          "/merchant-account/:merchant-id/debit-routing API." }

def coBadgedNetworkNotFound : ErrorResponse where
  status := "Invalid Request"
  errorCode := "invalid_request_error"
  errorMessage := "Can't find the co-badged card network"
  routingApproach := none
  errorInfo :=
    { code := "CO_BADGED_NETWORK_NOT_FOUND"
      userMessage := "Co-badged card network not found to process the transaction request."
      developerMessage :=
        "Co-badged card network not found to process the transaction request." }

omit [MachineNumber F] in
/-- Debit routing is about networks, and names the first of the gateways. -/
def performDebitRouting (reads : DeciderReads F) (request : DomainDeciderRequest) :
    Except ErrorResponse (DecidedGateway F) :=
  if reads.debitNetworksFound then
    .ok
      { decidedGateway := (request.eligibleGatewayList.bind List.head?).getD ""
        fallbackGateways := []
        gatewayPriorityMap := ∅
        routingApproach := .ntwBasedRouting
        gatewayBeforeEvaluation := none
        isScheduledOutage := false
        multiObjectiveInfo := none }
  else .error coBadgedNetworkNotFound

def FlowReads.withoutOverride (reads : FlowReads F) : FlowReads F :=
  { reads with
    scoring := { reads.scoring with abTestSrOverride := none }
    decision := { reads.decision with abTestSrOverride := none } }

/-- The debit networks are added to what the success rates decide. -/
def performHybridRouting (reads : DeciderReads F) (order : IterationOrder Gateway F)
    (request : DomainDeciderRequest) (writer : Writer F) :
    Except Panic (Except ErrorResponse (DecidedGateway F)) :=
  (runDeciderFlow reads.flow.withoutOverride order request (some .srBasedRouting) writer).map
    fun srResult =>
      match srResult, performDebitRouting reads request with
      | .ok srGateway, .ok _ => .ok srGateway
      | .ok srGateway, .error _ => .ok srGateway
      | .error error, _ => .error error

def deciderFullPayloadHsFunction (reads : DeciderReads F) (order : IterationOrder Gateway F)
    (writer : Writer F) (request : DomainDeciderRequest) :
    Except Panic (Except ErrorResponse (DecidedGateway F)) :=
  if !reads.merchantFound then .ok (.error merchantNotFound)
  else
    match reads.staticArm with
    | some result => .ok (.ok result)
    | none =>
        let isHybridRouting := request.rankingAlgorithm == some .ntwSrHybridRouting
        if request.rankingAlgorithm == some .ntwBasedRouting || isHybridRouting then
          if !reads.debitRoutingEnabled then
            .ok (.error (debitRoutingNotEnabled request.payment.merchantId))
          else if isHybridRouting then performHybridRouting reads order request writer
          else .ok (performDebitRouting reads request)
        else runDeciderFlow reads.flow order request request.rankingAlgorithm writer

/-! ## What is decided -/

section Decided

variable {reads : DeciderReads F} {flowReads : FlowReads F} {order : IterationOrder Gateway F}
  {writer : Writer F} {request : DomainDeciderRequest} {result : DecidedGateway F}
  {rankingAlgorithm : Option RankingAlgorithm}

variable {functionalGateways : List Gateway} {gateway : Gateway}

omit [MachineNumber F] in
/-- The scored gateways are some of those that were given. -/
theorem mem_of_mem_scoredGateways
    (scored : gateway ∈ (scoredGateways flowReads request rankingAlgorithm functionalGateways).1) :
    gateway ∈ functionalGateways := by
  rw [scoredGateways] at scored
  have narrowed := (List.destutter_sublist _ _).subset scored
  split at narrowed
  · rw [filterFunctionalGatewaysWithEnforcement] at narrowed
    dsimp only at narrowed
    split at narrowed
    · split at narrowed
      · split at narrowed
        · exact List.mem_of_mem_filter narrowed
        · exact List.mem_of_mem_filter narrowed
      · exact narrowed
    · exact List.mem_of_mem_filter narrowed
  · exact narrowed

omit [MachineNumber F] in
theorem getD_handleEnforcedGateway (gatewayList : Option (List Gateway)) :
    (handleEnforcedGateway gatewayList).getD [] = gatewayList.getD [] := by
  rcases gatewayList with _ | _ | ⟨first, rest⟩ <;> rfl

/-- A scored gateway was given, or is in an outage. -/
theorem mem_or_outage_of_scoringFlow {reads : ScoringReads F} {payment : Payment}
    {gatewayPriorityList : List Gateway} {eliminationEnabled : Option Bool} {scored : Writer F}
    (returned : scoringFlow reads order payment functionalGateways gatewayPriorityList
      rankingAlgorithm eliminationEnabled writer = .ok scored)
    (present : gateway ∈ scored.gwScoreMap) :
    gateway ∈ functionalGateways ∨
      ∃ outage ∈ applicableOutages reads.outage payment, outage.gateway = some gateway := by
  by_cases single : functionalGateways.length = 1
  · exact Or.inl ((mem_scoringFlow_of_single single returned).mp present)
  · rcases mem_scoringFlow single returned with ⟨first, isFirst, isPresent⟩
    rcases (isPresent gateway).mp present with inOutage | scoredFirst
    · exact Or.inr inOutage
    · exact Or.inl (functional_of_mem_initialScores isFirst scoredFirst)

/-- The flow decides one of the gateways that it is given, or one in an outage. -/
theorem decided_of_runDeciderFlow
    (returned : runDeciderFlow flowReads order request rankingAlgorithm writer =
      .ok (.ok result)) :
    result.decidedGateway ∈ request.eligibleGatewayList.getD [] ∨
      ∃ outage ∈ applicableOutages flowReads.scoring.outage request.payment,
        outage.gateway = some result.decidedGateway := by
  rw [runDeciderFlow, getD_handleEnforcedGateway] at returned
  dsimp only at returned
  split at returned
  · next pgw _ _ =>
      split at returned
      · next functional =>
          cases returned
          exact Or.inl functional
      · cases returned
  · rcases map_eq_ok.mp returned with ⟨scored, isScored, isDecided⟩
    rcases mem_or_outage_of_scoringFlow isScored (mem_of_decideGateway isDecided) with
      isGiven | inOutage
    · exact Or.inl (mem_of_mem_scoredGateways isGiven)
    · exact Or.inr inOutage

omit [MachineNumber F] in
theorem decided_of_performDebitRouting (returned : performDebitRouting reads request = .ok result) :
    result.decidedGateway ∈ request.eligibleGatewayList.getD [] ∨
      request.eligibleGatewayList.getD [] = [] := by
  rw [performDebitRouting] at returned
  split at returned
  · cases returned
    rcases request.eligibleGatewayList with _ | _ | ⟨first, rest⟩
    · exact Or.inr rfl
    · exact Or.inr rfl
    · exact Or.inl List.mem_cons_self
  · cases returned

/-- What is decided for a request: what an experiment or an outage names, one of the gateways
that are given, or nothing where debit routing is given none. -/
theorem decided_of_deciderFullPayload
    (returned : deciderFullPayloadHsFunction reads order writer request = .ok (.ok result)) :
    reads.staticArm = some result ∨ result.decidedGateway ∈ request.eligibleGatewayList.getD [] ∨
      (∃ outage ∈ applicableOutages reads.flow.scoring.outage request.payment,
        outage.gateway = some result.decidedGateway) ∨
      request.rankingAlgorithm = some .ntwBasedRouting ∧
        request.eligibleGatewayList.getD [] = [] := by
  have byFlow : ∀ {flowReads : FlowReads F} {ranking},
      flowReads.scoring.outage = reads.flow.scoring.outage →
      runDeciderFlow flowReads order request ranking writer = .ok (.ok result) →
      result.decidedGateway ∈ request.eligibleGatewayList.getD [] ∨
        ∃ outage ∈ applicableOutages reads.flow.scoring.outage request.payment,
          outage.gateway = some result.decidedGateway := by
    intro flowReads ranking sameOutages returned
    rw [← sameOutages]
    exact decided_of_runDeciderFlow returned
  rw [deciderFullPayloadHsFunction] at returned
  split at returned
  · cases returned
  · split at returned
    · next isStatic =>
        cases returned
        exact Or.inl isStatic
    · right
      dsimp only at returned
      split at returned
      · split at returned
        · cases returned
        · split at returned
          · rcases map_eq_ok.mp returned with ⟨srResult, isSr, isResult⟩
            have sameResult : srResult = .ok result := by
              split at isResult
              · exact isResult
              · exact isResult
              · cases isResult
            rw [sameResult] at isSr
            have sameOutages : reads.flow.withoutOverride.scoring.outage =
                reads.flow.scoring.outage := rfl
            rcases byFlow sameOutages isSr with isGiven | inOutage
            · exact Or.inl isGiven
            · exact Or.inr (Or.inl inOutage)
          · next ranked _ notHybrid =>
              rw [Bool.or_eq_true, or_iff_left notHybrid, beq_iff_eq] at ranked
              rcases decided_of_performDebitRouting (Except.ok.inj returned) with
                isGiven | noneGiven
              · exact Or.inl isGiven
              · exact Or.inr (Or.inr ⟨ranked, noneGiven⟩)
      · rcases byFlow rfl returned with isGiven | inOutage
        · exact Or.inl isGiven
        · exact Or.inr (Or.inl inOutage)

end Decided

end Flow

end DecisionEngine.Scoring
