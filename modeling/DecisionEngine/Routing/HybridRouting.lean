import DecisionEngine.Euclid.Interpreter
import DecisionEngine.Euclid.Validator
import DecisionEngine.Json.Value
import DecisionEngine.Scoring.DeciderFlow

/-!
# Hybrid routing

A hybrid request has a static part, which is evaluated by the rules of the merchant, and a
dynamic part, which is decided among the gateways of the static result.  The connectors of
the static result are handed over by their names, and the decided name is read as a connector
again, so that a connector with a gateway id does not come back.
-/

namespace DecisionEngine.Routing

open Euclid Json Map Number Scoring Text Transition

/-! ## Requests and answers -/

structure RoutingRequest where
  paymentId : Option String
  createdBy : String
  fallbackOutput : Option (List ConnectorInfo)
  parameters : Context

structure RoutingEvaluateResponse where
  paymentId : Option String
  status : String
  output : Value
  evaluatedOutput : List ConnectorInfo
  eligibleConnectors : List ConnectorInfo

structure HybridRoutingRequest where
  staticRoutingRequest : Option RoutingRequest
  dynamicRoutingRequest : Option DomainDeciderRequest

structure DynamicRoutingEnvelope (F : Type) where
  status : String
  decision : Option (DecidedGateway F)
  fallbackConnectors : Option (List ConnectorInfo)

/-- The fields of a successful response, each of which may be absent. -/
structure HybridResponse (F : Type) where
  staticRouting : Option RoutingEvaluateResponse
  dynamicRouting : Option (DynamicRoutingEnvelope F)
  evaluatedConnectors : Option (List ConnectorInfo)

inductive HybridAnswer (F : Type) where
  | success (response : HybridResponse F)
  | refused (error : EuclidErrors)
  | staticError (error : EuclidErrors)
  | dynamicError (error : ErrorResponse)

/-! ## Connectors and names -/

def extractStaticEligibleGateways (response : RoutingEvaluateResponse) : List ConnectorInfo :=
  response.evaluatedOutput

def extractGatewayNames (connectors : List ConnectorInfo) : List String :=
  connectors.map ConnectorInfo.gatewayName

/-- The name of a gateway, with its id after a colon. -/
def parseDynamicConnector (connectorWithId : String) : ConnectorInfo :=
  match splitOnce ':' connectorWithId with
  | some (gatewayName, gatewayId) => ⟨gatewayName, some gatewayId⟩
  | none => ⟨connectorWithId, none⟩

/-! ## The handler -/

section Handler

variable {F : Type}

/-- The connectors of the static result, or the fallback of the request where the evaluation
fails. -/
def dynamicFallbackGateways
    (routingEvaluate : RoutingRequest → Except EuclidErrors RoutingEvaluateResponse)
    (request : Option RoutingRequest) : Option (List ConnectorInfo) :=
  match request with
  | none => none
  | some req =>
      match routingEvaluate req with
      | .ok response => some (extractStaticEligibleGateways response)
      | .error _ => req.fallbackOutput

/-- The dynamic part with the gateways that it lists, or else with those of the static part. -/
def populated (req : DomainDeciderRequest) (fallback : Option (List ConnectorInfo)) :
    DomainDeciderRequest :=
  let requestEligibleGateways :=
    match req.eligibleGatewayList with
    | some [] => none
    | some gateways => some gateways
    | none => none
  { req with
    eligibleGatewayList := requestEligibleGateways.or (fallback.map extractGatewayNames) }

def invalidHybridRequest : EuclidErrors :=
  .invalidRequest
    "At least one of static_routing_request or dynamic_routing_request must be provided."

/-- The answer from the results of the parts. -/
def respond (isEmptyRequest : Bool) (staticResponse : Option RoutingEvaluateResponse)
    (staticError : Option EuclidErrors) (fallback : Option (List ConnectorInfo))
    (dynamic : Option (Except ErrorResponse (DecidedGateway F))) : HybridAnswer F :=
  let staticEligibleGateways := staticResponse.map extractStaticEligibleGateways
  match isEmptyRequest, dynamic, fallback, staticEligibleGateways, staticError with
  | true, _, _, _, _ => .refused invalidHybridRequest
  | false, some (.ok decision), _, _, _ =>
      .success ⟨staticResponse, some ⟨"success", some decision, none⟩,
        some [parseDynamicConnector decision.decidedGateway]⟩
  | false, some (.error _), some fallback, _, _ =>
      .success ⟨staticResponse, some ⟨"fallback", none, some fallback⟩, some fallback⟩
  | false, some (.error error), none, _, _ => .dynamicError error
  | false, none, _, some staticGateways, _ => .success ⟨staticResponse, none, some staticGateways⟩
  | false, none, some fallback, none, _ => .success ⟨staticResponse, none, some fallback⟩
  | false, none, none, none, some error => .staticError error
  | false, none, none, none, none => .success ⟨staticResponse, none, none⟩

/-- The evaluation of the static part and the decision of the dynamic part are given. -/
def hybridRoutingEvaluate
    (routingEvaluate : RoutingRequest → Except EuclidErrors RoutingEvaluateResponse)
    (decideDynamic : DomainDeciderRequest →
      Except Panic (Except ErrorResponse (DecidedGateway F)))
    (payload : HybridRoutingRequest) : Except Panic (HybridAnswer F) :=
  let isEmptyRequest :=
    payload.staticRoutingRequest.isNone && payload.dynamicRoutingRequest.isNone
  let evaluated := payload.staticRoutingRequest.map routingEvaluate
  let staticResponse := evaluated.bind Except.toOption
  let staticError := evaluated.bind fun result =>
    match result with
    | .ok _ => none
    | .error error => some error
  let fallback := dynamicFallbackGateways routingEvaluate payload.staticRoutingRequest
  match payload.dynamicRoutingRequest with
  | none => .ok (respond isEmptyRequest staticResponse staticError fallback none)
  | some req =>
      (decideDynamic (populated req fallback)).map fun result =>
        respond isEmptyRequest staticResponse staticError fallback (some result)

end Handler

/-! ## Staying inside the candidates -/

/-- The text that is read as the connector. -/
def ReadAs (connector : ConnectorInfo) (text : String) : Prop :=
  ':' ∉ connector.gatewayName.toList ∧
    text = match connector.gatewayId with
      | none => connector.gatewayName
      | some gatewayId => connector.gatewayName ++ ":" ++ gatewayId

theorem parseDynamicConnector_eq_iff {text : String} {connector : ConnectorInfo} :
    parseDynamicConnector text = connector ↔ ReadAs connector text := by
  have colon : ":" = String.singleton ':' := rfl
  rw [parseDynamicConnector, ReadAs, colon]
  constructor
  · rintro rfl
    cases found : splitOnce ':' text with
    | none => exact ⟨splitOnce_eq_none_iff.mp found, rfl⟩
    | some pieces => exact (eq_of_splitOnce found).symm
  · rcases connector with ⟨name, _ | gatewayId⟩
    · rintro ⟨absent, rfl⟩
      rw [splitOnce_eq_none_iff.mpr absent]
    · rintro ⟨absent, rfl⟩
      rw [splitOnce_append absent]

/-- Every returned connector is a candidate, and with candidates some connector is returned. -/
structure StaysInside {F : Type} (candidates : List ConnectorInfo) (answer : HybridAnswer F) :
    Prop where
  inside : ∀ response, answer = .success response →
    ∀ connectors, response.evaluatedConnectors = some connectors →
      ∀ connector ∈ connectors, connector ∈ candidates
  nonempty : candidates ≠ [] → ∀ response, answer = .success response →
    ∃ connectors, response.evaluatedConnectors = some connectors ∧ connectors ≠ []

/-- A decided gateway is read as one of the candidates. -/
def DecidesCandidate {F : Type} (candidates : List ConnectorInfo)
    (dynamic : Option (Except ErrorResponse (DecidedGateway F))) : Prop :=
  ∀ decision, dynamic = some (.ok decision) →
    ∃ connector ∈ candidates, ReadAs connector decision.decidedGateway

section Candidates

variable {F : Type}

/-- An answer with the candidates themselves stays inside them. -/
theorem staysInside_candidates {candidates : List ConnectorInfo} (response : HybridResponse F)
    (returned : response.evaluatedConnectors = some candidates) :
    StaysInside candidates (.success response) := by
  constructor
  · rintro _ ⟨⟩ connectors evaluated connector listed
    rw [returned] at evaluated
    cases evaluated
    exact listed
  · rintro nonempty _ ⟨⟩
    exact ⟨candidates, returned, nonempty⟩

theorem staysInside_failure {candidates : List ConnectorInfo} {answer : HybridAnswer F}
    (fails : ∀ response, answer ≠ .success response) : StaysInside candidates answer :=
  ⟨fun response isSuccess => absurd isSuccess (fails response),
    fun _ response isSuccess => absurd isSuccess (fails response)⟩

/-- Only a decided gateway can lead outside. -/
theorem staysInside_respond_iff {staticResponse : Option RoutingEvaluateResponse}
    {staticError : Option EuclidErrors} {fallback : Option (List ConnectorInfo)}
    {dynamic : Option (Except ErrorResponse (DecidedGateway F))}
    (preferred : ∀ response, staticResponse = some response →
      fallback = some response.evaluatedOutput) :
    StaysInside (fallback.getD []) (respond false staticResponse staticError fallback dynamic) ↔
      DecidesCandidate (fallback.getD []) dynamic := by
  rcases dynamic with _ | error | decision
  · refine iff_of_true ?_ fun _ isDecision => by cases isDecision
    cases staticResponse with
    | some response =>
        rw [preferred response rfl]
        exact staysInside_candidates ⟨some response, none, some response.evaluatedOutput⟩ rfl
    | none =>
        cases fallback with
        | some fallback => exact staysInside_candidates ⟨none, none, some fallback⟩ rfl
        | none =>
            cases staticError with
            | some error =>
                change StaysInside [] (.staticError error)
                exact staysInside_failure fun _ isSuccess => by cases isSuccess
            | none =>
                change StaysInside [] (.success ⟨none, none, none⟩)
                refine ⟨?_, fun nonempty => (nonempty rfl).elim⟩
                rintro _ ⟨⟩ connectors evaluated
                cases evaluated
  · refine iff_of_true ?_ fun _ isDecision => by cases isDecision
    cases fallback with
    | some fallback =>
        exact staysInside_candidates
          ⟨staticResponse, some ⟨"fallback", none, some fallback⟩, some fallback⟩ rfl
    | none =>
        change StaysInside [] (.dynamicError error)
        exact staysInside_failure fun _ isSuccess => by cases isSuccess
  · constructor
    · intro stays _ isDecision
      cases isDecision
      refine ⟨_, stays.inside _ rfl _ rfl _ List.mem_cons_self, ?_⟩
      exact parseDynamicConnector_eq_iff.mp rfl
    · intro decides
      rcases decides decision rfl with ⟨connector, listed, read⟩
      constructor
      · rintro _ ⟨⟩ connectors evaluated other isOther
        cases evaluated
        rw [List.mem_singleton.mp isOther, parseDynamicConnector_eq_iff.mpr read]
        exact listed
      · rintro - _ ⟨⟩
        exact ⟨_, rfl, List.cons_ne_nil _ _⟩

variable {routingEvaluate : RoutingRequest → Except EuclidErrors RoutingEvaluateResponse}
  {decideDynamic : DomainDeciderRequest →
    Except Panic (Except ErrorResponse (DecidedGateway F))}
  {payload : HybridRoutingRequest} {answer : HybridAnswer F}

/-- The candidates are those of the static result where there is one. -/
theorem dynamicFallbackGateways_of_ok {request : Option RoutingRequest}
    {response : RoutingEvaluateResponse}
    (evaluated : (request.map routingEvaluate).bind Except.toOption = some response) :
    dynamicFallbackGateways routingEvaluate request = some response.evaluatedOutput := by
  cases request with
  | none => cases evaluated
  | some req =>
      rw [dynamicFallbackGateways]
      rw [Option.map_some, Option.bind_some] at evaluated
      cases result : routingEvaluate req with
      | error error =>
          rw [result] at evaluated
          cases evaluated
      | ok returned =>
          rw [result] at evaluated
          cases evaluated
          rfl

/-- The gateway that is decided for the dynamic part is read as a candidate. -/
def DecidesInside (routingEvaluate : RoutingRequest → Except EuclidErrors RoutingEvaluateResponse)
    (decideDynamic : DomainDeciderRequest →
      Except Panic (Except ErrorResponse (DecidedGateway F)))
    (payload : HybridRoutingRequest) : Prop :=
  ∀ req decision, payload.dynamicRoutingRequest = some req →
    decideDynamic (populated req
      (dynamicFallbackGateways routingEvaluate payload.staticRoutingRequest)) =
        .ok (.ok decision) →
    ∃ connector ∈ (dynamicFallbackGateways routingEvaluate payload.staticRoutingRequest).getD [],
      ReadAs connector decision.decidedGateway

/-- The answer stays inside the candidates just when the gateway that is decided is read as
one of them. -/
theorem staysInside_iff_decidesInside
    (returned : hybridRoutingEvaluate routingEvaluate decideDynamic payload = .ok answer) :
    StaysInside ((dynamicFallbackGateways routingEvaluate payload.staticRoutingRequest).getD [])
        answer ↔
      DecidesInside routingEvaluate decideDynamic payload := by
  rw [hybridRoutingEvaluate] at returned
  rw [DecidesInside]
  cases dynamic : payload.dynamicRoutingRequest with
  | none =>
      rw [dynamic] at returned
      refine iff_of_true ?_ fun _ _ isRequest => by cases isRequest
      cases returned
      cases static : payload.staticRoutingRequest with
      | none => exact staysInside_failure fun _ isSuccess => by cases isSuccess
      | some req =>
          have preferred : ∀ response,
              ((some req).map routingEvaluate).bind Except.toOption = some response →
                dynamicFallbackGateways routingEvaluate (some req) =
                  some response.evaluatedOutput :=
            fun _ => dynamicFallbackGateways_of_ok
          exact (staysInside_respond_iff preferred).mpr fun _ isDecision => by cases isDecision
  | some req =>
      rw [dynamic] at returned
      rcases map_eq_ok.mp returned with ⟨result, isResult, rfl⟩
      rw [Option.isNone_some, Bool.and_false]
      rw [staysInside_respond_iff fun _ => dynamicFallbackGateways_of_ok]
      constructor
      · rintro decides _ decision ⟨⟩ isDecision
        rw [isResult] at isDecision
        cases isDecision
        exact decides decision rfl
      · rintro decides decision ⟨⟩
        exact decides req decision rfl isResult

/-! ## Deciders that stay in their list -/

/-- A gateway that is decided for the request is one of those that it lists. -/
def DecidesListed (decideDynamic : DomainDeciderRequest →
      Except Panic (Except ErrorResponse (DecidedGateway F)))
    (req : DomainDeciderRequest) : Prop :=
  ∀ decision, decideDynamic req = .ok (.ok decision) →
    decision.decidedGateway ∈ req.eligibleGatewayList.getD []

/-- The name of every candidate is read as a candidate. -/
def NamesRead (candidates : List ConnectorInfo) : Prop :=
  ∀ candidate ∈ candidates, ∃ connector ∈ candidates, ReadAs connector candidate.gatewayName

/-- A request that lists no gateways is given the names of the candidates. -/
theorem eligibleGatewayList_populated {req : DomainDeciderRequest}
    {fallback : Option (List ConnectorInfo)}
    (noneListed : req.eligibleGatewayList.getD [] = []) :
    (populated req fallback).eligibleGatewayList.getD [] =
      extractGatewayNames (fallback.getD []) := by
  have takesFallback : (populated req fallback).eligibleGatewayList =
      fallback.map extractGatewayNames := by
    rw [populated]
    rcases gateways : req.eligibleGatewayList with _ | _ | ⟨first, rest⟩
    · rfl
    · rfl
    · rw [gateways] at noneListed
      cases noneListed
  rw [takesFallback]
  cases fallback <;> rfl

/-- A decider that decides the name of a candidate. -/
def decidesName (candidate : ConnectorInfo) (_ : DomainDeciderRequest) :
    Except Panic (Except ErrorResponse (DecidedGateway F)) :=
  .ok (.ok
    { decidedGateway := candidate.gatewayName
      fallbackGateways := []
      gatewayPriorityMap := ∅
      routingApproach := .none
      gatewayBeforeEvaluation := none
      isScheduledOutage := false
      multiObjectiveInfo := none })

section NoneListed

variable {req : DomainDeciderRequest}

theorem decidesListed_decidesName {candidate : ConnectorInfo}
    {fallback : Option (List ConnectorInfo)}
    (noneListed : req.eligibleGatewayList.getD [] = [])
    (listed : candidate ∈ fallback.getD []) :
    DecidesListed (F := F) (decidesName candidate) (populated req fallback) := by
  rintro _ ⟨⟩
  rw [eligibleGatewayList_populated noneListed]
  exact List.mem_map_of_mem listed

theorem decidesInside_of_namesRead (isRequest : payload.dynamicRoutingRequest = some req)
    (noneListed : req.eligibleGatewayList.getD [] = [])
    (read : NamesRead
      ((dynamicFallbackGateways routingEvaluate payload.staticRoutingRequest).getD []))
    (decidesListed : DecidesListed decideDynamic (populated req
      (dynamicFallbackGateways routingEvaluate payload.staticRoutingRequest))) :
    DecidesInside routingEvaluate decideDynamic payload := by
  intro other decision isOther isDecision
  rw [isRequest] at isOther
  cases isOther
  have named := decidesListed decision isDecision
  rw [eligibleGatewayList_populated noneListed] at named
  rcases List.mem_map.mp named with ⟨candidate, listed, isName⟩
  rw [← isName]
  exact read candidate listed

/-- The candidates for which every decider that stays in its list leads to a candidate are
those whose names are read as candidates. -/
theorem forall_decidesInside_iff (isRequest : payload.dynamicRoutingRequest = some req)
    (noneListed : req.eligibleGatewayList.getD [] = []) :
    (∀ decideDynamic : DomainDeciderRequest →
        Except Panic (Except ErrorResponse (DecidedGateway F)),
      DecidesListed decideDynamic (populated req
        (dynamicFallbackGateways routingEvaluate payload.staticRoutingRequest)) →
      DecidesInside routingEvaluate decideDynamic payload) ↔
      NamesRead
        ((dynamicFallbackGateways routingEvaluate payload.staticRoutingRequest).getD []) := by
  constructor
  · intro inside candidate listed
    exact inside (decidesName candidate) (decidesListed_decidesName noneListed listed) req _
      isRequest rfl
  · exact fun read _ => decidesInside_of_namesRead isRequest noneListed read

/-- Where the dynamic part lists no gateways, the answers stay inside the candidates for all
deciders that decide one of the gateways they are given, just when there is no dynamic part or
the name of every candidate is read as a candidate. -/
theorem staysInside_iff
    (noneListed : ∀ req, payload.dynamicRoutingRequest = some req →
      req.eligibleGatewayList.getD [] = []) :
    (∀ (decideDynamic : DomainDeciderRequest →
          Except Panic (Except ErrorResponse (DecidedGateway F))) (answer : HybridAnswer F),
        (∀ req, payload.dynamicRoutingRequest = some req →
          DecidesListed decideDynamic (populated req
            (dynamicFallbackGateways routingEvaluate payload.staticRoutingRequest))) →
        hybridRoutingEvaluate routingEvaluate decideDynamic payload = .ok answer →
          StaysInside
            ((dynamicFallbackGateways routingEvaluate payload.staticRoutingRequest).getD [])
            answer) ↔
      payload.dynamicRoutingRequest = none ∨
        NamesRead
          ((dynamicFallbackGateways routingEvaluate payload.staticRoutingRequest).getD []) := by
  cases isRequest : payload.dynamicRoutingRequest with
  | none =>
      refine iff_of_true (fun decideDynamic answer _ returned => ?_) (Or.inl rfl)
      refine (staysInside_iff_decidesInside returned).mpr fun req _ isOther => ?_
      rw [isRequest] at isOther
      cases isOther
  | some req =>
      have requestLists := noneListed req isRequest
      constructor
      · intro stays
        refine Or.inr fun candidate listed => ?_
        have decides := decidesListed_decidesName (F := F) requestLists listed
        have returned : ∃ answer,
            hybridRoutingEvaluate (F := F) routingEvaluate (decidesName candidate) payload =
              .ok answer := by
          rw [hybridRoutingEvaluate, isRequest]
          exact ⟨_, rfl⟩
        rcases returned with ⟨answer, returned⟩
        have inside := stays (decidesName candidate) answer
          (fun _ isOther => Option.some.inj isOther ▸ decides) returned
        exact (staysInside_iff_decidesInside returned).mp inside req _ isRequest rfl
      · rintro (isNone | read) decideDynamic answer decides returned
        · cases isNone
        · exact (staysInside_iff_decidesInside returned).mpr
            (decidesInside_of_namesRead isRequest requestLists read (decides req rfl))

end NoneListed

end Candidates

/-! ## An account whose id is lost -/

/-- The static part evaluates to an account of a gateway. -/
def accountResponse : RoutingEvaluateResponse where
  paymentId := none
  status := "success"
  output := .null
  evaluatedOutput := [⟨"stripe", some "mca_1"⟩]
  eligibleConnectors := [⟨"stripe", some "mca_1"⟩]

def accountRequest : HybridRoutingRequest where
  staticRoutingRequest :=
    some
      { paymentId := none
        createdBy := "m"
        fallbackOutput := some [⟨"stripe", none⟩]
        parameters := fun _ => none }
  dynamicRoutingRequest :=
    some
      { payment := visaPayment
        preferredGateway := none
        eligibleGatewayList := none
        rankingAlgorithm := none
        eliminationEnabled := none }

/-- Routing by priority, without experiments and debit routing. -/
def plainReads : DeciderReads ℚ where
  merchantFound := true
  staticArm := none
  debitRoutingEnabled := false
  debitNetworksFound := false
  flow :=
    { priorityLogic := ⟨false, []⟩
      scoring := priorityReads []
      decision := plainDecision }

/-- Two gateways are given and one of them is decided. -/
theorem decided_of_deciderFullPayload_given :
    ∃ result : DecidedGateway ℚ, plainReads.staticArm = some result ∨
      result.decidedGateway ∈ ["stripe", "adyen"] ∨
      (∃ outage ∈ applicableOutages plainReads.flow.scoring.outage visaPayment,
        outage.gateway = some result.decidedGateway) ∨
      (none : Option RankingAlgorithm) = some .ntwBasedRouting ∧
        (["stripe", "adyen"] : List Gateway) = [] := by
  have returned : ∃ result, deciderFullPayloadHsFunction plainReads .stored emptyWriter
      { payment := visaPayment
        preferredGateway := none
        eligibleGatewayList := some ["stripe", "adyen"]
        rankingAlgorithm := none
        eliminationEnabled := none } = .ok (.ok result) := ⟨_, rfl⟩
  rcases returned with ⟨result, returned⟩
  exact ⟨result, decided_of_deciderFullPayload returned⟩

/-- The candidate of the failed evaluation is a gateway without an account. -/
theorem forall_decidesInside_iff_fallback :
    (∀ decideDynamic : DomainDeciderRequest →
        Except Panic (Except ErrorResponse (DecidedGateway ℚ)),
      DecidesListed decideDynamic (populated ⟨visaPayment, none, none, none, none⟩
        (dynamicFallbackGateways (fun _ => .error .storageError)
          accountRequest.staticRoutingRequest)) →
      DecidesInside (fun _ => .error .storageError) decideDynamic accountRequest) ↔
      NamesRead [⟨"stripe", none⟩] := by
  have isRequest : accountRequest.dynamicRoutingRequest =
      some ⟨visaPayment, none, none, none, none⟩ := rfl
  exact forall_decidesInside_iff isRequest rfl

/-- With an account as the only candidate, the gateway without the id is returned. -/
theorem hybridRoutingEvaluate_counterexample :
    ∃ answer,
      hybridRoutingEvaluate (fun _ => .ok accountResponse)
          (deciderFullPayloadHsFunction plainReads .stored emptyWriter)
          accountRequest = .ok answer ∧
        ¬StaysInside
          ((dynamicFallbackGateways (fun _ => .ok accountResponse)
            accountRequest.staticRoutingRequest).getD [])
          answer := by
  refine ⟨_, rfl, fun stays => ?_⟩
  have returned := stays.inside _ rfl _ rfl ⟨"stripe", none⟩ (by decide +kernel)
  have notCandidate : (⟨"stripe", none⟩ : ConnectorInfo) ∉ accountResponse.evaluatedOutput := by
    decide
  exact notCandidate returned

/-- The evaluation of the static part fails, and the fallback names the gateway alone. -/
theorem staysInside_iff_fallback :
    (∀ (decideDynamic : DomainDeciderRequest →
          Except Panic (Except ErrorResponse (DecidedGateway ℚ))) (answer : HybridAnswer ℚ),
        (∀ req, accountRequest.dynamicRoutingRequest = some req →
          DecidesListed decideDynamic (populated req (some [⟨"stripe", none⟩]))) →
        hybridRoutingEvaluate (fun _ => .error .storageError) decideDynamic accountRequest =
            .ok answer →
          StaysInside [⟨"stripe", none⟩] answer) ↔
      accountRequest.dynamicRoutingRequest = none ∨ NamesRead [⟨"stripe", none⟩] := by
  have noneListed : ∀ req, accountRequest.dynamicRoutingRequest = some req →
      req.eligibleGatewayList.getD [] = [] := by
    rintro _ ⟨⟩
    rfl
  exact @staysInside_iff ℚ (fun _ => .error .storageError) accountRequest noneListed

end DecisionEngine.Routing
