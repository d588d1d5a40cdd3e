import DecisionEngine.Scoring.DeciderFlow
import Mathlib.Data.Finmap

/-!
# The priority logic of a merchant

A merchant names the gateways for a payment by a script, which a service outside the program
runs.  Where the script fails, or enforces gateways none of which can take the payment, the
merchant may have a second one to fall back to.
-/

namespace DecisionEngine.PriorityLogic

open Scoring (Gateway RankingAlgorithm addPreferredGatewaysToPriorityList)

/-! ## Outputs -/

inductive PriorityLogicFailure where
  | noError
  | connectionFailed
  | compilationError
  | memoryExceeded
  | gatewayNameParseFailure
  | responseContentTypeNotSupported
  | responseDecodeFailure
  | responseParseError
  | plEvaluationFailed
  | nullAfterEnforce
  | unhandledException
  | codeTooLarge
  deriving DecidableEq

inductive Status where
  | success
  | failure
  deriving DecidableEq

/-- How the run of a script went. -/
structure PriorityLogicData where
  name : Option String
  status : Status
  failureReason : PriorityLogicFailure

structure GatewayPriorityLogicOutput where
  isEnforcement : Bool
  gws : List Gateway
  priorityLogicTag : Option String
  gatewayReferenceIds : Finmap fun _ : Gateway => String
  primaryLogic : Option PriorityLogicData
  fallbackLogic : Option PriorityLogicData

def defaultGatewayPriorityLogicOutput : GatewayPriorityLogicOutput where
  isEnforcement := false
  gws := []
  priorityLogicTag := none
  gatewayReferenceIds := ∅
  primaryLogic := none
  fallbackLogic := none

/-! ## Running a script -/

/-- The errors of a request to the service, without the bytes that are only logged. -/
inductive ApiClientError where
  | clientConstructionFailed
  | headerMapConstructionFailed
  | identityParseFailed
  | certificateParseFailed
  | urlEncodingFailed
  | requestNotSent
  | responseDecodingFailed
  | badRequest
  | unauthorized
  | unexpected
  | internalServerError
  deriving DecidableEq

/-- What a script returns. -/
structure PriorityLogicOutput where
  isEnforcement : Option Bool
  gatewayPriority : Option (List Gateway)
  gatewayReferenceIds : Option (Finmap fun _ : Gateway => String)

structure ResponseBody where
  ok : Bool
  result : PriorityLogicOutput

inductive EvaluationResult where
  | plResponse (output : GatewayPriorityLogicOutput) (plData : PriorityLogicData)
  | evaluationError (plData : PriorityLogicData)

/-- The places that a decision runs a script from. -/
inductive Call where
  | primary
  | retry
  | fallback
  | fallbackAfterEnforcement
  | secondFallbackAfterEnforcement
  deriving DecidableEq

structure PriorityLogicConfig where
  activeLogic : String
  fallbackLogic : Option String

structure MerchantPriorityLogic where
  priorityLogic : String
  name : Option String

/-- What the priority logic is computed from, besides the request: the merchant's account, the
stored scripts, and what the service answers each time that it is asked to run one. -/
structure Reads where
  useCodeForGatewayPriority : Bool
  gatewayPriority : Option String
  priorityLogicConfig : Option String
  /-- The script in force for the merchant, and its name. -/
  priorityLogicScript : String × Option String
  decodePriorityLogicConfig : String → Option PriorityLogicConfig
  findPriorityLogicById : String → Option MerchantPriorityLogic
  callApi : Call → String → Except ApiClientError ResponseBody

def handleClientError : ApiClientError → PriorityLogicFailure
  | .badRequest => .compilationError
  | .unauthorized => .connectionFailed
  | .internalServerError => .unhandledException
  | .responseDecodingFailed => .responseDecodeFailure
  | .requestNotSent => .connectionFailed
  | .unexpected => .unhandledException
  | _ => .unhandledException

def handleFailureResponse (priorityLogicTag : Option String) : EvaluationResult :=
  .evaluationError
    { name := priorityLogicTag
      status := .failure
      failureReason := .plEvaluationFailed }

def handleSuccessResponse (responseBody : ResponseBody) (priorityLogicTag : Option String) :
    EvaluationResult :=
  .plResponse
    { isEnforcement := responseBody.result.isEnforcement.getD false
      gws := responseBody.result.gatewayPriority.getD []
      priorityLogicTag := priorityLogicTag
      gatewayReferenceIds := responseBody.result.gatewayReferenceIds.getD ∅
      primaryLogic := none
      fallbackLogic := none }
    { name := priorityLogicTag
      status := .success
      failureReason := .noError }

def handleResponse (response : Except ApiClientError ResponseBody)
    (priorityLogicTag : Option String) : EvaluationResult :=
  match response with
  | .error clientError =>
      .evaluationError
        { name := priorityLogicTag
          status := .failure
          failureReason := handleClientError clientError }
  | .ok responseBody =>
      if !responseBody.ok then handleFailureResponse priorityLogicTag
      else handleSuccessResponse responseBody priorityLogicTag

def evalScript (reads : Reads) (call : Call) (script : String)
    (priorityLogicTag : Option String) : EvaluationResult :=
  handleResponse (reads.callApi call script) priorityLogicTag

/-! ## The fallback -/

def getFallbackPriorityLogicScript (reads : Reads) : Option String × Option String :=
  match reads.priorityLogicConfig with
  | some priorityLogicConfig =>
      match reads.decodePriorityLogicConfig priorityLogicConfig with
      | some plConfig =>
          match plConfig.fallbackLogic.bind reads.findPriorityLogicById with
          | some mpl => (some mpl.priorityLogic, mpl.name)
          | none => (none, none)
      | none => (none, none)
  | none => (none, none)

def checkAndUpdatePlFailureReason (primaryPlData : Option PriorityLogicData)
    (plFailureReason : PriorityLogicFailure) : Option PriorityLogicData :=
  match primaryPlData with
  | none => none
  | some data =>
      if data.failureReason ≠ plFailureReason then
        some { data with status := .failure, failureReason := plFailureReason }
      else some data

def handleFallbackLogic (reads : Reads) (call : Call)
    (primaryLogicOutput : GatewayPriorityLogicOutput) (plFailureReason : PriorityLogicFailure) :
    GatewayPriorityLogicOutput :=
  if primaryLogicOutput.fallbackLogic.isNone && primaryLogicOutput.primaryLogic.isSome then
    match getFallbackPriorityLogicScript reads with
    | (some fallbackScript, fallbackPlTag) =>
        match evalScript reads call fallbackScript fallbackPlTag with
        -- the gateways of the fallback are logged, and not returned
        | .plResponse _ plData =>
            { primaryLogicOutput with
              fallbackLogic := some plData
              priorityLogicTag := fallbackPlTag
              primaryLogic :=
                checkAndUpdatePlFailureReason primaryLogicOutput.primaryLogic plFailureReason }
        | .evaluationError priorityLogicData =>
            { primaryLogicOutput with
              primaryLogic :=
                checkAndUpdatePlFailureReason primaryLogicOutput.primaryLogic plFailureReason
              fallbackLogic := some priorityLogicData
              priorityLogicTag := fallbackPlTag }
    | (none, _) =>
        { primaryLogicOutput with
          primaryLogic :=
            checkAndUpdatePlFailureReason primaryLogicOutput.primaryLogic plFailureReason }
  else
    { primaryLogicOutput with
      fallbackLogic :=
        checkAndUpdatePlFailureReason primaryLogicOutput.fallbackLogic plFailureReason }

/-! ## The output for a payment -/

def plExecutionRetryFailureReasons : List PriorityLogicFailure :=
  [.connectionFailed, .responseContentTypeNotSupported, .responseDecodeFailure,
    .responseParseError]

def getScript (reads : Reads) (maybeScript : Option String) : String × Option String :=
  match maybeScript with
  | some script => (script, some "TEST_PL")
  | none => reads.priorityLogicScript

/-- The output that stands in for a script that failed. -/
def failedOutput (priorityLogicTag : Option String) (plData : PriorityLogicData) :
    GatewayPriorityLogicOutput :=
  { defaultGatewayPriorityLogicOutput with
    priorityLogicTag := priorityLogicTag
    primaryLogic := some plData }

def getGatewayPriority (reads : Reads) (priorityLogicScript : Option String) :
    GatewayPriorityLogicOutput :=
  if reads.useCodeForGatewayPriority then
    let (script, priorityLogicTag) := getScript reads priorityLogicScript
    match evalScript reads .primary script priorityLogicTag with
    | .plResponse gws plData => { gws with primaryLogic := some plData }
    | .evaluationError priorityLogicData =>
        if priorityLogicData.failureReason ∈ plExecutionRetryFailureReasons then
          match evalScript reads .retry script priorityLogicTag with
          | .plResponse retryGws retryPlData => { retryGws with primaryLogic := some retryPlData }
          | .evaluationError retryPlData =>
              handleFallbackLogic reads .fallback (failedOutput priorityLogicTag retryPlData)
                priorityLogicData.failureReason
        else
          handleFallbackLogic reads .fallback (failedOutput priorityLogicTag priorityLogicData)
            priorityLogicData.failureReason
  else
    match reads.gatewayPriority with
    | none => defaultGatewayPriorityLogicOutput
    | some t =>
        if t.isEmpty then defaultGatewayPriorityLogicOutput
        else
          match ((Text.split ',' t).map Text.trim).filter fun s => !s.isEmpty with
          | [] => defaultGatewayPriorityLogicOutput
          | res => { defaultGatewayPriorityLogicOutput with gws := res }

/-! ## The output for a decision -/

/-- The part of a request for a decision that the priority logic depends on. -/
structure Request where
  rankingAlgorithm : Option RankingAlgorithm
  preferredGateway : Option Gateway
  functionalGateways : List Gateway
  priorityLogicOutput : Option GatewayPriorityLogicOutput
  priorityLogicScript : Option String

def gwPLogic (reads : Reads) (request : Request) : GatewayPriorityLogicOutput :=
  if request.rankingAlgorithm ≠ some .srBasedRouting then
    match request.priorityLogicOutput with
    | some plOp => plOp
    | none => getGatewayPriority reads request.priorityLogicScript
  else
    { gws := request.functionalGateways
      isEnforcement := false
      priorityLogicTag := none
      primaryLogic := none
      gatewayReferenceIds := ∅
      fallbackLogic := none }

/-- The gateways of the request that a list of priorities names. -/
def enforced (request : Request) (priorityGws : List Gateway) : List Gateway :=
  request.functionalGateways.filter fun gw => gw ∈ priorityGws

def filterFunctionalGatewaysWithEnforcement (reads : Reads) (request : Request)
    (priorityGws : List Gateway) (plOp : GatewayPriorityLogicOutput) :
    List Gateway × GatewayPriorityLogicOutput :=
  let enforcedGateways := enforced request priorityGws
  if enforcedGateways.isEmpty && request.priorityLogicOutput.isNone then
    let updatedPlOp :=
      handleFallbackLogic reads .fallbackAfterEnforcement plOp .nullAfterEnforce
    let fallBackGwPriority :=
      addPreferredGatewaysToPriorityList updatedPlOp.gws request.preferredGateway
    if updatedPlOp.isEnforcement then
      let updatedEnforcedGateways := enforced request fallBackGwPriority
      if updatedEnforcedGateways.isEmpty then
        (updatedEnforcedGateways,
          handleFallbackLogic reads .secondFallbackAfterEnforcement updatedPlOp
            .nullAfterEnforce)
      else (updatedEnforcedGateways, updatedPlOp)
    else (request.functionalGateways, updatedPlOp)
  else (enforcedGateways, plOp)

/-- The gateways that are left to a decision, and the output that it is made with. -/
def decisionPriorityLogic (reads : Reads) (request : Request) :
    List Gateway × GatewayPriorityLogicOutput :=
  let plOp := gwPLogic reads request
  let gatewayPriorityList := addPreferredGatewaysToPriorityList plOp.gws request.preferredGateway
  if plOp.isEnforcement then
    filterFunctionalGatewaysWithEnforcement reads request gatewayPriorityList plOp
  else (request.functionalGateways, plOp)

/-! ## What a decision takes from the fallback -/

/-- Two outputs agree in what a decision is made with. -/
structure GatewayPriorityLogicOutput.SameRouting (output other : GatewayPriorityLogicOutput) :
    Prop where
  gws : output.gws = other.gws
  isEnforcement : output.isEnforcement = other.isEnforcement
  gatewayReferenceIds : output.gatewayReferenceIds = other.gatewayReferenceIds

namespace GatewayPriorityLogicOutput.SameRouting

variable {first second third : GatewayPriorityLogicOutput}

theorem symm (same : first.SameRouting second) : second.SameRouting first :=
  ⟨same.gws.symm, same.isEnforcement.symm, same.gatewayReferenceIds.symm⟩

theorem trans (same : first.SameRouting second) (next : second.SameRouting third) :
    first.SameRouting third :=
  ⟨same.gws.trans next.gws, same.isEnforcement.trans next.isEnforcement,
    same.gatewayReferenceIds.trans next.gatewayReferenceIds⟩

end GatewayPriorityLogicOutput.SameRouting

/-- A fallback changes the tag and the reasons of an output, and not what is decided with. -/
theorem handleFallbackLogic_sameRouting (reads : Reads) (call : Call)
    (output : GatewayPriorityLogicOutput) (reason : PriorityLogicFailure) :
    (handleFallbackLogic reads call output reason).SameRouting output := by
  rw [handleFallbackLogic]
  split
  · split
    · split
      · exact ⟨rfl, rfl, rfl⟩
      · exact ⟨rfl, rfl, rfl⟩
    · exact ⟨rfl, rfl, rfl⟩
  · exact ⟨rfl, rfl, rfl⟩

/-- What the script in force evaluates to, run again where the first answer allows it. -/
def primaryEvaluation (reads : Reads) (priorityLogicScript : Option String) :
    EvaluationResult :=
  let (script, priorityLogicTag) := getScript reads priorityLogicScript
  match evalScript reads .primary script priorityLogicTag with
  | .plResponse gws plData => .plResponse gws plData
  | .evaluationError priorityLogicData =>
      if priorityLogicData.failureReason ∈ plExecutionRetryFailureReasons then
        evalScript reads .retry script priorityLogicTag
      else .evaluationError priorityLogicData

/-- What the fallback script, where there is one, evaluates to. -/
def fallbackEvaluation (reads : Reads) (call : Call) : Option EvaluationResult :=
  let (fallbackLogic, fallbackPlTag) := getFallbackPriorityLogicScript reads
  fallbackLogic.map fun fallbackScript => evalScript reads call fallbackScript fallbackPlTag

/-- A script is run for the decision. -/
structure Evaluated (reads : Reads) (request : Request) : Prop where
  byCode : reads.useCodeForGatewayPriority = true
  notGiven : request.priorityLogicOutput = none
  notBySuccessRate : request.rankingAlgorithm ≠ some .srBasedRouting

/-- The script in force is run, and fails. -/
structure PrimaryFails (reads : Reads) (request : Request) : Prop
    extends Evaluated reads request where
  fails : ∃ plData,
    primaryEvaluation reads request.priorityLogicScript = .evaluationError plData

/-- The script in force is run, and enforces gateways that the payment cannot take. -/
structure PrimaryUnusable (reads : Reads) (request : Request)
    (output : GatewayPriorityLogicOutput) : Prop extends Evaluated reads request where
  evaluates : ∃ plData,
    primaryEvaluation reads request.priorityLogicScript = .plResponse output plData
  isEnforcement : output.isEnforcement = true
  noneLeft : enforced request
    (addPreferredGatewaysToPriorityList output.gws request.preferredGateway) = []

/-- The fallback takes effect in a decision. -/
structure FallbackTakesEffect (reads : Reads) (request : Request) : Prop where
  afterFailure : PrimaryFails reads request → ∀ output plData,
    fallbackEvaluation reads .fallback = some (.plResponse output plData) →
    (decisionPriorityLogic reads request).2.SameRouting output
  afterEnforcement : ∀ primary, PrimaryUnusable reads request primary → ∀ output plData,
    fallbackEvaluation reads .fallbackAfterEnforcement = some (.plResponse output plData) →
    (decisionPriorityLogic reads request).2.SameRouting output
  bothFail : PrimaryFails reads request →
    (∀ output plData,
      fallbackEvaluation reads .fallback ≠ some (.plResponse output plData)) →
    (decisionPriorityLogic reads request).2.SameRouting defaultGatewayPriorityLogicOutput

/-- A fallback that is run has nothing to change in a decision. -/
structure FallbackChangesNothing (reads : Reads) (request : Request) : Prop where
  afterFailure : PrimaryFails reads request → ∀ output plData,
    fallbackEvaluation reads .fallback = some (.plResponse output plData) →
    output.SameRouting defaultGatewayPriorityLogicOutput
  afterEnforcement : ∀ primary, PrimaryUnusable reads request primary → ∀ output plData,
    fallbackEvaluation reads .fallbackAfterEnforcement = some (.plResponse output plData) →
    output.SameRouting primary

section Decision

variable {reads : Reads} {request : Request}

theorem Evaluated.gwPLogic_eq (evaluated : Evaluated reads request) :
    gwPLogic reads request = getGatewayPriority reads request.priorityLogicScript := by
  rw [gwPLogic, if_pos evaluated.notBySuccessRate, evaluated.notGiven]

variable {plData : PriorityLogicData} {maybeScript : Option String}

/-- The output of the script in force, where it evaluates. -/
theorem getGatewayPriority_of_plResponse {output : GatewayPriorityLogicOutput}
    (byCode : reads.useCodeForGatewayPriority = true)
    (evaluates : primaryEvaluation reads maybeScript = .plResponse output plData) :
    getGatewayPriority reads maybeScript = { output with primaryLogic := some plData } := by
  rw [primaryEvaluation] at evaluates
  rw [getGatewayPriority, if_pos byCode]
  dsimp only at evaluates ⊢
  split at evaluates
  · cases evaluates
    rfl
  · split at evaluates
    · next again => simp only [if_pos again, evaluates]
    · cases evaluates

/-- A failed script leaves the default, whatever its fallback evaluates to. -/
theorem getGatewayPriority_of_evaluationError (byCode : reads.useCodeForGatewayPriority = true)
    (fails : primaryEvaluation reads maybeScript = .evaluationError plData) :
    (getGatewayPriority reads maybeScript).SameRouting defaultGatewayPriorityLogicOutput := by
  have ofFailed : ∀ reason, (handleFallbackLogic reads .fallback
      (failedOutput (getScript reads maybeScript).2 plData) reason).SameRouting
        defaultGatewayPriorityLogicOutput := fun reason =>
    (handleFallbackLogic_sameRouting reads .fallback _ reason).trans ⟨rfl, rfl, rfl⟩
  rw [primaryEvaluation] at fails
  rw [getGatewayPriority, if_pos byCode]
  dsimp only at fails ⊢
  split at fails
  · cases fails
  · split at fails
    · next again =>
        simp only [if_pos again, fails]
        exact ofFailed _
    · next again =>
        simp only [if_neg again]
        cases fails
        exact ofFailed _

theorem PrimaryFails.decided (primary : PrimaryFails reads request) :
    (decisionPriorityLogic reads request).2.SameRouting defaultGatewayPriorityLogicOutput := by
  rcases primary.fails with ⟨plData, fails⟩
  have same := getGatewayPriority_of_evaluationError primary.byCode fails
  rw [decisionPriorityLogic, primary.gwPLogic_eq, same.isEnforcement]
  exact same

/-- Where nothing is left of what a script enforces, its own output is decided with. -/
theorem PrimaryUnusable.decided {primary : GatewayPriorityLogicOutput}
    (unusable : PrimaryUnusable reads request primary) :
    (decisionPriorityLogic reads request).2.SameRouting primary := by
  rcases unusable.evaluates with ⟨plData, evaluates⟩
  rw [decisionPriorityLogic, unusable.gwPLogic_eq,
    getGatewayPriority_of_plResponse unusable.byCode evaluates, if_pos unusable.isEnforcement,
    filterFunctionalGatewaysWithEnforcement]
  dsimp only
  rw [unusable.noneLeft, unusable.notGiven]
  have same := handleFallbackLogic_sameRouting reads .fallbackAfterEnforcement
    { primary with primaryLogic := some plData } .nullAfterEnforce
  have samePrimary : GatewayPriorityLogicOutput.SameRouting
      { primary with primaryLogic := some plData } primary := ⟨rfl, rfl, rfl⟩
  simp only [List.isEmpty_nil, Option.isNone_none, Bool.and_true, if_true]
  split
  · split
    · exact (handleFallbackLogic_sameRouting _ _ _ _).trans (same.trans samePrimary)
    · exact same.trans samePrimary
  · exact same.trans samePrimary

/-- The fallback takes effect only where it has nothing to change. -/
theorem fallbackTakesEffect_iff (reads : Reads) (request : Request) :
    FallbackTakesEffect reads request ↔ FallbackChangesNothing reads request := by
  constructor
  · intro takesEffect
    refine ⟨?_, ?_⟩
    · intro fails output plData evaluated
      exact (takesEffect.afterFailure fails output plData evaluated).symm.trans fails.decided
    · intro primary unusable output plData evaluated
      exact (takesEffect.afterEnforcement primary unusable output plData evaluated).symm.trans
        unusable.decided
  · intro changesNothing
    refine ⟨?_, ?_, ?_⟩
    · intro fails output plData evaluated
      exact fails.decided.trans
        (changesNothing.afterFailure fails output plData evaluated).symm
    · intro primary unusable output plData evaluated
      exact unusable.decided.trans
        (changesNothing.afterEnforcement primary unusable output plData evaluated).symm
    · intro fails _
      exact fails.decided

end Decision

/-- A merchant with two scripts: the one in force does not compile, and the fallback names a
gateway. -/
def failingPrimary : Reads where
  useCodeForGatewayPriority := true
  gatewayPriority := none
  priorityLogicConfig := some "config"
  priorityLogicScript := ("def priorities = [", some "primary")
  decodePriorityLogicConfig _ := some ⟨"1", some "2"⟩
  findPriorityLogicById _ := some ⟨"def priorities = ['stripe']", some "fallback"⟩
  callApi
    | .fallback, _ => .ok ⟨true, some false, some ["stripe"], none⟩
    | _, _ => .error .badRequest

def twoGateways : Request where
  rankingAlgorithm := none
  preferredGateway := none
  functionalGateways := ["adyen", "stripe"]
  priorityLogicOutput := none
  priorityLogicScript := none

/-- The gateway that the fallback names is not decided with. -/
theorem not_fallbackTakesEffect_failingPrimary :
    ¬FallbackTakesEffect failingPrimary twoGateways := by
  intro takesEffect
  have fails : PrimaryFails failingPrimary twoGateways :=
    ⟨⟨rfl, rfl, by decide⟩, ⟨_, rfl⟩⟩
  have same := (takesEffect.afterFailure fails _ _ rfl).gws
  exact absurd same (by decide)

/-! ## The flow of a decision -/

/-- What the flow of a decision reads of an output. -/
def GatewayPriorityLogicOutput.toFlow (output : GatewayPriorityLogicOutput) :
    Scoring.GatewayPriorityLogicOutput :=
  ⟨output.isEnforcement, output.gws⟩

@[simp]
theorem toFlow_handleFallbackLogic (reads : Reads) (call : Call)
    (output : GatewayPriorityLogicOutput) (reason : PriorityLogicFailure) :
    (handleFallbackLogic reads call output reason).toFlow =
      Scoring.handleFallbackLogic output.toFlow := by
  have same := handleFallbackLogic_sameRouting reads call output reason
  rw [GatewayPriorityLogicOutput.toFlow, same.gws, same.isEnforcement]
  rfl

/-- Enforcement in the flow, where no output is given with the request. -/
theorem toFlow_filterFunctionalGatewaysWithEnforcement (reads : Reads) {request : Request}
    (notGiven : request.priorityLogicOutput = none) (priorityGws : List Gateway)
    (plOp : GatewayPriorityLogicOutput) :
    (filterFunctionalGatewaysWithEnforcement reads request priorityGws plOp).map id
        GatewayPriorityLogicOutput.toFlow =
      Scoring.filterFunctionalGatewaysWithEnforcement request.functionalGateways priorityGws
        plOp.toFlow request.preferredGateway := by
  have first := toFlow_handleFallbackLogic reads .fallbackAfterEnforcement plOp .nullAfterEnforce
  have second := toFlow_handleFallbackLogic reads .secondFallbackAfterEnforcement
    (handleFallbackLogic reads .fallbackAfterEnforcement plOp .nullAfterEnforce) .nullAfterEnforce
  rw [filterFunctionalGatewaysWithEnforcement, Scoring.filterFunctionalGatewaysWithEnforcement,
    ← first, notGiven]
  dsimp only
  rw [← second]
  simp only [apply_ite (Prod.map id GatewayPriorityLogicOutput.toFlow), Option.isNone_none,
    Bool.and_true]
  rfl

/-- The flow of a decision is that of the whole outputs. -/
theorem scoredGateways_eq_decisionPriorityLogic {F : Type} {reads : Reads} {request : Request}
    {flowReads : Scoring.FlowReads F} {domain : Scoring.DomainDeciderRequest}
    (notGiven : request.priorityLogicOutput = none)
    (samePriorityLogic :
      flowReads.priorityLogic = (getGatewayPriority reads request.priorityLogicScript).toFlow)
    (samePreferred : domain.preferredGateway = request.preferredGateway) :
    Scoring.scoredGateways flowReads domain request.rankingAlgorithm request.functionalGateways =
      ((decisionPriorityLogic reads request).1.destutter (· ≠ ·),
        (decisionPriorityLogic reads request).2.toFlow) := by
  have sameLogic : Scoring.gwPLogic flowReads request.rankingAlgorithm
      request.functionalGateways = (gwPLogic reads request).toFlow := by
    rw [Scoring.gwPLogic, gwPLogic, notGiven, samePriorityLogic]
    split <;> rfl
  rw [Scoring.scoredGateways, decisionPriorityLogic, sameLogic, samePreferred,
    ← toFlow_filterFunctionalGatewaysWithEnforcement reads notGiven]
  by_cases isEnforcement : (gwPLogic reads request).isEnforcement = true
  · simp [GatewayPriorityLogicOutput.toFlow, isEnforcement]
  · simp [GatewayPriorityLogicOutput.toFlow, isEnforcement]

/-- The flow without the gateway that the fallback has named. -/
theorem scoredGateways_eq_decisionPriorityLogic_failingPrimary :
    Scoring.scoredGateways
        { priorityLogic :=
            (getGatewayPriority failingPrimary twoGateways.priorityLogicScript).toFlow
          scoring := Scoring.priorityReads []
          decision := Scoring.plainDecision }
        ⟨Scoring.visaPayment, none, none, none, none⟩ twoGateways.rankingAlgorithm
        twoGateways.functionalGateways =
      ((decisionPriorityLogic failingPrimary twoGateways).1.destutter (· ≠ ·),
        (decisionPriorityLogic failingPrimary twoGateways).2.toFlow) :=
  scoredGateways_eq_decisionPriorityLogic rfl rfl rfl

end DecisionEngine.PriorityLogic
