import DecisionEngine.Scoring.MultiObjective
import DecisionEngine.Scoring.ScoringFlow

/-!
# The decided gateway

The gateway with the greatest score, or the one of a cost decision, and the fallbacks
after it.
-/

namespace DecisionEngine.Scoring

open Map Number

structure UnifiedError where
  code : String
  userMessage : String
  developerMessage : String
  deriving DecidableEq

structure ErrorResponse where
  status : String
  errorCode : String
  errorMessage : String
  routingApproach : Option GatewayDeciderApproach
  errorInfo : UnifiedError
  deriving DecidableEq

def gatewayNotFound (approach : GatewayDeciderApproach) : ErrorResponse where
  status := "Invalid Request"
  errorCode := "invalid_request_error"
  errorMessage := "Can't find a suitable gateway to process the transaction"
  routingApproach := some approach
  errorInfo :=
    { code := "GATEWAY_NOT_FOUND"
      userMessage := "Gateway not found to process the transaction request."
      developerMessage := "Gateway not found to process the transaction request." }

structure DecidedGateway (F : Type) where
  decidedGateway : Gateway
  fallbackGateways : List Gateway
  gatewayPriorityMap : GatewayScoreMap F
  routingApproach : GatewayDeciderApproach
  gatewayBeforeEvaluation : Option Gateway
  isScheduledOutage : Bool
  multiObjectiveInfo : Option (MultiObjectiveInfo F)

/-- What the decision is computed from, besides the scores. -/
structure DecisionReads (F : Type) where
  abTestSrOverride : Option (SrConfigOverride F)
  enableMultiObjectiveOverride : Option Bool
  multiObjectiveRoutingEnabled : Bool
  /-- The margin in the configuration of the merchant. -/
  configuredMargin : Option F
  costs : HashMap Gateway (PspCost F)

section Decision

variable {F : Type} [MachineNumber F]

omit [MachineNumber F] in
/-- The experiment decides first, then the request, then the feature flag. -/
def multiObjOn (reads : DecisionReads F) : Bool :=
  ((reads.abTestSrOverride.bind (·.enableMultiObjective)).or
    reads.enableMultiObjectiveOverride).getD reads.multiObjectiveRoutingEnabled

/-- A margin that is not positive counts as not configured. -/
def loadMargin (reads : DecisionReads F) : F :=
  (reads.configuredMargin.filter fun margin => gt margin (ofRat 0)).getD (ofRat 1)

/-- The outcome of the post-step, which a hedging decision does not take. -/
def multiObjectivePostStep (reads : DecisionReads F) (order : IterationOrder Gateway F)
    (writer : Writer F) : Option (ReorderOutcome F) :=
  if multiObjOn reads && !writer.gwDeciderApproach.isHedging then
    some (tryApplyMultiObjectivePostStep order writer.gwScoreMap
      ((reads.abTestSrOverride.bind (·.margin)).getD (loadMargin reads)) reads.costs)
  else none

def decideGateway (reads : DecisionReads F) (order : IterationOrder Gateway F)
    (writer : Writer F) : Except ErrorResponse (DecidedGateway F) :=
  if writer.gwScoreMap.keys.isEmpty then .error (gatewayNotFound .none)
  else
    let maxScore := (getMaxScoreGateway order writer.gwScoreMap).map Prod.snd
    let selected := randomGatewaySelectionForSameScore order writer.gwScoreMap maxScore
    let outcome := multiObjectivePostStep reads order writer
    let costDecision := outcome.bind (·.costDecision)
    let approach :=
      if outcome.any fun outcome => outcome.info.outcome == .costWon then
        .srSelectionMultiObjective
      else writer.gwDeciderApproach
    let finalDeciderApproach := getGatewayDeciderApproach writer.gwScoreMap approach
    match (costDecision.map (·.chosen)).or selected with
    | none => .error (gatewayNotFound finalDeciderApproach)
    | some decided =>
        .ok
          { decidedGateway := decided
            fallbackGateways :=
              (costDecision.map (·.fallbacks)).getD
                (fallbackGatewaysFromScoreMap order writer.gwScoreMap decided)
            gatewayPriorityMap := writer.gwScoreMap
            routingApproach := finalDeciderApproach
            gatewayBeforeEvaluation := writer.topGatewayBeforeSRDowntimeEvaluation
            isScheduledOutage := writer.isScheduledOutage
            multiObjectiveInfo := outcome.map (·.info) }

variable {reads : DecisionReads F} {order : IterationOrder Gateway F} {writer : Writer F}

theorem mem_of_multiObjectivePostStep {decision : CostDecision}
    (decided : (multiObjectivePostStep reads order writer).bind (·.costDecision) = some decision) :
    decision.chosen ∈ writer.gwScoreMap := by
  rcases Option.bind_eq_some_iff.mp decided with ⟨outcome, applied, isDecision⟩
  rw [multiObjectivePostStep] at applied
  split at applied
  · cases applied
    exact mem_of_tryApplyMultiObjectivePostStep isDecision
  · cases applied

/-- A decided gateway has a score. -/
theorem mem_of_decideGateway {decided : DecidedGateway F}
    (returned : decideGateway reads order writer = .ok decided) :
    decided.decidedGateway ∈ writer.gwScoreMap := by
  rw [decideGateway] at returned
  split at returned
  · cases returned
  · dsimp only at returned
    split at returned
    case h_1 => cases returned
    case h_2 gateway isDecided =>
      cases returned
      rcases Option.or_eq_some_iff.mp isDecided with byCost | ⟨-, byScore⟩
      · rcases Option.map_eq_some_iff.mp byCost with ⟨decision, found, rfl⟩
        exact mem_of_multiObjectivePostStep found
      · exact mem_of_randomGatewaySelectionForSameScore byScore

end Decision

/-! ## The fallback gateways

Both ways to order the fallbacks list every gateway of the score map but the decided one,
each of them once.
-/

section Fallbacks

variable {F : Type} [MachineNumber F]

/-! ## The two parts of a cost decision -/

variable (margin : F) (costs : HashMap Gateway (PspCost F)) (chosen : Gateway)

/-- The other gateways with a cost, and their expected values. -/
def costedOthers (entries : List (Gateway × F)) : List (Gateway × F) :=
  (entries.filter fun entry => entry.1 != chosen).filterMap fun entry =>
    (costBps costs entry.1).map fun cost => (entry.1, expectedValue margin entry.2 cost)

/-- The other gateways without a cost, and their scores. -/
def uncostedOthers (entries : List (Gateway × F)) : List (Gateway × F) :=
  (entries.filter fun entry => entry.1 != chosen).filter fun entry =>
    (costBps costs entry.1).isNone

variable (order : IterationOrder Gateway F) (scoreMap : GatewayScoreMap F)

theorem buildEvOrderedFallbacks_eq (margin : F) (costs : HashMap Gateway (PspCost F))
    (chosen : Gateway) :
    buildEvOrderedFallbacks order scoreMap margin costs chosen =
      (sortDescending Prod.snd (costedOthers margin costs chosen
        (order.entries scoreMap))).map Prod.fst ++
      (sortDescending Prod.snd (uncostedOthers costs chosen
        (order.entries scoreMap))).map Prod.fst :=
  rfl

variable {entries : List (Gateway × F)} {gateway : Gateway}

theorem mem_costedOthers {margin : F} {costs : HashMap Gateway (PspCost F)} {chosen : Gateway}
    {value : F} :
    (gateway, value) ∈ costedOthers margin costs chosen entries ↔
      gateway ≠ chosen ∧ ∃ score cost, (gateway, score) ∈ entries ∧
        costBps costs gateway = some cost ∧ value = expectedValue margin score cost := by
  rw [costedOthers, List.mem_filterMap]
  constructor
  · rintro ⟨⟨other, score⟩, kept, isOther⟩
    rcases Option.map_eq_some_iff.mp isOther with ⟨cost, costed, same⟩
    cases same
    rw [List.mem_filter, bne_iff_ne] at kept
    exact ⟨kept.2, score, cost, kept.1, costed, rfl⟩
  · rintro ⟨isOther, score, cost, met, costed, rfl⟩
    exact ⟨(gateway, score), List.mem_filter.mpr ⟨met, bne_iff_ne.mpr isOther⟩, by rw [costed]; rfl⟩

theorem mem_uncostedOthers {costs : HashMap Gateway (PspCost F)} {chosen : Gateway} {score : F} :
    (gateway, score) ∈ uncostedOthers costs chosen entries ↔
      gateway ≠ chosen ∧ (gateway, score) ∈ entries ∧ costBps costs gateway = none := by
  rw [uncostedOthers, List.mem_filter, List.mem_filter, bne_iff_ne, Option.isNone_iff_eq_none]
  tauto

theorem map_fst_costedOthers (entries : List (Gateway × F)) :
    (costedOthers margin costs chosen entries).map Prod.fst =
      (((entries.map Prod.fst).filter fun gateway => gateway != chosen).filter fun gateway =>
        (costBps costs gateway).isSome) := by
  rw [costedOthers, List.filter_map, List.filter_map, Function.comp_def, Function.comp_def]
  induction entries.filter fun entry => entry.1 != chosen with
  | nil => rfl
  | cons entry rest ih =>
      cases costed : costBps costs entry.1 with
      | none =>
          rw [List.filterMap_cons_none (by rw [costed]; rfl),
            List.filter_cons_of_neg (by rw [costed]; exact Bool.false_ne_true)]
          exact ih
      | some cost =>
          rw [List.filterMap_cons_some (by rw [costed]; rfl),
            List.filter_cons_of_pos (by rw [costed]; rfl), List.map_cons, List.map_cons, ih]

theorem map_fst_uncostedOthers (entries : List (Gateway × F)) :
    (uncostedOthers costs chosen entries).map Prod.fst =
      (((entries.map Prod.fst).filter fun gateway => gateway != chosen).filter fun gateway =>
        !(costBps costs gateway).isSome) := by
  rw [uncostedOthers, List.filter_map, List.filter_map, Function.comp_def, Function.comp_def]
  simp only [Option.not_isSome]

/-! ## The gateways of the lists -/

/-- The fallbacks of a cost decision are the other gateways, in some order. -/
theorem perm_buildEvOrderedFallbacks (margin : F) (costs : HashMap Gateway (PspCost F))
    (chosen : Gateway) :
    (buildEvOrderedFallbacks order scoreMap margin costs chosen).Perm
      ((order.keys scoreMap).filter fun gateway => gateway != chosen) := by
  rw [buildEvOrderedFallbacks_eq]
  refine (((perm_sortDescending _ _).map _).append ((perm_sortDescending _ _).map _)).trans ?_
  rw [map_fst_costedOthers, map_fst_uncostedOthers]
  exact List.filter_append_perm _ _

/-- The fallbacks of a plain decision are the other gateways, in some order. -/
theorem perm_fallbackGatewaysFromScoreMap (decidedGateway : Gateway) :
    (fallbackGatewaysFromScoreMap order scoreMap decidedGateway).Perm
      ((order.keys scoreMap).filter fun gateway => gateway != decidedGateway) :=
  ((perm_sortDescending _ _).map _).filter _

omit [MachineNumber F]

variable {fallbacks : List Gateway}

/-- A list of all gateways but one. -/
theorem nodup_of_perm_others {order : IterationOrder Gateway F} {scoreMap : GatewayScoreMap F}
    {decided : Gateway}
    (perm : fallbacks.Perm ((order.keys scoreMap).filter fun gateway => gateway != decided)) :
    fallbacks.Nodup :=
  perm.nodup_iff.mpr ((order.nodup_keys scoreMap).filter _)

theorem mem_of_perm_others {order : IterationOrder Gateway F} {scoreMap : GatewayScoreMap F}
    {decided : Gateway}
    (perm : fallbacks.Perm ((order.keys scoreMap).filter fun gateway => gateway != decided)) :
    gateway ∈ fallbacks ↔ gateway ∈ scoreMap ∧ gateway ≠ decided := by
  rw [perm.mem_iff, List.mem_filter, IterationOrder.mem_keys, bne_iff_ne]

end Fallbacks

end DecisionEngine.Scoring
