import DecisionEngine.Number.Exact
import DecisionEngine.Scoring.FunctionalGateways

/-!
# The shape of a decision

The decided gateway and its fallbacks are the scored gateways, each of them once.  Without
a cost decision they are in the order of their scores.
-/

namespace DecisionEngine.Scoring

open Map Number

variable {F : Type} [MachineNumber F]

/-- The decided gateway and the fallbacks list every scored gateway once. -/
structure DecisionShape (scoreMap : GatewayScoreMap F) (decided : DecidedGateway F) : Prop where
  notFallback : decided.decidedGateway ∉ decided.fallbackGateways
  distinct : decided.fallbackGateways.Nodup
  keys : ∀ gateway, gateway ∈ decided.decidedGateway :: decided.fallbackGateways ↔
    gateway ∈ scoreMap

def scores (scoreMap : GatewayScoreMap F) : Set F :=
  {score | ∃ gateway, scoreMap.lookup gateway = some score}

/-- The scores are numbers, and no two gateways have the same score. -/
def DistinctScores (scoreMap : GatewayScoreMap F) : Prop :=
  ∃ value : F → ℚ, ComparesAs value (scores scoreMap) ∧
    ∀ first second firstScore secondScore, scoreMap.lookup first = some firstScore →
      scoreMap.lookup second = some secondScore → value firstScore = value secondScore →
        first = second

/-- The first gateway has the greater score. -/
def ScoredAbove (scoreMap : GatewayScoreMap F) (first second : Gateway) : Prop :=
  ∃ firstScore secondScore, scoreMap.lookup first = some firstScore ∧
    scoreMap.lookup second = some secondScore ∧ gt firstScore secondScore = true

/-- Exact scores are distinct when the list of them has no duplicates. -/
theorem distinctScores_exact {scoreMap : GatewayScoreMap ℚ}
    (once : ((IterationOrder.stored.entries scoreMap).map Prod.snd).Nodup) :
    DistinctScores scoreMap := by
  refine ⟨id, comparesAs_exact _, ?_⟩
  intro first second firstScore secondScore scored scoredToo same
  have equal := List.inj_on_of_nodup_map once (IterationOrder.mem_entries.mpr scored)
    (IterationOrder.mem_entries.mpr scoredToo) same
  exact congrArg Prod.fst equal

/-! ## Both paths -/

variable {order : IterationOrder Gateway F} {scoreMap : GatewayScoreMap F}

omit [MachineNumber F] in
theorem decisionShape_of_perm {decided : DecidedGateway F}
    (scored : decided.decidedGateway ∈ scoreMap)
    (perm : decided.fallbackGateways.Perm
      ((order.keys scoreMap).filter fun gateway => gateway != decided.decidedGateway)) :
    DecisionShape scoreMap decided := by
  constructor
  · intro isFallback
    exact ((mem_of_perm_others perm).mp isFallback).2 rfl
  · exact nodup_of_perm_others perm
  · intro gateway
    rw [List.mem_cons, mem_of_perm_others perm]
    constructor
    · rintro (rfl | ⟨isScored, -⟩)
      · exact scored
      · exact isScored
    · intro isScored
      by_cases isDecided : gateway = decided.decidedGateway
      · exact Or.inl isDecided
      · exact Or.inr ⟨isScored, isDecided⟩

theorem fallbacks_of_reorderForCost {margin : F} {costs : HashMap Gateway (PspCost F)}
    {decision : CostDecision}
    (decided : (reorderForCost order scoreMap margin costs).costDecision = some decision) :
    decision.fallbacks =
      buildEvOrderedFallbacks order scoreMap margin costs decision.chosen := by
  rw [reorderForCost] at decided
  split at decided
  · cases decided
  · split at decided
    · cases decided
    · split at decided
      · cases decided
      · split at decided
        · cases decided
        · cases decided
          rfl

/-- The fallbacks of a cost decision are the other gateways, in some order. -/
theorem perm_fallbacks_of_multiObjectivePostStep {reads : DecisionReads F} {writer : Writer F}
    {decision : CostDecision}
    (decided : (multiObjectivePostStep reads order writer).bind (·.costDecision) =
      some decision) :
    decision.fallbacks.Perm
      ((order.keys writer.gwScoreMap).filter fun gateway => gateway != decision.chosen) := by
  rcases Option.bind_eq_some_iff.mp decided with ⟨outcome, applied, isDecision⟩
  rw [multiObjectivePostStep] at applied
  split at applied
  · cases applied
    rw [tryApplyMultiObjectivePostStep] at isDecision
    split at isDecision
    · cases isDecision
    · rw [fallbacks_of_reorderForCost isDecision]
      exact perm_buildEvOrderedFallbacks _ _ _ _ _
  · cases applied

/-! ## The plain path -/

variable {value : F → ℚ}

omit [MachineNumber F] in
theorem score_of_mem_entries {entry : Gateway × F} (met : entry ∈ order.entries scoreMap) :
    entry.2 ∈ scores scoreMap :=
  ⟨entry.1, IterationOrder.mem_entries.mp met⟩

/-- A gateway with the greatest score is selected. -/
theorem exists_selected (order : IterationOrder Gateway F)
    (compares : ComparesAs value (scores scoreMap))
    (nonEmpty : ∃ gateway, gateway ∈ scoreMap) :
    ∃ gateway score, randomGatewaySelectionForSameScore order scoreMap
        ((getMaxScoreGateway order scoreMap).map Prod.snd) = some gateway ∧
      scoreMap.lookup gateway = some score ∧
      ∀ other otherScore, scoreMap.lookup other = some otherScore →
        value otherScore ≤ value score := by
  have metSome : order.entries scoreMap ≠ [] := by
    rcases nonEmpty with ⟨gateway, isScored⟩
    intro empty
    have met : gateway ∈ order.keys scoreMap := IterationOrder.mem_keys.mpr isScored
    rw [IterationOrder.keys, empty] at met
    cases met
  rcases maxBy_of_comparesAs compares (fun entry met => score_of_mem_entries met) metSome with
    ⟨greatest, isGreatest, found, most⟩
  have equal : ∀ entry ∈ order.entries scoreMap,
      eq entry.2 greatest.2 = true ↔ value entry.2 = value greatest.2 :=
    fun entry met => compares.eq (score_of_mem_entries met) (score_of_mem_entries isGreatest)
  rw [getMaxScoreGateway, found, randomGatewaySelectionForSameScore, Option.map_some,
    Option.bind_some]
  cases tied : (order.entries scoreMap).filter fun entry => eq entry.2 greatest.2 with
  | nil =>
      rw [List.filter_eq_nil_iff] at tied
      exact absurd ((equal greatest isGreatest).mpr rfl) (tied greatest isGreatest)
  | cons first rest =>
      have kept : first ∈ (order.entries scoreMap).filter fun entry => eq entry.2 greatest.2 := by
        rw [tied]
        exact List.mem_cons_self
      rw [List.mem_filter] at kept
      refine ⟨first.1, first.2, rfl, IterationOrder.mem_entries.mp kept.1, ?_⟩
      intro other otherScore scored
      rw [(equal first kept.1).mp kept.2]
      exact most (other, otherScore) (IterationOrder.mem_entries.mpr scored)

/-- Gateways with distinct scores are sorted strictly. -/
theorem pairwise_scoredAbove_sorted (compares : ComparesAs value (scores scoreMap))
    (distinct : ∀ first second firstScore secondScore, scoreMap.lookup first = some firstScore →
      scoreMap.lookup second = some secondScore → value firstScore = value secondScore →
        first = second) :
    ((sortDescending Prod.snd (order.entries scoreMap)).map Prod.fst).Pairwise
      (ScoredAbove scoreMap) := by
  have listed : ∀ entry ∈ order.entries scoreMap, Prod.snd entry ∈ scores scoreMap :=
    fun entry met => score_of_mem_entries met
  have sorted := pairwise_sortDescending_of_comparesAs compares listed
  have once : ((sortDescending Prod.snd (order.entries scoreMap)).map Prod.fst).Nodup :=
    (((perm_sortDescending Prod.snd (order.entries scoreMap)).map Prod.fst).nodup_iff).mpr
      (order.nodup_keys scoreMap)
  rw [List.Nodup, List.pairwise_map] at once
  rw [List.pairwise_map]
  apply (once.and sorted).imp_of_mem
  intro left right leftListed rightListed ordered
  have leftMet := mem_sortDescending.mp leftListed
  have rightMet := mem_sortDescending.mp rightListed
  have leftScored : scoreMap.lookup left.1 = some left.2 := IterationOrder.mem_entries.mp leftMet
  have rightScored : scoreMap.lookup right.1 = some right.2 :=
    IterationOrder.mem_entries.mp rightMet
  refine ⟨left.2, right.2, leftScored, rightScored, ?_⟩
  rw [compares.gt (score_of_mem_entries leftMet) (score_of_mem_entries rightMet)]
  apply lt_of_le_of_ne ordered.2
  intro same
  exact ordered.1 (distinct left.1 right.1 left.2 right.2 leftScored rightScored same.symm)

/-- A gateway with the greatest score is above all others. -/
theorem scoredAbove_of_most (compares : ComparesAs value (scores scoreMap))
    (distinct : ∀ first second firstScore secondScore, scoreMap.lookup first = some firstScore →
      scoreMap.lookup second = some secondScore → value firstScore = value secondScore →
        first = second) {gateway other : Gateway} {score : F}
    (scored : scoreMap.lookup gateway = some score)
    (most : ∀ other otherScore, scoreMap.lookup other = some otherScore →
      value otherScore ≤ value score) (isScored : other ∈ scoreMap) (isOther : other ≠ gateway) :
    ScoredAbove scoreMap gateway other := by
  rcases Option.isSome_iff_exists.mp (AList.lookup_isSome.mpr isScored) with
    ⟨otherScore, otherScored⟩
  refine ⟨score, otherScore, scored, otherScored, ?_⟩
  rw [compares.gt ⟨gateway, scored⟩ ⟨other, otherScored⟩]
  apply lt_of_le_of_ne (most other otherScore otherScored)
  intro same
  exact isOther (distinct other gateway otherScore score otherScored scored same)

/-! ## Decisions -/

/-- A non-empty map of distinct scores is decided; the decision has its shape, and without
a cost decision it is in the order of the scores. -/
theorem decideGateway_shape (reads : DecisionReads F) (order : IterationOrder Gateway F)
    (writer : Writer F) (nonEmpty : ∃ gateway, gateway ∈ writer.gwScoreMap)
    (distinct : DistinctScores writer.gwScoreMap) :
    ∃ decided, decideGateway reads order writer = .ok decided ∧
      DecisionShape writer.gwScoreMap decided ∧
      ((multiObjectivePostStep reads order writer).bind (·.costDecision) = none →
        (decided.decidedGateway :: decided.fallbackGateways).Pairwise
          (ScoredAbove writer.gwScoreMap)) := by
  rcases distinct with ⟨value, compares, distinct⟩
  rcases exists_selected order compares nonEmpty with
    ⟨selected, score, isSelected, scored, most⟩
  have keysSome : writer.gwScoreMap.keys.isEmpty = false := by
    rcases nonEmpty with ⟨gateway, isScored⟩
    rw [List.isEmpty_eq_false_iff]
    exact List.ne_nil_of_mem (AList.mem_keys.mpr isScored)
  rw [decideGateway, keysSome, if_neg (by decide)]
  dsimp only
  rw [isSelected]
  cases byCost : (multiObjectivePostStep reads order writer).bind (·.costDecision) with
  | some decision =>
      refine ⟨_, rfl, ?_, fun plain => ?_⟩
      · exact decisionShape_of_perm (mem_of_multiObjectivePostStep byCost)
          (perm_fallbacks_of_multiObjectivePostStep byCost)
      · cases plain
  | none =>
      refine ⟨_, rfl, ?_, fun _ => ?_⟩
      · exact decisionShape_of_perm (mem_of_randomGatewaySelectionForSameScore isSelected)
          (perm_fallbackGatewaysFromScoreMap order writer.gwScoreMap selected)
      · rw [List.pairwise_cons]
        constructor
        · intro other isFallback
          rcases (mem_of_perm_others (perm_fallbackGatewaysFromScoreMap order
            writer.gwScoreMap selected)).mp isFallback with ⟨isScored, isOther⟩
          exact scoredAbove_of_most compares distinct scored most isScored isOther
        · exact (pairwise_scoredAbove_sorted compares distinct).filter _

def twoScores : GatewayScoreMap ℚ :=
  collect [("a", 1 / 2), ("b", 1)]

theorem decideGateway_shape_plain :
    ∃ decided, decideGateway plainDecision .stored { emptyWriter with gwScoreMap := twoScores } =
        .ok decided ∧
      DecisionShape twoScores decided ∧
      ((multiObjectivePostStep plainDecision .stored
          { emptyWriter with gwScoreMap := twoScores }).bind (·.costDecision) = none →
        (decided.decidedGateway :: decided.fallbackGateways).Pairwise (ScoredAbove twoScores)) :=
  decideGateway_shape plainDecision .stored { emptyWriter with gwScoreMap := twoScores }
    ⟨"a", by decide⟩ (distinctScores_exact (by decide +kernel))

end DecisionEngine.Scoring
