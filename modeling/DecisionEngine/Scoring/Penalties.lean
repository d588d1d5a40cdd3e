import DecisionEngine.Number.Exact
import DecisionEngine.Scoring.FunctionalGateways

/-!
# Penalties

The scores of the priority order fall by a tenth from each functional gateway to the next one,
below zero in a long list.  The penalties divide; a score below zero is raised by them.
-/

namespace DecisionEngine.Scoring

open Map Number

/-! ## Scores of the priority order -/

/-- The functional entries of the priority list that are scored before the gateway is. -/
def entriesAhead (functionalGateways gatewayPriorityList : List Gateway) (gateway : Gateway) :
    Nat :=
  (if gateway ∈ gatewayPriorityList then
      (gatewayPriorityList.reverse.dropWhile fun entry => entry ≠ gateway).tail
    else gatewayPriorityList).countP fun entry => entry ∈ functionalGateways

section Priority

variable {functionalGateways : List Gateway}

theorem entriesAhead_concat_self (priorities : List Gateway) (gateway : Gateway) :
    entriesAhead functionalGateways (priorities ++ [gateway]) gateway =
      priorities.countP fun entry => entry ∈ functionalGateways := by
  rw [entriesAhead, if_pos (List.mem_append_right priorities (List.mem_singleton_self gateway)),
    List.reverse_append, List.reverse_singleton, List.singleton_append,
    List.dropWhile_cons_of_neg (by simp), List.tail_cons, List.countP_reverse]

theorem entriesAhead_concat_of_mem {priorities : List Gateway} {gateway last : Gateway}
    (isOther : last ≠ gateway) (listed : gateway ∈ priorities) :
    entriesAhead functionalGateways (priorities ++ [last]) gateway =
      entriesAhead functionalGateways priorities gateway := by
  rw [entriesAhead, if_pos (List.mem_append_left [last] listed), entriesAhead, if_pos listed,
    List.reverse_append, List.reverse_singleton, List.singleton_append,
    List.dropWhile_cons_of_pos (by simpa using isOther)]

/-- The score of a gateway of the priority list. -/
def priorityScore (functionalGateways gatewayPriorityList : List Gateway) (gateway : Gateway) :
    Option ℚ :=
  if gateway ∈ gatewayPriorityList ∧ gateway ∈ functionalGateways then
    some (1 - (entriesAhead functionalGateways gatewayPriorityList gateway : ℚ) / 10)
  else none

theorem priorityScore_concat_of_ne (priorities : List Gateway) {gateway last : Gateway}
    (isOther : last ≠ gateway) :
    priorityScore functionalGateways (priorities ++ [last]) gateway =
      priorityScore functionalGateways priorities gateway := by
  rw [priorityScore, priorityScore]
  by_cases listed : gateway ∈ priorities
  · rw [entriesAhead_concat_of_mem isOther listed]
    simp [listed]
  · simp [listed, isOther.symm]

/-- What the loop over the priority list has scored, and the score of the next gateway. -/
theorem foldl_prioritize_eq (functionalGateways priorities : List Gateway) :
    (priorities.foldl (prioritize functionalGateways) ((ofRat 1 : ℚ), ∅)).1 =
        1 - (priorities.countP fun entry => entry ∈ functionalGateways : Nat) / 10 ∧
      ∀ gateway, (priorities.foldl (prioritize functionalGateways) ((ofRat 1 : ℚ), ∅)).2.lookup
        gateway = priorityScore functionalGateways priorities gateway := by
  induction priorities using List.reverseRecOn with
  | nil => simp [priorityScore]
  | append_singleton rest last ih =>
      rcases ih with ⟨next, scored⟩
      rw [List.foldl_append, List.foldl_cons, List.foldl_nil, prioritize, List.countP_append,
        List.countP_singleton]
      by_cases functional : last ∈ functionalGateways
      · rw [if_pos functional, if_pos (by simpa using functional)]
        refine ⟨?_, ?_⟩
        · rw [next, ofRat_exact]
          push_cast
          ring
        · intro gateway
          by_cases isLast : gateway = last
          · rw [isLast, AList.lookup_insert, next, priorityScore, entriesAhead_concat_self,
              if_pos ⟨List.mem_append_right rest (List.mem_singleton_self last), functional⟩]
          · rw [AList.lookup_insert_ne isLast, scored,
              priorityScore_concat_of_ne rest (Ne.symm isLast)]
      · rw [if_neg functional, if_neg (by simpa using functional), Nat.add_zero]
        refine ⟨next, ?_⟩
        intro gateway
        rw [scored]
        by_cases isLast : gateway = last
        · rw [isLast, priorityScore, priorityScore, if_neg fun both => functional both.2,
            if_neg fun both => functional both.2]
        · rw [priorityScore_concat_of_ne rest (Ne.symm isLast)]

/-- Each functional gateway loses a tenth for each functional entry ahead of it. -/
theorem lookup_getScoreWithPriority (gatewayPriorityList : List Gateway) (gateway : Gateway) :
    (getScoreWithPriority functionalGateways gatewayPriorityList :
        GatewayScoreMap ℚ).lookup gateway =
      if gateway ∈ functionalGateways then
        some (1 - (entriesAhead functionalGateways gatewayPriorityList gateway : ℚ) / 10)
      else none := by
  rcases foldl_prioritize_eq functionalGateways gatewayPriorityList with ⟨next, scored⟩
  rw [getScoreWithPriority, lookup_insertKeys, scored, next, priorityScore]
  by_cases functional : gateway ∈ functionalGateways
  · by_cases listed : gateway ∈ gatewayPriorityList
    · simp [functional, listed]
    · simp [functional, listed, entriesAhead]
  · simp [functional]

end Priority

/-! ## Divisions -/

/-- Every score is divided by at least one, and by one exactly where there is no penalty. -/
def Divided (penalized : Gateway → Prop) (before after : GatewayScoreMap ℚ) : Prop :=
  ∀ gateway score, before.lookup gateway = some score → ∃ divisor,
    after.lookup gateway = some (score / divisor) ∧ 1 ≤ divisor ∧
      (divisor = 1 ↔ ¬penalized gateway)

theorem Divided.refl {penalized : Gateway → Prop} (nobody : ∀ gateway, ¬penalized gateway)
    (scores : GatewayScoreMap ℚ) : Divided penalized scores scores := by
  intro gateway score found
  exact ⟨1, by rw [div_one, found], le_refl 1, iff_of_true rfl (nobody gateway)⟩

theorem Divided.trans {first second : Gateway → Prop} {before between after : GatewayScoreMap ℚ}
    (left : Divided first before between) (right : Divided second between after) :
    Divided (fun gateway => first gateway ∨ second gateway) before after := by
  intro gateway score found
  rcases left gateway score found with ⟨divisor, isBetween, atLeastOne, isOne⟩
  rcases right gateway _ isBetween with ⟨next, isAfter, nextAtLeastOne, nextIsOne⟩
  refine ⟨divisor * next, by rw [isAfter, div_div], one_le_mul_of_one_le_of_one_le atLeastOne
    nextAtLeastOne, ?_⟩
  rw [not_or, ← isOne, ← nextIsOne]
  constructor
  · intro product
    exact ⟨by nlinarith, by nlinarith⟩
  · rintro ⟨rfl, rfl⟩
    exact one_mul 1

/-- A loop penalizes the gateways that one of its inputs penalizes. -/
theorem Divided.foldl {α : Type} {step : GatewayScoreMap ℚ → α → GatewayScoreMap ℚ}
    {named : α → Gateway → Prop} (divides : ∀ scores input, Divided (named input) scores
      (step scores input)) (inputs : List α) (scores : GatewayScoreMap ℚ) :
    Divided (fun gateway => ∃ input ∈ inputs, named input gateway) scores
      (inputs.foldl step scores) := by
  induction inputs generalizing scores with
  | nil => exact Divided.refl (fun gateway => by simp) scores
  | cons input rest ih =>
      have both := (divides scores input).trans (ih (step scores input))
      simp only [List.mem_cons, exists_eq_or_imp]
      exact both

variable (scores : GatewayScoreMap ℚ)

theorem divided_penalizeForOutage (outage : GatewayOutage) :
    Divided (fun gateway => outage.gateway = some gateway) scores
      (penalizeForOutage scores outage) := by
  intro gateway score found
  cases named : outage.gateway with
  | none =>
      rw [penalizeForOutage, named]
      exact ⟨1, by rw [div_one, found], le_refl 1, by simp⟩
  | some other =>
      rw [penalizeForOutage, named]
      by_cases same : gateway = other
      · subst same
        refine ⟨10, ?_, by norm_num, by norm_num⟩
        rw [AList.lookup_insert, found, Option.getD_some, ofRat_exact]
      · refine ⟨1, ?_, le_refl 1, ?_⟩
        · rw [AList.lookup_insert_ne same, div_one, found]
        · simpa [eq_comm] using same

/-- Both eliminations divide the scores of one gateway by five. -/
theorem divided_of_lookup {scores after : GatewayScoreMap ℚ} {penalized : Gateway}
    (lookup : ∀ gateway, after.lookup gateway = (scores.lookup gateway).map fun score =>
      if gateway = penalized then score / 5 else score) :
    Divided (fun gateway => penalized = gateway) scores after := by
  intro gateway score found
  by_cases same : gateway = penalized
  · refine ⟨5, ?_, by norm_num, ?_⟩
    · rw [lookup, found, Option.map_some, if_pos same]
    · simp [same]
  · refine ⟨1, ?_, le_refl 1, ?_⟩
    · rw [lookup, found, Option.map_some, if_neg same, div_one]
    · simpa [eq_comm] using same

variable (input : GatewayWiseSuccessRateBasedRoutingInput ℚ)

theorem divided_penalizeGsr :
    Divided (fun gateway => input.gateway = gateway) scores (penalizeGsr scores input) :=
  divided_of_lookup fun gateway => lookup_modify scores input.gateway _ gateway

theorem divided_updateScoreWithLog :
    Divided (fun gateway => input.gateway = gateway) scores (updateScoreWithLog scores input) :=
  divided_of_lookup fun _ => lookup_mapEntries scores _

/-! ## Penalties of the priority order -/

/-- The gateways that are penalized: those under outage, those below the threshold for all
merchants and those below the threshold for this one. -/
structure PenalizedGateways where
  outages : List GatewayOutage
  globalInputs : List (GatewayWiseSuccessRateBasedRoutingInput ℚ)
  merchantInputs : List (GatewayWiseSuccessRateBasedRoutingInput ℚ)

variable (penalties : PenalizedGateways)

def PenalizedGateways.Names (gateway : Gateway) : Prop :=
  ((∃ outage ∈ penalties.outages, outage.gateway = some gateway) ∨
      ∃ input ∈ penalties.globalInputs, input.gateway = gateway) ∨
    ∃ input ∈ penalties.merchantInputs, input.gateway = gateway

instance (penalties : PenalizedGateways) (gateway : Gateway) :
    Decidable (penalties.Names gateway) :=
  inferInstanceAs (Decidable ((_ ∨ _) ∨ _))

def applyPenalties (scores : GatewayScoreMap ℚ) :
    GatewayScoreMap ℚ :=
  penalties.merchantInputs.foldl updateScoreWithLog
    (penalties.globalInputs.foldl penalizeGsr
      (penalties.outages.foldl penalizeForOutage scores))

theorem divided_applyPenalties (scores : GatewayScoreMap ℚ) :
    Divided penalties.Names scores (applyPenalties penalties scores) :=
  ((Divided.foldl divided_penalizeForOutage _ _).trans
    (Divided.foldl divided_penalizeGsr _ _)).trans (Divided.foldl divided_updateScoreWithLog _ _)

section Elimination

variable (outage : OutageReads) (reads : EliminationReads ℚ) (keys : KeyReads)
  (order : IterationOrder Gateway ℚ) (payment : Payment) (isSrMetricEnabled : Bool)
  (eliminationEnabled : Option Bool) (abTestEliminationThreshold : Option ℚ)

/-- The elimination is on for the payment. -/
def Eliminates : Prop :=
  (reads.eliminationBasedRouting = true ∨ eliminationEnabled = some true) ∧
    isPaymentMethodTypeEnabled reads payment.txnCardInfo = true

instance : Decidable (Eliminates reads payment eliminationEnabled) :=
  inferInstanceAs (Decidable (_ ∧ _))

variable (below : List (GatewayWiseSuccessRateBasedRoutingInput ℚ))

/-- All of several gateways are below the threshold of the merchant, who has the scores before
the elimination kept then. -/
def KeepsInitialScores (scores : GatewayScoreMap ℚ) : Prop :=
  (1 < below.length ∧ scores.keys.length = below.length) ∧
    reads.optimizationDuringDowntime = true ∧ isSrMetricEnabled = false

instance (below : List (GatewayWiseSuccessRateBasedRoutingInput ℚ)) (scores : GatewayScoreMap ℚ) :
    Decidable (KeepsInitialScores reads isSrMetricEnabled below scores) :=
  inferInstanceAs (Decidable (_ ∧ _))

/-- The gateways that are penalized: those under outage, and those that the elimination finds
below the threshold of all merchants or of this one, unless it is off or keeps the scores. -/
def penalizedGateways (scores : GatewayScoreMap ℚ) : PenalizedGateways :=
  let global := updateGatewayScoreBasedOnGlobalSuccessRate reads keys order
    (updateScoreForOutage outage payment scores)
  let below := gatewaysBelowThreshold reads keys order abTestEliminationThreshold global.1
  if Eliminates reads payment eliminationEnabled ∧
      ¬KeepsInitialScores reads isSrMetricEnabled below (below.foldl updateScoreWithLog global.1)
  then ⟨applicableOutages outage payment, global.2.getD [], below⟩
  else ⟨applicableOutages outage payment, [], []⟩

/-- The gateways that are below the threshold of all merchants are penalized. -/
theorem updateGatewayScoreBasedOnGlobalSuccessRate_eq (scores : GatewayScoreMap ℚ) :
    (updateGatewayScoreBasedOnGlobalSuccessRate reads keys order scores).1 =
      ((updateGatewayScoreBasedOnGlobalSuccessRate reads keys order scores).2.getD []).foldl
        penalizeGsr scores := by
  rw [updateGatewayScoreBasedOnGlobalSuccessRate]
  split
  · rfl
  · rfl

variable {scores : GatewayScoreMap ℚ}

theorem gatewaysBelowThreshold_of_no_gateways (empty : order.keys scores = []) :
    gatewaysBelowThreshold reads keys order abTestEliminationThreshold scores = [] := by
  rw [gatewaysBelowThreshold, empty]
  rfl

theorem scoresAfterDowntime_eq_ite (initialGwScores newGatewayScore : GatewayScoreMap ℚ)
    (below : List (GatewayWiseSuccessRateBasedRoutingInput ℚ))
    (globalElimination : Option (List (GatewayWiseSuccessRateBasedRoutingInput ℚ))) :
    (scoresAfterDowntime reads isSrMetricEnabled initialGwScores newGatewayScore below
        globalElimination).1 =
      if KeepsInitialScores reads isSrMetricEnabled below newGatewayScore then initialGwScores
      else newGatewayScore := by
  rw [scoresAfterDowntime]
  by_cases allDown : 1 < below.length ∧ newGatewayScore.keys.length = below.length
  · rw [if_pos allDown]
    cases optimizes : reads.optimizationDuringDowntime <;> cases isSrMetricEnabled <;>
      simp [KeepsInitialScores, allDown, optimizes]
  · have notKept : ¬KeepsInitialScores reads isSrMetricEnabled below newGatewayScore :=
      fun keeps => allDown keeps.1
    rw [if_neg allDown, if_neg notKept]
    split
    · rfl
    · split <;> rfl

/-- The elimination after the outages applies the penalties, on every path. -/
theorem gwScoreMap_updateGatewayScoreBasedOnSuccessRate {writer : Writer ℚ}
    {scores : GatewayScoreMap ℚ}
    (afterOutages : writer.gwScoreMap = updateScoreForOutage outage payment scores) :
    (updateGatewayScoreBasedOnSuccessRate reads keys order payment isSrMetricEnabled
        writer.gwScoreMap eliminationEnabled abTestEliminationThreshold writer).gwScoreMap =
      applyPenalties (penalizedGateways outage reads keys order payment isSrMetricEnabled
        eliminationEnabled abTestEliminationThreshold scores) scores := by
  have isGlobal := updateGatewayScoreBasedOnGlobalSuccessRate_eq reads keys order
    writer.gwScoreMap
  rw [penalizedGateways, ← afterOutages, updateGatewayScoreBasedOnSuccessRate]
  dsimp only
  generalize updateGatewayScoreBasedOnGlobalSuccessRate reads keys order writer.gwScoreMap = global
    at isGlobal ⊢
  by_cases eliminates : Eliminates reads payment eliminationEnabled
  · have isOn : (!(reads.eliminationBasedRouting || eliminationEnabled == some true) ||
        !isPaymentMethodTypeEnabled reads payment.txnCardInfo) = false := by
      rw [Bool.or_eq_false_iff, Bool.not_eq_false', Bool.not_eq_false', Bool.or_eq_true,
        beq_iff_eq]
      exact eliminates
    rw [if_neg (by rw [isOn]; exact Bool.false_ne_true)]
    simp only [eliminates, true_and]
    by_cases noGateways : order.keys global.1 = []
    · have none := gatewaysBelowThreshold_of_no_gateways reads keys order
        abTestEliminationThreshold noGateways
      have keepsNothing : ¬KeepsInitialScores reads isSrMetricEnabled [] global.1 :=
        fun keeps => absurd keeps.1.1 (by decide)
      rw [if_pos (by rw [noGateways]; rfl), none, List.foldl_nil, if_pos keepsNothing]
      dsimp only
      rw [isGlobal, afterOutages]
      rfl
    · rw [if_neg (by rw [List.isEmpty_iff]; exact noGateways)]
      dsimp only
      rw [scoresAfterDowntime_eq_ite, ite_not]
      split
      · exact afterOutages
      · rw [isGlobal, afterOutages]
        rfl
  · have isOff : (!(reads.eliminationBasedRouting || eliminationEnabled == some true) ||
        !isPaymentMethodTypeEnabled reads payment.txnCardInfo) = true := by
      rw [← Bool.not_eq_false, Bool.or_eq_false_iff, Bool.not_eq_false', Bool.not_eq_false',
        Bool.or_eq_true, beq_iff_eq]
      exact eliminates
    rw [if_pos isOff, if_neg fun both => eliminates both.1]
    exact afterOutages

/-- The outages and the elimination keep every gateway, and divide the scores of those that an
outage or an input names, and no others. -/
theorem divided_updateGatewayScoreBasedOnSuccessRate {writer : Writer ℚ}
    {scores : GatewayScoreMap ℚ}
    (afterOutages : writer.gwScoreMap = updateScoreForOutage outage payment scores) :
    Divided (penalizedGateways outage reads keys order payment isSrMetricEnabled
        eliminationEnabled abTestEliminationThreshold scores).Names scores
      (updateGatewayScoreBasedOnSuccessRate reads keys order payment isSrMetricEnabled
        writer.gwScoreMap eliminationEnabled abTestEliminationThreshold writer).gwScoreMap := by
  rw [gwScoreMap_updateGatewayScoreBasedOnSuccessRate outage reads keys order payment
    isSrMetricEnabled eliminationEnabled abTestEliminationThreshold afterOutages]
  exact divided_applyPenalties _ scores

end Elimination

def levelScores : GatewayScoreMap ℚ :=
  (AList.singleton "stripe" 1).insert "payu" 1

/-- The scores after an outage of one of two gateways. -/
def stripeDown : Writer ℚ :=
  { emptyWriter with
    gwScoreMap := updateScoreForOutage (priorityReads [outageOf "stripe"]).outage visaPayment
      levelScores }

/-- The score of the gateway under outage is divided, and that of the other one is not. -/
theorem divided_updateGatewayScoreBasedOnSuccessRate_outage :
    ∃ penalties : PenalizedGateways, (penalties.Names "stripe" ∧ ¬penalties.Names "payu") ∧
      Divided penalties.Names levelScores
        (updateGatewayScoreBasedOnSuccessRate (priorityReads []).elimination
          (priorityReads []).keys .stored visaPayment false stripeDown.gwScoreMap (some true) none
          stripeDown).gwScoreMap := by
  have afterOutages : stripeDown.gwScoreMap = updateScoreForOutage
      (priorityReads [outageOf "stripe"]).outage visaPayment levelScores := rfl
  refine ⟨_, ?_, divided_updateGatewayScoreBasedOnSuccessRate _ (priorityReads []).elimination
    (priorityReads []).keys .stored visaPayment false (some true) none afterOutages⟩
  decide +kernel

/-- No score is raised, and nobody who is penalized comes ahead of somebody who was not behind
and is not penalized. -/
structure PenaltiesLower (penalized : Gateway → Prop) (before after : GatewayScoreMap ℚ) :
    Prop where
  lowered : ∀ gateway score, before.lookup gateway = some score →
    ∃ lower, after.lookup gateway = some lower ∧ lower ≤ score
  behind : ∀ gateway other score otherScore, penalized gateway → ¬penalized other →
    before.lookup gateway = some score → before.lookup other = some otherScore →
    score ≤ otherScore → ∃ lower otherLower, after.lookup gateway = some lower ∧
      after.lookup other = some otherLower ∧ lower ≤ otherLower

theorem div_le_self_iff {score divisor : ℚ} (moreThanOne : 1 < divisor) :
    score / divisor ≤ score ↔ 0 ≤ score := by
  rw [div_le_iff₀ (by linarith)]
  constructor
  · intro atMost
    nlinarith
  · intro nonneg
    nlinarith

/-- The penalties lower the scores exactly when no penalized score is negative. -/
theorem penaltiesLower_iff_of_divided {penalized : Gateway → Prop}
    {before after : GatewayScoreMap ℚ} (divided : Divided penalized before after) :
    PenaltiesLower penalized before after ↔
      ∀ gateway score, penalized gateway → before.lookup gateway = some score → 0 ≤ score := by
  constructor
  · intro lower gateway score isPenalized found
    rcases divided gateway score found with ⟨divisor, isAfter, atLeastOne, isOne⟩
    rcases lower.lowered gateway score found with ⟨lowered, isLowered, atMost⟩
    have notOne : divisor ≠ 1 := fun one => isOne.mp one isPenalized
    rw [isAfter, Option.some.injEq] at isLowered
    rw [← div_le_self_iff (lt_of_le_of_ne atLeastOne notOne.symm), isLowered]
    exact atMost
  · intro nonneg
    have lowered : ∀ gateway score, before.lookup gateway = some score →
        ∃ lower, after.lookup gateway = some lower ∧ lower ≤ score := by
      intro gateway score found
      rcases divided gateway score found with ⟨divisor, isAfter, atLeastOne, isOne⟩
      refine ⟨score / divisor, isAfter, ?_⟩
      by_cases one : divisor = 1
      · rw [one, div_one]
      · have isPenalized := not_not.mp fun isFree => one (isOne.mpr isFree)
        rw [div_le_self_iff (lt_of_le_of_ne atLeastOne (Ne.symm one))]
        exact nonneg gateway score isPenalized found
    refine ⟨lowered, ?_⟩
    intro gateway other score otherScore _ isFree found otherFound ordered
    rcases lowered gateway score found with ⟨lower, isLower, atMost⟩
    rcases divided other otherScore otherFound with ⟨divisor, isAfter, -, isOne⟩
    rw [isOne.mpr isFree, div_one] at isAfter
    exact ⟨lower, otherScore, isLower, isAfter, atMost.trans ordered⟩

/-- The penalties lower the scores of the priority order exactly when at most ten functional
entries are ahead of each penalized gateway. -/
theorem penaltiesLower_iff (functionalGateways gatewayPriorityList : List Gateway)
    (penalties : PenalizedGateways) :
    PenaltiesLower penalties.Names (getScoreWithPriority functionalGateways gatewayPriorityList)
        (applyPenalties penalties
          (getScoreWithPriority functionalGateways gatewayPriorityList)) ↔
      ∀ gateway ∈ functionalGateways, penalties.Names gateway →
        entriesAhead functionalGateways gatewayPriorityList gateway ≤ 10 := by
  rw [penaltiesLower_iff_of_divided (divided_applyPenalties penalties _)]
  have nonneg_iff : ∀ ahead : Nat, 0 ≤ 1 - (ahead : ℚ) / 10 ↔ ahead ≤ 10 := by
    intro ahead
    rw [sub_nonneg, div_le_one (by norm_num)]
    exact Nat.cast_le (α := ℚ) (m := ahead) (n := 10)
  constructor
  · intro nonneg gateway functional isPenalized
    rw [← nonneg_iff]
    apply nonneg gateway _ isPenalized
    rw [lookup_getScoreWithPriority, if_pos functional]
  · intro few gateway score isPenalized found
    rw [lookup_getScoreWithPriority] at found
    split at found
    · next functional =>
        cases found
        exact (nonneg_iff _).mpr (few gateway functional isPenalized)
    · cases found

/-! ## A long list -/

def twelveGateways : List Gateway :=
  ["pg1", "pg2", "pg3", "pg4", "pg5", "pg6", "pg7", "pg8", "pg9", "pg10", "pg11", "pg12"]

/-- The last gateway of the list is below the threshold of the merchant. -/
def lastBelowThreshold : PenalizedGateways where
  outages := []
  globalInputs := []
  merchantInputs :=
    [{ gateway := "pg12"
       eliminationThreshold := some (1 / 20)
       eliminationMaxCountThreshold := none
       selectionMaxCountThreshold := none
       softTxnResetCount := none
       gatewayLevelEliminationThreshold := none
       eliminationLevel := some .gateway
       currentScore := some 0
       lastResetTimeStamp := none }]

theorem penaltiesLower_counterexample :
    ¬PenaltiesLower lastBelowThreshold.Names (getScoreWithPriority twelveGateways twelveGateways)
      (applyPenalties lastBelowThreshold
        (getScoreWithPriority twelveGateways twelveGateways)) := by
  intro lower
  rcases lower.lowered "pg12" (-1 / 10) (by decide +kernel) with ⟨after, isAfter, atMost⟩
  have raised : (applyPenalties lastBelowThreshold (getScoreWithPriority twelveGateways
      twelveGateways)).lookup "pg12" = some (-1 / 50) := by decide +kernel
  rw [raised, Option.some.injEq] at isAfter
  rw [← isAfter] at atMost
  norm_num at atMost

end DecisionEngine.Scoring
