import DecisionEngine.Number.Exact
import DecisionEngine.Scoring.MultiObjective
import DecisionEngine.Search.FirstBest

/-!
# Decisions by expected value

What a cost decision chooses and reports, for exact scores, margins and costs.  A gateway
whose score is within the tie epsilon of the best score counts as having the best score
when it is the head.
-/

namespace DecisionEngine.Scoring

open Map Number Search

/-! ## The scoring head -/

def IsBestScore (scoreMap : GatewayScoreMap ℚ) (best : ℚ) : Prop :=
  (∃ gateway, scoreMap.lookup gateway = some best) ∧
    ∀ gateway score, scoreMap.lookup gateway = some score → score ≤ best

/-- The least name among the gateways that tie with the best score. -/
def IsScoringHead (scoreMap : GatewayScoreMap ℚ) (best : ℚ) (head : Gateway) : Prop :=
  (∃ score, scoreMap.lookup head = some score ∧ |score - best| < epsilon) ∧
    ∀ gateway score, scoreMap.lookup gateway = some score → |score - best| < epsilon →
      head ≤ gateway

theorem epsilon_pos : (0 : ℚ) < epsilon := by
  rw [epsilon, ofRat_exact]
  norm_num

variable {order : IterationOrder Gateway ℚ} {scoreMap : GatewayScoreMap ℚ} {best : ℚ}
  {head : Gateway}

theorem currentHead_eq_firstBest :
    currentHead order scoreMap = firstBest Prod.snd (order.entries scoreMap) := by
  rw [currentHead, firstBest]
  congr 1
  funext chosen entry
  cases chosen with
  | none => rfl
  | some chosen =>
      simp only [keepBest]
      by_cases better : chosen.2 < entry.2
      · rw [if_pos (gt_exact.mpr better), if_neg (not_le.mpr better)]
      · rw [if_neg (fun isGt => better (gt_exact.mp isGt)), if_pos (not_lt.mp better)]

theorem isBestScore_of_currentHead {entry : Gateway × ℚ}
    (found : currentHead order scoreMap = some entry) : IsBestScore scoreMap entry.2 := by
  rw [currentHead_eq_firstBest, firstBest_eq_some_iff] at found
  constructor
  · exact ⟨entry.1, IterationOrder.mem_entries.mp found.mem⟩
  · rcases found with ⟨before, after, split, better, atLeast⟩
    intro gateway score scored
    have met : (gateway, score) ∈ order.entries scoreMap := IterationOrder.mem_entries.mpr scored
    rw [split, List.mem_append, List.mem_cons] at met
    rcases met with earlier | rfl | later
    · exact (better _ earlier).le
    · exact le_refl _
    · exact atLeast _ later

theorem IsBestScore.unique {first second : ℚ} (isFirst : IsBestScore scoreMap first)
    (isSecond : IsBestScore scoreMap second) : first = second := by
  rcases isFirst with ⟨⟨firstGateway, firstScored⟩, firstMost⟩
  rcases isSecond with ⟨⟨secondGateway, secondScored⟩, secondMost⟩
  exact le_antisymm (secondMost _ _ firstScored) (firstMost _ _ secondScored)

theorem currentHead_eq_none_iff : currentHead order scoreMap = none ↔ ∀ gateway,
    scoreMap.lookup gateway = none := by
  rw [currentHead_eq_firstBest, firstBest_eq_none_iff, List.eq_nil_iff_forall_not_mem]
  constructor
  · intro empty gateway
    rw [Option.eq_none_iff_forall_ne_some]
    intro score scored
    exact empty (gateway, score) (IterationOrder.mem_entries.mpr scored)
  · rintro unscored ⟨gateway, score⟩ met
    rw [IterationOrder.mem_entries, unscored] at met
    cases met

theorem headPsp_eq_some_iff : headPsp order scoreMap best = some head ↔
    IsScoringHead scoreMap best head := by
  have tied : ∀ gateway, gateway ∈ (((order.entries scoreMap).filter fun entry =>
        lt (Number.abs (entry.2 - best)) epsilon).map Prod.fst) ↔
      ∃ score, scoreMap.lookup gateway = some score ∧ |score - best| < epsilon := by
    intro gateway
    simp only [List.mem_map, List.mem_filter, abs_exact, lt_exact]
    constructor
    · rintro ⟨⟨other, score⟩, ⟨met, close⟩, rfl⟩
      exact ⟨score, IterationOrder.mem_entries.mp met, close⟩
    · rintro ⟨score, scored, close⟩
      exact ⟨(gateway, score), ⟨IterationOrder.mem_entries.mpr scored, close⟩, rfl⟩
  rw [headPsp, List.min?_eq_some_iff, tied]
  apply and_congr_right
  intro _
  constructor
  · intro least gateway score scored close
    exact least gateway ((tied gateway).mpr ⟨score, scored, close⟩)
  · intro least gateway listed
    rcases (tied gateway).mp listed with ⟨score, scored, close⟩
    exact least gateway score scored close

theorem exists_isScoringHead (order : IterationOrder Gateway ℚ)
    (isBest : IsBestScore scoreMap best) : ∃ head, IsScoringHead scoreMap best head := by
  rcases isBest.1 with ⟨gateway, scored⟩
  cases found : headPsp order scoreMap best with
  | some head => exact ⟨head, headPsp_eq_some_iff.mp found⟩
  | none =>
      rw [headPsp, List.min?_eq_none_iff, List.map_eq_nil_iff, List.filter_eq_nil_iff] at found
      apply absurd _ (found (gateway, best) (IterationOrder.mem_entries.mpr scored))
      rw [abs_exact, lt_exact, sub_self, abs_zero]
      exact epsilon_pos

/-! ## The loop -/

variable {margin : ℚ} {costs : HashMap Gateway (PspCost ℚ)}

/-- The expected value of a gateway that has a cost; the head has the best score. -/
def valueOf (scoreMap : GatewayScoreMap ℚ) (margin : ℚ) (costs : HashMap Gateway (PspCost ℚ))
    (best : ℚ) (head gateway : Gateway) : Option ℚ :=
  (scoreMap.lookup gateway).bind fun score =>
    (costBps costs gateway).map fun cost =>
      expectedValue margin (if gateway = head then best else score) cost

/-- The head is chosen before the loop. -/
def headPromotion (margin : ℚ) (head : Gateway) (best headCost : ℚ) : Promotion ℚ :=
  ⟨head, best, headCost, expectedValue margin best headCost, [expectedValue margin best headCost]⟩

/-- What the loop has chosen among the entries it has seen. -/
structure PromotionInvariant (margin : ℚ) (costs : HashMap Gateway (PspCost ℚ))
    (head : Gateway) (headEv : ℚ) (seen : List (Gateway × ℚ)) (promotion : Promotion ℚ) :
    Prop where
  chosen : promotion.chosenPsp = head ∧ promotion.chosenEv = headEv ∨
    promotion.chosenPsp ≠ head ∧ headEv + epsilon < promotion.chosenEv ∧
      ∃ score cost, (promotion.chosenPsp, score) ∈ seen ∧
        costBps costs promotion.chosenPsp = some cost ∧
        promotion.chosenEv = expectedValue margin score cost
  atLeast : ∀ gateway score cost, (gateway, score) ∈ seen → gateway ≠ head →
    costBps costs gateway = some cost →
      expectedValue margin score cost ≤ promotion.chosenEv + epsilon

variable {seen : List (Gateway × ℚ)} {promotion : Promotion ℚ}

theorem PromotionInvariant.headEv_le {headEv : ℚ}
    (holds : PromotionInvariant margin costs head headEv seen promotion) :
    headEv ≤ promotion.chosenEv := by
  rcases holds.chosen with ⟨-, same⟩ | ⟨-, gain, -⟩
  · exact same.ge
  · linarith [epsilon_pos]

/-- One entry keeps the invariant. -/
theorem promotionInvariant_visit {headEv : ℚ}
    (holds : PromotionInvariant margin costs head headEv seen promotion) (entry : Gateway × ℚ) :
    PromotionInvariant margin costs head headEv (seen ++ [entry])
      (promotion.visit head margin costs entry) := by
  have chosenLater : promotion.chosenPsp = head ∧ promotion.chosenEv = headEv ∨
      promotion.chosenPsp ≠ head ∧ headEv + epsilon < promotion.chosenEv ∧
        ∃ score cost, (promotion.chosenPsp, score) ∈ seen ++ [entry] ∧
          costBps costs promotion.chosenPsp = some cost ∧
          promotion.chosenEv = expectedValue margin score cost := by
    rcases holds.chosen with kept | ⟨moved, gain, score, cost, met, costed, isEv⟩
    · exact Or.inl kept
    · exact Or.inr ⟨moved, gain, score, cost, List.mem_append_left _ met, costed, isEv⟩
  rw [Promotion.visit]
  by_cases isHead : entry.1 = head
  · rw [if_pos isHead]
    refine ⟨chosenLater, fun gateway score cost met notHead costed => ?_⟩
    rcases List.mem_append.mp met with earlier | last
    · exact holds.atLeast gateway score cost earlier notHead costed
    · rw [List.mem_singleton] at last
      rw [← last] at isHead
      exact absurd isHead notHead
  · rw [if_neg isHead]
    cases costed : costBps costs entry.1 with
    | none =>
        refine ⟨chosenLater, fun gateway score cost met notHead otherCosted => ?_⟩
        rcases List.mem_append.mp met with earlier | last
        · exact holds.atLeast gateway score cost earlier notHead otherCosted
        · rw [List.mem_singleton] at last
          rw [← last, otherCosted] at costed
          cases costed
    | some cost =>
        -- Every entry but the new one is within the epsilon of the old choice.
        have cases : ∀ gateway score otherCost, (gateway, score) ∈ seen ++ [entry] →
            gateway ≠ head → costBps costs gateway = some otherCost →
            expectedValue margin score otherCost ≤ promotion.chosenEv + epsilon ∨
              expectedValue margin score otherCost = expectedValue margin entry.2 cost := by
          intro gateway score otherCost met notHead otherCosted
          rcases List.mem_append.mp met with earlier | last
          · exact Or.inl (holds.atLeast gateway score otherCost earlier notHead otherCosted)
          · rw [List.mem_singleton] at last
            rw [← last] at costed
            rw [otherCosted, Option.some.injEq] at costed
            rw [← last, costed]
            exact Or.inr rfl
        dsimp only
        by_cases gain : promotion.chosenEv + epsilon < expectedValue margin entry.2 cost
        · rw [if_pos (gt_exact.mpr gain)]
          constructor
          · have headEv_le := holds.headEv_le
            refine Or.inr ⟨isHead, by linarith, entry.2, cost, ?_, costed, rfl⟩
            exact List.mem_append_right _ (List.mem_singleton_self entry)
          · intro gateway score otherCost met notHead otherCosted
            rcases cases gateway score otherCost met notHead otherCosted with below | same
            · dsimp only
              linarith [epsilon_pos]
            · dsimp only
              linarith [epsilon_pos]
        · rw [if_neg (fun isGt => gain (gt_exact.mp isGt))]
          refine ⟨chosenLater, fun gateway score otherCost met notHead otherCosted => ?_⟩
          rcases cases gateway score otherCost met notHead otherCosted with below | same
          · exact below
          · dsimp only
            linarith

/-- The invariant holds after the loop. -/
theorem promotionInvariant_foldl (margin : ℚ) (costs : HashMap Gateway (PspCost ℚ))
    (head : Gateway) (best headCost : ℚ) (entries : List (Gateway × ℚ)) :
    PromotionInvariant margin costs head (expectedValue margin best headCost) entries
      (entries.foldl (Promotion.visit head margin costs)
        (headPromotion margin head best headCost)) := by
  induction entries using List.reverseRecOn with
  | nil =>
      refine ⟨Or.inl ⟨rfl, rfl⟩, fun gateway score cost met => ?_⟩
      cases met
  | append_singleton entries entry ih =>
      rw [List.foldl_append]
      exact promotionInvariant_visit ih entry

/-! ## The ranked list -/

/-- The entry of a gateway with a cost in the ranked list. -/
def rankedPsp (margin : ℚ) (costs : HashMap Gateway (PspCost ℚ)) (head chosen : Gateway)
    (entry : Gateway × ℚ) (cost : ℚ) : RankedPsp ℚ where
  summary := makeSummary costs entry.1 entry.2 cost
  ev := expectedValue margin entry.2 cost
  isSrHead := head == entry.1
  isChosen := chosen == entry.1

/-- The order of the ranked list. -/
def RankedBefore (left right : RankedPsp ℚ) : Prop :=
  (compareOrEqual right.ev left.ev).then (compare left.summary.psp right.summary.psp) ≠ .gt

instance : DecidableRel RankedBefore :=
  fun left right => inferInstanceAs (Decidable ((compareOrEqual right.ev left.ev).then
    (compare left.summary.psp right.summary.psp) ≠ .gt))

theorem rankedBefore_iff {left right : RankedPsp ℚ} :
    RankedBefore left right ↔ right.ev < left.ev ∨
      right.ev = left.ev ∧ left.summary.psp ≤ right.summary.psp := by
  rw [RankedBefore, compareOrEqual_exact, Ne, Ordering.then_eq_gt, compare_gt_iff_gt,
    compare_eq_iff_eq, compare_gt_iff_gt, not_or, not_and, not_lt, not_lt, le_iff_lt_or_eq]
  constructor
  · rintro ⟨less | same, named⟩
    · exact Or.inl less
    · exact Or.inr ⟨same, named same⟩
  · rintro (less | ⟨same, named⟩)
    · exact ⟨Or.inl less, fun same => absurd same less.ne⟩
    · exact ⟨Or.inr same, fun _ => named⟩

variable {chosen : Gateway}

theorem mem_buildRanked {ranked : RankedPsp ℚ} :
    ranked ∈ buildRanked order scoreMap margin costs head chosen ↔
      ∃ gateway score cost, scoreMap.lookup gateway = some score ∧
        costBps costs gateway = some cost ∧
        ranked = rankedPsp margin costs head chosen (gateway, score) cost := by
  rw [buildRanked, List.mem_insertionSort, List.mem_filterMap]
  constructor
  · rintro ⟨⟨gateway, score⟩, met, isRanked⟩
    rcases Option.map_eq_some_iff.mp isRanked with ⟨cost, costed, rfl⟩
    exact ⟨gateway, score, cost, IterationOrder.mem_entries.mp met, costed, rfl⟩
  · rintro ⟨gateway, score, cost, scored, costed, rfl⟩
    exact ⟨(gateway, score), IterationOrder.mem_entries.mpr scored, by rw [costed]; rfl⟩

/-- The gateways of the ranked list are distinct. -/
theorem nodup_buildRanked (order : IterationOrder Gateway ℚ) (scoreMap : GatewayScoreMap ℚ)
    (margin : ℚ) (costs : HashMap Gateway (PspCost ℚ)) (head chosen : Gateway) :
    ((buildRanked order scoreMap margin costs head chosen).map (·.summary.psp)).Nodup := by
  have sublist : ∀ entries : List (Gateway × ℚ),
      ((entries.filterMap fun entry => (costBps costs entry.1).map
        (rankedPsp margin costs head chosen entry)).map (·.summary.psp)).Sublist
          (entries.map Prod.fst) := by
    intro entries
    induction entries with
    | nil => exact List.Sublist.refl []
    | cons entry rest ih =>
        cases costed : costBps costs entry.1 with
        | none =>
            rw [List.filterMap_cons_none (by rw [costed]; rfl)]
            exact ih.cons _
        | some cost =>
            rw [List.filterMap_cons_some (by rw [costed]; rfl)]
            exact ih.cons_cons _
  rw [buildRanked, ((List.perm_insertionSort _ _).map _).nodup_iff]
  exact List.Nodup.sublist (sublist (order.entries scoreMap)) (order.nodup_keys scoreMap)

theorem pairwise_buildRanked (order : IterationOrder Gateway ℚ) (scoreMap : GatewayScoreMap ℚ)
    (margin : ℚ) (costs : HashMap Gateway (PspCost ℚ)) (head chosen : Gateway) :
    (buildRanked order scoreMap margin costs head chosen).Pairwise fun left right =>
      right.ev ≤ left.ev := by
  have total : Std.Total RankedBefore :=
    ⟨fun left right => by
      rw [rankedBefore_iff, rankedBefore_iff]
      rcases lt_trichotomy left.ev right.ev with less | same | more
      · exact Or.inr (Or.inl less)
      · rcases le_total left.summary.psp right.summary.psp with before | after
        · exact Or.inl (Or.inr ⟨same.symm, before⟩)
        · exact Or.inr (Or.inr ⟨same, after⟩)
      · exact Or.inl (Or.inl more)⟩
  have trans : IsTrans (RankedPsp ℚ) RankedBefore :=
    ⟨fun left middle right first second => by
      rw [rankedBefore_iff] at first second ⊢
      rcases first with less | ⟨same, before⟩
      · rcases second with lesser | ⟨same, -⟩
        · exact Or.inl (lt_trans lesser less)
        · exact Or.inl (same ▸ less)
      · rcases second with lesser | ⟨sameToo, beforeToo⟩
        · exact Or.inl (same ▸ lesser)
        · exact Or.inr ⟨sameToo.trans same, le_trans before beforeToo⟩⟩
  apply (List.pairwise_insertionSort RankedBefore _).imp
  intro left right sorted
  rcases rankedBefore_iff.mp sorted with less | ⟨same, -⟩
  · exact less.le
  · exact same.le

theorem top2Gap_nonneg {evs : List ℚ} {gap : ℚ} (found : top2Gap evs = some gap) : 0 ≤ gap := by
  have sorted := pairwise_sortDescending id evs
  rw [top2Gap] at found
  split at found
  case h_1 first second rest isSorted =>
    rw [isSorted, List.pairwise_cons] at sorted
    cases found
    exact sub_nonneg.mpr (sorted.1 second List.mem_cons_self)
  case h_2 => cases found

variable {gateway : Gateway}

/-- A flag that tells one of the ranked gateways marks exactly one entry. -/
theorem map_filter_eq_singleton {ranked : List (RankedPsp ℚ)} {flag : RankedPsp ℚ → Bool}
    (distinct : (ranked.map (·.summary.psp)).Nodup)
    (tells : ∀ entry ∈ ranked, flag entry = true ↔ entry.summary.psp = gateway)
    (listed : gateway ∈ ranked.map (·.summary.psp)) :
    (ranked.filter flag).map (·.summary.psp) = [gateway] := by
  have same : ∀ psp ∈ (ranked.filter flag).map (·.summary.psp), psp = gateway := by
    intro psp marked
    rcases List.mem_map.mp marked with ⟨entry, kept, rfl⟩
    exact (tells entry (List.mem_of_mem_filter kept)).mp (List.mem_filter.mp kept).2
  have once : ((ranked.filter flag).map (·.summary.psp)).Nodup :=
    List.Nodup.sublist (List.filter_sublist.map _) distinct
  have marked : gateway ∈ (ranked.filter flag).map (·.summary.psp) := by
    rcases List.mem_map.mp listed with ⟨entry, isRanked, isGateway⟩
    exact List.mem_map.mpr
      ⟨entry, List.mem_filter.mpr ⟨isRanked, (tells entry isRanked).mpr isGateway⟩, isGateway⟩
  have repeated := List.eq_replicate_of_mem same
  rw [repeated] at once marked ⊢
  have atMost := List.nodup_replicate.mp once
  have atLeast := List.length_pos_of_mem marked
  rw [List.length_replicate] at atLeast
  rw [le_antisymm atMost atLeast]
  rfl

/-! ## Decisions -/

theorem reorderForCost_of_head (isBest : IsBestScore scoreMap best)
    (isHead : IsScoringHead scoreMap best head) :
    reorderForCost order scoreMap margin costs =
      match costBps costs head with
      | none => authWon margin .noHeadCost
      | some headCost =>
          ((order.entries scoreMap).foldl (Promotion.visit head margin costs)
            (headPromotion margin head best headCost)).outcome order scoreMap margin costs head
              best headCost := by
  rw [reorderForCost]
  cases found : currentHead order scoreMap with
  | none =>
      rcases isBest.1 with ⟨gateway, scored⟩
      rw [currentHead_eq_none_iff.mp found gateway] at scored
      cases scored
  | some entry =>
      rcases entry with ⟨gateway, score⟩
      have same : score = best := (isBestScore_of_currentHead found).unique isBest
      dsimp only
      rw [same, isFinite_exact, headPsp_eq_some_iff.mpr isHead, if_neg (by decide)]
      dsimp only
      cases costBps costs head <;> rfl

/-- What a decision is right about: its choice, the head, and the ranked list. -/
structure CorrectDecision (scoreMap : GatewayScoreMap ℚ) (margin : ℚ)
    (costs : HashMap Gateway (PspCost ℚ)) (best : ℚ) (head : Gateway)
    (outcome : ReorderOutcome ℚ) (decision : CostDecision) : Prop where
  chosenMost : ∃ value, valueOf scoreMap margin costs best head decision.chosen = some value ∧
    ∀ gateway other, valueOf scoreMap margin costs best head gateway = some other →
      other ≤ value + epsilon
  headBeaten : decision.chosen ≠ head → ∃ value headValue,
    valueOf scoreMap margin costs best head decision.chosen = some value ∧
    valueOf scoreMap margin costs best head head = some headValue ∧ headValue < value
  headMoved : outcome.headMoved = true ↔ decision.chosen ≠ head
  ranked : ∀ gateway, gateway ∈ outcome.info.ranked.map (·.summary.psp) ↔
    gateway ∈ scoreMap ∧ (costBps costs gateway).isSome = true
  rankedOnce : (outcome.info.ranked.map (·.summary.psp)).Nodup
  rankedEv : ∀ entry ∈ outcome.info.ranked, ∃ score cost,
    scoreMap.lookup entry.summary.psp = some score ∧
    costBps costs entry.summary.psp = some cost ∧ entry.ev = expectedValue margin score cost
  sorted : outcome.info.ranked.Pairwise fun left right => right.ev ≤ left.ev
  oneChosen : (outcome.info.ranked.filter (·.isChosen)).map (·.summary.psp) = [decision.chosen]
  oneHead : (outcome.info.ranked.filter (·.isSrHead)).map (·.summary.psp) = [head]
  gapNonneg : ∀ gap, outcome.info.evGapTop2 = some gap → 0 ≤ gap

theorem valueOf_eq_some_iff {value : ℚ} :
    valueOf scoreMap margin costs best head gateway = some value ↔
      ∃ score cost, scoreMap.lookup gateway = some score ∧ costBps costs gateway = some cost ∧
        value = expectedValue margin (if gateway = head then best else score) cost := by
  rw [valueOf, Option.bind_eq_some_iff]
  constructor
  · rintro ⟨score, scored, isValue⟩
    rcases Option.map_eq_some_iff.mp isValue with ⟨cost, costed, rfl⟩
    exact ⟨score, cost, scored, costed, rfl⟩
  · rintro ⟨score, cost, scored, costed, rfl⟩
    exact ⟨score, scored, by rw [costed]; rfl⟩

theorem valueOf_head (margin : ℚ) (isHead : IsScoringHead scoreMap best head) {headCost : ℚ}
    (headCosted : costBps costs head = some headCost) :
    valueOf scoreMap margin costs best head head =
      some (expectedValue margin best headCost) := by
  rcases isHead.1 with ⟨headScore, scored, -⟩
  exact valueOf_eq_some_iff.mpr ⟨headScore, headCost, scored, headCosted, by rw [if_pos rfl]⟩

theorem valueOf_of_ne {score cost : ℚ} (notHead : gateway ≠ head)
    (scored : scoreMap.lookup gateway = some score) (costed : costBps costs gateway = some cost) :
    valueOf scoreMap margin costs best head gateway = some (expectedValue margin score cost) :=
  valueOf_eq_some_iff.mpr ⟨score, cost, scored, costed, by rw [if_neg notHead]⟩

section Chosen

variable {headCost : ℚ} {promotion : Promotion ℚ}

/-- The loop keeps the value of its choice. -/
theorem PromotionInvariant.valueOf_chosen
    (holds : PromotionInvariant margin costs head (expectedValue margin best headCost)
      (order.entries scoreMap) promotion)
    (isHead : IsScoringHead scoreMap best head) (headCosted : costBps costs head = some headCost) :
    valueOf scoreMap margin costs best head promotion.chosenPsp = some promotion.chosenEv := by
  rcases holds.chosen with ⟨kept, isEv⟩ | ⟨moved, -, score, cost, met, costed, isEv⟩
  · rw [kept, isEv, valueOf_head margin isHead headCosted]
  · rw [isEv]
    exact valueOf_of_ne moved (IterationOrder.mem_entries.mp met) costed

/-- No gateway is better than the choice by more than the epsilon. -/
theorem PromotionInvariant.valueOf_le
    (holds : PromotionInvariant margin costs head (expectedValue margin best headCost)
      (order.entries scoreMap) promotion)
    (headCosted : costBps costs head = some headCost) {gateway : Gateway} {value : ℚ}
    (isValue : valueOf scoreMap margin costs best head gateway = some value) :
    value ≤ promotion.chosenEv + epsilon := by
  rcases valueOf_eq_some_iff.mp isValue with ⟨score, cost, scored, costed, rfl⟩
  by_cases same : gateway = head
  · rw [same, headCosted, Option.some.injEq] at costed
    rw [if_pos same, ← costed]
    linarith [holds.headEv_le, epsilon_pos]
  · rw [if_neg same]
    exact holds.atLeast gateway score cost (IterationOrder.mem_entries.mpr scored) same costed

end Chosen

/-- The outcome of the loop is correct. -/
theorem correctDecision_outcome {headCost : ℚ} (isHead : IsScoringHead scoreMap best head)
    (headCosted : costBps costs head = some headCost) {promotion : Promotion ℚ}
    (holds : PromotionInvariant margin costs head (expectedValue margin best headCost)
      (order.entries scoreMap) promotion) {decision : CostDecision}
    (decided : (promotion.outcome order scoreMap margin costs head best headCost).costDecision =
      some decision) :
    CorrectDecision scoreMap margin costs best head
      (promotion.outcome order scoreMap margin costs head best headCost) decision := by
  cases decided
  have headValue := valueOf_head margin isHead headCosted
  have chosenValue := holds.valueOf_chosen isHead headCosted
  have isRanked : ∀ gateway, gateway ∈ (buildRanked order scoreMap margin costs head
        promotion.chosenPsp).map (·.summary.psp) ↔
      gateway ∈ scoreMap ∧ (costBps costs gateway).isSome = true := by
    intro gateway
    rw [List.mem_map, ← AList.lookup_isSome, Option.isSome_iff_exists, Option.isSome_iff_exists]
    constructor
    · rintro ⟨entry, listed, rfl⟩
      rcases mem_buildRanked.mp listed with ⟨other, score, cost, scored, costed, rfl⟩
      exact ⟨⟨score, scored⟩, cost, costed⟩
    · rintro ⟨⟨score, scored⟩, cost, costed⟩
      exact ⟨_, mem_buildRanked.mpr ⟨gateway, score, cost, scored, costed, rfl⟩, rfl⟩
  have rankedOfValue : ∀ gateway value, valueOf scoreMap margin costs best head gateway =
      some value → gateway ∈ (buildRanked order scoreMap margin costs head
        promotion.chosenPsp).map (·.summary.psp) := by
    intro gateway value isValue
    rcases valueOf_eq_some_iff.mp isValue with ⟨score, cost, scored, costed, -⟩
    rw [isRanked, ← AList.lookup_isSome, scored, costed]
    exact ⟨rfl, rfl⟩
  constructor
  · exact ⟨promotion.chosenEv, chosenValue, fun _ _ isValue => holds.valueOf_le headCosted isValue⟩
  · intro moved
    refine ⟨promotion.chosenEv, expectedValue margin best headCost, chosenValue, headValue, ?_⟩
    rcases holds.chosen with ⟨kept, -⟩ | ⟨-, gain, -⟩
    · exact absurd kept moved
    · linarith [epsilon_pos]
  · exact decide_eq_true_iff
  · exact isRanked
  · exact nodup_buildRanked order scoreMap margin costs head promotion.chosenPsp
  · intro entry listed
    rcases mem_buildRanked.mp listed with ⟨gateway, score, cost, scored, costed, rfl⟩
    exact ⟨score, cost, scored, costed, rfl⟩
  · exact pairwise_buildRanked order scoreMap margin costs head promotion.chosenPsp
  · apply map_filter_eq_singleton (nodup_buildRanked order scoreMap margin costs head _)
    · intro entry listed
      rcases mem_buildRanked.mp listed with ⟨gateway, score, cost, -, -, rfl⟩
      rw [rankedPsp, beq_iff_eq, eq_comm]
      rfl
    · exact rankedOfValue _ _ chosenValue
  · apply map_filter_eq_singleton (nodup_buildRanked order scoreMap margin costs head _)
    · intro entry listed
      rcases mem_buildRanked.mp listed with ⟨gateway, score, cost, -, -, rfl⟩
      rw [rankedPsp, beq_iff_eq, eq_comm]
      rfl
    · exact rankedOfValue _ _ headValue
  · intro gap found
    exact top2Gap_nonneg found

/-- Every decision is correct, with the head's expected value taken at the best score, and
without cost data for the head there is no decision. -/
theorem reorderForCost_correct (order : IterationOrder Gateway ℚ)
    (scoreMap : GatewayScoreMap ℚ) (margin : ℚ) (costs : HashMap Gateway (PspCost ℚ)) :
    (∀ decision, (reorderForCost order scoreMap margin costs).costDecision = some decision →
      ∃ best head, IsBestScore scoreMap best ∧ IsScoringHead scoreMap best head ∧
        CorrectDecision scoreMap margin costs best head
          (reorderForCost order scoreMap margin costs) decision) ∧
    ∀ best head, IsBestScore scoreMap best → IsScoringHead scoreMap best head →
      costBps costs head = none →
        (reorderForCost order scoreMap margin costs).costDecision = none ∧
        (reorderForCost order scoreMap margin costs).headMoved = false := by
  constructor
  · intro decision decided
    cases found : currentHead order scoreMap with
    | none =>
        rw [reorderForCost, found] at decided
        cases decided
    | some entry =>
        have isBest := isBestScore_of_currentHead found
        rcases exists_isScoringHead order isBest with ⟨head, isHead⟩
        refine ⟨entry.2, head, isBest, isHead, ?_⟩
        rw [reorderForCost_of_head isBest isHead] at decided ⊢
        cases headCosted : costBps costs head with
        | none =>
            rw [headCosted] at decided
            cases decided
        | some headCost =>
            rw [headCosted] at decided
            exact correctDecision_outcome isHead headCosted
              (promotionInvariant_foldl margin costs head entry.2 headCost _) decided
  · intro best head isBest isHead uncosted
    rw [reorderForCost_of_head isBest isHead, uncosted]
    exact ⟨rfl, rfl⟩

/-- A cost in basis points, without a model. -/
def plainCost (effectiveCostBps : ℚ) : PspCost ℚ where
  available := true
  effectiveCostBps := effectiveCostBps
  source := .inHouse
  costModel := none

/-- Two scores that differ by half the epsilon. -/
def tiedScores : GatewayScoreMap ℚ :=
  collect [("a", 1 - 1 / 2 ^ 53), ("b", 1)]

/-- The outcome for the two scores, which cost the same. -/
def tiedOutcome : ReorderOutcome ℚ :=
  reorderForCost .stored tiedScores 4 (collect [("a", plainCost 0), ("b", plainCost 0)])

/-- The head is `a`, by its name. It is chosen, and its expected value in the ranked list is
less than the one of `b` by twice the epsilon. -/
theorem reorderForCost_tied_counterexample :
    tiedOutcome.costDecision.map (·.chosen) = some "a" ∧
    ∃ chosenEntry ∈ tiedOutcome.info.ranked, chosenEntry.isChosen = true ∧
      ∃ entry ∈ tiedOutcome.info.ranked, chosenEntry.ev + epsilon < entry.ev :=
  ⟨by decide +kernel, by decide +kernel⟩

end DecisionEngine.Scoring
