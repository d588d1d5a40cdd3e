import DecisionEngine.Scoring.CostDecision
import DecisionEngine.Scoring.Decision

/-!
# Cost decisions and the order of iteration

A program meets the entries of a score map in an order of its own.  The decision by
expected value is the same in every order exactly when only one gateway can be chosen and
no two of the others tie.
-/

namespace DecisionEngine.Scoring

open Map Number

/-- The decision is the same in every order of iteration. -/
def DecisionDetermined (scoreMap : GatewayScoreMap ℚ) (margin : ℚ)
    (costs : HashMap Gateway (PspCost ℚ)) : Prop :=
  ∀ order otherOrder : IterationOrder Gateway ℚ,
    (reorderForCost order scoreMap margin costs).costDecision =
      (reorderForCost otherOrder scoreMap margin costs).costDecision

/-- No gateway is better than this one by more than the epsilon, and if this one is not the
head, it is better than the head by more than the epsilon. -/
def CanWin (scoreMap : GatewayScoreMap ℚ) (margin : ℚ) (costs : HashMap Gateway (PspCost ℚ))
    (best : ℚ) (head gateway : Gateway) : Prop :=
  ∃ value, valueOf scoreMap margin costs best head gateway = some value ∧
    (∀ other otherValue, valueOf scoreMap margin costs best head other = some otherValue →
      otherValue ≤ value + epsilon) ∧
    (gateway ≠ head → ∀ headValue,
      valueOf scoreMap margin costs best head head = some headValue →
        headValue + epsilon < value)

/-- Two gateways with the same expected value, or without a cost and with the same score. -/
def Tied (scoreMap : GatewayScoreMap ℚ) (margin : ℚ) (costs : HashMap Gateway (PspCost ℚ))
    (first second : Gateway) : Prop :=
  ∃ firstScore secondScore, scoreMap.lookup first = some firstScore ∧
    scoreMap.lookup second = some secondScore ∧
    match costBps costs first, costBps costs second with
    | some firstCost, some secondCost =>
        expectedValue margin firstScore firstCost = expectedValue margin secondScore secondCost
    | none, none => firstScore = secondScore
    | _, _ => False

variable {order : IterationOrder Gateway ℚ} {scoreMap : GatewayScoreMap ℚ}
  {margin : ℚ} {costs : HashMap Gateway (PspCost ℚ)} {best : ℚ} {head gateway : Gateway}

/-! ## The chosen gateway -/

/-- The gateway that the loop chooses. -/
def loopChosen (order : IterationOrder Gateway ℚ) (scoreMap : GatewayScoreMap ℚ) (margin : ℚ)
    (costs : HashMap Gateway (PspCost ℚ)) (best : ℚ) (head : Gateway) (headCost : ℚ) : Gateway :=
  ((order.entries scoreMap).foldl (Promotion.visit head margin costs)
    (headPromotion margin head best headCost)).chosenPsp

variable {headCost : ℚ}

theorem costDecision_of_head (isBest : IsBestScore scoreMap best)
    (isHead : IsScoringHead scoreMap best head) (headCosted : costBps costs head = some headCost) :
    (reorderForCost order scoreMap margin costs).costDecision =
      some ⟨loopChosen order scoreMap margin costs best head headCost,
        buildEvOrderedFallbacks order scoreMap margin costs
          (loopChosen order scoreMap margin costs best head headCost)⟩ := by
  rw [reorderForCost_of_head isBest isHead, headCosted]
  rfl

/-- The chosen gateway can win. -/
theorem canWin_loopChosen (isHead : IsScoringHead scoreMap best head)
    (headCosted : costBps costs head = some headCost) :
    CanWin scoreMap margin costs best head
      (loopChosen order scoreMap margin costs best head headCost) := by
  have holds := promotionInvariant_foldl margin costs head best headCost (order.entries scoreMap)
  rw [loopChosen]
  generalize (order.entries scoreMap).foldl (Promotion.visit head margin costs)
    (headPromotion margin head best headCost) = promotion at holds ⊢
  refine ⟨promotion.chosenEv, holds.valueOf_chosen isHead headCosted, ?_, ?_⟩
  · intro other otherValue isValue
    exact holds.valueOf_le headCosted isValue
  · intro moved value isValue
    rw [valueOf_head margin isHead headCosted, Option.some.injEq] at isValue
    rw [← isValue]
    rcases holds.chosen with ⟨kept, -⟩ | ⟨-, gain, -⟩
    · exact absurd kept moved
    · exact gain

/-- Entries that are not better by more than the epsilon do not change the choice. -/
theorem chosenPsp_foldl_visit_of_le {entries : List (Gateway × ℚ)} {promotion : Promotion ℚ}
    (atMost : ∀ entry ∈ entries, entry.1 ≠ head → ∀ cost, costBps costs entry.1 = some cost →
      expectedValue margin entry.2 cost ≤ promotion.chosenEv + epsilon) :
    (entries.foldl (Promotion.visit head margin costs) promotion).chosenPsp =
      promotion.chosenPsp := by
  induction entries generalizing promotion with
  | nil => rfl
  | cons entry rest ih =>
      have kept : (promotion.visit head margin costs entry).chosenPsp = promotion.chosenPsp ∧
          (promotion.visit head margin costs entry).chosenEv = promotion.chosenEv := by
        rw [Promotion.visit]
        by_cases isHead : entry.1 = head
        · rw [if_pos isHead]
          exact ⟨rfl, rfl⟩
        · rw [if_neg isHead]
          cases costed : costBps costs entry.1 with
          | none => exact ⟨rfl, rfl⟩
          | some cost =>
              have isLe := atMost entry List.mem_cons_self isHead cost costed
              dsimp only
              rw [if_neg (fun isGt => not_lt.mpr isLe (gt_exact.mp isGt))]
              exact ⟨rfl, rfl⟩
      rw [List.foldl_cons, ih, kept.1]
      intro other listed notHead cost costed
      rw [kept.2]
      exact atMost other (List.mem_cons_of_mem _ listed) notHead cost costed

/-- A gateway that can win is chosen when it is met first. -/
theorem loopChosen_of_first (isHead : IsScoringHead scoreMap best head)
    (headCosted : costBps costs head = some headCost)
    (canWin : CanWin scoreMap margin costs best head gateway) {score : ℚ}
    {rest : List (Gateway × ℚ)} (met : order.entries scoreMap = (gateway, score) :: rest) :
    loopChosen order scoreMap margin costs best head headCost = gateway := by
  rcases canWin with ⟨value, isValue, most, gain⟩
  have scored : scoreMap.lookup gateway = some score :=
    IterationOrder.mem_entries.mp (by rw [met]; exact List.mem_cons_self)
  have headValue := valueOf_head margin isHead headCosted
  have first : ((headPromotion margin head best headCost).visit head margin costs
        (gateway, score)).chosenPsp = gateway ∧
      ((headPromotion margin head best headCost).visit head margin costs
        (gateway, score)).chosenEv = value := by
    rw [Promotion.visit]
    by_cases same : gateway = head
    · rw [if_pos same]
      rw [same, headValue, Option.some.injEq] at isValue
      exact ⟨same.symm, isValue⟩
    · rcases valueOf_eq_some_iff.mp isValue with ⟨otherScore, cost, otherScored, costed, isEv⟩
      rw [scored, Option.some.injEq] at otherScored
      rw [if_neg same, ← otherScored] at isEv
      rw [if_neg same]
      dsimp only
      rw [costed]
      dsimp only
      have gains : gt value ((headPromotion margin head best headCost).chosenEv + epsilon) = true :=
        gt_exact.mpr (gain same _ headValue)
      rw [← isEv, if_pos gains]
      exact ⟨rfl, rfl⟩
  rw [loopChosen, met, List.foldl_cons, chosenPsp_foldl_visit_of_le, first.1]
  intro entry listed notHead cost costed
  rw [first.2]
  have otherScored : scoreMap.lookup entry.1 = some entry.2 :=
    IterationOrder.mem_entries.mp (by rw [met]; exact List.mem_cons_of_mem _ listed)
  exact most entry.1 _ (valueOf_of_ne notHead otherScored costed)

/-! ## The fallbacks -/

theorem lookup_of_canWin (canWin : CanWin scoreMap margin costs best head gateway) :
    ∃ score, scoreMap.lookup gateway = some score := by
  rcases canWin with ⟨value, isValue, -⟩
  rcases valueOf_eq_some_iff.mp isValue with ⟨score, -, scored, -⟩
  exact ⟨score, scored⟩

/-- Without ties the fallbacks do not depend on the order of iteration. -/
theorem buildEvOrderedFallbacks_eq_of_untied (order otherOrder : IterationOrder Gateway ℚ)
    {chosen : Gateway}
    (untied : ∀ first second, first ≠ chosen → second ≠ chosen →
      Tied scoreMap margin costs first second → first = second) :
    buildEvOrderedFallbacks order scoreMap margin costs chosen =
      buildEvOrderedFallbacks otherOrder scoreMap margin costs chosen := by
  have perm := (order.perm scoreMap).trans (otherOrder.perm scoreMap).symm
  have others := perm.filter fun entry => entry.1 != chosen
  rw [buildEvOrderedFallbacks_eq, buildEvOrderedFallbacks_eq]
  congr 2
  · apply sortDescending_eq_of_perm (others.filterMap _)
    rintro ⟨first, firstValue⟩ firstListed ⟨second, secondValue⟩ secondListed same
    rcases mem_costedOthers.mp firstListed with ⟨isOther, score, cost, met, costed, isEv⟩
    rcases mem_costedOthers.mp secondListed with
      ⟨isOtherToo, otherScore, otherCost, metToo, costedToo, isEvToo⟩
    dsimp only at same
    rw [Prod.mk.injEq]
    refine ⟨untied first second isOther isOtherToo ⟨score, otherScore,
      IterationOrder.mem_entries.mp met, IterationOrder.mem_entries.mp metToo, ?_⟩, same⟩
    rw [costed, costedToo]
    dsimp only
    rw [← isEv, ← isEvToo, same]
  · apply sortDescending_eq_of_perm (others.filter _)
    rintro ⟨first, firstScore⟩ firstListed ⟨second, secondScore⟩ secondListed same
    rcases mem_uncostedOthers.mp firstListed with ⟨isOther, met, uncosted⟩
    rcases mem_uncostedOthers.mp secondListed with ⟨isOtherToo, metToo, uncostedToo⟩
    dsimp only at same
    rw [Prod.mk.injEq]
    refine ⟨untied first second isOther isOtherToo ⟨firstScore, secondScore,
      IterationOrder.mem_entries.mp met, IterationOrder.mem_entries.mp metToo, ?_⟩, same⟩
    rw [uncosted, uncostedToo]
    exact same

/-- Tied gateways are fallbacks in the order in which they are met. -/
theorem pair_sublist_fallbacks {chosen first second : Gateway} {firstScore secondScore : ℚ}
    (isOther : first ≠ chosen) (isOtherToo : second ≠ chosen)
    (scored : scoreMap.lookup first = some firstScore)
    (scoredToo : scoreMap.lookup second = some secondScore)
    (tied : Tied scoreMap margin costs first second)
    (met : [(first, firstScore), (second, secondScore)].Sublist (order.entries scoreMap)) :
    [first, second].Sublist
      (buildEvOrderedFallbacks order scoreMap margin costs chosen) := by
  have others := met.filter fun entry => entry.1 != chosen
  rw [List.filter_cons_of_pos (by exact bne_iff_ne.mpr isOther),
    List.filter_cons_of_pos (by exact bne_iff_ne.mpr isOtherToo), List.filter_nil] at others
  rcases tied with ⟨score, otherScore, isScore, isOtherScore, same⟩
  rw [scored, Option.some.injEq] at isScore
  rw [scoredToo, Option.some.injEq] at isOtherScore
  rw [← isScore, ← isOtherScore] at same
  rw [buildEvOrderedFallbacks_eq]
  cases costed : costBps costs first with
  | some cost =>
      cases costedToo : costBps costs second with
      | none =>
          rw [costed, costedToo] at same
          exact same.elim
      | some otherCost =>
          rw [costed, costedToo] at same
          apply List.Sublist.trans _ (List.sublist_append_left _ _)
          have listed : [(first, expectedValue margin firstScore cost),
              (second, expectedValue margin secondScore otherCost)].Sublist
                (costedOthers margin costs chosen (order.entries scoreMap)) := by
            have kept := others.filterMap fun entry => (costBps costs entry.1).map fun cost =>
              (entry.1, expectedValue margin entry.2 cost)
            rw [List.filterMap_cons_some (by rw [costed]; rfl),
              List.filterMap_cons_some (by rw [costedToo]; rfl), List.filterMap_nil] at kept
            exact kept
          exact (pair_sublist_sortDescending same.ge listed).map Prod.fst
  | none =>
      cases costedToo : costBps costs second with
      | some otherCost =>
          rw [costed, costedToo] at same
          exact same.elim
      | none =>
          rw [costed, costedToo] at same
          apply List.Sublist.trans _ (List.sublist_append_right _ _)
          have listed : [(first, firstScore), (second, secondScore)].Sublist
              (uncostedOthers costs chosen (order.entries scoreMap)) := by
            have kept := others.filter fun entry => (costBps costs entry.1).isNone
            rw [List.filter_cons_of_pos (by rw [costed]; rfl),
              List.filter_cons_of_pos (by rw [costedToo]; rfl), List.filter_nil] at kept
            exact kept
          exact (pair_sublist_sortDescending same.ge listed).map Prod.fst

theorem not_pair_sublist_swap {α : Type*} {elements : List α} (distinct : elements.Nodup)
    {first second : α} (before : [first, second].Sublist elements) :
    ¬[second, first].Sublist elements := by
  induction elements with
  | nil => cases before
  | cons element rest ih =>
      rw [List.nodup_cons] at distinct
      intro after
      cases before with
      | cons _ inRest =>
          cases after with
          | cons _ alsoInRest => exact ih distinct.2 inRest alsoInRest
          | cons_cons _ _ => exact distinct.1 (inRest.mem (by simp))
      | cons_cons _ secondInRest =>
          cases after with
          | cons _ inRest => exact distinct.1 (inRest.mem (by simp))
          | cons_cons _ _ => exact distinct.1 (secondInRest.mem (by simp))

/-! ## Determined decisions -/

theorem decisionDetermined_of_unique {winner : Gateway} (isBest : IsBestScore scoreMap best)
    (isHead : IsScoringHead scoreMap best head) {headCost : ℚ}
    (headCosted : costBps costs head = some headCost)
    (onlyWinner : ∀ gateway, CanWin scoreMap margin costs best head gateway ↔ gateway = winner)
    (untied : ∀ first second, first ≠ winner → second ≠ winner →
      Tied scoreMap margin costs first second → first = second) :
    DecisionDetermined scoreMap margin costs := by
  have chosen : ∀ order : IterationOrder Gateway ℚ,
      loopChosen order scoreMap margin costs best head headCost = winner :=
    fun order => (onlyWinner _).mp (canWin_loopChosen isHead headCosted)
  intro order otherOrder
  rw [costDecision_of_head isBest isHead headCosted, costDecision_of_head isBest isHead headCosted,
    chosen order, chosen otherOrder, buildEvOrderedFallbacks_eq_of_untied order otherOrder untied]

/-- In a determined decision a gateway that can win is the chosen one. -/
theorem DecisionDetermined.eq_of_canWin (determined : DecisionDetermined scoreMap margin costs)
    (isBest : IsBestScore scoreMap best) (isHead : IsScoringHead scoreMap best head)
    (headCosted : costBps costs head = some headCost)
    (canWin : CanWin scoreMap margin costs best head gateway) (order : IterationOrder Gateway ℚ) :
    gateway = loopChosen order scoreMap margin costs best head headCost := by
  rcases lookup_of_canWin canWin with ⟨score, scored⟩
  rcases IterationOrder.exists_append (List.nodup_singleton (gateway, score))
    (by simpa using scored) with ⟨gatewayFirst, rest, met⟩
  have same := determined gatewayFirst order
  rw [costDecision_of_head isBest isHead headCosted, costDecision_of_head isBest isHead headCosted,
    loopChosen_of_first isHead headCosted canWin met] at same
  rw [Option.some.injEq, CostDecision.mk.injEq] at same
  exact same.1

variable {winner : Gateway}

/-- In a determined decision the gateways that are not chosen do not tie. -/
theorem DecisionDetermined.untied (determined : DecisionDetermined scoreMap margin costs)
    (isBest : IsBestScore scoreMap best) (isHead : IsScoringHead scoreMap best head)
    (headCosted : costBps costs head = some headCost)
    (canWin : CanWin scoreMap margin costs best head winner) {first second : Gateway}
    (isOther : first ≠ winner) (isOtherToo : second ≠ winner)
    (tied : Tied scoreMap margin costs first second) : first = second := by
  by_contra different
  rcases lookup_of_canWin canWin with ⟨score, scored⟩
  rcases id tied with ⟨firstScore, secondScore, firstScored, secondScored, -⟩
  have swapped : Tied scoreMap margin costs second first := by
    rcases tied with ⟨firstScore, secondScore, firstScored, secondScored, same⟩
    refine ⟨secondScore, firstScore, secondScored, firstScored, ?_⟩
    cases costed : costBps costs first <;> cases costedToo : costBps costs second <;>
      rw [costed, costedToo] at same
    · exact same.symm
    · exact same
    · exact same
    · exact same.symm
  have fallbacks : ∀ {left right : Gateway} {leftScore rightScore : ℚ}, left ≠ winner →
      right ≠ winner → left ≠ right → scoreMap.lookup left = some leftScore →
      scoreMap.lookup right = some rightScore → Tied scoreMap margin costs left right →
      ∃ order : IterationOrder Gateway ℚ,
        (reorderForCost order scoreMap margin costs).costDecision = some ⟨winner,
          buildEvOrderedFallbacks order scoreMap margin costs winner⟩ ∧
        [left, right].Sublist (buildEvOrderedFallbacks order scoreMap margin costs winner) := by
    intro left right leftScore rightScore leftOther rightOther unequal leftScored rightScored
      leftTied
    have distinct : [(winner, score), (left, leftScore), (right, rightScore)].Nodup := by
      simp [leftOther.symm, rightOther.symm, unequal]
    rcases IterationOrder.exists_append distinct
      (by simpa using ⟨scored, leftScored, rightScored⟩) with ⟨order, rest, met⟩
    refine ⟨order, ?_, ?_⟩
    · rw [costDecision_of_head isBest isHead headCosted,
        loopChosen_of_first isHead headCosted canWin met]
    · apply pair_sublist_fallbacks leftOther rightOther leftScored rightScored leftTied
      rw [met]
      exact ((List.Sublist.refl _).cons _).trans (List.sublist_append_left _ _)
  rcases fallbacks isOther isOtherToo different firstScored secondScored tied with
    ⟨order, decided, before⟩
  rcases fallbacks isOtherToo isOther (Ne.symm different) secondScored firstScored swapped with
    ⟨otherOrder, otherDecided, after⟩
  have same := determined order otherOrder
  rw [decided, otherDecided, Option.some.injEq, CostDecision.mk.injEq] at same
  rw [← same.2] at after
  exact not_pair_sublist_swap
    (nodup_of_perm_others (perm_buildEvOrderedFallbacks order scoreMap margin costs winner))
    before after

/-- The decision is the same in every order exactly when the head has no cost, or one
gateway alone can win and no two of the others tie. -/
theorem decisionDetermined_iff :
    DecisionDetermined scoreMap margin costs ↔
      ∀ best head, IsBestScore scoreMap best → IsScoringHead scoreMap best head →
        (costBps costs head).isSome = true →
          ∃ winner, (∀ gateway, CanWin scoreMap margin costs best head gateway ↔
            gateway = winner) ∧
            ∀ first second, first ≠ winner → second ≠ winner →
              Tied scoreMap margin costs first second → first = second := by
  constructor
  · intro determined best head isBest isHead headHasCost
    rcases Option.isSome_iff_exists.mp headHasCost with ⟨headCost, headCosted⟩
    have canWin : CanWin scoreMap margin costs best head
        (loopChosen .stored scoreMap margin costs best head headCost) :=
      canWin_loopChosen isHead headCosted
    refine ⟨loopChosen .stored scoreMap margin costs best head headCost, ?_, ?_⟩
    · intro gateway
      constructor
      · intro gatewayCanWin
        exact determined.eq_of_canWin isBest isHead headCosted gatewayCanWin .stored
      · rintro rfl
        exact canWin
    · intro first second isOther isOtherToo tied
      exact determined.untied isBest isHead headCosted canWin isOther isOtherToo tied
  · intro unique
    by_cases scored : ∃ best, IsBestScore scoreMap best
    · rcases scored with ⟨best, isBest⟩
      rcases exists_isScoringHead .stored isBest with ⟨head, isHead⟩
      cases headCosted : costBps costs head with
      | none =>
          intro order otherOrder
          rw [reorderForCost_of_head isBest isHead, reorderForCost_of_head isBest isHead,
            headCosted]
      | some headCost =>
          rcases unique best head isBest isHead (by rw [headCosted]; rfl) with
            ⟨winner, onlyWinner, untied⟩
          exact decisionDetermined_of_unique isBest isHead headCosted onlyWinner untied
    · intro order otherOrder
      have undecided : ∀ order : IterationOrder Gateway ℚ,
          (reorderForCost order scoreMap margin costs).costDecision = none := by
        intro order
        rw [reorderForCost]
        cases found : currentHead order scoreMap with
        | none => rfl
        | some entry => exact absurd ⟨_, isBestScore_of_currentHead found⟩ scored
      rw [undecided order, undecided otherOrder]

/-- A head that costs half of what it brings, and two equal gateways that cost nothing. -/
def equalScores : GatewayScoreMap ℚ :=
  collect [("a", 1), ("b", 9 / 10), ("c", 9 / 10)]

def equalCosts : HashMap Gateway (PspCost ℚ) :=
  collect [("a", plainCost 5000), ("b", plainCost 0), ("c", plainCost 0)]

/-- The first of two gateways with the same expected value is chosen. -/
theorem not_decisionDetermined_equalValues : ¬DecisionDetermined equalScores 1 equalCosts := by
  intro determined
  have same := determined .stored .reversed
  revert same
  decide +kernel

end DecisionEngine.Scoring
