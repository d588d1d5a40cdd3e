import DecisionEngine.Feedback.MovingWindow
import DecisionEngine.Number.Exact
import DecisionEngine.Scoring.SrV3Scores

/-!
# Consistency of the reset

The reset of the low scores writes windows with a number of failures spread over them.  The
score of such a window is the score that the reset reports.  At least two failures are written,
which is too many for a short window.
-/

namespace DecisionEngine.Scoring

open Feedback Map Number Redis

/-! ## Spread of the failures -/

section Spread

variable {sqrt : ℚ → ℚ} {interval : ℚ}

/-- Write the next outcome: a failure when its turn has come. -/
def writeOutcome (interval : ℚ) (state : Int × List String) (position : Nat) :
    Int × List String :=
  if (state.1 : ℚ) * interval ≤ position then (state.1 + 1, state.2 ++ ["0"])
  else (state.1, state.2 ++ ["1"])

/-- The failures so far are those whose turn came at an earlier position. -/
structure Spreads (interval : ℚ) (written : Nat) (state : Int × List String) : Prop where
  length : state.2.length = written
  zeros : (state.2.count "0" : Int) = state.1
  ones : (state.2.count "1" : Int) = written - state.1
  outcomes : ∀ entry ∈ state.2, IsOutcome entry
  reached : ((state.1 : ℚ) - 1) * interval ≤ written - 1
  next : (written : ℚ) - 1 < state.1 * interval

theorem spreads_foldl (atLeastOne : 1 ≤ interval) (written : Nat) :
    Spreads interval written ((List.range written).foldl (writeOutcome interval) (0, [])) := by
  induction written with
  | zero =>
      refine ⟨rfl, rfl, rfl, by simp, ?_, ?_⟩
      · push_cast [List.range_zero, List.foldl_nil]
        linarith
      · push_cast [List.range_zero, List.foldl_nil]
        linarith
  | succ written ih =>
      rw [List.range_succ, List.foldl_append, List.foldl_cons, List.foldl_nil]
      generalize (List.range written).foldl (writeOutcome interval) (0, []) = state at ih
      rcases ih with ⟨length, zeros, ones, outcomes, reached, next⟩
      rw [writeOutcome]
      by_cases isTurn : (state.1 : ℚ) * interval ≤ written
      · rw [if_pos isTurn]
        refine ⟨by simp [length], ?_, ?_, ?_, ?_, ?_⟩
        · simp [zeros]
        · simp [ones]
        · intro entry listed
          rcases List.mem_append.mp listed with before | isLast
          · exact outcomes entry before
          · exact Or.inl (List.mem_singleton.mp isLast)
        · push_cast
          linarith
        · push_cast
          linarith
      · rw [if_neg isTurn]
        rw [not_le] at isTurn
        refine ⟨by simp [length], ?_, ?_, ?_, ?_, ?_⟩
        · simp [zeros]
        · simp [ones]
          omega
        · intro entry listed
          rcases List.mem_append.mp listed with before | isLast
          · exact outcomes entry before
          · exact Or.inr (List.mem_singleton.mp isLast)
        · push_cast
          linarith
        · push_cast
          linarith

theorem resetScoreList_eq (bucketSize : Nat) :
    @resetScoreList ℚ (exactNumbers sqrt) bucketSize interval =
      ((List.range bucketSize).foldl (writeOutcome interval) (0, [])).2.reverse := by
  have positions : (List.range' 1 bucketSize).reverse =
      (List.range bucketSize).map fun position => bucketSize - position := by
    rw [List.reverse_range', Nat.add_comm]
    simp
  unfold resetScoreList
  rw [Int.toNat_natCast, positions, bind_pure_comp, List.map_eq_map, List.foldl_map,
    List.foldl_map]
  dsimp only
  congr 2
  apply List.foldl_ext
  intro state position listed
  have inRange := List.mem_range.mp listed
  have isPosition : ((bucketSize : Int) : ℚ) - ((bucketSize - position : Nat) : Int) =
      position := by
    push_cast [inRange.le]
    ring
  have turn : @ge ℚ (exactNumbers sqrt)
      (((bucketSize : Int) : ℚ) - ((bucketSize - position : Nat) : Int))
      ((state.1 : ℚ) * interval) = true ↔ (state.1 : ℚ) * interval ≤ position := by
    rw [isPosition]
    exact ge_exact
  rw [writeOutcome]
  by_cases isTurn : (state.1 : ℚ) * interval ≤ position
  · rw [if_pos isTurn]
    exact if_pos (turn.mpr isTurn)
  · rw [if_neg isTurn]
    exact if_neg fun isGe => isTurn (turn.mp isGe)

/-- A window has as many entries as the bucket, and as many failures as were asked for. -/
theorem resetScoreList_spec (sqrt : ℚ → ℚ) {bucketSize : Nat} {numberOfZeros : Int}
    (atLeastTwo : 2 ≤ numberOfZeros) (atMost : numberOfZeros ≤ bucketSize) :
    let scoreList := @resetScoreList ℚ (exactNumbers sqrt) bucketSize
      ((((bucketSize : Int) : ℚ) - 1) / (numberOfZeros - 1))
    scoreList.length = bucketSize ∧ (scoreList.count "0" : Int) = numberOfZeros ∧
      (scoreList.count "1" : Int) = bucketSize - numberOfZeros ∧
      ∀ entry ∈ scoreList, IsOutcome entry := by
  have zerosCast : (2 : ℚ) ≤ numberOfZeros := by exact_mod_cast atLeastTwo
  have sizeCast : (numberOfZeros : ℚ) ≤ bucketSize := by exact_mod_cast atMost
  have positive : (0 : ℚ) < numberOfZeros - 1 := by linarith
  have sizePositive : (0 : ℚ) < bucketSize - 1 := by linarith
  have atLeastOne : 1 ≤ ((bucketSize : ℚ) - 1) / (numberOfZeros - 1) := by
    rw [le_div_iff₀ positive]
    linarith
  rw [Int.cast_natCast, resetScoreList_eq]
  have spreads := spreads_foldl atLeastOne bucketSize
  generalize (List.range bucketSize).foldl
    (writeOutcome (((bucketSize : ℚ) - 1) / (numberOfZeros - 1))) (0, []) = state at spreads
  rcases spreads with ⟨length, zeros, ones, outcomes, reached, next⟩
  have isNumber : state.1 = numberOfZeros := by
    rw [mul_div_assoc', div_le_iff₀ positive, mul_comm, mul_le_mul_iff_of_pos_left sizePositive]
      at reached
    rw [mul_div_assoc', lt_div_iff₀ positive, mul_comm,
      mul_lt_mul_iff_of_pos_right sizePositive] at next
    have atMostNumber : (state.1 : ℚ) ≤ numberOfZeros := by linarith
    have moreThan : (numberOfZeros : ℚ) < state.1 + 1 := by linarith
    have upper : state.1 ≤ numberOfZeros := by exact_mod_cast atMostNumber
    have lower : numberOfZeros < state.1 + 1 := by exact_mod_cast moreThan
    omega
  refine ⟨by rw [List.length_reverse, length], ?_, ?_, ?_⟩
  · rw [List.count_reverse, zeros, isNumber]
  · rw [List.count_reverse, ones, isNumber]
  · intro entry listed
    exact outcomes entry (List.mem_reverse.mp listed)

end Spread

/-! ## The written windows -/

theorem queueKey_ne_scoreKey_of_any (key other : String) : queueKey key ≠ scoreKey other := by
  unfold queueKey scoreKey
  intro equal
  have suffixes := congrArg (fun text => text.toList.reverse.take 2) equal
  simp [String.toList_append, List.reverse_append] at suffixes

theorem queueKey_injective : Function.Injective queueKey :=
  fun _ _ equal => (String.append_left_inj _).mp equal

theorem scoreKey_injective : Function.Injective scoreKey :=
  fun _ _ equal => (String.append_left_inj _).mp equal

/-- Write the windows of a reset. -/
def applyResets (store : Store) (resets : List SrV3Reset) : Store :=
  resets.foldl (fun store reset => resetGatewayForSrV3 store reset.score reset.scoreList reset.key)
    store

/-- Another window of the same outcomes leaves a window as it is. -/
theorem holdsWindow_resetGatewayForSrV3 {store : Store} {key other : String} {score : Int}
    {scoreList : List String} (notEmpty : scoreList ≠ [])
    (either : other = key ∨ HoldsWindow store key scoreList.reverse) :
    HoldsWindow (resetGatewayForSrV3 store score scoreList other) key scoreList.reverse := by
  by_cases same : other = key
  · subst same
    exact holdsWindow_createMovingWindowAndScore store other score notEmpty
  · rcases either with isSame | holds
    · exact absurd isSame same
    · have differ : key ≠ other := Ne.symm same
      rcases holds with ⟨queue, count, stored⟩
      unfold resetGatewayForSrV3 createMovingWindowAndScore
      refine ⟨?_, count, ?_⟩
      · rw [Store.set_of_ne (queueKey_ne_scoreKey_of_any key other),
          Store.lpush_of_ne (queueKey_injective.ne differ),
          Store.del_of_ne (queueKey_injective.ne differ), queue]
      · rw [Store.set_of_ne (scoreKey_injective.ne differ),
          Store.lpush_of_ne (queueKey_ne_scoreKey_of_any other key).symm,
          Store.del_of_ne (queueKey_ne_scoreKey_of_any other key).symm, stored]

/-- Resets that write the same outcomes leave them behind each of their keys. -/
theorem holdsWindow_applyResets (score : Int) {scoreList : List String}
    (notEmpty : scoreList ≠ []) {key : String} (keys : List RedisKey) (store : Store)
    (either : key ∈ keys ∨ HoldsWindow store key scoreList.reverse) :
    HoldsWindow (applyResets store (keys.map fun key => ⟨key, score, scoreList⟩)) key
      scoreList.reverse := by
  induction keys generalizing store with
  | nil =>
      rcases either with listed | holds
      · cases listed
      · exact holds
  | cons first rest ih =>
      apply ih
      rcases either with listed | holds
      · rcases List.mem_cons.mp listed with isFirst | inRest
        · exact Or.inr (holdsWindow_resetGatewayForSrV3 notEmpty (Or.inl isFirst.symm))
        · exact Or.inl inRest
      · exact Or.inr (holdsWindow_resetGatewayForSrV3 notEmpty (Or.inr holds))

/-! ## The reset -/

section Reset

variable {sqrt : ℚ → ℚ} {parse : String → Option ℚ}

variable (order : IterationOrder Gateway ℚ)

/-- The greatest score. -/
def bestScore (scoreMap : GatewayScoreMap ℚ) : ℚ :=
  ((getMaxScoreGateway order scoreMap).map Prod.snd).getD 1

def resetSigma (sqrt : ℚ → ℚ) (best : ℚ) (bucketSize : Int) : ℚ :=
  sqrt (Number.max (best * (1 - best)) 0.09 / bucketSize)

/-- The share of failures for which the lower factor asks. -/
def failureShare (sqrt : ℚ → ℚ) (best : ℚ) (bucketSize : Int) (lowerResetFactor : ℚ) : ℚ :=
  1 - best + lowerResetFactor * resetSigma sqrt best bucketSize

def resetThreshold (sqrt : ℚ → ℚ) (best : ℚ) (bucketSize : Int) (upperResetFactor : ℚ) : ℚ :=
  best - upperResetFactor * resetSigma sqrt best bucketSize

def numberOfZeros (share : ℚ) (bucketSize : Int) : Int :=
  Max.max 2 (Min.min (MachineNumber.floorToI32 (share * bucketSize)) bucketSize)

variable {bucketSize : Int}

theorem resetSrV3Score_eq (scoreMap : GatewayScoreMap ℚ) (notShort : ¬bucketSize < 2)
    (keyMap : GatewayRedisKeyMap) (upper lower : ℚ) :
    @resetSrV3Score ℚ (exactNumbers sqrt) order scoreMap bucketSize keyMap upper lower =
      let best := bestScore order scoreMap
      let threshold := resetThreshold sqrt best bucketSize upper
      let zeros := numberOfZeros (failureShare sqrt best bucketSize lower) bucketSize
      .ok
        (mapEntries scoreMap fun _ score =>
            if lt score threshold then ((bucketSize - zeros : Int) : ℚ) / bucketSize else score,
          ((((order.entries scoreMap).filterMap fun entry =>
              (keyMap.lookup entry.1).map fun key => (key, entry.2)).filter
            fun entry => lt entry.2 threshold).map Prod.fst).map fun key =>
              ⟨key, bucketSize - zeros, @resetScoreList ℚ (exactNumbers sqrt) bucketSize
                (((bucketSize : ℚ) - 1) / (zeros - 1))⟩) := by
  unfold resetSrV3Score
  dsimp only
  rw [if_neg notShort]
  rfl

theorem resetSrV3Score_short (scoreMap : GatewayScoreMap ℚ) (short : bucketSize < 2)
    (keyMap : GatewayRedisKeyMap) (upper lower : ℚ) :
    @resetSrV3Score ℚ (exactNumbers sqrt) order scoreMap bucketSize keyMap upper lower =
      .error .clampBounds := by
  unfold resetSrV3Score
  dsimp only
  rw [if_pos short]

/-! ### The number of failures -/

theorem numberOfZeros_le (share : ℚ) (notShort : 2 ≤ bucketSize) :
    numberOfZeros share bucketSize ≤ bucketSize := by
  rw [numberOfZeros]
  omega

theorem numberOfZeros_eq_two {share : ℚ} (few : share * bucketSize < 2) :
    numberOfZeros share bucketSize = 2 := by
  have floorLt : (share * bucketSize).floor < 2 := by
    rw [Rat.floor_lt_iff]
    exact_mod_cast few
  have atMostFloor : (MachineNumber.floorToI32 (share * bucketSize) : Int) =
      Max.max (-2 ^ 31) (Min.min (share * bucketSize).floor (2 ^ 31 - 1)) := rfl
  rw [numberOfZeros, atMostFloor]
  omega

/-- Where the factor asks for two failures, no more than it asks for are written. -/
theorem numberOfZeros_cast_le {share : ℚ} (enough : 2 ≤ share * bucketSize) :
    (numberOfZeros share bucketSize : ℚ) ≤ share * bucketSize := by
  have twoLe : 2 ≤ (share * bucketSize).floor := by
    rw [Rat.le_floor_iff]
    exact_mod_cast enough
  have isFloor : (MachineNumber.floorToI32 (share * bucketSize) : Int) =
      Max.max (-2 ^ 31) (Min.min (share * bucketSize).floor (2 ^ 31 - 1)) := rfl
  have atMost : numberOfZeros share bucketSize ≤ (share * bucketSize).floor := by
    rw [numberOfZeros, isFloor]
    omega
  calc (numberOfZeros share bucketSize : ℚ)
      ≤ ((share * bucketSize).floor : ℚ) := by exact_mod_cast atMost
    _ ≤ share * bucketSize := Rat.floor_le _

/-! ### Consistency -/

/-- The windows have as many entries as the bucket and the given number of failures, the score
read from them is the one reported, and no score is lowered. -/
structure ConsistentReset (parse : String → Option ℚ) (before : GatewayScoreMap ℚ)
    (keyMap : GatewayRedisKeyMap) (bucketSize zeros : Int) (upper lower : ℚ)
    (after : GatewayScoreMap ℚ) (resets : List SrV3Reset) : Prop where
  entries : ∀ reset ∈ resets, (reset.scoreList.length : Int) = bucketSize ∧
    ∀ entry ∈ reset.scoreList, IsOutcome entry
  failures : ∀ reset ∈ resets, (reset.scoreList.count "0" : Int) = zeros
  recomputed : ∀ reset ∈ resets, ∀ store,
    getScoreFromRedis parse (applyResets store resets) reset.key bucketSize =
      (reset.score : ℚ) / bucketSize
  reported : ∀ reset ∈ resets, ∃ gateway, keyMap.lookup gateway = some reset.key ∧
    after.lookup gateway = some ((reset.score : ℚ) / bucketSize)
  notLowered : lower ≤ upper → ∀ gateway score, before.lookup gateway = some score →
    ∃ raised, after.lookup gateway = some raised ∧ score ≤ raised

/-- The score of a reset window. -/
theorem getScoreFromRedis_applyResets (reads : ReadsOutcomes parse) {bucketSize : Nat}
    {zeros : Int} (atLeastTwo : 2 ≤ zeros) (atMost : zeros ≤ bucketSize) {keys : List RedisKey}
    {key : RedisKey} (listed : key ∈ keys) (score : Int) (store : Store) :
    getScoreFromRedis parse (applyResets store (keys.map fun key =>
        ⟨key, score, @resetScoreList ℚ (exactNumbers sqrt) bucketSize
          ((((bucketSize : Int) : ℚ) - 1) / (zeros - 1))⟩)) key bucketSize =
      ((bucketSize - zeros : Int) : ℚ) / (bucketSize : Int) := by
  rcases resetScoreList_spec sqrt atLeastTwo atMost with ⟨length, -, ones, outcomes⟩
  generalize @resetScoreList ℚ (exactNumbers sqrt) bucketSize
    ((((bucketSize : Int) : ℚ) - 1) / (zeros - 1)) = scoreList at *
  have notEmpty : scoreList ≠ [] := by
    rw [← List.length_pos_iff]
    omega
  have holds := holdsWindow_applyResets score notEmpty keys store (Or.inl listed)
  have size : windowSize bucketSize = bucketSize := by
    rw [windowSize]
    omega
  have isOutcome : ∀ entry ∈ scoreList.reverse, IsOutcome entry :=
    fun entry listed => outcomes entry (List.mem_reverse.mp listed)
  rw [getScoreFromRedis_of_holdsWindow reads holds (by simpa using notEmpty) isOutcome, size,
    List.length_reverse, length, List.take_of_length_le (by rw [List.length_reverse, length]),
    List.count_reverse, Nat.min_self, ← ones, Int.cast_natCast, Int.cast_natCast]

/-- The reset score is not below a score under the threshold, unless two failures are too many
for it. -/
theorem le_resetScore_iff {best score upper lower : ℚ} (notShort : 2 ≤ bucketSize)
    (sigmaNonneg : 0 ≤ resetSigma sqrt best bucketSize) (ordered : lower ≤ upper)
    (isLow : score < resetThreshold sqrt best bucketSize upper) :
    score ≤ ((bucketSize - numberOfZeros (failureShare sqrt best bucketSize lower) bucketSize : Int)
        : ℚ) / bucketSize ↔
      2 ≤ failureShare sqrt best bucketSize lower * bucketSize ∨ score ≤ 1 - 2 / bucketSize := by
  have sizeCast : (2 : ℚ) ≤ bucketSize := by exact_mod_cast notShort
  have positive : (0 : ℚ) < bucketSize := by linarith
  rw [Int.cast_sub, sub_div, div_self positive.ne']
  by_cases enough : 2 ≤ failureShare sqrt best bucketSize lower * bucketSize
  · apply iff_of_true _ (Or.inl enough)
    have atMost := numberOfZeros_cast_le enough
    have share : (numberOfZeros (failureShare sqrt best bucketSize lower) bucketSize : ℚ) /
        bucketSize ≤ failureShare sqrt best bucketSize lower := by
      rwa [div_le_iff₀ positive]
    have factors : lower * resetSigma sqrt best bucketSize ≤
        upper * resetSigma sqrt best bucketSize :=
      mul_le_mul_of_nonneg_right ordered sigmaNonneg
    rw [failureShare] at share
    rw [resetThreshold] at isLow
    rw [failureShare]
    linarith
  · rw [or_iff_right enough, numberOfZeros_eq_two (not_le.mp enough)]
    rfl

/-- The reset is consistent exactly when the window has room for two failures, and two failures
do not lower a score that the factors ask to raise. -/
theorem consistentReset_iff (sqrtNonneg : ∀ value, 0 ≤ sqrt value) (reads : ReadsOutcomes parse)
    (order : IterationOrder Gateway ℚ) (scoreMap : GatewayScoreMap ℚ) (bucketSize : Int)
    (keyMap : GatewayRedisKeyMap) (upper lower : ℚ) :
    (∃ after resets, @resetSrV3Score ℚ (exactNumbers sqrt) order scoreMap bucketSize keyMap upper
          lower = .ok (after, resets) ∧
        ConsistentReset parse scoreMap keyMap bucketSize
          (numberOfZeros (failureShare sqrt (bestScore order scoreMap) bucketSize lower) bucketSize)
          upper lower after resets) ↔
      2 ≤ bucketSize ∧
        (lower ≤ upper → ∀ gateway score, scoreMap.lookup gateway = some score →
          score < resetThreshold sqrt (bestScore order scoreMap) bucketSize upper →
          2 ≤ failureShare sqrt (bestScore order scoreMap) bucketSize lower * bucketSize ∨
            score ≤ 1 - 2 / bucketSize) := by
  by_cases short : bucketSize < 2
  · rw [resetSrV3Score_short order scoreMap short]
    apply iff_of_false
    · rintro ⟨after, resets, returned, -⟩
      cases returned
    · rintro ⟨notShort, -⟩
      omega
  · have notShort : 2 ≤ bucketSize := not_lt.mp short
    rw [resetSrV3Score_eq order scoreMap short]
    dsimp only
    generalize isBest : bestScore order scoreMap = best
    have sigmaNonneg : 0 ≤ resetSigma sqrt best bucketSize := sqrtNonneg _
    have atLeastTwo : 2 ≤ numberOfZeros (failureShare sqrt best bucketSize lower) bucketSize :=
      le_max_left _ _
    have atMost := numberOfZeros_le (failureShare sqrt best bucketSize lower) notShort
    constructor
    · rintro ⟨after, resets, returned, consistent⟩
      refine ⟨notShort, fun ordered gateway score found isLow => ?_⟩
      rcases consistent.notLowered ordered gateway score found with ⟨raised, isRaised, atLeast⟩
      cases returned
      rw [lookup_mapEntries, found, Option.map_some, if_pos (lt_exact.mpr isLow),
        Option.some.injEq] at isRaised
      rw [← isRaised] at atLeast
      exact (le_resetScore_iff notShort sigmaNonneg ordered isLow).mp atLeast
    · rintro ⟨-, enough⟩
      rcases Int.eq_ofNat_of_zero_le (le_trans (by decide) notShort) with ⟨size, rfl⟩
      have written := resetScoreList_spec sqrt atLeastTwo atMost
      refine ⟨_, _, rfl, ?_, ?_, ?_, ?_, ?_⟩
      · intro reset listed
        rcases List.mem_map.mp listed with ⟨key, -, rfl⟩
        exact ⟨congrArg Nat.cast written.1, written.2.2.2⟩
      · intro reset listed
        rcases List.mem_map.mp listed with ⟨key, -, rfl⟩
        exact written.2.1
      · intro reset listed store
        rcases List.mem_map.mp listed with ⟨key, keyListed, rfl⟩
        exact getScoreFromRedis_applyResets reads atLeastTwo atMost keyListed _ store
      · intro reset listed
        rcases List.mem_map.mp listed with ⟨key, keyListed, rfl⟩
        rcases List.mem_map.mp keyListed with ⟨⟨_, score⟩, kept, rfl⟩
        rcases List.mem_filter.mp kept with ⟨pairListed, isLow⟩
        rcases List.mem_filterMap.mp pairListed with ⟨entry, entryListed, made⟩
        rcases Option.map_eq_some_iff.mp made with ⟨key, hasKey, isPair⟩
        cases isPair
        refine ⟨entry.1, hasKey, ?_⟩
        rw [lookup_mapEntries, IterationOrder.mem_entries.mp entryListed, Option.map_some,
          if_pos isLow]
      · intro ordered gateway score found
        refine ⟨_, by rw [lookup_mapEntries, found, Option.map_some], ?_⟩
        by_cases isLow : score < resetThreshold sqrt best (size : Int) upper
        · rw [if_pos (lt_exact.mpr isLow)]
          exact (le_resetScore_iff notShort sigmaNonneg ordered isLow).mpr
            (enough ordered gateway score found isLow)
        · rw [if_neg fun isLt => isLow (lt_exact.mp isLt)]

end Reset

/-- A gateway with a high score and one with a low score. -/
def pairScores (high low : ℚ) : GatewayScoreMap ℚ :=
  (AList.singleton "adyen" low).insert "stripe" high

def pairScoreKeys : GatewayRedisKeyMap :=
  (AList.singleton "adyen" "sr_adyen").insert "stripe" "sr_stripe"

theorem consistentReset_iff_nine :
    ∃ after resets, @resetSrV3Score ℚ (exactNumbers Rat.sqrt) IterationOrder.stored
        (pairScores 0.9 0.1) 9 pairScoreKeys 3 3 = .ok (after, resets) ∧
      ConsistentReset parseOutcome (pairScores 0.9 0.1) pairScoreKeys 9
        (numberOfZeros (failureShare Rat.sqrt
          (bestScore IterationOrder.stored (pairScores 0.9 0.1)) 9 3) 9) 3 3 after resets :=
  (consistentReset_iff Rat.sqrt_nonneg parseOutcome_readsOutcomes IterationOrder.stored
      (pairScores 0.9 0.1) 9 pairScoreKeys 3 3).mpr
    ⟨by decide, fun _ _ _ _ _ => Or.inl (by decide +kernel)⟩

/-- A bucket of one entry has no room for two failures; in one of ten entries they lower the
score of a gateway that is close to the best one. -/
theorem consistentReset_counterexample :
    (¬∃ after resets, @resetSrV3Score ℚ (exactNumbers Rat.sqrt) IterationOrder.stored
        (pairScores 1 0) 1 pairScoreKeys 3 3 = .ok (after, resets)) ∧
      ¬∃ after resets, @resetSrV3Score ℚ (exactNumbers Rat.sqrt) IterationOrder.stored
          (pairScores 1 0.9) 10 pairScoreKeys 0 0 = .ok (after, resets) ∧
        ConsistentReset parseOutcome (pairScores 1 0.9) pairScoreKeys 10
          (numberOfZeros (failureShare Rat.sqrt
            (bestScore IterationOrder.stored (pairScores 1 0.9)) 10 0) 10) 0 0 after resets := by
  constructor
  · rintro ⟨after, resets, returned⟩
    rw [resetSrV3Score_short _ _ (by decide)] at returned
    cases returned
  · rintro ⟨after, resets, returned, consistent⟩
    rcases consistent.notLowered le_rfl "adyen" 0.9 (by decide +kernel) with
      ⟨raised, isRaised, atLeast⟩
    have lowered : ((resetSrV3Score IterationOrder.stored (pairScores 1 0.9) 10 pairScoreKeys 0
        0).toOption.bind fun reset => reset.1.lookup "adyen") = some 0.8 := by decide +kernel
    rw [show resetSrV3Score IterationOrder.stored (pairScores 1 0.9) 10 pairScoreKeys 0 0 = _ from
      returned] at lowered
    rw [Except.toOption, Option.bind_some, isRaised, Option.some.injEq] at lowered
    rw [lowered] at atLeast
    norm_num at atLeast

end DecisionEngine.Scoring
