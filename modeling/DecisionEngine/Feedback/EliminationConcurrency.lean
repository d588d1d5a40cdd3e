import DecisionEngine.Feedback.EliminationScore
import DecisionEngine.Transition.ReadModifyWrite
import Mathlib.Data.List.Permutation

/-!
# Concurrent updates of an elimination score

The feedback and the resets of one key read its record and write a new one in two
separate steps.  An update whose record has changed in between undoes the change.

The counts of transactions do not take part in the scores, so a changed count does no
harm to them.
-/

namespace DecisionEngine.Feedback

open Number Transition

variable {F : Type}

/-! ## Records without their counts -/

def MerchantScoringDetails.withoutCount (details : MerchantScoringDetails F) :
    MerchantScoringDetails F :=
  { details with transactionCount := 0 }

/-- The record, but for its counts of transactions. -/
def CachedGatewayScore.withoutCounts (cached : CachedGatewayScore F) : CachedGatewayScore F :=
  { cached with
    merchants := cached.merchants.map fun merchants =>
      merchants.map MerchantScoringDetails.withoutCount
    transactionCount := cached.transactionCount.map fun _ => 0 }

/-- The score of the record and the scores of its merchants. -/
def CachedGatewayScore.scores (cached : CachedGatewayScore F) :
    Option F × Option (List (String × F)) :=
  (cached.score, cached.merchants.map fun merchants =>
    merchants.map fun details => (details.merchantId, details.score))

theorem CachedGatewayScore.scores_withoutCounts (cached : CachedGatewayScore F) :
    cached.withoutCounts.scores = cached.scores := by
  simp only [scores, withoutCounts, Option.map_map]
  congr 2
  funext merchants
  simp [MerchantScoringDetails.withoutCount]

section Updates

variable [MachineNumber F]

variable (update : FeedbackUpdate F)

theorem withoutCount_replaceTransactionCount (details : MerchantScoringDetails F) :
    (replaceTransactionCount update details.withoutCount).withoutCount =
      (replaceTransactionCount update details).withoutCount := by
  by_cases own : details.merchantId = update.merchantId
  · simp [replaceTransactionCount, MerchantScoringDetails.withoutCount, own]
  · simp [replaceTransactionCount, MerchantScoringDetails.withoutCount, own]

omit [MachineNumber F] in
theorem isEmpty_findMerchantFromMerchantArray (merchantId : String)
    (merchants : List (MerchantScoringDetails F)) :
    (findMerchantFromMerchantArray merchantId
        (merchants.map MerchantScoringDetails.withoutCount)).isEmpty =
      (findMerchantFromMerchantArray merchantId merchants).isEmpty := by
  rw [findMerchantFromMerchantArray, findMerchantFromMerchantArray, List.filter_map,
    List.isEmpty_map]
  rfl

/-- The merchants after an update, but for their counts, do not depend on the counts before. -/
theorem withoutCount_updatedMerchants (cached : CachedGatewayScore F) :
    (getUpdatedMerchantDetailsForGlobalKey update cached.withoutCounts).map
        (List.map MerchantScoringDetails.withoutCount) =
      (getUpdatedMerchantDetailsForGlobalKey update cached).map
        (List.map MerchantScoringDetails.withoutCount) := by
  have idempotent : ∀ details : MerchantScoringDetails F,
      details.withoutCount.withoutCount = details.withoutCount := fun _ => rfl
  simp only [getUpdatedMerchantDetailsForGlobalKey, CachedGatewayScore.withoutCounts]
  cases cached.merchants with
  | none => rfl
  | some merchants =>
      simp only [Option.map_some, isEmpty_findMerchantFromMerchantArray, List.length_map]
      split
      · split
        · split
          · simp [idempotent]
          · simp [idempotent]
        · simp [withoutCount_replaceTransactionCount]
      · rfl

omit [MachineNumber F] in
theorem getTransactionCount_map (count : Option Int) (update : FeedbackUpdate F) :
    (getTransactionCount (count.map fun _ => 0) update.scoreKeyType
        update.gatewayScoringType).map (fun _ => (0 : Int)) =
      (getTransactionCount count update.scoreKeyType update.gatewayScoringType).map
        fun _ => 0 := by
  simp only [getTransactionCount]
  cases count with
  | none => rfl
  | some count =>
      split
      · rfl
      · simp only [Option.map_some]
        split <;> rfl

variable (cached : Option (CachedGatewayScore F))

theorem withoutCounts_gwScoreToBeUpdated :
    (gwScoreToBeUpdated update (cached.map CachedGatewayScore.withoutCounts)).withoutCounts =
      (gwScoreToBeUpdated update cached).withoutCounts := by
  cases cached with
  | none => rfl
  | some cached =>
      have sameAge : hasPersistedLongerThanHardTtl update cached.withoutCounts =
          hasPersistedLongerThanHardTtl update cached := rfl
      simp only [Option.map_some, gwScoreToBeUpdated, sameAge]
      split
      · rfl
      · simp only [CachedGatewayScore.withoutCounts, Option.map_map]
        congr 2
        funext merchants
        simp [MerchantScoringDetails.withoutCount]

/-- What the feedback makes of a record, but for the counts, does not depend on the counts. -/
theorem withoutCounts_updateKeyScore :
    (updateKeyScoreForKeysFromConsumer update
        (cached.map CachedGatewayScore.withoutCounts)).withoutCounts =
      (updateKeyScoreForKeysFromConsumer update cached).withoutCounts := by
  have sameRecord := withoutCounts_gwScoreToBeUpdated update cached
  rcases CachedGatewayScore.mk.injEq _ _ _ _ _ _ _ _ _ _ ▸ sameRecord with
    ⟨-, sameScore, sameTimestamp, sameReset, sameCount⟩
  have sameMerchants : (getUpdatedMerchantDetailsForGlobalKey update
        (gwScoreToBeUpdated update (cached.map CachedGatewayScore.withoutCounts))).map
          (List.map MerchantScoringDetails.withoutCount) =
      (getUpdatedMerchantDetailsForGlobalKey update (gwScoreToBeUpdated update cached)).map
        (List.map MerchantScoringDetails.withoutCount) := by
    rw [← withoutCount_updatedMerchants, sameRecord, withoutCount_updatedMerchants]
  have sameTransactionCount : (getTransactionCount (gwScoreToBeUpdated update
        (cached.map CachedGatewayScore.withoutCounts)).transactionCount update.scoreKeyType
          update.gatewayScoringType).map (fun _ => (0 : Int)) =
      (getTransactionCount (gwScoreToBeUpdated update cached).transactionCount
        update.scoreKeyType update.gatewayScoringType).map fun _ => 0 := by
    rw [← getTransactionCount_map, sameCount, getTransactionCount_map]
  simp only [updateKeyScoreForKeysFromConsumer, CachedGatewayScore.withoutCounts,
    CachedGatewayScore.mk.injEq]
  exact ⟨sameMerchants, by rw [sameScore], sameTimestamp, sameReset, sameTransactionCount⟩

/-- The same of a reset. -/
theorem withoutCounts_resetGatewayScore (input : ResetGatewayInput F)
    (cached : Option (CachedGatewayScore F)) :
    (resetGatewayScore input (cached.map CachedGatewayScore.withoutCounts)).map
        CachedGatewayScore.withoutCounts =
      (resetGatewayScore input cached).map CachedGatewayScore.withoutCounts := by
  rcases cached with _ | ⟨merchants, score, timestamp, lastResetTimestamp, transactionCount⟩
  · rfl
  · cases eliminationThreshold : input.eliminationThreshold with
    | none => simp only [resetGatewayScore, eliminationThreshold]
    | some threshold =>
        cases eliminationMaxCount : input.eliminationMaxCount with
        | none => simp only [resetGatewayScore, eliminationThreshold, eliminationMaxCount]
        | some maxCount =>
            simp only [resetGatewayScore, eliminationThreshold, eliminationMaxCount]
            -- A record with something missing is taken for no record on both sides.
            cases score with
            | none => rfl
            | some score =>
                cases lastResetTimestamp with
                | none => rfl
                | some lastResetTimestamp =>
                    cases transactionCount with
                    | none => rfl
                    | some transactionCount =>
                        simp only [Option.map_some, CachedGatewayScore.withoutCounts,
                          getMerchantEliminationGatewayScore, isResetEligible]
                        split
                        · split
                          · simp only [Option.map_some]
                            split <;> rfl
                          · rfl
                        · rfl

/-! ## Concurrent updates -/

/-- An update of the record of one key. -/
inductive ScoreUpdate (F : Type) where
  | feedback (update : FeedbackUpdate F)
  | reset (input : ResetGatewayInput F)

/-- The record that an update writes after it has read one. -/
def ScoreUpdate.effect : ScoreUpdate F → Option (CachedGatewayScore F) →
    Option (Option (CachedGatewayScore F))
  | .feedback update, cached => some (some (updateKeyScoreForKeysFromConsumer update cached))
  | .reset input, cached => (resetGatewayScore input cached).map some

theorem respects_withoutCounts :
    Respects (ScoreUpdate.effect (F := F)) (Option.map CachedGatewayScore.withoutCounts) := by
  intro update first second same
  have commutes : ∀ cached, (update.effect (cached.map CachedGatewayScore.withoutCounts)).map
        (Option.map CachedGatewayScore.withoutCounts) =
      (update.effect cached).map (Option.map CachedGatewayScore.withoutCounts) := by
    intro cached
    cases update with
    | feedback update =>
        simp only [ScoreUpdate.effect, Option.map_some, withoutCounts_updateKeyScore]
    | reset input =>
        have reset := congrArg (Option.map some) (withoutCounts_resetGatewayScore input cached)
        rw [Option.map_map, Option.map_map] at reset
        rw [ScoreUpdate.effect, ScoreUpdate.effect, Option.map_map, Option.map_map]
        exact reset
  rw [← commutes first, same, commutes second]

/-- The finished updates have left the scores of a serial execution of them. -/
def ScoresAreSerial {ι : Type} (start : Option (CachedGatewayScore F))
    (updates : ι → ScoreUpdate F)
    (config : Config (Option (CachedGatewayScore F)) ι
      (UpdateState (Option (CachedGatewayScore F)) (ScoreUpdate F))) : Prop :=
  ∃ order : List ι, order.Nodup ∧
    (∀ index, index ∈ order ↔ config.locals index = .finished) ∧
    config.shared.map CachedGatewayScore.scores =
      (serially ScoreUpdate.effect (order.map updates) start).map CachedGatewayScore.scores

/-- In every interleaving in which every write is made while the stored record is the one
that was read, up to the counts, the scores are at every moment those of a serial
execution of the finished updates. -/
theorem scoresAreSerial_of_writesFresh {ι : Type} [DecidableEq ι]
    {start : Option (CachedGatewayScore F)} {updates : ι → ScoreUpdate F}
    {trace : List (ι × UpdateEvent)}
    {config : Config (Option (CachedGatewayScore F)) ι
      (UpdateState (Option (CachedGatewayScore F)) (ScoreUpdate F))}
    (run : Run (fun config label next =>
      Moves (updateProcess ScoreUpdate.effect) config label next ∧
        WritesFresh (Option.map CachedGatewayScore.withoutCounts) config label.1)
      (startUpdates start updates) trace config) :
    ScoresAreSerial start updates config := by
  have serialised := serialisedAs_writers respects_withoutCounts run
  refine ⟨writers trace, serialised.nodup, serialised.finished, ?_⟩
  have sameScores := congrArg (Option.map CachedGatewayScore.scores) serialised.observed
  simp only [Option.map_map] at sameScores
  have forgets : CachedGatewayScore.scores ∘ CachedGatewayScore.withoutCounts =
      (CachedGatewayScore.scores : CachedGatewayScore F → _) :=
    funext CachedGatewayScore.scores_withoutCounts
  rwa [forgets] at sameScores

end Updates

/-! ## Lost updates -/

/-- A failed payment. -/
def failedPayment : ScoreUpdate ℚ :=
  .feedback {
    scoreKeyType := .eliminationMerchantKey
    gatewayScoringType := .penalise
    merchantId := "m"
    timestamp := 1000
    creationTimestamp := 1000
    detailsTimestamp := 1000
    reads := noUpdateReads }

/-- A reset below one half. -/
def halfReset : ScoreUpdate ℚ :=
  .reset {
    eliminationThreshold := some (1 / 2)
    eliminationMaxCount := some 5
    penaltyFactor := 5
    softTtl := 0
    currentTimestamp := 1000
    powf := fun base _ => base }

def freshRecord : CachedGatewayScore ℚ where
  merchants := none
  score := some 1
  timestamp := 1000
  lastResetTimestamp := some 1000
  transactionCount := some 0

/-- Two failed payments, one after the other. -/
theorem scoresAreSerial_one_by_one :
    ∃ trace config, Run (fun config label next =>
        Moves (updateProcess ScoreUpdate.effect) config label next ∧
          WritesFresh (Option.map CachedGatewayScore.withoutCounts) config label.1)
        (startUpdates none fun _ : Bool => failedPayment) trace config ∧
      ScoresAreSerial none (fun _ : Bool => failedPayment) config := by
  have fresh : AllowedSchedule (updateProcess ScoreUpdate.effect)
      (WritesFresh (Option.map CachedGatewayScore.withoutCounts))
      (startUpdates none fun _ : Bool => failedPayment) [false, false, true, true] := by
    refine ⟨?_, ?_, ?_, ?_, trivial⟩
    all_goals
      intro update value found
      cases found
      try rfl
  rcases run_runSchedule _ fresh with ⟨trace, run⟩
  exact ⟨trace, _, run, scoresAreSerial_of_writesFresh run⟩

/-- An order of two updates. -/
theorem order_of_two {order : List Bool} (nodup : order.Nodup) (all : ∀ index, index ∈ order) :
    order = [false, true] ∨ order = [true, false] := by
  have permuted : order.Perm [false, true] := by
    apply (List.perm_ext_iff_of_nodup nodup (by decide)).mpr
    intro index
    exact iff_of_true (all index) (by cases index <;> decide)
  exact List.perm_pair.mp permuted

/-- Two finished updates that are serial have the scores of one of their two orders. -/
theorem scores_of_two {start : Option (CachedGatewayScore ℚ)} {updates : Bool → ScoreUpdate ℚ}
    {config : Config (Option (CachedGatewayScore ℚ)) Bool
      (UpdateState (Option (CachedGatewayScore ℚ)) (ScoreUpdate ℚ))}
    (finished : ∀ index, config.locals index = .finished)
    (serial : ScoresAreSerial start updates config) :
    config.shared.map CachedGatewayScore.scores =
        (serially ScoreUpdate.effect [updates false, updates true] start).map
          CachedGatewayScore.scores ∨
      config.shared.map CachedGatewayScore.scores =
        (serially ScoreUpdate.effect [updates true, updates false] start).map
          CachedGatewayScore.scores := by
  rcases serial with ⟨order, nodup, inOrder, same⟩
  rcases order_of_two nodup fun index => (inOrder index).mpr (finished index) with rfl | rfl
  · exact Or.inl same
  · exact Or.inr same

/-- Two failed payments that read the record at the same time count once, and a reset that
resets nothing undoes the failed payment that came between its read and its write. -/
theorem not_scoresAreSerial_interleaved :
    (∃ trace config, Interleaving (updateProcess ScoreUpdate.effect)
        (startUpdates none fun _ : Bool => failedPayment) trace config ∧
      config.Done (updateProcess ScoreUpdate.effect) ∧
      config.shared.map CachedGatewayScore.scores = some (some (19 / 20), none) ∧
      ¬ ScoresAreSerial none (fun _ : Bool => failedPayment) config) ∧
    ∃ trace config, Interleaving (updateProcess ScoreUpdate.effect)
        (startUpdates (some freshRecord) fun reset : Bool =>
          if reset then halfReset else failedPayment) trace config ∧
      config.Done (updateProcess ScoreUpdate.effect) ∧
      config.shared.map CachedGatewayScore.scores = some (some 1, none) ∧
      ¬ ScoresAreSerial (some freshRecord) (fun reset : Bool =>
        if reset then halfReset else failedPayment) config := by
  constructor
  · rcases interleaving_runSchedule (updateProcess ScoreUpdate.effect)
      (startUpdates none fun _ : Bool => failedPayment) [false, true, false, true]
      with ⟨trace, run⟩
    refine ⟨trace, _, run, fun index => by cases index <;> rfl, by decide +kernel, ?_⟩
    intro serial
    rcases scores_of_two (fun index => by cases index <;> rfl) serial with same | same <;>
      exact absurd same (by decide +kernel)
  · rcases interleaving_runSchedule (updateProcess ScoreUpdate.effect)
      (startUpdates (some freshRecord) fun reset : Bool =>
        if reset then halfReset else failedPayment) [true, false, false, true] with ⟨trace, run⟩
    refine ⟨trace, _, run, fun index => by cases index <;> rfl, by decide +kernel, ?_⟩
    intro serial
    rcases scores_of_two (fun index => by cases index <;> rfl) serial with same | same <;>
      exact absurd same (by decide +kernel)

end DecisionEngine.Feedback
