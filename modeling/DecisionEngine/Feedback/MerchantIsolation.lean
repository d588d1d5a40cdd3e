import DecisionEngine.Feedback.EliminationScore
import Mathlib.Data.List.Dedup

/-!
# Merchants under one global key

The record of a global key holds a score for each merchant.  The merchant that creates
the record is scored from its first feedback on; a merchant that enters an existing
record is scored from its second feedback on.
-/

namespace DecisionEngine.Feedback

open Number Scoring

variable {F : Type} [MachineNumber F]

/-! ## Runs of feedback -/

/-- The record after the feedback of some payments, one after the other. -/
def runFeedback (events : List (FeedbackUpdate F)) : Option (CachedGatewayScore F) :=
  events.foldl (fun cached update => some (updateKeyScoreForKeysFromConsumer update cached)) none

/-- The merchants that are stored after the events. -/
def storedMerchants (events : List (FeedbackUpdate F)) : List (MerchantScoringDetails F) :=
  ((runFeedback events).bind (·.merchants)).getD []

variable (merchantId : String)

def ownEvents (events : List (FeedbackUpdate F)) :
    List (FeedbackUpdate F) :=
  events.filter fun update => update.merchantId == merchantId

/-- The score that events lead to from the initial score. -/
def foldScore (events : List (FeedbackUpdate F)) : F :=
  events.foldl (fun score update => updateKeyScoreForTxnStatus update score) (ofRat 1)

/-- The scores that are stored for a merchant. -/
def scoresOf (merchants : List (MerchantScoringDetails F)) : List F :=
  (findMerchantFromMerchantArray merchantId merchants).map (·.score)

/-- Events under one global key, none of which finds the record expired or too many
merchants. -/
structure GlobalEvents (events : List (FeedbackUpdate F)) : Prop where
  global : ∀ update ∈ events, isGlobalKey update.scoreKeyType = true
  unexpired : ∀ first ∈ events.head?, ∀ update ∈ events.tail,
    subU128 update.timestamp first.creationTimestamp ≤
      subU128 (getTTLForKey update.reads update.scoreKeyType) 1000
  withinMaximum : ∀ update ∈ events,
    ((events.map (·.merchantId)).dedup.length : Int) ≤
      (getMerchantArrMaxLength update.reads).val

/-- Every merchant has the score of its own events, once, and the list is not too long. -/
structure MerchantsIsolated (events : List (FeedbackUpdate F)) : Prop where
  scores : ∀ merchantId, scoresOf merchantId (storedMerchants events) =
    if ownEvents merchantId events = [] then []
    else [foldScore (ownEvents merchantId events)]
  distinct : ((storedMerchants events).map (·.merchantId)).Nodup
  bounded : ∀ update ∈ events,
    ((storedMerchants events).length : Int) ≤ (getMerchantArrMaxLength update.reads).val

/-! ## One event -/

variable (update : FeedbackUpdate F)

/-- The merchants of a record after an event that finds room for its merchant. -/
def enterOrUpdate (merchants : List (MerchantScoringDetails F)) :
    List (MerchantScoringDetails F) :=
  if update.merchantId ∈ merchants.map (·.merchantId) then
    merchants.map (replaceTransactionCount update)
  else merchants ++ [getDefaultMerchantScoringDetailsArray update (ofRat 1) 1]

variable {merchants : List (MerchantScoringDetails F)}

omit [MachineNumber F] in
theorem isEmpty_findMerchant_iff {merchantId : String} :
    (findMerchantFromMerchantArray merchantId merchants).isEmpty = true ↔
      merchantId ∉ merchants.map (·.merchantId) := by
  simp [findMerchantFromMerchantArray]

theorem updatedMerchants_eq {update : FeedbackUpdate F} {cached : CachedGatewayScore F}
    {merchants : List (MerchantScoringDetails F)}
    (global : isGlobalKey update.scoreKeyType = true) (stored : cached.merchants = some merchants)
    (room : update.merchantId ∉ merchants.map (·.merchantId) →
      (merchants.length : Int) < (getMerchantArrMaxLength update.reads).val) :
    getUpdatedMerchantDetailsForGlobalKey update cached =
      some (enterOrUpdate update merchants) := by
  simp only [getUpdatedMerchantDetailsForGlobalKey, global, if_true, stored, enterOrUpdate]
  by_cases listed : update.merchantId ∈ merchants.map (·.merchantId)
  · have found : ¬ (findMerchantFromMerchantArray update.merchantId merchants).isEmpty = true :=
      fun empty => isEmpty_findMerchant_iff.mp empty listed
    rw [if_neg found, if_pos listed]
  · have below := room listed
    have small := (getMerchantArrMaxLength update.reads).property.2
    have notFull : ¬ (getMerchantArrMaxLength update.reads).val ≤
        truncateToI32 merchants.length := by
      rw [truncateToI32_of_lt (by omega)]
      omega
    rw [if_pos (isEmpty_findMerchant_iff.mpr listed), if_neg notFull, if_neg listed]

variable (merchants : List (MerchantScoringDetails F))

theorem merchantIds_replace :
    (merchants.map (replaceTransactionCount update)).map (·.merchantId) =
      merchants.map (·.merchantId) := by
  rw [List.map_map]
  apply List.map_congr_left
  intro details _
  simp only [Function.comp_apply, replaceTransactionCount]
  split <;> rfl

theorem merchantIds_enterOrUpdate :
    (enterOrUpdate update merchants).map (·.merchantId) =
      if update.merchantId ∈ merchants.map (·.merchantId) then merchants.map (·.merchantId)
      else merchants.map (·.merchantId) ++ [update.merchantId] := by
  rw [enterOrUpdate]
  split
  · exact merchantIds_replace update merchants
  · rw [List.map_append]
    rfl

theorem scoresOf_replace :
    scoresOf merchantId (merchants.map (replaceTransactionCount update)) =
      if update.merchantId = merchantId then
        (scoresOf merchantId merchants).map (updateKeyScoreForTxnStatus update)
      else scoresOf merchantId merchants := by
  induction merchants with
  | nil => simp [scoresOf, findMerchantFromMerchantArray]
  | cons details merchants ih =>
      simp only [scoresOf, findMerchantFromMerchantArray, List.map_cons, List.filter_cons] at ih ⊢
      by_cases own : details.merchantId = update.merchantId
      · by_cases same : update.merchantId = merchantId
        · rw [if_pos same] at ih ⊢
          simp [replaceTransactionCount, own, same, ih]
        · rw [if_neg same] at ih ⊢
          simp [replaceTransactionCount, own, same, ih]
      · by_cases same : update.merchantId = merchantId
        · rw [if_pos same] at ih ⊢
          have other : details.merchantId ≠ merchantId := fun isOwn => own (isOwn.trans same.symm)
          simp [replaceTransactionCount, own, other, ih]
        · rw [if_neg same] at ih ⊢
          simp [replaceTransactionCount, own, ih, apply_ite]

theorem scoresOf_enter :
    scoresOf merchantId
        (merchants ++ [getDefaultMerchantScoringDetailsArray update (ofRat 1) 1]) =
      scoresOf merchantId merchants ++
        if update.merchantId = merchantId then [ofRat 1] else [] := by
  rw [scoresOf, findMerchantFromMerchantArray, List.filter_append, List.map_append]
  congr 1
  by_cases same : update.merchantId = merchantId
  · simp [getDefaultMerchantScoringDetailsArray, same]
  · simp [getDefaultMerchantScoringDetailsArray, same]

/-! ## Runs -/

/-- The score that a merchant gets: of all its events when it has created the record, and
of all but the first when it has entered the record later. -/
def expectedScores (events : List (FeedbackUpdate F)) : List F :=
  if ownEvents merchantId events = [] then []
  else if events.head?.map (·.merchantId) = some merchantId then
    [foldScore (ownEvents merchantId events)]
  else [foldScore (ownEvents merchantId events).tail]

/-- What the record of a global key holds after some events. -/
structure HoldsMerchants (first : FeedbackUpdate F) (events : List (FeedbackUpdate F))
    (record : CachedGatewayScore F) (merchants : List (MerchantScoringDetails F)) : Prop where
  stored : record.merchants = some merchants
  created : record.timestamp = first.creationTimestamp
  distinct : (merchants.map (·.merchantId)).Nodup
  fromEvents : ∀ merchantId ∈ merchants.map (·.merchantId),
    merchantId ∈ events.map (·.merchantId)
  scores : ∀ merchantId, scoresOf merchantId merchants = expectedScores merchantId events

omit [MachineNumber F] in
theorem ownEvents_concat (events : List (FeedbackUpdate F)) (update : FeedbackUpdate F) :
    ownEvents merchantId (events ++ [update]) =
      ownEvents merchantId events ++ if update.merchantId = merchantId then [update] else [] := by
  rw [ownEvents, List.filter_append, ownEvents]
  congr 1
  by_cases own : update.merchantId = merchantId
  · simp [own]
  · simp [own]

theorem foldScore_concat (events : List (FeedbackUpdate F)) (update : FeedbackUpdate F) :
    foldScore (events ++ [update]) = updateKeyScoreForTxnStatus update (foldScore events) := by
  rw [foldScore, List.foldl_append]
  rfl

variable {events : List (FeedbackUpdate F)}

omit [MachineNumber F] in
theorem ownEvents_eq_nil_iff {merchantId : String} :
    ownEvents merchantId events = [] ↔ merchantId ∉ events.map (·.merchantId) := by
  simp [ownEvents]

omit [MachineNumber F] in
theorem scoresOf_eq_nil_iff {merchantId : String}
    {merchants : List (MerchantScoringDetails F)} :
    scoresOf merchantId merchants = [] ↔ merchantId ∉ merchants.map (·.merchantId) := by
  rw [scoresOf, List.map_eq_nil_iff, ← isEmpty_findMerchant_iff, List.isEmpty_iff]

variable {first : FeedbackUpdate F} {events : List (FeedbackUpdate F)}

variable {record : CachedGatewayScore F}

/-- A merchant is listed when it has had an event. -/
theorem HoldsMerchants.mem_iff {merchants : List (MerchantScoringDetails F)}
    (holds : HoldsMerchants first events record merchants) (merchantId : String) :
    merchantId ∈ merchants.map (·.merchantId) ↔ merchantId ∈ events.map (·.merchantId) := by
  rw [← not_iff_not, ← scoresOf_eq_nil_iff, ← ownEvents_eq_nil_iff, holds.scores,
    expectedScores]
  split
  · exact iff_of_true rfl ‹_›
  · split
    · exact iff_of_false (List.cons_ne_nil _ _) ‹_›
    · exact iff_of_false (List.cons_ne_nil _ _) ‹_›

/-- The scores after one more event, of a merchant with or without earlier events. -/
theorem expectedScores_concat (started : events ≠ []) (update : FeedbackUpdate F)
    (merchantId : String) :
    expectedScores merchantId (events ++ [update]) =
      if update.merchantId = merchantId then
        if ownEvents merchantId events = [] then [ofRat 1]
        else (expectedScores merchantId events).map (updateKeyScoreForTxnStatus update)
      else expectedScores merchantId events := by
  have sameHead : (events ++ [update]).head? = events.head? := by
    cases events with
    | nil => exact absurd rfl started
    | cons first rest => rfl
  rw [expectedScores, expectedScores, ownEvents_concat, sameHead]
  by_cases own : update.merchantId = merchantId
  · rw [if_pos own, if_pos own, if_neg (List.append_ne_nil_of_right_ne_nil _ (by simp))]
    by_cases fresh : ownEvents merchantId events = []
    · -- The merchant has not created the record, which has been there before.
      have notCreator : events.head?.map (·.merchantId) ≠ some merchantId := by
        intro creator
        rcases Option.map_eq_some_iff.mp creator with ⟨first, isFirst, isOwn⟩
        apply ownEvents_eq_nil_iff.mp fresh
        exact List.mem_map.mpr ⟨first, List.mem_of_mem_head? isFirst, isOwn⟩
      rw [if_neg notCreator, if_pos fresh, fresh]
      rfl
    · rw [if_neg fresh, if_neg fresh]
      by_cases creator : events.head?.map (·.merchantId) = some merchantId
      · rw [if_pos creator, if_pos creator, foldScore_concat]
        rfl
      · rw [if_neg creator, if_neg creator, List.tail_append_of_ne_nil fresh, foldScore_concat]
        rfl
  · rw [if_neg own, if_neg own, List.append_nil]

theorem holdsMerchants_first (global : isGlobalKey first.scoreKeyType = true) :
    HoldsMerchants first [first] (updateKeyScoreForKeysFromConsumer first none)
      [replaceTransactionCount first
        (getDefaultMerchantScoringDetailsArray first (ofRat 1) 0)] := by
  have created : getNewCachedGatewayScore first =
      { merchants := some [getDefaultMerchantScoringDetailsArray first (ofRat 1) 0]
        score := none
        timestamp := first.creationTimestamp
        lastResetTimestamp := none
        transactionCount := none } := by
    rw [getNewCachedGatewayScore, if_pos global]
  have listed : first.merchantId ∈ ([getDefaultMerchantScoringDetailsArray first (ofRat 1) 0]).map
      (·.merchantId) := List.mem_cons_self
  constructor
  · simp only [updateKeyScoreForKeysFromConsumer, gwScoreToBeUpdated, created]
    rw [updatedMerchants_eq global rfl fun missing => absurd listed missing, enterOrUpdate,
      if_pos listed]
    rfl
  · simp only [updateKeyScoreForKeysFromConsumer, gwScoreToBeUpdated, created]
  · exact List.nodup_singleton _
  · intro merchantId
    rw [← List.map_singleton, merchantIds_replace]
    exact id
  · intro merchantId
    rw [← List.map_singleton, scoresOf_replace, expectedScores]
    by_cases own : first.merchantId = merchantId
    · simp [own, scoresOf, findMerchantFromMerchantArray, getDefaultMerchantScoringDetailsArray,
        ownEvents, foldScore]
    · simp [own, scoresOf, findMerchantFromMerchantArray, getDefaultMerchantScoringDetailsArray,
        ownEvents]

/-- One more event keeps what the record holds. -/
theorem holdsMerchants_next {first update : FeedbackUpdate F}
    {events : List (FeedbackUpdate F)} {record : CachedGatewayScore F}
    {merchants : List (MerchantScoringDetails F)}
    (holds : HoldsMerchants first events record merchants) (started : events ≠ [])
    (global : isGlobalKey update.scoreKeyType = true)
    (unexpired : subU128 update.timestamp first.creationTimestamp ≤
      subU128 (getTTLForKey update.reads update.scoreKeyType) 1000)
    (room : update.merchantId ∉ merchants.map (·.merchantId) →
      (merchants.length : Int) < (getMerchantArrMaxLength update.reads).val) :
    HoldsMerchants first (events ++ [update])
      (updateKeyScoreForKeysFromConsumer update (some record))
      (enterOrUpdate update merchants) := by
  have kept : gwScoreToBeUpdated update (some record) = record := by
    have young : ¬ hasPersistedLongerThanHardTtl update record = true := by
      rw [hasPersistedLongerThanHardTtl, holds.created, decide_eq_true_eq]
      exact not_lt.mpr unexpired
    rw [gwScoreToBeUpdated, if_neg young]
  constructor
  · simp only [updateKeyScoreForKeysFromConsumer, kept]
    exact updatedMerchants_eq global holds.stored room
  · simp only [updateKeyScoreForKeysFromConsumer, kept]
    exact holds.created
  · rw [merchantIds_enterOrUpdate]
    split
    · exact holds.distinct
    · rw [← List.concat_eq_append]
      exact List.Nodup.concat ‹_› holds.distinct
  · intro merchantId
    rw [merchantIds_enterOrUpdate, List.map_append]
    split
    · intro listed
      exact List.mem_append_left _ (holds.fromEvents merchantId listed)
    · intro listed
      rcases List.mem_append.mp listed with earlier | entered
      · exact List.mem_append_left _ (holds.fromEvents merchantId earlier)
      · exact List.mem_append_right _ entered
  · intro merchantId
    rw [expectedScores_concat started, enterOrUpdate, ← holds.scores]
    by_cases listed : update.merchantId ∈ merchants.map (·.merchantId)
    · rw [if_pos listed, scoresOf_replace]
      by_cases own : update.merchantId = merchantId
      · have hasEvents : ownEvents merchantId events ≠ [] := by
          rw [Ne, ownEvents_eq_nil_iff, not_not, ← holds.mem_iff, ← own]
          exact listed
        rw [if_pos own, if_pos own, if_neg hasEvents]
      · rw [if_neg own, if_neg own]
    · rw [if_neg listed, scoresOf_enter]
      by_cases own : update.merchantId = merchantId
      · have noEvents : ownEvents merchantId events = [] := by
          rw [ownEvents_eq_nil_iff, ← holds.mem_iff, ← own]
          exact listed
        rw [if_pos own, if_pos own, if_pos noEvents, scoresOf_eq_nil_iff.mpr (own ▸ listed)]
        rfl
      · rw [if_neg own, if_neg own, List.append_nil]

omit [MachineNumber F] in
/-- Distinct merchants that had events are at most as many as the merchants of the events. -/
theorem length_le_dedup {merchantIds : List String} (distinct : merchantIds.Nodup)
    (fromEvents : ∀ merchantId ∈ merchantIds, merchantId ∈ events.map (·.merchantId)) :
    merchantIds.length ≤ (events.map (·.merchantId)).dedup.length :=
  (List.subperm_of_subset distinct fun merchantId listed =>
    List.mem_dedup.mpr (fromEvents merchantId listed)).length_le

omit [MachineNumber F] in
theorem GlobalEvents.init {update : FeedbackUpdate F} (global : GlobalEvents (events ++ [update])) :
    GlobalEvents events := by
  constructor
  · intro other listed
    exact global.global other (List.mem_append_left _ listed)
  · intro first isFirst other later
    cases events with
    | nil => cases isFirst
    | cons head rest => exact global.unexpired first isFirst other (List.mem_append_left _ later)
  · intro other listed
    have within := global.withinMaximum other (List.mem_append_left _ listed)
    have fewer : (events.map (·.merchantId)).dedup.length ≤
        ((events ++ [update]).map (·.merchantId)).dedup.length := by
      apply (List.subperm_of_subset (List.nodup_dedup _) _).length_le
      intro merchantId
      rw [List.mem_dedup, List.mem_dedup, List.map_append]
      exact List.mem_append_left _
    omega

/-- After some events the record holds every merchant with its expected score. -/
theorem holdsMerchants_runFeedback {rest : List (FeedbackUpdate F)}
    (events : GlobalEvents (first :: rest)) :
    ∃ record merchants, runFeedback (first :: rest) = some record ∧
      HoldsMerchants first (first :: rest) record merchants := by
  induction rest using List.reverseRecOn with
  | nil =>
      exact ⟨_, _, rfl, holdsMerchants_first (events.global first List.mem_cons_self)⟩
  | append_singleton rest update ih =>
      rw [← List.cons_append] at events ⊢
      rcases ih events.init with ⟨record, merchants, ran, holds⟩
      have listed : update ∈ first :: rest ++ [update] :=
        List.mem_append_right _ (List.mem_singleton_self update)
      refine ⟨_, _, ?_, holdsMerchants_next holds (List.cons_ne_nil first rest)
        (events.global update listed)
        (events.unexpired first rfl update (List.mem_append_right rest
          (List.mem_singleton_self update))) ?_⟩
      · rw [runFeedback, List.foldl_append]
        rw [runFeedback] at ran
        rw [ran]
        rfl
      · intro missing
        have within := events.withinMaximum update listed
        have bounded : (merchants.map (·.merchantId) ++ [update.merchantId]).length ≤
            ((first :: rest ++ [update]).map (·.merchantId)).dedup.length := by
          apply length_le_dedup
          · rw [← List.concat_eq_append]
            exact List.Nodup.concat missing holds.distinct
          · intro merchantId
            rw [List.map_append, List.mem_append, List.mem_append]
            exact Or.imp_left (holds.fromEvents merchantId)
        rw [List.length_append, List.length_map, List.length_singleton] at bounded
        omega

/-! ## Isolation -/

theorem expectedScores_eq_iff {merchantId : String} :
    (expectedScores merchantId events = if ownEvents merchantId events = [] then []
        else [foldScore (ownEvents merchantId events)]) ↔
      (events.head?.map (·.merchantId) ≠ some merchantId →
        foldScore (ownEvents merchantId events).tail =
          foldScore (ownEvents merchantId events)) := by
  rw [expectedScores]
  by_cases none : ownEvents merchantId events = []
  · rw [if_pos none, if_pos none, none]
    exact iff_of_true rfl fun _ => rfl
  · rw [if_neg none, if_neg none]
    by_cases creator : events.head?.map (·.merchantId) = some merchantId
    · rw [if_pos creator]
      exact iff_of_true rfl fun notCreator => absurd creator notCreator
    · rw [if_neg creator, List.singleton_inj]
      exact ⟨fun same _ => same, fun same => same creator⟩

/-- The merchants are isolated exactly when every merchant but the one whose event has
created the record gets the same score from its events without the first. -/
theorem merchantsIsolated_iff (global : GlobalEvents events) :
    MerchantsIsolated events ↔
      ∀ merchantId, events.head?.map (·.merchantId) ≠ some merchantId →
        foldScore (ownEvents merchantId events).tail =
          foldScore (ownEvents merchantId events) := by
  cases events with
  | nil =>
      apply iff_of_true _ fun _ _ => rfl
      exact ⟨fun _ => rfl, List.nodup_nil, fun update listed => absurd listed List.not_mem_nil⟩
  | cons first rest =>
      rcases holdsMerchants_runFeedback global with ⟨record, merchants, ran, holds⟩
      have isStored : storedMerchants (first :: rest) = merchants := by
        rw [storedMerchants, ran, Option.bind_some, holds.stored, Option.getD_some]
      constructor
      · intro isolated merchantId
        rw [← expectedScores_eq_iff, ← holds.scores, ← isStored]
        exact isolated.scores merchantId
      · intro same
        constructor
        · intro merchantId
          rw [isStored, holds.scores]
          exact expectedScores_eq_iff.mpr (same merchantId)
        · rw [isStored]
          exact holds.distinct
        · intro update listed
          have fewer := length_le_dedup holds.distinct holds.fromEvents
          have within := global.withinMaximum update listed
          rw [List.length_map] at fewer
          rw [isStored]
          omega

/-- The feedback of a payment of a merchant, without configurations. -/
def plainFeedback (gatewayScoringType : GatewayScoringType) :
    FeedbackUpdate ℚ where
  scoreKeyType := .eliminationGlobalKey
  gatewayScoringType := gatewayScoringType
  merchantId := merchantId
  timestamp := 1000
  creationTimestamp := 1000
  detailsTimestamp := 1000
  reads := noUpdateReads

/-- Feedback without configurations is well within the time to live and the maximum. -/
theorem globalEvents_plainFeedback (payments : List (String × GatewayScoringType))
    (few : ((payments.map Prod.fst).dedup.length : Int) ≤ 40) :
    GlobalEvents (payments.map fun payment => plainFeedback payment.1 payment.2) := by
  constructor
  · intro update listed
    rcases List.mem_map.mp listed with ⟨payment, -, rfl⟩
    rfl
  · intro first isFirst update later
    rcases List.mem_map.mp (List.mem_of_mem_head? isFirst) with ⟨payment, -, rfl⟩
    rcases List.mem_map.mp (List.mem_of_mem_tail later) with ⟨other, -, rfl⟩
    exact (by decide : subU128 1000 1000 ≤ subU128 1800000 1000)
  · intro update listed
    rcases List.mem_map.mp listed with ⟨payment, -, rfl⟩
    rw [List.map_map]
    exact few

theorem merchantsIsolated_iff_reward :
    MerchantsIsolated [plainFeedback "a" .penalise, plainFeedback "b" .reward] ↔
      ∀ merchantId,
        ([plainFeedback "a" .penalise, plainFeedback "b" .reward].head?.map (·.merchantId)) ≠
          some merchantId →
        foldScore (ownEvents merchantId
            [plainFeedback "a" .penalise, plainFeedback "b" .reward]).tail =
          foldScore (ownEvents merchantId
            [plainFeedback "a" .penalise, plainFeedback "b" .reward]) :=
  merchantsIsolated_iff (globalEvents_plainFeedback [("a", .penalise), ("b", .reward)] (by decide))

/-- One failed payment each of two merchants: the second keeps the initial score. -/
theorem not_merchantsIsolated_penalised :
    GlobalEvents [plainFeedback "a" .penalise, plainFeedback "b" .penalise] ∧
      scoresOf "a" (storedMerchants
        [plainFeedback "a" .penalise, plainFeedback "b" .penalise]) = [19 / 20] ∧
      scoresOf "b" (storedMerchants
        [plainFeedback "a" .penalise, plainFeedback "b" .penalise]) = [1] ∧
      foldScore (ownEvents "b" [plainFeedback "a" .penalise, plainFeedback "b" .penalise]) =
        19 / 20 ∧
      ¬ MerchantsIsolated [plainFeedback "a" .penalise, plainFeedback "b" .penalise] := by
  have events : GlobalEvents [plainFeedback "a" .penalise, plainFeedback "b" .penalise] :=
    globalEvents_plainFeedback [("a", .penalise), ("b", .penalise)] (by decide)
  have first : scoresOf "a" (storedMerchants
      [plainFeedback "a" .penalise, plainFeedback "b" .penalise]) = [19 / 20] := by
    decide +kernel
  have second : scoresOf "b" (storedMerchants
      [plainFeedback "a" .penalise, plainFeedback "b" .penalise]) = [1] := by
    decide +kernel
  have folded : foldScore (ownEvents "b"
      [plainFeedback "a" .penalise, plainFeedback "b" .penalise]) = 19 / 20 := by
    decide +kernel
  refine ⟨events, first, second, folded, fun isolated => ?_⟩
  have scores := isolated.scores "b"
  rw [second, folded] at scores
  exact absurd scores (by decide +kernel)

end DecisionEngine.Feedback
