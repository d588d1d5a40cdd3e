import DecisionEngine.Feedback.PaymentIsolation
import DecisionEngine.Scoring.KeyAgreement
import DecisionEngine.Scoring.KeySegments

/-!
# Histories of payments

The feedback for a payment goes through the record of its experiment, its scoring data, its lock
and its scores.  Each step keeps the agreement with the run of one merchant alone, and so does
every history in which the requests of different merchants are undisturbed by one another.
-/

namespace DecisionEngine.Feedback

open AbTest Map Number Scoring Text Transition

variable {F : Type} {configs : ServiceConfigs} {merchantId owner lockKey : String}
  {first second : PaymentStore F}

/-! ## Locks -/

section

variable (agrees : Agrees configs merchantId first second)

include agrees

theorem Agrees.of_locks {locks others : String → Option (Written String)}
    (same : ∀ key, SameUnlessOther Written.merchantId merchantId (locks key) (others key)) :
    Agrees configs merchantId { first with locks := locks } { second with locks := others } :=
  ⟨agrees.scoringData, agrees.inflight, same, agrees.scores.windows, agrees.scores.records,
    agrees.scores.outcomes⟩

theorem Agrees.lock (lockKey : String) :
    Agrees configs merchantId
      (first.checkAndSendShouldUpdateGatewayScore merchantId lockKey).2
      (second.checkAndSendShouldUpdateGatewayScore merchantId lockKey).2 := by
  rw [PaymentStore.checkAndSendShouldUpdateGatewayScore,
    PaymentStore.checkAndSendShouldUpdateGatewayScore]
  rcases agrees.locks lockKey with ⟨lock, isLock, other⟩ | same
  · -- another merchant holds the lock, and in the other run it may be free
    rw [isLock]
    cases second.locks lockKey with
    | some _ => exact agrees
    | none =>
        apply agrees.of_locks
        intro key
        by_cases isKey : key = lockKey
        · rw [isKey, isLock]
          exact .inl ⟨lock, rfl, other⟩
        · rw [Function.update_of_ne isKey]
          exact agrees.locks key
  · rw [same]
    cases second.locks lockKey with
    | some _ => exact agrees
    | none => exact agrees.of_locks (sameUnlessOther_update agrees.locks lockKey _)

theorem Agrees.lock_other (different : owner ≠ merchantId) (lockKey : String) :
    Agrees configs merchantId (first.checkAndSendShouldUpdateGatewayScore owner lockKey).2
      second := by
  rw [PaymentStore.checkAndSendShouldUpdateGatewayScore]
  cases first.locks lockKey with
  | some _ => exact agrees
  | none => exact agrees.of_locks (sameUnlessOther_update_other agrees.locks lockKey different)

/-- Where no other merchant holds the lock, both runs find it free or both find it set. -/
theorem Agrees.lock_eq (owned : OwnedBy Written.merchantId merchantId (first.locks lockKey)) :
    (first.checkAndSendShouldUpdateGatewayScore merchantId lockKey).1 =
      (second.checkAndSendShouldUpdateGatewayScore merchantId lockKey).1 := by
  rw [PaymentStore.checkAndSendShouldUpdateGatewayScore,
    PaymentStore.checkAndSendShouldUpdateGatewayScore, (agrees.locks lockKey).eq owned]
  cases second.locks lockKey <;> rfl

end

/-! ## Scores -/

variable {request : UpdateRequest F} {gatewayScoringType : GatewayScoringType} {txn : FeedbackTxn}
  {data : StoredScoringData}

/-- The feedback has a window for every payment with scoring data. -/
theorem exists_producerKey (configs : ServiceConfigs) (request : UpdateRequest F)
    (data : GatewayScoringData) :
    ∃ key, request.producerKey configs (some data) .srV3Key = some key := by
  rw [UpdateRequest.producerKey, getProducerKey_eq]
  exact ⟨_, keyFor_mapEntries (lookup_singleton _ _) _⟩

variable {key : RedisKey}

theorem sameWindow_updateSrV3Score {windows others : Redis.Store}
    (same : SameWindow key windows others) (stored : Option StoredScoringData) :
    SameWindow key (request.updateSrV3Score configs gatewayScoringType txn stored windows)
      (request.updateSrV3Score configs gatewayScoringType txn stored others) :=
  (onWindow_updateScoreAndQueue _ _).sameWindow same

theorem sameWindow_updateSrV3Score_other {windows others : Redis.Store}
    (noKey : request.producerKey configs (some data.toGatewayScoringData) .srV3Key ≠ some key)
    (same : SameWindow key windows others) :
    SameWindow key (request.updateSrV3Score configs gatewayScoringType txn (some data) windows)
      others := by
  rcases exists_producerKey configs request data.toGatewayScoringData with ⟨written, isWritten⟩
  have differ : key ≠ written := by
    rintro rfl
    exact noKey isWritten
  rw [UpdateRequest.updateSrV3Score, Option.map_some, isWritten]
  exact (onWindow_updateScoreAndQueue _ _).sameWindow_of_ne differ same

section Runs

variable [MachineNumber F]

theorem updateRecords_congr {key : RedisKey}
    {records others : RedisKey → Option (CachedGatewayScore F)}
    (same : records key = others key) :
    request.updateRecords configs gatewayScoringType txn data records key =
      request.updateRecords configs gatewayScoringType txn data others key := by
  rw [UpdateRequest.updateRecords, UpdateRequest.updateRecords]
  induction request.getAllUnifiedKeys configs data generalizing records others with
  | nil => exact same
  | cons entry rest ih =>
      apply ih
      exact update_congr_at same entry.2 fun record =>
        some (updateKeyScoreForKeysFromConsumer
          (request.feedbackUpdate gatewayScoringType txn data entry.1) record)

theorem updateRecords_other {key : RedisKey}
    {records : RedisKey → Option (CachedGatewayScore F)}
    (noKey : ∀ entry ∈ request.getAllUnifiedKeys configs data, entry.2 ≠ key) :
    request.updateRecords configs gatewayScoringType txn data records key = records key := by
  rw [UpdateRequest.updateRecords]
  generalize request.getAllUnifiedKeys configs data = entries at noKey
  induction entries generalizing records with
  | nil => rfl
  | cons entry rest ih =>
      rw [List.foldl_cons, ih fun later listed => noKey later (List.mem_cons_of_mem _ listed)]
      exact Function.update_of_ne (noKey entry List.mem_cons_self).symm _ _

/-- What an own request finds is the same in both runs. -/
theorem Agrees.updateGatewayScore (agrees : Agrees configs merchantId first second)
    (sameData : first.scoringData (gatewayScoringDataKey request.payload.paymentId) =
      second.scoringData (gatewayScoringDataKey request.payload.paymentId)) :
    Agrees configs merchantId (request.updateGatewayScore configs gatewayScoringType txn first)
      (request.updateGatewayScore configs gatewayScoringType txn second) where
  scoringData := agrees.scoringData
  inflight := agrees.inflight
  locks := agrees.locks
  scores := by
    simp only [UpdateRequest.updateGatewayScore, sameData]
    refine ⟨fun key isKey => ?_, fun key isKey => ?_, agrees.scores.outcomes⟩
    · have same := agrees.scores.windows key isKey
      dsimp only
      split
      · exact sameWindow_updateSrV3Score same _
      · exact same
    · have same := agrees.scores.records key isKey
      dsimp only
      split
      · cases second.scoringData (gatewayScoringDataKey request.payload.paymentId) with
        | none => exact same
        | some data => exact updateRecords_congr same
      · exact same

/-- The keys that the stored data lead to are not those of the merchant. -/
theorem Agrees.updateGatewayScore_other (agrees : Agrees configs merchantId first second)
    (stored : first.scoringData (gatewayScoringDataKey request.payload.paymentId) = some data)
    (windows : ∀ key,
      request.producerKey configs (some data.toGatewayScoringData) .srV3Key = some key →
        ¬IsKeyOf configs merchantId .srV3Key key)
    (records : ∀ entry ∈ request.getAllUnifiedKeys configs data,
      ¬IsRecordKeyOf configs merchantId entry.2) :
    Agrees configs merchantId (request.updateGatewayScore configs gatewayScoringType txn first)
      second where
  scoringData := agrees.scoringData
  inflight := agrees.inflight
  locks := agrees.locks
  scores := by
    simp only [UpdateRequest.updateGatewayScore, stored]
    refine ⟨fun key isKey => ?_, fun key isKey => ?_, agrees.scores.outcomes⟩
    · have same := agrees.scores.windows key isKey
      dsimp only
      split
      · exact sameWindow_updateSrV3Score_other (fun found => windows key found isKey) same
      · exact same
    · have same := agrees.scores.records key isKey
      dsimp only
      split
      · rw [Option.elim_some, updateRecords_other ?_]
        · exact same
        · rintro entry listed rfl
          exact records entry listed isKey
      · exact same

/-! ## Requests -/

theorem Agrees.checkAndUpdateGatewayScore {enforceFailure : Bool}
    (agrees : Agrees configs request.payload.merchantId first second)
    (sameData : first.scoringData (gatewayScoringDataKey request.payload.paymentId) =
      second.scoringData (gatewayScoringDataKey request.payload.paymentId))
    (owned : request.reads.updateScoreLockEnabled = true →
      OwnedBy Written.merchantId request.payload.merchantId
        (first.locks (request.lockKey txn enforceFailure))) :
    (request.checkAndUpdateGatewayScore configs txn enforceFailure first).1 =
        (request.checkAndUpdateGatewayScore configs txn enforceFailure second).1 ∧
      Agrees configs request.payload.merchantId
        (request.checkAndUpdateGatewayScore configs txn enforceFailure first).2
        (request.checkAndUpdateGatewayScore configs txn enforceFailure second).2 := by
  have locked := agrees.lock (request.lockKey txn enforceFailure)
  have sameLock : (request.reads.updateScoreLockEnabled &&
      !(first.checkAndSendShouldUpdateGatewayScore request.payload.merchantId
        (request.lockKey txn enforceFailure)).1) =
      (request.reads.updateScoreLockEnabled &&
        !(second.checkAndSendShouldUpdateGatewayScore request.payload.merchantId
          (request.lockKey txn enforceFailure)).1) := by
    cases enabled : request.reads.updateScoreLockEnabled with
    | false => rfl
    | true => rw [agrees.lock_eq (owned enabled)]
  rw [UpdateRequest.checkAndUpdateGatewayScore, UpdateRequest.checkAndUpdateGatewayScore]
  rw [sameLock]
  split
  · exact ⟨rfl, locked⟩
  · split
    · refine ⟨rfl, locked.updateGatewayScore ?_⟩
      rw [scoringData_checkAndSendShouldUpdateGatewayScore,
        scoringData_checkAndSendShouldUpdateGatewayScore, sameData]
    · exact ⟨rfl, locked⟩

theorem Agrees.checkAndUpdateGatewayScore_other {enforceFailure : Bool}
    (agrees : Agrees configs merchantId first second)
    (different : request.payload.merchantId ≠ merchantId)
    (stored : first.scoringData (gatewayScoringDataKey request.payload.paymentId) = some data)
    (windows : ∀ key,
      request.producerKey configs (some data.toGatewayScoringData) .srV3Key = some key →
        ¬IsKeyOf configs merchantId .srV3Key key)
    (records : ∀ entry ∈ request.getAllUnifiedKeys configs data,
      ¬IsRecordKeyOf configs merchantId entry.2) :
    Agrees configs merchantId
      (request.checkAndUpdateGatewayScore configs txn enforceFailure first).2 second := by
  have locked := agrees.lock_other different (request.lockKey txn enforceFailure)
  rw [UpdateRequest.checkAndUpdateGatewayScore]
  split
  · exact locked
  · split
    · refine locked.updateGatewayScore_other ?_ windows records
      rw [scoringData_checkAndSendShouldUpdateGatewayScore, stored]
    · exact locked

theorem Agrees.update (agrees : Agrees configs request.payload.merchantId first second)
    (undisturbed : UndisturbedUpdate configs request.payload.merchantId first request) :
    (request.checkAndUpdateGatewayScoreFromPayload configs first).1 =
        (request.checkAndUpdateGatewayScoreFromPayload configs second).1 ∧
      Agrees configs request.payload.merchantId
        (request.checkAndUpdateGatewayScoreFromPayload configs first).2
        (request.checkAndUpdateGatewayScoreFromPayload configs second).2 := by
  have emitted := agrees.emitIfInFlight undisturbed.experiment
    (isTransactionSuccess request.payload.status)
  rw [UpdateRequest.checkAndUpdateGatewayScoreFromPayload,
    UpdateRequest.checkAndUpdateGatewayScoreFromPayload]
  cases skips : request.skipsPenalization with
  | true => exact ⟨rfl, emitted⟩
  | false =>
      have sameData := (agrees.scoringData
        (gatewayScoringDataKey request.payload.paymentId)).eq (undisturbed.scoringData rfl skips)
      simp only [PaymentStore.scoringData_emitIfInFlight, sameData, if_neg Bool.false_ne_true]
      cases stored : second.scoringData (gatewayScoringDataKey request.payload.paymentId) with
      | none => exact ⟨rfl, emitted⟩
      | some data =>
          dsimp only
          cases isTxn : request.feedbackTxn data with
          | error error => exact ⟨rfl, emitted⟩
          | ok txn =>
              apply emitted.checkAndUpdateGatewayScore
              · simpa using sameData
              · intro enabled
                rw [PaymentStore.locks_emitIfInFlight]
                exact undisturbed.lock rfl skips enabled data txn (sameData.trans stored) isTxn

theorem Agrees.update_other (agrees : Agrees configs merchantId first second)
    (different : request.payload.merchantId ≠ merchantId)
    (undisturbed : UndisturbedUpdate configs merchantId first request) :
    Agrees configs merchantId (request.checkAndUpdateGatewayScoreFromPayload configs first).2
      second := by
  have emitted := agrees.emitIfInFlight_other different undisturbed.experiment
    (isTransactionSuccess request.payload.status)
  rw [UpdateRequest.checkAndUpdateGatewayScoreFromPayload]
  cases skips : request.skipsPenalization with
  | true => exact emitted
  | false =>
      simp only [PaymentStore.scoringData_emitIfInFlight, if_neg Bool.false_ne_true]
      cases stored : first.scoringData (gatewayScoringDataKey request.payload.paymentId) with
      | none => exact emitted
      | some data =>
          dsimp only
          cases isTxn : request.feedbackTxn data with
          | error error => exact emitted
          | ok txn =>
              apply emitted.checkAndUpdateGatewayScore_other different
              · rw [PaymentStore.scoringData_emitIfInFlight, stored]
              · exact undisturbed.windows different skips data stored
              · exact undisturbed.records different skips data stored

/-- What is so under a key is still so after some key has expired. -/
theorem relates_expire {α : Type} (relates : Option α → Option α → Prop)
    (atNone : relates none none) {values others : String → Option α} {key : String}
    (related : relates (values key) (others key)) (expired : String) :
    relates (Function.update values expired none key)
      (Function.update others expired none key) := by
  by_cases isKey : key = expired
  · rw [isKey, Function.update_self, Function.update_self]
    exact atNone
  · rw [Function.update_of_ne isKey, Function.update_of_ne isKey]
    exact related

omit [MachineNumber F] in
theorem Agrees.expire (agrees : Agrees configs merchantId first second) (key : StoredKey) :
    Agrees configs merchantId (first.expire key) (second.expire key) := by
  rcases agrees with ⟨scoringData, inflight, locks, windows, records, outcomes⟩
  cases key with
  | scoringData expired =>
      exact ⟨sameUnlessOther_update scoringData expired none, inflight, locks, windows, records,
        outcomes⟩
  | inflight expired =>
      refine ⟨scoringData, fun key => ?_, locks, windows, records, outcomes⟩
      exact relates_expire (fun found other => other = found.filter _) rfl (inflight key) expired
  | lock expired =>
      exact ⟨scoringData, inflight, sameUnlessOther_update locks expired none, windows, records,
        outcomes⟩
  | window expired =>
      refine ⟨scoringData, inflight, locks, fun key isKey => ?_, records, outcomes⟩
      rcases windows key isKey with ⟨queue, score⟩
      exact ⟨relates_expire Eq rfl queue expired, relates_expire Eq rfl score expired⟩
  | record expired =>
      exact ⟨scoringData, inflight, locks, windows,
        fun key isKey => relates_expire Eq rfl (records key isKey) expired, outcomes⟩

end Runs

/-! ## Merchants with plain ids -/

/-- The id is one word of a key, and none with which a kind of keys begins. -/
structure PlainId (merchantId : String) : Prop where
  nonempty : merchantId ≠ ""
  oneWord : '_' ∉ merchantId.toList
  notOutage : merchantId ≠ "outage"
  notGlobal : merchantId ≠ "global"

/-- The word at a place between the underscores of a key. -/
def wordAt (place : Nat) (key : RedisKey) : Option String :=
  (split '_' key)[place]?

theorem split_intercalate (start : String) (parts : List String) :
    split '_' (intercalateWithoutEmptyString "_" (start :: parts)) =
      split '_' (shownPart start) ++ parts.flatMap fun part => split '_' (shownPart part) := by
  rw [intercalateWithoutEmptyString_eq, split_join (by simp), List.flatMap_map,
    List.flatMap_cons]

theorem PlainId.split_key (plain : PlainId merchantId) (start : String) (parts : List String) :
    split '_' (intercalateWithoutEmptyString "_" (start :: merchantId :: parts)) =
      split '_' (shownPart start) ++
        merchantId :: parts.flatMap fun part => split '_' (shownPart part) := by
  rw [split_intercalate, List.flatMap_cons, shownPart_of_ne_empty plain.nonempty,
    split_of_notMem plain.oneWord, List.singleton_append]

theorem split_prefixes :
    split '_' (shownPart gatewaySelectionV3OrderTypeKeyPrefix) = ["\x7bgw", "sr", "v3", "score"] ∧
      split '_' (shownPart eliminationBasedRoutingKeyPrefix) = ["gw", "score"] ∧
      split '_' (shownPart merchantLevelOutageKeyPrefix) = ["gw", "score", "outage"] ∧
      split '_' (shownPart eliminationBasedRoutingGlobalKeyPrefix) = ["gw", "score", "global"] ∧
      split '_' (shownPart globalLevelOutageKeyPrefix) =
        ["gw", "score", "global", "outage"] := by
  decide

section Words

variable {scoringData : GatewayScoringData} {refIds : GatewayReferenceIdMap} {gateway : Gateway}
  {key : RedisKey}

theorem wordAt_srV3Key (plain : PlainId scoringData.merchantId)
    (found : (getUnifiedKey configs scoringData .srV3Key false refIds).lookup gateway =
      some key) : wordAt 4 key = some scoringData.merchantId := by
  rw [getUnifiedKey, lookup_mapEntries, Option.map_eq_some_iff] at found
  rcases found with ⟨referenceId, -, rfl⟩
  have words : ∀ parts, wordAt 4 (intercalateWithoutEmptyString "_"
      (gatewaySelectionV3OrderTypeKeyPrefix :: scoringData.merchantId :: parts)) =
        some scoringData.merchantId := by
    intro parts
    rw [wordAt, plain.split_key, split_prefixes.1]
    rfl
  rw [getUnifiedSrKey_eq]
  split
  · rw [intercalate_key_cons _ _ (srKeyPrefix_ne_empty true)]
    exact words _
  · rw [intercalate_key_cons _ _ (srKeyPrefix_ne_empty true)]
    exact words _

/-- The id follows the prefix of the elimination keys or of the outage keys. -/
def HasRecordWords (merchantId : String) (key : RedisKey) : Prop :=
  wordAt 2 key = some merchantId ∨ wordAt 2 key = some "outage" ∧ wordAt 3 key = some merchantId

theorem hasRecordWords_eliminationMerchantKey (plain : PlainId scoringData.merchantId)
    (found : (getUnifiedKey configs scoringData .eliminationMerchantKey false refIds).lookup
      gateway = some key) : HasRecordWords scoringData.merchantId key := by
  rw [getUnifiedKey, lookup_mapEntries, Option.map_eq_some_iff] at found
  rcases found with ⟨referenceId, -, rfl⟩
  have words : ∀ parts, wordAt 2 (intercalateWithoutEmptyString "_"
      (eliminationBasedRoutingKeyPrefix :: scoringData.merchantId :: parts)) =
        some scoringData.merchantId := by
    intro parts
    rw [wordAt, plain.split_key, split_prefixes.2.1]
    rfl
  left
  split
  · exact words _
  · exact words _

omit configs in
theorem eq_of_lookup_sharedKey {content : RedisKey}
    (found : (sharedKey content).lookup gateway = some key) : content = key := by
  have listed := AList.mem_lookup_iff.mp found
  cases List.mem_singleton.mp listed
  rfl

theorem hasRecordWords_outageMerchantKey (plain : PlainId scoringData.merchantId)
    (found : (getUnifiedKey configs scoringData .outageMerchantKey false refIds).lookup
      gateway = some key) : HasRecordWords scoringData.merchantId key := by
  rcases eq_of_lookup_sharedKey found with rfl
  right
  rw [wordAt, wordAt, List.cons_append, List.cons_append, plain.split_key,
    split_prefixes.2.2.1]
  exact ⟨rfl, rfl⟩

theorem wordAt_eliminationGlobalKey
    (found : (getUnifiedKey configs scoringData .eliminationGlobalKey false refIds).lookup
      gateway = some key) : wordAt 2 key = some "global" := by
  rw [getUnifiedKey, lookup_mapEntries, Option.map_eq_some_iff] at found
  rcases found with ⟨referenceId, -, rfl⟩
  rw [wordAt, List.append_assoc, List.cons_append, split_intercalate, split_prefixes.2.2.2.1]
  rfl

theorem wordAt_outageGlobalKey
    (found : (getUnifiedKey configs scoringData .outageGlobalKey false refIds).lookup
      gateway = some key) : wordAt 2 key = some "global" := by
  rcases eq_of_lookup_sharedKey found with rfl
  rw [wordAt, List.cons_append, split_intercalate, split_prefixes.2.2.2.2]
  rfl

theorem IsKeyOf.wordAt (plain : PlainId merchantId)
    (isKey : IsKeyOf configs merchantId .srV3Key key) :
    wordAt 4 key = some merchantId := by
  rcases isKey with ⟨reads, payment, refIds, gateway, rfl, found⟩
  have sameMerchant := merchantId_getGatewayScoringData reads payment
  rw [← sameMerchant] at plain ⊢
  exact wordAt_srV3Key plain found

theorem IsRecordKeyOf.hasRecordWords (plain : PlainId merchantId)
    (isKey : IsRecordKeyOf configs merchantId key) : HasRecordWords merchantId key := by
  rcases isKey with ⟨reads, payment, refIds, gateway, rfl, found⟩ |
    ⟨reads, payment, refIds, gateway, rfl, found⟩
  · rw [← merchantId_getGatewayScoringData reads payment] at plain ⊢
    exact hasRecordWords_eliminationMerchantKey plain found
  · rw [← merchantId_getGatewayScoringData reads payment] at plain ⊢
    exact hasRecordWords_outageMerchantKey plain found

end Words

/-- Keys of different merchants have different words. -/
theorem merchantId_eq_of_hasRecordWords (plain : PlainId merchantId) (ownerPlain : PlainId owner)
    (words : HasRecordWords merchantId key) (ownerWords : HasRecordWords owner key) :
    owner = merchantId := by
  rcases words with own | ⟨isOutage, own⟩
  · rcases ownerWords with other | ⟨isOutage, -⟩
    · exact Option.some_inj.mp (other.symm.trans own)
    · exact absurd (Option.some_inj.mp (own.symm.trans isOutage)) plain.notOutage
  · rcases ownerWords with other | ⟨-, other⟩
    · exact absurd (Option.some_inj.mp (other.symm.trans isOutage)) ownerPlain.notOutage
    · exact Option.some_inj.mp (other.symm.trans own)

theorem not_hasRecordWords_of_global (plain : PlainId merchantId)
    (isGlobal : wordAt 2 key = some "global") : ¬HasRecordWords merchantId key := by
  rintro (own | ⟨isOutage, -⟩)
  · exact plain.notGlobal (Option.some_inj.mp (own.symm.trans isGlobal))
  · exact absurd (isOutage.symm.trans isGlobal) (by decide)

theorem exists_lookup_of_producerKey {scoringData : GatewayScoringData}
    {scoreKeyType : ScoreKeyType}
    (found : request.producerKey configs (some scoringData) scoreKeyType = some key) :
    ∃ refIds gateway,
      (getUnifiedKey configs scoringData scoreKeyType false refIds).lookup gateway = some key := by
  rw [UpdateRequest.producerKey, getProducerKey_eq, keyFor, Option.or_eq_some_iff] at found
  rcases found with ofGateway | ⟨-, shared⟩
  · exact ⟨_, _, ofGateway⟩
  · exact ⟨_, _, shared⟩

theorem hasRecordWords_or_global {entry : ScoreKeyType × RedisKey} (plain : PlainId data.merchantId)
    (listed : entry ∈ request.getAllUnifiedKeys configs data) :
    HasRecordWords data.merchantId entry.2 ∨ wordAt 2 entry.2 = some "global" := by
  rcases List.mem_filterMap.mp listed with ⟨scoreKeyType, isEnabled, isEntry⟩
  rcases Option.map_eq_some_iff.mp isEntry with ⟨key, isKey, rfl⟩
  rcases exists_lookup_of_producerKey isKey with ⟨refIds, gateway, found⟩
  cases scoreKeyType with
  | eliminationGlobalKey => exact .inr (wordAt_eliminationGlobalKey found)
  | eliminationMerchantKey => exact .inl (hasRecordWords_eliminationMerchantKey plain found)
  | outageGlobalKey => exact .inr (wordAt_outageGlobalKey found)
  | outageMerchantKey => exact .inl (hasRecordWords_outageMerchantKey plain found)
  | srV2Key => simp [UpdateRequest.enabledKeyTypes] at isEnabled
  | srV3Key => simp [UpdateRequest.enabledKeyTypes] at isEnabled

structure UpdateFindsOwn (store : PaymentStore F) (request : UpdateRequest F) : Prop where
  experiment : OwnedBy Written.merchantId request.payload.merchantId
    (store.inflight (inflightKey request.payload.paymentId))
  scoringData : OwnedBy (·.merchantId) request.payload.merchantId
    (store.scoringData (gatewayScoringDataKey request.payload.paymentId))
  lock : ∀ txn, OwnedBy Written.merchantId request.payload.merchantId
    (store.locks (request.lockKey txn request.enforceFailure))

/-- The request of a merchant with a plain id finds nothing of another merchant. -/
def FindsOwn (store : PaymentStore F) : PaymentEvent F → Prop
  | .decide request =>
      PlainId request.payment.merchantId ∧
        OwnedBy Written.merchantId request.payment.merchantId
          (store.inflight (inflightKey request.paymentId))
  | .update request => PlainId request.payload.merchantId ∧ UpdateFindsOwn store request
  | .expire _ => True

variable {store : PaymentStore F}

theorem separateExperiment_of_ownedBy {paymentId : String}
    (owned : OwnedBy Written.merchantId owner (store.inflight (inflightKey paymentId))) :
    SeparateExperiment merchantId owner store paymentId := by
  intro ctx stored
  rw [owned ctx stored]

theorem undisturbedDecide_of_findsOwn (plain : PlainId merchantId) {request : DecideRequest F}
    (finds : FindsOwn store (.decide request)) :
    UndisturbedDecide configs merchantId store request where
  experiment _ := separateExperiment_of_ownedBy finds.2
  windows different gateway key found isKey := by
    have own := (isKeyOf_keyMap found).wordAt finds.1
    exact different (Option.some_inj.mp (own.symm.trans (isKey.wordAt plain)))
  records different gateway key found isKey := by
    have own : IsRecordKeyOf configs request.payment.merchantId key := .inl (isKeyOf_keyMap found)
    exact different (merchantId_eq_of_hasRecordWords plain finds.1 (isKey.hasRecordWords plain)
      (own.hasRecordWords finds.1))

theorem undisturbedUpdate_of_findsOwn (plain : PlainId merchantId)
    (finds : FindsOwn store (.update request)) :
    UndisturbedUpdate configs merchantId store request where
  experiment := separateExperiment_of_ownedBy finds.2.experiment
  scoringData isOwn _ := isOwn ▸ finds.2.scoringData
  lock isOwn _ _ _ txn _ _ := isOwn ▸ finds.2.lock txn
  windows different _ data stored key found isKey := by
    have isOwner : data.merchantId = request.payload.merchantId :=
      finds.2.scoringData data stored
    rcases exists_lookup_of_producerKey found with ⟨refIds, gateway, isFound⟩
    have own := wordAt_srV3Key (by rw [isOwner]; exact finds.1) isFound
    rw [isOwner, isKey.wordAt plain] at own
    exact different (Option.some_inj.mp own).symm
  records different _ data stored entry listed isKey := by
    have isOwner : data.merchantId = request.payload.merchantId :=
      finds.2.scoringData data stored
    have words := isKey.hasRecordWords plain
    rcases hasRecordWords_or_global (by rw [isOwner]; exact finds.1) listed with own | isGlobal
    · rw [isOwner] at own
      exact different (merchantId_eq_of_hasRecordWords plain finds.1 words own)
    · exact not_hasRecordWords_of_global plain isGlobal words

theorem undisturbed_of_findsOwn (plain : PlainId merchantId) {event : PaymentEvent F}
    (finds : FindsOwn store event) :
    Undisturbed configs merchantId store event := by
  cases event with
  | decide request => exact undisturbedDecide_of_findsOwn plain finds
  | update request => exact undisturbedUpdate_of_findsOwn plain finds
  | expire key => trivial

/-! ## Histories -/

variable [MachineNumber F]

/-- Undisturbed requests keep a run in agreement with the run of the merchant alone. -/
theorem separated_servePayment (configs : ServiceConfigs) (merchantId : String) :
    Separated (servePayment (F := F) configs) (fun _ => PaymentEvent.isOf merchantId)
      (Undisturbed configs merchantId) (Agrees configs merchantId) where
  others := by
    intro first second event agrees undisturbed notMine
    cases event with
    | decide request =>
        exact agrees.decideGateway_other (of_decide_eq_false notMine) undisturbed
    | update request => exact agrees.update_other (of_decide_eq_false notMine) undisturbed
    | expire key => cases notMine
  own := by
    intro first second event agrees undisturbed isMine
    refine ⟨isMine, ?_⟩
    cases event with
    | decide request =>
        rcases of_decide_eq_true isMine with rfl
        exact ⟨rfl, agrees.decideGateway undisturbed⟩
    | update request =>
        rcases of_decide_eq_true isMine with rfl
        rcases agrees.update undisturbed with ⟨sameAnswer, stillAgrees⟩
        exact ⟨congrArg some sameAnswer, stillAgrees⟩
    | expire key => exact ⟨rfl, agrees.expire key⟩

/-- Where every request finds its own entries, no merchant with a plain id is disturbed. -/
theorem undisturbed_run_of_findsOwn (plain : PlainId merchantId) {history : List (PaymentEvent F)}
    (finds : AllowedRequests (servePayment configs) FindsOwn store history) :
    AllowedRequests (servePayment configs) (Undisturbed configs merchantId) store history :=
  allowedRequests_imp (fun _ _ isOwn => undisturbed_of_findsOwn plain isOwn) finds

/-- A merchant whose payments are undisturbed has the scores and outcomes that it has alone. -/
theorem scoresIsolated_of_undisturbed {store : PaymentStore F}
    (owned : ∀ key, OwnedBy Written.merchantId merchantId (store.inflight key))
    {history : List (PaymentEvent F)}
    (undisturbed : AllowedRequests (servePayment configs) (Undisturbed configs merchantId) store
      history) : ScoresIsolated configs merchantId store history := by
  have agrees := ((separated_servePayment configs merchantId).run (agrees_self owned)
    undisturbed).2
  rw [alone_of_fixed] at agrees
  exact agrees.scores

/-! ## One id for the payments of two merchants -/

def noPayments : PaymentStore ℚ :=
  ⟨fun _ => none, fun _ => none, fun _ => none, fun _ => none, fun _ => none, []⟩

/-- A decision for a card payment between the gateways of one name. -/
def cardDecision (merchantId paymentId : String) (arm : Option (RoutedArm ℚ)) :
    DecideRequest ℚ where
  paymentId := paymentId
  payment := { visaPayment with merchantId := merchantId }
  reads := plainDataReads
  dateCreated := 0
  eliminationEnabled := some true
  gatewayReferenceId := none
  gatewayList := ["stripe"]
  referenceId := fun _ => none
  course := .deciderFlow arm fun _ => ⟨[], [], some "SR_SELECTION_V3_ROUTING", none⟩

/-- Feedback in time, one second after the payment. -/
def promptFeedback (merchantId paymentId : String) (status : TxnStatus) : UpdateRequest ℚ where
  payload := ⟨merchantId, "stripe", none, status, paymentId, none⟩
  reads :=
    { gsmFilterEnabled := false
      gsmInfo := none
      merchantFound := true
      now := 1000
      latencyThreshold := fun _ => 0
      updateScoreLockEnabled := true
      srV3ProducerIsolation := true
      exploreAndExploitOnSrV3 := fun _ => false
      latencyCheckThreshold := fun _ _ => 600000
      isGwLatencyWithinThreshold := true
      merchantSrV3InputConfig := none
      defaultSrV3InputConfig := none
      globalGatewayScoringEnabled := false
      eliminationFlowEnabled := true
      globalOutageEnabled := false
      merchantOutageEnabled := true
      timestamp := fun _ => 1000
      creationTimestamp := fun _ => 1000
      detailsTimestamp := fun _ => 1000
      scoreUpdate := fun _ _ _ => noUpdateReads }

def srArm : RoutedArm ℚ :=
  ⟨"experiment", "sr_arm", none, false, none⟩

/-- Two merchants decide on a payment each, the second one under `paymentId`. -/
def twoPayments (paymentId : String) (feedback : UpdateRequest ℚ) : List (PaymentEvent ℚ) :=
  [.decide (cardDecision "beta" "order_1" (some srArm)),
    .decide (cardDecision "alpha" paymentId none), .update feedback]

theorem findsOwn_twoIds :
    AllowedRequests (servePayment noServiceConfigs) FindsOwn noPayments
      (twoPayments "order_2" (promptFeedback "beta" "order_1" .authorizationFailed)) := by
  have alpha : PlainId "alpha" := ⟨by decide, by decide, by decide, by decide⟩
  have beta : PlainId "beta" := ⟨by decide, by decide, by decide, by decide⟩
  refine ⟨⟨beta, ?_⟩, ⟨alpha, ?_⟩, ⟨beta, ?_, ?_, ?_⟩, trivial⟩
  · decide
  · decide +kernel
  · decide +kernel
  · decide +kernel
  · intro txn value isStored
    cases isStored

theorem scoresIsolated_twoIds :
    ScoresIsolated noServiceConfigs "alpha" noPayments
      (twoPayments "order_2" (promptFeedback "beta" "order_1" .authorizationFailed)) := by
  refine scoresIsolated_of_undisturbed ?_
    (undisturbed_run_of_findsOwn ⟨by decide, by decide, by decide, by decide⟩ findsOwn_twoIds)
  intro key ctx stored
  cases stored

/-- The window for the payment of the second merchant in `twoPayments`. -/
def alphaWindowKey : RedisKey :=
  "\x7bgw_sr_v3_score_alpha_ORDER_PAYMENT_CARD_VISA_stripe"

theorem isKeyOf_alphaWindowKey :
    IsKeyOf noServiceConfigs "alpha" .srV3Key alphaWindowKey :=
  ⟨plainDataReads, { visaPayment with merchantId := "alpha" }, AList.singleton "stripe" none,
    "stripe", rfl, by decide +kernel⟩

/-- Under one id the feedback of a merchant goes to the scores of the other, and the outcome of
an experiment is recorded for the other. -/
theorem not_scoresIsolated_oneId :
    (serveAll (servePayment noServiceConfigs) noPayments
        (twoPayments "order_1" (promptFeedback "beta" "order_1" .authorizationFailed))).windows
          (scoreKey alphaWindowKey) = some (.text "125") ∧
      (serveAll (servePayment noServiceConfigs) noPayments
        ((twoPayments "order_1" (promptFeedback "beta" "order_1" .authorizationFailed)).filter
          (PaymentEvent.isOf "alpha"))).windows (scoreKey alphaWindowKey) = none ∧
      ¬ScoresIsolated noServiceConfigs "alpha" noPayments
        (twoPayments "order_1" (promptFeedback "beta" "order_1" .authorizationFailed)) ∧
      ¬ScoresIsolated noServiceConfigs "alpha" noPayments
        (twoPayments "order_1" (promptFeedback "alpha" "order_1" .charged)) := by
  have written : (serveAll (servePayment noServiceConfigs) noPayments
      (twoPayments "order_1" (promptFeedback "beta" "order_1" .authorizationFailed))).windows
        (scoreKey alphaWindowKey) = some (.text "125") := by decide +kernel
  have without : (serveAll (servePayment noServiceConfigs) noPayments
      ((twoPayments "order_1" (promptFeedback "beta" "order_1" .authorizationFailed)).filter
        (PaymentEvent.isOf "alpha"))).windows (scoreKey alphaWindowKey) = none := by
    decide +kernel
  refine ⟨written, without, fun isolated => ?_, fun isolated => ?_⟩
  · have same := (isolated.windows alphaWindowKey isKeyOf_alphaWindowKey).2
    rw [written, without] at same
    cases same
  · have same := congrArg List.length isolated.outcomes
    revert same
    decide +kernel

end DecisionEngine.Feedback
