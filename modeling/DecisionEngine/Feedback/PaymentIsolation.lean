import DecisionEngine.Feedback.PaymentRequests
import DecisionEngine.Scoring.ResetConsistency
import DecisionEngine.Transition.Separation

/-!
# Payments of different merchants under one id

The stored data of a payment, its experiment and its lock have the id of the payment in their
keys and not the merchant.  A merchant is isolated from the requests of the others as long as
its requests read nothing that another merchant has written, and the others change neither its
experiments nor the scores under its keys.
-/

namespace DecisionEngine.Feedback

open AbTest Map Number Scoring Transition

/-! ## What belongs to a merchant -/

/-- A key for the scores of a payment of the merchant. -/
def IsKeyOf (configs : ServiceConfigs) (merchantId : String) (scoreKeyType : ScoreKeyType)
    (key : RedisKey) : Prop :=
  ∃ reads payment refIds gateway, payment.merchantId = merchantId ∧
    (getUnifiedKey configs (getGatewayScoringData reads payment) scoreKeyType false
      refIds).lookup gateway = some key

/-- A key for the elimination scores of the merchant alone. -/
def IsRecordKeyOf (configs : ServiceConfigs) (merchantId : String) (key : RedisKey) : Prop :=
  IsKeyOf configs merchantId .eliminationMerchantKey key ∨
    IsKeyOf configs merchantId .outageMerchantKey key

/-- The two parts of a window are the same. -/
def SameWindow (key : RedisKey) (first second : Redis.Store) : Prop :=
  first (queueKey key) = second (queueKey key) ∧ first (scoreKey key) = second (scoreKey key)

variable {F : Type}

def PaymentStore.outcomesOf (store : PaymentStore F) (merchantId : String) :
    List (RecordedOutcome F) :=
  store.outcomes.filter fun recorded => recorded.merchantId = merchantId

/-- The same scores under the keys of a merchant, and the same outcomes of its experiments. -/
structure SameScores (configs : ServiceConfigs) (merchantId : String)
    (first second : PaymentStore F) : Prop where
  windows : ∀ key, IsKeyOf configs merchantId .srV3Key key →
    SameWindow key first.windows second.windows
  records : ∀ key, IsRecordKeyOf configs merchantId key → first.records key = second.records key
  outcomes : first.outcomesOf merchantId = second.outcomesOf merchantId

/-- An expiry is left in a history from which requests are removed. -/
def PaymentEvent.isOf (merchantId : String) (event : PaymentEvent F) : Bool :=
  event.merchantId.all fun own => own = merchantId

/-- Without the requests of the other merchants the scores and the outcomes are the same. -/
def ScoresIsolated [MachineNumber F] (configs : ServiceConfigs) (merchantId : String)
    (store : PaymentStore F) (history : List (PaymentEvent F)) : Prop :=
  SameScores configs merchantId (serveAll (servePayment configs) store history)
    (serveAll (servePayment configs) store (history.filter (PaymentEvent.isOf merchantId)))

/-! ## Requests that disturb nobody -/

/-- What is stored, if anything, is of the merchant. -/
def OwnedBy {α : Type} (owner : α → String) (merchantId : String) (stored : Option α) : Prop :=
  ∀ value, stored = some value → owner value = merchantId

theorem ownedBy_some_iff {α : Type} {owner : α → String} {merchantId : String} {value : α} :
    OwnedBy owner merchantId (some value) ↔ owner value = merchantId := by
  constructor
  · intro owned
    exact owned value rfl
  · rintro isOwner _ ⟨⟩
    exact isOwner

instance {α : Type} (owner : α → String) (merchantId : String) :
    (stored : Option α) → Decidable (OwnedBy owner merchantId stored)
  | none => .isTrue fun _ isStored => nomatch isStored
  | some value => decidable_of_iff (owner value = merchantId) ownedBy_some_iff.symm

/-- The course begins with a record of an experiment. -/
def DecisionCourse.startsExperiment : DecisionCourse F → Bool
  | .rejected => false
  | .staticArm _ => true
  | .debitRouting arm => arm.isSome
  | .deciderFlow arm _ => arm.isSome

/-- The request of another merchant finds no experiment of the merchant, and an own one no
experiment of another. -/
def SeparateExperiment (merchantId owner : String) (store : PaymentStore F) (paymentId : String) :
    Prop :=
  ∀ ctx, store.inflight (inflightKey paymentId) = some ctx →
    (ctx.merchantId = merchantId ↔ owner = merchantId)

section Undisturbed

variable (configs : ServiceConfigs) (merchantId : String) (store : PaymentStore F)

structure UndisturbedDecide (request : DecideRequest F) : Prop where
  experiment : request.course.startsExperiment = true →
    SeparateExperiment merchantId request.payment.merchantId store request.paymentId
  windows : request.payment.merchantId ≠ merchantId → ∀ gateway key,
    (request.keyMap configs .srV3Key).lookup gateway = some key →
      ¬IsKeyOf configs merchantId .srV3Key key
  records : request.payment.merchantId ≠ merchantId → ∀ gateway key,
    (request.keyMap configs .eliminationMerchantKey).lookup gateway = some key →
      ¬IsRecordKeyOf configs merchantId key

structure UndisturbedUpdate (request : UpdateRequest F) : Prop where
  experiment :
    SeparateExperiment merchantId request.payload.merchantId store request.payload.paymentId
  scoringData : request.payload.merchantId = merchantId → request.skipsPenalization = false →
    OwnedBy (·.merchantId) merchantId
      (store.scoringData (gatewayScoringDataKey request.payload.paymentId))
  lock : request.payload.merchantId = merchantId → request.skipsPenalization = false →
    request.reads.updateScoreLockEnabled = true → ∀ data txn,
      store.scoringData (gatewayScoringDataKey request.payload.paymentId) = some data →
        request.feedbackTxn data = .ok txn →
          OwnedBy Written.merchantId merchantId
            (store.locks (request.lockKey txn request.enforceFailure))
  windows : request.payload.merchantId ≠ merchantId → request.skipsPenalization = false → ∀ data,
    store.scoringData (gatewayScoringDataKey request.payload.paymentId) = some data → ∀ key,
      request.producerKey configs (some data.toGatewayScoringData) .srV3Key = some key →
        ¬IsKeyOf configs merchantId .srV3Key key
  records : request.payload.merchantId ≠ merchantId → request.skipsPenalization = false → ∀ data,
    store.scoringData (gatewayScoringDataKey request.payload.paymentId) = some data →
      ∀ entry ∈ request.getAllUnifiedKeys configs data, ¬IsRecordKeyOf configs merchantId entry.2

/-- An own request reads nothing that another merchant has written, and the request of another
merchant changes nothing of the merchant. -/
def Undisturbed : PaymentEvent F → Prop
  | .decide request => UndisturbedDecide configs merchantId store request
  | .update request => UndisturbedUpdate configs merchantId store request
  | .expire _ => True

end Undisturbed

/-! ## Windows -/

/-- The operation is about the window of one key. -/
structure OnWindow (key : RedisKey) (operate : Redis.Store → Redis.Store) : Prop where
  others : ∀ windows other, other ≠ queueKey key → other ≠ scoreKey key →
    operate windows other = windows other
  own : ∀ first second, SameWindow key first second →
    SameWindow key (operate first) (operate second)

section Windows

variable {key other : RedisKey} {first second : Redis.Store}

theorem SameWindow.refl (key : RedisKey) (windows : Redis.Store) :
    SameWindow key windows windows :=
  ⟨rfl, rfl⟩

theorem OnWindow.sameWindow_of_ne {operate : Redis.Store → Redis.Store}
    (onWindow : OnWindow key operate) (differ : other ≠ key)
    (same : SameWindow other first second) : SameWindow other (operate first) second := by
  constructor
  · rw [onWindow.others first _ (queueKey_injective.ne differ)
      (queueKey_ne_scoreKey_of_any other key)]
    exact same.1
  · rw [onWindow.others first _ (queueKey_ne_scoreKey_of_any key other).symm
      (scoreKey_injective.ne differ)]
    exact same.2

theorem SameWindow.symm (same : SameWindow key first second) : SameWindow key second first :=
  ⟨same.1.symm, same.2.symm⟩

theorem OnWindow.sameWindow {operate : Redis.Store → Redis.Store}
    (onWindow : OnWindow key operate) (same : SameWindow other first second) :
    SameWindow other (operate first) (operate second) := by
  by_cases isKey : other = key
  · subst isKey
    exact onWindow.own first second same
  · exact onWindow.sameWindow_of_ne isKey (onWindow.sameWindow_of_ne isKey same.symm).symm

/-- An operation on the value under one of the two keys of a window. -/
theorem onWindow_update {cell : String} (isCell : cell = queueKey key ∨ cell = scoreKey key)
    (value : Option Redis.Value → Option Redis.Value) :
    OnWindow key fun windows => Function.update windows cell (value (windows cell)) := by
  constructor
  · intro windows other notQueue notScore
    apply Function.update_of_ne
    rintro rfl
    exact isCell.elim notQueue notScore
  · rintro first second ⟨queue, score⟩
    have sameCell : first cell = second cell := by
      rcases isCell with rfl | rfl
      · exact queue
      · exact score
    constructor
    · rw [Function.update_apply, Function.update_apply, sameCell, queue]
    · rw [Function.update_apply, Function.update_apply, sameCell, score]

theorem OnWindow.comp {operate next : Redis.Store → Redis.Store} (isFirst : OnWindow key operate)
    (isNext : OnWindow key next) : OnWindow key fun windows => next (operate windows) := by
  constructor
  · intro windows other notQueue notScore
    rw [isNext.others _ other notQueue notScore, isFirst.others _ other notQueue notScore]
  · intro first second same
    exact isNext.own _ _ (isFirst.own _ _ same)

/-- The value under a key whose list is replaced; a missing list is empty. -/
def editedValue (edit : List String → List String) : Option Redis.Value → Option Redis.Value
  | some (.text text) => some (.text text)
  | some (.list items) => if (edit items).isEmpty then none else some (.list (edit items))
  | none => if (edit []).isEmpty then none else some (.list (edit []))

/-- A list under one of the two keys is replaced; another value is left. -/
theorem onWindow_editList {cell : String} (isCell : cell = queueKey key ∨ cell = scoreKey key)
    (edit : List String → List String) :
    OnWindow key fun windows =>
      match windows.listAt cell with
      | some items => windows.putList cell (edit items)
      | none => windows := by
  have asUpdate : ∀ windows : Redis.Store,
      (match windows.listAt cell with
        | some items => windows.putList cell (edit items)
        | none => windows) =
          Function.update windows cell (editedValue edit (windows cell)) := by
    intro windows
    rw [Redis.Store.listAt]
    cases stored : windows cell with
    | none => rfl
    | some value =>
        cases value with
        | list items => rfl
        | text text => exact (Function.update_eq_self_iff.mpr stored.symm).symm
  rw [funext asUpdate]
  exact onWindow_update isCell (editedValue edit)

theorem onWindow_createMovingWindowAndScore (score : Int) (scoreList : List String) :
    OnWindow key fun windows =>
      createMovingWindowAndScore windows (queueKey key) (scoreKey key) score scoreList :=
  ((onWindow_update (.inl rfl) fun _ => none).comp
    (onWindow_editList (.inl rfl) (scoreList.reverse ++ ·))).comp
      (onWindow_update (.inr rfl) fun _ => some (.text (toString score)))

theorem onWindow_resetGatewayForSrV3 (score : Int) (scoreList : List String) :
    OnWindow key fun windows => resetGatewayForSrV3 windows score scoreList key :=
  onWindow_createMovingWindowAndScore score scoreList

theorem onWindow_createKeysIfNotExist (bucketSize : Int) :
    OnWindow key fun windows =>
      createKeysIfNotExist windows (queueKey key) (scoreKey key) bucketSize := by
  have creates : OnWindow key fun windows =>
      createMovingWindowAndScore windows (queueKey key) (scoreKey key) (max bucketSize 1)
        (List.replicate (max bucketSize 1).toNat "1") :=
    onWindow_createMovingWindowAndScore _ _
  constructor
  · intro windows other notQueue notScore
    rw [createKeysIfNotExist]
    split
    · rfl
    · exact creates.others windows other notQueue notScore
  · rintro first second same
    have sameExists : (first.existsKey (queueKey key) && first.existsKey (scoreKey key)) =
        (second.existsKey (queueKey key) && second.existsKey (scoreKey key)) := by
      rw [Redis.Store.existsKey, Redis.Store.existsKey, same.1, same.2]
      rfl
    rw [createKeysIfNotExist, createKeysIfNotExist, sameExists]
    split
    · exact same
    · exact creates.own first second same

theorem onWindow_updateScoreAndQueue (gatewayScoringType : GatewayScoringType)
    (bucketSize : Int) :
    OnWindow key fun windows => updateScoreAndQueue windows key gatewayScoringType bucketSize :=
  ((onWindow_createKeysIfNotExist bucketSize).comp
    (onWindow_editList (.inl rfl) ([outcomeValue gatewayScoringType].reverse ++ ·))).comp
      (onWindow_editList (.inl rfl) (Redis.range · 0 (max bucketSize 1 - 1)))

end Windows

/-! ## Agreement -/

/-- The same value, unless the first one is of another merchant. -/
def SameUnlessOther {α : Type} (owner : α → String) (merchantId : String)
    (first second : Option α) : Prop :=
  (∃ value, first = some value ∧ owner value ≠ merchantId) ∨ first = second

/-- The second store is the one that the requests of the merchant alone have led to. -/
structure Agrees (configs : ServiceConfigs) (merchantId : String)
    (first second : PaymentStore F) : Prop where
  scoringData : ∀ key, SameUnlessOther (·.merchantId) merchantId (first.scoringData key)
    (second.scoringData key)
  inflight : ∀ key, second.inflight key =
    (first.inflight key).filter fun ctx => ctx.merchantId = merchantId
  locks : ∀ key, SameUnlessOther Written.merchantId merchantId (first.locks key)
    (second.locks key)
  scores : SameScores configs merchantId first second

section Agreement

variable {configs : ServiceConfigs} {merchantId owner paymentId : String}
  {first second : PaymentStore F}

theorem SameUnlessOther.refl {α : Type} (owner : α → String) (merchantId : String)
    (stored : Option α) : SameUnlessOther owner merchantId stored stored :=
  .inr rfl

theorem SameUnlessOther.eq {α : Type} {owner : α → String} {first second : Option α}
    (same : SameUnlessOther owner merchantId first second)
    (owned : OwnedBy owner merchantId first) : first = second := by
  rcases same with ⟨value, isValue, other⟩ | same
  · exact absurd (owned value isValue) other
  · exact same

/-- Writing the same value under the same key. -/
theorem sameUnlessOther_update {α : Type} {owner : α → String}
    {first second : String → Option α}
    (same : ∀ key, SameUnlessOther owner merchantId (first key) (second key)) (written : String)
    (value : Option α) (key : String) :
    SameUnlessOther owner merchantId (Function.update first written value key)
      (Function.update second written value key) := by
  by_cases isKey : key = written
  · rw [isKey, Function.update_self, Function.update_self]
    exact .refl _ _ _
  · rw [Function.update_of_ne isKey, Function.update_of_ne isKey]
    exact same key

/-- Another merchant writes. -/
theorem sameUnlessOther_update_other {α : Type} {owner : α → String}
    {first second : String → Option α}
    (same : ∀ key, SameUnlessOther owner merchantId (first key) (second key)) (written : String)
    {value : α} (other : owner value ≠ merchantId) (key : String) :
    SameUnlessOther owner merchantId (Function.update first written (some value) key)
      (second key) := by
  by_cases isKey : key = written
  · rw [isKey, Function.update_self]
    exact .inl ⟨value, rfl, other⟩
  · rw [Function.update_of_ne isKey]
    exact same key

theorem SameScores.refl (configs : ServiceConfigs) (merchantId : String)
    (store : PaymentStore F) : SameScores configs merchantId store store :=
  ⟨fun key _ => .refl key store.windows, fun _ _ => rfl, rfl⟩

theorem agrees_self {store : PaymentStore F}
    (owned : ∀ key, OwnedBy Written.merchantId merchantId (store.inflight key)) :
    Agrees configs merchantId store store where
  scoringData _ := .refl _ _ _
  inflight key := by
    cases stored : store.inflight key with
    | none => rfl
    | some ctx => rw [Option.filter_some, if_pos (decide_eq_true (owned key ctx stored))]
  locks _ := .refl _ _ _
  scores := .refl _ _ _

/-! ## Experiments -/

theorem Agrees.inflight_eq (agrees : Agrees configs merchantId first second)
    (separate : SeparateExperiment merchantId merchantId first paymentId) :
    first.readInflight paymentId = second.readInflight paymentId := by
  rw [PaymentStore.readInflight, PaymentStore.readInflight, agrees.inflight]
  cases stored : first.inflight (inflightKey paymentId) with
  | none => rfl
  | some ctx =>
      have isOwn := (separate ctx stored).mpr rfl
      rw [Option.filter_some, if_pos (decide_eq_true isOwn)]

theorem Agrees.writeInflight (agrees : Agrees configs merchantId first second)
    (paymentId : String) (ctx : Option (InflightContext F)) :
    Agrees configs merchantId (first.writeInflight merchantId paymentId ctx)
      (second.writeInflight merchantId paymentId ctx) where
  scoringData := agrees.scoringData
  inflight key := by
    by_cases isKey : key = inflightKey paymentId
    · rw [isKey, PaymentStore.inflight_writeInflight_self,
        PaymentStore.inflight_writeInflight_self]
      cases ctx with
      | none => rfl
      | some ctx =>
          rw [Option.map_some, Option.filter_some, if_pos (decide_eq_true rfl)]
    · rw [PaymentStore.inflight_writeInflight_of_ne _ _ isKey,
        PaymentStore.inflight_writeInflight_of_ne _ _ isKey]
      exact agrees.inflight key
  locks := agrees.locks
  scores := ⟨agrees.scores.windows, agrees.scores.records, agrees.scores.outcomes⟩

theorem Agrees.writeInflight_other (agrees : Agrees configs merchantId first second)
    (different : owner ≠ merchantId)
    (separate : SeparateExperiment merchantId owner first paymentId)
    (ctx : Option (InflightContext F)) :
    Agrees configs merchantId (first.writeInflight owner paymentId ctx) second where
  scoringData := agrees.scoringData
  inflight key := by
    by_cases isKey : key = inflightKey paymentId
    · have absent : second.inflight (inflightKey paymentId) = none := by
        rw [agrees.inflight, Option.filter_eq_none_iff]
        intro stored isStored isOwn
        exact different ((separate stored isStored).mp (of_decide_eq_true isOwn))
      rw [isKey, PaymentStore.inflight_writeInflight_self, absent, eq_comm,
        Option.filter_eq_none_iff]
      intro written isWritten isOwn
      rcases Option.map_eq_some_iff.mp isWritten with ⟨value, -, rfl⟩
      exact different (of_decide_eq_true isOwn)
    · rw [PaymentStore.inflight_writeInflight_of_ne _ _ isKey]
      exact agrees.inflight key
  locks := agrees.locks
  scores := ⟨agrees.scores.windows, agrees.scores.records, agrees.scores.outcomes⟩

/-- What a request has written is its own. -/
theorem separate_writeInflight (merchantId : String) (store : PaymentStore F)
    (paymentId : String) (ctx : Option (InflightContext F)) :
    SeparateExperiment merchantId owner (store.writeInflight owner paymentId ctx) paymentId := by
  intro stored isStored
  rw [PaymentStore.inflight_writeInflight_self] at isStored
  rcases Option.map_eq_some_iff.mp isStored with ⟨value, -, rfl⟩
  rfl

section

variable (agrees : Agrees configs merchantId first second)

include agrees

theorem Agrees.emitIfInFlight (separate : SeparateExperiment merchantId merchantId first paymentId)
    (isSuccess : Bool) :
    Agrees configs merchantId (first.emitIfInFlight paymentId merchantId isSuccess)
      (second.emitIfInFlight paymentId merchantId isSuccess) := by
  rw [PaymentStore.emitIfInFlight, PaymentStore.emitIfInFlight, ← agrees.inflight_eq separate]
  cases first.readInflight paymentId with
  | none => exact agrees
  | some ctx =>
      have written := agrees.writeInflight paymentId (if isSuccess then none else some ctx.marked)
      refine ⟨written.scoringData, written.inflight, written.locks, written.scores.windows,
        written.scores.records, ?_⟩
      have same := agrees.scores.outcomes
      rw [PaymentStore.outcomesOf, PaymentStore.outcomesOf] at same ⊢
      rw [List.filter_append, List.filter_append, same]

theorem Agrees.emitIfInFlight_other (different : owner ≠ merchantId)
    (separate : SeparateExperiment merchantId owner first paymentId) (isSuccess : Bool) :
    Agrees configs merchantId (first.emitIfInFlight paymentId owner isSuccess) second := by
  rw [PaymentStore.emitIfInFlight]
  cases first.readInflight paymentId with
  | none => exact agrees
  | some ctx =>
      have written := agrees.writeInflight_other different separate
        (if isSuccess then none else some ctx.marked)
      refine ⟨written.scoringData, written.inflight, written.locks, written.scores.windows,
        written.scores.records, ?_⟩
      have same := agrees.scores.outcomes
      rw [PaymentStore.outcomesOf, PaymentStore.outcomesOf] at same ⊢
      rw [List.filter_append, List.filter_cons_of_neg (by simpa using different),
        List.filter_nil, List.append_nil, same]

theorem Agrees.storeInflight (separate : SeparateExperiment merchantId merchantId first paymentId)
    (arm : RoutedArm F) :
    Agrees configs merchantId (first.storeInflight merchantId paymentId arm)
      (second.storeInflight merchantId paymentId arm) := by
  rw [PaymentStore.storeInflight, PaymentStore.storeInflight, ← agrees.inflight_eq separate]
  exact agrees.writeInflight paymentId _

theorem Agrees.recordCostOutcome 
    (separate : SeparateExperiment merchantId merchantId first paymentId)
    (outcome : CostOutcome F) :
    Agrees configs merchantId (first.recordCostOutcome merchantId paymentId outcome)
      (second.recordCostOutcome merchantId paymentId outcome) := by
  rw [PaymentStore.recordCostOutcome, PaymentStore.recordCostOutcome,
    ← agrees.inflight_eq separate]
  exact agrees.writeInflight paymentId _

end

/-! ## Decisions -/

variable {request : DecideRequest F}

theorem isKeyOf_keyMap {scoreKeyType : ScoreKeyType} {gateway : Gateway} {key : RedisKey}
    (found : (request.keyMap configs scoreKeyType).lookup gateway = some key) :
    IsKeyOf configs request.payment.merchantId scoreKeyType key :=
  ⟨request.reads, request.payment, _, gateway, rfl, found⟩

/-- The decider reads scores under keys of the merchant. -/
theorem SameScores.scoresRead
    (same : SameScores configs request.payment.merchantId first second) :
    first.scoresRead configs request = second.scoresRead configs request := by
  rw [PaymentStore.scoresRead, PaymentStore.scoresRead]
  congr 1
  · funext gateway
    cases found : (request.keyMap configs .srV3Key).lookup gateway with
    | none => rfl
    | some key =>
        rcases same.windows key (isKeyOf_keyMap found) with ⟨queue, score⟩
        rw [Option.map_some, Option.map_some, queue, score]
  · funext gateway
    cases found : (request.keyMap configs .eliminationMerchantKey).lookup gateway with
    | none => rfl
    | some key => exact same.records key (.inl (isKeyOf_keyMap found))

section Resets

variable {keyMap : GatewayRedisKeyMap} {key : RedisKey}

theorem sameWindow_windowResets {windows others : Redis.Store} (resets : List WindowReset)
    (same : SameWindow key windows others) :
    SameWindow key (resets.foldl (applyWindowReset keyMap) windows)
      (resets.foldl (applyWindowReset keyMap) others) := by
  induction resets generalizing windows others with
  | nil => exact same
  | cons reset rest ih =>
      apply ih
      rw [applyWindowReset, applyWindowReset]
      cases keyMap.lookup reset.gateway with
      | none => exact same
      | some written => exact (onWindow_resetGatewayForSrV3 _ _).sameWindow same

theorem sameWindow_windowResets_other {windows others : Redis.Store} (resets : List WindowReset)
    (noKey : ∀ gateway, keyMap.lookup gateway ≠ some key) (same : SameWindow key windows others) :
    SameWindow key (resets.foldl (applyWindowReset keyMap) windows) others := by
  induction resets generalizing windows with
  | nil => exact same
  | cons reset rest ih =>
      apply ih
      rw [applyWindowReset]
      cases found : keyMap.lookup reset.gateway with
      | none => exact same
      | some written =>
          have differ : key ≠ written := by
            rintro rfl
            exact noKey _ found
          exact (onWindow_resetGatewayForSrV3 _ _).sameWindow_of_ne differ same

variable [MachineNumber F] {records others : RedisKey → Option (CachedGatewayScore F)}

/-- A record is updated from the record under the same key. -/
theorem update_congr_at {α : Type} {values others : RedisKey → α} (same : values key = others key)
    (written : RedisKey) (next : α → α) :
    Function.update values written (next (values written)) key =
      Function.update others written (next (others written)) key := by
  by_cases isKey : key = written
  · subst isKey
    rw [Function.update_self, Function.update_self, same]
  · rw [Function.update_of_ne isKey, Function.update_of_ne isKey, same]

theorem recordResets_congr (resets : List (RecordReset F)) (same : records key = others key) :
    resets.foldl (applyRecordReset keyMap) records key =
      resets.foldl (applyRecordReset keyMap) others key := by
  induction resets generalizing records others with
  | nil => exact same
  | cons reset rest ih =>
      apply ih
      rw [applyRecordReset, applyRecordReset]
      cases keyMap.lookup reset.gateway with
      | none => exact same
      | some written =>
          exact update_congr_at same written fun record =>
            (resetGatewayScore reset.input record).or record

theorem recordResets_other (resets : List (RecordReset F))
    (noKey : ∀ gateway, keyMap.lookup gateway ≠ some key) :
    resets.foldl (applyRecordReset keyMap) records key = records key := by
  induction resets generalizing records with
  | nil => rfl
  | cons reset rest ih =>
      rw [List.foldl_cons, ih, applyRecordReset]
      cases found : keyMap.lookup reset.gateway with
      | none => rfl
      | some written =>
          have differ : key ≠ written := by
            rintro rfl
            exact noKey _ found
          exact Function.update_of_ne differ _ _

end Resets

variable [MachineNumber F]

theorem Agrees.runFlow (agrees : Agrees configs merchantId first second)
    (request : DecideRequest F) (writes : FlowWrites F) :
    Agrees configs merchantId (runFlow configs request writes first)
      (runFlow configs request writes second) where
  scoringData := by
    rw [Feedback.runFlow, Feedback.runFlow]
    cases writes.routingApproach with
    | none => exact agrees.scoringData
    | some routingApproach => exact sameUnlessOther_update agrees.scoringData _ _
  inflight := agrees.inflight
  locks := agrees.locks
  scores :=
    ⟨fun key isKey => sameWindow_windowResets _ (agrees.scores.windows key isKey),
      fun key isKey => recordResets_congr _ (agrees.scores.records key isKey),
      agrees.scores.outcomes⟩

theorem Agrees.runFlow_other (agrees : Agrees configs merchantId first second)
    (different : request.payment.merchantId ≠ merchantId)
    (windows : ∀ gateway key, (request.keyMap configs .srV3Key).lookup gateway = some key →
      ¬IsKeyOf configs merchantId .srV3Key key)
    (records : ∀ gateway key,
      (request.keyMap configs .eliminationMerchantKey).lookup gateway = some key →
        ¬IsRecordKeyOf configs merchantId key) (writes : FlowWrites F) :
    Agrees configs merchantId (Feedback.runFlow configs request writes first) second where
  scoringData := by
    rw [Feedback.runFlow]
    cases writes.routingApproach with
    | none => exact agrees.scoringData
    | some routingApproach =>
        apply sameUnlessOther_update_other agrees.scoringData
        rw [merchantId_storedData]
        exact different
  inflight := agrees.inflight
  locks := agrees.locks
  scores := by
    refine ⟨fun key isKey => ?_, fun key isKey => ?_, agrees.scores.outcomes⟩
    · exact sameWindow_windowResets_other _
        (fun gateway found => windows gateway key found isKey) (agrees.scores.windows key isKey)
    · rw [← agrees.scores.records key isKey]
      exact recordResets_other _ fun gateway found => records gateway key found isKey

section

omit [MachineNumber F]

theorem Agrees.intercept (agrees : Agrees configs request.payment.merchantId first second)
    {arm : Option (RoutedArm F)}
    (separate : arm.isSome = true → SeparateExperiment request.payment.merchantId
      request.payment.merchantId first request.paymentId) :
    Agrees configs request.payment.merchantId (request.intercept arm first)
      (request.intercept arm second) := by
  cases arm with
  | none => exact agrees
  | some arm => exact agrees.storeInflight (separate rfl) arm

theorem Agrees.intercept_other (agrees : Agrees configs merchantId first second)
    (different : request.payment.merchantId ≠ merchantId) {arm : Option (RoutedArm F)}
    (separate : arm.isSome = true → SeparateExperiment merchantId request.payment.merchantId first
      request.paymentId) :
    Agrees configs merchantId (request.intercept arm first) second := by
  cases arm with
  | none => exact agrees
  | some arm => exact agrees.writeInflight_other different (separate rfl) _

variable {arm : Option (RoutedArm F)}

/-- After a request has begun an experiment the record is its own. -/
theorem separate_intercept (store : PaymentStore F) (isSome : arm.isSome = true) :
    SeparateExperiment merchantId request.payment.merchantId (request.intercept arm store)
      request.paymentId := by
  rcases Option.isSome_iff_exists.mp isSome with ⟨begun, rfl⟩
  exact separate_writeInflight merchantId store request.paymentId _

theorem Agrees.recordCosts (agrees : Agrees configs request.payment.merchantId first second)
    (separate : arm.isSome = true → SeparateExperiment request.payment.merchantId
      request.payment.merchantId first request.paymentId)
    (costOutcome : Option (Gateway × Costs F)) :
    Agrees configs request.payment.merchantId (request.recordCosts arm costOutcome first)
      (request.recordCosts arm costOutcome second) := by
  rcases arm with _ | arm
  · exact agrees
  · rcases costOutcome with _ | ⟨gateway, costs⟩
    · exact agrees
    · exact agrees.recordCostOutcome (separate rfl) _

theorem Agrees.recordCosts_other (agrees : Agrees configs merchantId first second)
    (different : request.payment.merchantId ≠ merchantId)
    (separate : arm.isSome = true →
      SeparateExperiment merchantId request.payment.merchantId first request.paymentId)
    (costOutcome : Option (Gateway × Costs F)) :
    Agrees configs merchantId (request.recordCosts arm costOutcome first) second := by
  rcases arm with _ | arm
  · exact agrees
  · rcases costOutcome with _ | ⟨gateway, costs⟩
    · exact agrees
    · exact agrees.writeInflight_other different (separate rfl) _

end

theorem Agrees.decideGateway (agrees : Agrees configs request.payment.merchantId first second)
    (undisturbed : UndisturbedDecide configs request.payment.merchantId first request) :
    Agrees configs request.payment.merchantId (Feedback.decideGateway configs request first)
      (Feedback.decideGateway configs request second) := by
  have experiment := undisturbed.experiment
  rw [Feedback.decideGateway, Feedback.decideGateway]
  cases isCourse : request.course with
  | rejected => exact agrees
  | staticArm arm =>
      rw [isCourse] at experiment
      exact agrees.intercept fun _ => experiment rfl
  | debitRouting arm =>
      rw [isCourse] at experiment
      exact agrees.intercept experiment
  | deciderFlow arm flow =>
      rw [isCourse] at experiment
      have intercepted : Agrees configs request.payment.merchantId (request.intercept arm first)
          (request.intercept arm second) := agrees.intercept experiment
      have decided := intercepted.runFlow request
        (flow ((request.intercept arm first).scoresRead configs request))
      dsimp only
      rw [← intercepted.scores.scoresRead]
      exact decided.recordCosts (separate_intercept first) _

theorem Agrees.decideGateway_other (agrees : Agrees configs merchantId first second)
    (different : request.payment.merchantId ≠ merchantId)
    (undisturbed : UndisturbedDecide configs merchantId first request) :
    Agrees configs merchantId (Feedback.decideGateway configs request first) second := by
  have experiment := undisturbed.experiment
  rw [Feedback.decideGateway]
  cases isCourse : request.course with
  | rejected => exact agrees
  | staticArm arm =>
      rw [isCourse] at experiment
      exact agrees.intercept_other different fun _ => experiment rfl
  | debitRouting arm =>
      rw [isCourse] at experiment
      exact agrees.intercept_other different experiment
  | deciderFlow arm flow =>
      rw [isCourse] at experiment
      have intercepted : Agrees configs merchantId (request.intercept arm first) second :=
        agrees.intercept_other different experiment
      have decided := intercepted.runFlow_other different (undisturbed.windows different)
        (undisturbed.records different)
        (flow ((request.intercept arm first).scoresRead configs request))
      exact decided.recordCosts_other different (separate_intercept first) _

end Agreement

end DecisionEngine.Feedback
