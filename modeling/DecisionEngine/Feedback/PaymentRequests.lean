import DecisionEngine.AbTest.Outcome
import DecisionEngine.Feedback.EliminationScore
import DecisionEngine.Scoring.BucketSize
import Mathlib.Data.List.Infix

/-!
# Requests for one payment

A decision stores the scoring data and the experiment of a payment under the payment's id.
The feedback reads them there, takes a lock, and updates the scores under the keys that it
builds from the stored data.  The kinds of keys begin differently and are kept apart here.
-/

namespace DecisionEngine.Feedback

open AbTest Map Number Scoring

/-! ## What is stored -/

/-- The scoring data of a payment, with the time of the payment in milliseconds. -/
structure StoredScoringData extends GatewayScoringData where
  dateCreated : Nat
  routingApproach : Option String
  eliminationEnabled : Bool
  gatewayReferenceId : Option String

/-- A value with the merchant whose request has written it, which no request reads. -/
structure Written (α : Type) where
  merchantId : String
  value : α

/-- An outcome event as it is recorded. -/
structure RecordedOutcome (F : Type) where
  merchantId : String
  paymentId : String
  outcome : OutcomeEvent F

structure PaymentStore (F : Type) where
  scoringData : String → Option StoredScoringData
  inflight : String → Option (Written (InflightContext F))
  locks : String → Option (Written String)
  windows : Redis.Store
  records : RedisKey → Option (CachedGatewayScore F)
  outcomes : List (RecordedOutcome F)

def gatewayScoringDataKey (txnUuid : String) : String :=
  "gateway_scoring_data_" ++ txnUuid

def inflightKey (paymentId : String) : String :=
  "ab_test_inflight:" ++ paymentId

def updateGatewayScoreLock (gatewayScoringType : GatewayScoringType) (txnUuid gateway : String) :
    String :=
  match gatewayScoringType with
  | .penalise => "gateway_scores_lock_PENALISE_" ++ txnUuid ++ "_" ++ gateway
  | .penaliseSrv3 => "gateway_scores_lock_PENALISE_SRV3_" ++ txnUuid ++ "_" ++ gateway
  | .reward => "gateway_scores_lock_REWARD_" ++ txnUuid ++ "_" ++ gateway

variable {F : Type}

/-! ## Experiments -/

namespace PaymentStore

variable (store : PaymentStore F)

/-- The record of a payment in flight, as a request reads it. -/
def readInflight (paymentId : String) : Option (InflightContext F) :=
  (store.inflight (inflightKey paymentId)).map Written.value

def writeInflight (merchantId paymentId : String) (ctx : Option (InflightContext F)) :
    PaymentStore F :=
  { store with
    inflight := Function.update store.inflight (inflightKey paymentId)
      (ctx.map fun value => ⟨merchantId, value⟩) }

@[simp]
theorem inflight_writeInflight_self (merchantId paymentId : String)
    (ctx : Option (InflightContext F)) :
    (store.writeInflight merchantId paymentId ctx).inflight (inflightKey paymentId) =
      ctx.map fun value => ⟨merchantId, value⟩ :=
  Function.update_self _ _ _

@[simp]
theorem inflight_writeInflight_of_ne (merchantId : String) {paymentId key : String}
    (differ : key ≠ inflightKey paymentId) (ctx : Option (InflightContext F)) :
    (store.writeInflight merchantId paymentId ctx).inflight key = store.inflight key :=
  Function.update_of_ne differ _ _

def storeInflight (merchantId paymentId : String) (arm : RoutedArm F) :
    PaymentStore F :=
  store.writeInflight merchantId paymentId
    (some (storedContext arm (existingFirstOutcomeEmitted (store.readInflight paymentId))))

def recordCostOutcome (merchantId paymentId : String) (outcome : CostOutcome F) : PaymentStore F :=
  store.writeInflight merchantId paymentId
    (some (enrichedContext outcome (existingFirstOutcomeEmitted (store.readInflight paymentId))))

/-- A payment that is not in flight has no outcome. -/
def emitIfInFlight (paymentId merchantId : String) (isSuccess : Bool) :
    PaymentStore F :=
  match store.readInflight paymentId with
  | none => store
  | some ctx =>
      { store.writeInflight merchantId paymentId (if isSuccess then none else some ctx.marked) with
        outcomes := store.outcomes ++ [⟨merchantId, paymentId, outcomeEvent ctx isSuccess⟩] }

@[simp]
theorem scoringData_emitIfInFlight (paymentId merchantId : String) (isSuccess : Bool) :
    (store.emitIfInFlight paymentId merchantId isSuccess).scoringData = store.scoringData := by
  rw [emitIfInFlight]
  cases store.readInflight paymentId <;> rfl

@[simp]
theorem locks_emitIfInFlight (paymentId merchantId : String) (isSuccess : Bool) :
    (store.emitIfInFlight paymentId merchantId isSuccess).locks = store.locks := by
  rw [emitIfInFlight]
  cases store.readInflight paymentId <;> rfl

end PaymentStore

/-! ## Decisions -/

/-- The scores that the decider reads for its gateways. -/
structure ScoresRead (F : Type) where
  window : Gateway → Option (Option Redis.Value × Option Redis.Value)
  record : Gateway → Option (CachedGatewayScore F)

/-- A window that replaces the one of a gateway. -/
structure WindowReset where
  gateway : Gateway
  score : Int
  scoreList : List String

structure RecordReset (F : Type) where
  gateway : Gateway
  input : ResetGatewayInput F

/-- What the flow of a decision writes. -/
structure FlowWrites (F : Type) where
  windowResets : List WindowReset
  recordResets : List (RecordReset F)
  /-- Nothing when the flow stops early. -/
  routingApproach : Option String
  /-- The gateway that was decided, with its costs, where an experiment is told of them. -/
  costOutcome : Option (Gateway × Costs F)

/-- How far a decision goes.  What the flow makes of the scores is any function of them. -/
inductive DecisionCourse (F : Type) where
  | rejected
  | staticArm (arm : RoutedArm F)
  | debitRouting (arm : Option (RoutedArm F))
  | deciderFlow (arm : Option (RoutedArm F)) (flow : ScoresRead F → FlowWrites F)

/-- A request for a decision, with what its scoring data are computed from. -/
structure DecideRequest (F : Type) where
  paymentId : String
  payment : Payment
  reads : ScoringDataReads
  dateCreated : Nat
  eliminationEnabled : Option Bool
  gatewayReferenceId : Option String
  gatewayList : List Gateway
  referenceId : Gateway → Option String
  course : DecisionCourse F

section Decisions

variable (configs : ServiceConfigs)

def DecideRequest.data (request : DecideRequest F) : GatewayScoringData :=
  getGatewayScoringData request.reads request.payment

def DecideRequest.keyMap (request : DecideRequest F) (scoreKeyType : ScoreKeyType) :
    GatewayRedisKeyMap :=
  getConsumerKey configs request.data scoreKeyType false request.gatewayList request.referenceId

def PaymentStore.scoresRead (store : PaymentStore F) (request : DecideRequest F) :
    ScoresRead F where
  window gateway := ((request.keyMap configs .srV3Key).lookup gateway).map fun key =>
    (store.windows (queueKey key), store.windows (scoreKey key))
  record gateway := ((request.keyMap configs .eliminationMerchantKey).lookup gateway).bind
    store.records

def applyWindowReset (keyMap : GatewayRedisKeyMap) (windows : Redis.Store)
    (reset : WindowReset) : Redis.Store :=
  match keyMap.lookup reset.gateway with
  | none => windows
  | some key => resetGatewayForSrV3 windows reset.score reset.scoreList key

def applyRecordReset [MachineNumber F] (keyMap : GatewayRedisKeyMap)
    (records : RedisKey → Option (CachedGatewayScore F)) (reset : RecordReset F) :
    RedisKey → Option (CachedGatewayScore F) :=
  match keyMap.lookup reset.gateway with
  | none => records
  | some key =>
      Function.update records key ((resetGatewayScore reset.input (records key)).or (records key))

def DecideRequest.storedData (request : DecideRequest F) (routingApproach : String) :
    StoredScoringData where
  toGatewayScoringData := request.data
  dateCreated := request.dateCreated
  routingApproach := some routingApproach
  eliminationEnabled := request.eliminationEnabled.getD false
  gatewayReferenceId := request.gatewayReferenceId

theorem merchantId_getGatewayScoringData (reads : ScoringDataReads) (payment : Payment) :
    (getGatewayScoringData reads payment).merchantId = payment.merchantId :=
  getGatewayScoringData_field reads GatewayScoringData.merchantId (fun _ _ _ => rfl)
    (fun _ _ _ _ _ _ => rfl) payment

@[simp]
theorem merchantId_storedData (request : DecideRequest F) (routingApproach : String) :
    (request.storedData routingApproach).merchantId = request.payment.merchantId :=
  merchantId_getGatewayScoringData request.reads request.payment

variable [MachineNumber F]

/-- The flow resets scores and then stores the scoring data. -/
def runFlow (request : DecideRequest F) (writes : FlowWrites F) (store : PaymentStore F) :
    PaymentStore F :=
  { store with
    windows := writes.windowResets.foldl (applyWindowReset (request.keyMap configs .srV3Key))
      store.windows
    records := writes.recordResets.foldl
      (applyRecordReset (request.keyMap configs .eliminationMerchantKey)) store.records
    scoringData := writes.routingApproach.elim store.scoringData fun routingApproach =>
      Function.update store.scoringData (gatewayScoringDataKey request.paymentId)
        (some (request.storedData routingApproach)) }

/-- The record of an experiment is stored before the decision. -/
def DecideRequest.intercept (request : DecideRequest F) (arm : Option (RoutedArm F))
    (store : PaymentStore F) : PaymentStore F :=
  arm.elim store (store.storeInflight request.payment.merchantId request.paymentId)

/-- The record of an experiment is enriched after the decision. -/
def DecideRequest.recordCosts (request : DecideRequest F) (arm : Option (RoutedArm F))
    (costOutcome : Option (Gateway × Costs F)) (store : PaymentStore F) : PaymentStore F :=
  match arm, costOutcome with
  | some arm, some (gateway, costs) =>
      store.recordCostOutcome request.payment.merchantId request.paymentId
        ⟨arm.experimentId, arm.variantArm, some gateway, costs, arm.amount⟩
  | _, _ => store

def decideGateway (request : DecideRequest F) (store : PaymentStore F) : PaymentStore F :=
  match request.course with
  | .rejected => store
  | .staticArm arm => request.intercept (some arm) store
  | .debitRouting arm => request.intercept arm store
  | .deciderFlow arm flow =>
      let intercepted := request.intercept arm store
      let writes := flow (intercepted.scoresRead configs request)
      request.recordCosts arm writes.costOutcome (runFlow configs request writes intercepted)

end Decisions

/-! ## Feedback -/

inductive TxnStatus where
  | started
  | authenticationFailed
  | juspayDeclined
  | pendingVbv
  | vbvSuccessful
  | authorized
  | authorizationFailed
  | charged
  | authorizing
  | codInitiated
  | voided
  | voidInitiated
  | nop
  | captureInitiated
  | captureFailed
  | voidFailed
  | autoRefunded
  | partialCharged
  | toBeCharged
  | pending
  | failure
  | declined
  deriving DecidableEq

def txnSuccessStates : List TxnStatus :=
  [.charged, .authorized, .codInitiated, .voided, .voidInitiated, .captureInitiated,
    .captureFailed, .voidFailed, .autoRefunded, .partialCharged, .toBeCharged]

def txnFailureStates : List TxnStatus :=
  [.authenticationFailed, .authorizationFailed, .juspayDeclined, .failure]

def isTransactionSuccess (txnStatus : TxnStatus) : Bool :=
  txnStatus ∈ txnSuccessStates

def isTransactionFailure (txnStatus : TxnStatus) : Bool :=
  txnStatus ∈ txnFailureStates

def isTransactionPending (txnStatus : TxnStatus) : Bool :=
  txnStatus = .pendingVbv || txnStatus = .started

/-- What the rules for errors of gateways say of an error. -/
structure GsmInfo where
  stepUpPossible : Bool
  unifiedMessage : Option String

def isGatewayHealthyFailure (gsmInfo : GsmInfo) : Bool :=
  gsmInfo.stepUpPossible || gsmInfo.unifiedMessage == some "Issue with Payment Method details"

structure UpdateScorePayload where
  merchantId : String
  gateway : String
  gatewayReferenceId : Option String
  status : TxnStatus
  paymentId : String
  enforceDynamicRoutingFailure : Option Bool

/-- What the feedback reads besides the stored data and scores. -/
structure FeedbackReads (F : Type) where
  gsmFilterEnabled : Bool
  /-- What the rules say of the error in the payload, if it has one. -/
  gsmInfo : Option GsmInfo
  merchantFound : Bool
  now : Nat
  /-- The time within which a payment counts as pending, in milliseconds. -/
  latencyThreshold : Payment → Nat
  updateScoreLockEnabled : Bool
  srV3ProducerIsolation : Bool
  exploreAndExploitOnSrV3 : String → Bool
  /-- The time within which feedback is used, in milliseconds. -/
  latencyCheckThreshold : Payment → Option StoredScoringData → Nat
  isGwLatencyWithinThreshold : Bool
  merchantSrV3InputConfig : Option (SrV3InputConfig F)
  defaultSrV3InputConfig : Option (SrV3InputConfig F)
  globalGatewayScoringEnabled : Bool
  eliminationFlowEnabled : Bool
  globalOutageEnabled : Bool
  merchantOutageEnabled : Bool
  /-- The time at which the score of a key is updated, and the configurations for it. -/
  timestamp : ScoreKeyType → Nat
  creationTimestamp : ScoreKeyType → Nat
  detailsTimestamp : ScoreKeyType → Nat
  scoreUpdate : ScoreKeyType → Payment → StoredScoringData → ScoreUpdateReads F

structure UpdateRequest (F : Type) where
  payload : UpdateScorePayload
  reads : FeedbackReads F

/-- The payment that the feedback has rebuilt. -/
structure FeedbackTxn where
  payment : Payment
  dateCreated : Nat
  routingApproach : String

def getTimeFromTxnCreatedInMills (now : Nat) (txn : FeedbackTxn) : Nat :=
  now - txn.dateCreated

def isRoutingApproachInSrV3 (text : String) : Bool :=
  "V3".toList <:+: text.toList ∨ "MULTI_OBJECTIVE".toList <:+: text.toList

def isRoutingApproachInExplore (text : String) : Bool :=
  "HEDGING".toList <:+: text.toList ∨ "MULTI_OBJECTIVE".toList <:+: text.toList

def isRecurringTxn (txnObjectType : Option TxnObjectType) : Bool :=
  txnObjectType.any fun type =>
    type ∈ [TxnObjectType.mandatePayment, .emandatePayment, .tpvMandatePayment,
      .tpvEmandatePayment]

/-- The lock is set unless it is set already. -/
def PaymentStore.checkAndSendShouldUpdateGatewayScore (store : PaymentStore F)
    (merchantId lockKey : String) : Bool × PaymentStore F :=
  match store.locks lockKey with
  | none =>
      (true,
        { store with
          locks := Function.update store.locks lockKey (some ⟨merchantId, "true"⟩) })
  | some _ => (false, store)

@[simp]
theorem scoringData_checkAndSendShouldUpdateGatewayScore (store : PaymentStore F)
    (merchantId lockKey : String) :
    (store.checkAndSendShouldUpdateGatewayScore merchantId lockKey).2.scoringData =
      store.scoringData := by
  rw [PaymentStore.checkAndSendShouldUpdateGatewayScore]
  cases store.locks lockKey <;> rfl

inductive UpdateResult where
  | success
  | invalidRequest (error : ApiError)
  | gatewayScoringDataNotFound
  | merchantAccountNotFound

namespace UpdateRequest

variable (configs : ServiceConfigs) (request : UpdateRequest F)

variable (txn : FeedbackTxn)

def getGatewayScoringType (enforceFailure : Bool) : GatewayScoringType :=
  if enforceFailure then .penaliseSrv3
  else if isTransactionSuccess request.payload.status then .reward
  else if isTransactionFailure request.payload.status then .penaliseSrv3
  else if getTimeFromTxnCreatedInMills request.reads.now txn <
      request.reads.latencyThreshold txn.payment then .penalise
  else .penaliseSrv3

variable (gatewayScoringType : GatewayScoringType)

/-- The metadata of a rebuilt payment name no mandate, so only its type makes it exempt. -/
def isUpdateWithinLatencyWindow (data : Option StoredScoringData) : Bool :=
  match gatewayScoringType with
  | .penalise => true
  | _ =>
      isRecurringTxn txn.payment.txnDetail.txnObjectType ||
        (getTimeFromTxnCreatedInMills request.reads.now txn <
            request.reads.latencyCheckThreshold txn.payment data &&
          request.reads.isGwLatencyWithinThreshold)

def producerKey (data : Option GatewayScoringData) (scoreKeyType : ScoreKeyType) :
    Option RedisKey :=
  getProducerKey configs (some request.payload.gateway) data scoreKeyType false
    request.payload.gatewayReferenceId

/-- Without scoring data the window under an empty key is updated. -/
def updateSrV3Score (txn : FeedbackTxn) (data : Option StoredScoringData) (windows : Redis.Store) :
    Redis.Store :=
  updateScoreAndQueue windows
    ((request.producerKey configs (data.map (·.toGatewayScoringData)) .srV3Key).getD "")
    gatewayScoringType
    (getSrV3MerchantBucketSize request.reads.merchantSrV3InputConfig
      request.reads.defaultSrV3InputConfig txn.payment)

/-- The kinds of keys for which the scores are updated. -/
def enabledKeyTypes (data : StoredScoringData) : List ScoreKeyType :=
  [(ScoreKeyType.eliminationGlobalKey, request.reads.globalGatewayScoringEnabled),
    (.eliminationMerchantKey, data.eliminationEnabled || request.reads.eliminationFlowEnabled),
    (.outageGlobalKey, request.reads.globalOutageEnabled),
    (.outageMerchantKey, request.reads.merchantOutageEnabled)].filterMap fun entry =>
      if entry.2 then some entry.1 else none

def getAllUnifiedKeys (data : StoredScoringData) : List (ScoreKeyType × RedisKey) :=
  (request.enabledKeyTypes data).filterMap fun scoreKeyType =>
    (request.producerKey configs (some data.toGatewayScoringData) scoreKeyType).map
      fun key => (scoreKeyType, key)

/-- The feedback for one key. -/
def feedbackUpdate (txn : FeedbackTxn) (data : StoredScoringData) (scoreKeyType : ScoreKeyType) :
    FeedbackUpdate F where
  scoreKeyType := scoreKeyType
  gatewayScoringType := gatewayScoringType
  merchantId := request.payload.merchantId
  timestamp := request.reads.timestamp scoreKeyType
  creationTimestamp := request.reads.creationTimestamp scoreKeyType
  detailsTimestamp := request.reads.detailsTimestamp scoreKeyType
  reads := request.reads.scoreUpdate scoreKeyType txn.payment data

/-- The kinds of outcomes for which the scores of the keys are updated. -/
def shouldUpdateGatewayScore (gatewayScoringType : GatewayScoringType) : Bool :=
  match gatewayScoringType with
  | .penaliseSrv3 => false
  | .penalise => isTransactionPending request.payload.status
  | .reward => true

def isUpdateWithinWindow (txn : FeedbackTxn) (data : Option StoredScoringData) : Bool :=
  request.isUpdateWithinLatencyWindow txn gatewayScoringType
    (if request.shouldUpdateGatewayScore gatewayScoringType then data else none)

/-- The window is updated unless a feature of the merchant leaves out the routing approach. -/
def shouldRecordSrv3PostUpdate (txn : FeedbackTxn) (data : Option StoredScoringData) : Bool :=
  let shouldUpdateSrv3GatewayScore := gatewayScoringType ≠ .penalise
  let shouldIsolateSrv3Producer :=
    !request.reads.srV3ProducerIsolation || isRoutingApproachInSrV3 txn.routingApproach
  let shouldUpdateExploreTxn :=
    !request.reads.exploreAndExploitOnSrV3 txn.payment.txnCardInfo.paymentMethodType ||
      isRoutingApproachInExplore txn.routingApproach
  shouldUpdateSrv3GatewayScore && shouldIsolateSrv3Producer && shouldUpdateExploreTxn &&
    request.isUpdateWithinWindow gatewayScoringType txn data

variable [MachineNumber F]

def updateRecords (txn : FeedbackTxn) (data : StoredScoringData)
    (records : RedisKey → Option (CachedGatewayScore F)) :
    RedisKey → Option (CachedGatewayScore F) :=
  (request.getAllUnifiedKeys configs data).foldl
    (fun records entry =>
      Function.update records entry.2
        (some (updateKeyScoreForKeysFromConsumer
          (request.feedbackUpdate gatewayScoringType txn data entry.1) (records entry.2))))
    records

/-- The outcome goes to the window of the payment, and to the scores of its keys. -/
def updateGatewayScore (txn : FeedbackTxn) (store : PaymentStore F) : PaymentStore F :=
  let data := store.scoringData (gatewayScoringDataKey request.payload.paymentId)
  { store with
    windows :=
      if request.shouldRecordSrv3PostUpdate gatewayScoringType txn data then
        request.updateSrV3Score configs gatewayScoringType txn data store.windows
      else store.windows
    records :=
      if request.shouldUpdateGatewayScore gatewayScoringType &&
          request.isUpdateWithinWindow gatewayScoringType txn data then
        data.elim store.records fun data =>
          request.updateRecords configs gatewayScoringType txn data store.records
      else store.records }

/-- The key of the lock for the outcome of a payment. -/
def lockKey (enforceFailure : Bool) : String :=
  updateGatewayScoreLock (request.getGatewayScoringType txn enforceFailure)
    request.payload.paymentId request.payload.gateway

/-- The lock is taken in any case, and heeded for the merchants that have the feature. -/
def checkAndUpdateGatewayScore (enforceFailure : Bool) (store : PaymentStore F) :
    UpdateResult × PaymentStore F :=
  let gatewayScoringType := request.getGatewayScoringType txn enforceFailure
  let locked := store.checkAndSendShouldUpdateGatewayScore request.payload.merchantId
    (request.lockKey txn enforceFailure)
  if request.reads.updateScoreLockEnabled && !locked.1 then (.success, locked.2)
  else if request.reads.merchantFound then
    (.success, request.updateGatewayScore configs gatewayScoringType txn locked.2)
  else (.merchantAccountNotFound, locked.2)

/-- The feedback is left out when the rules find that the gateway is healthy. -/
def skipsPenalization : Bool :=
  request.reads.gsmFilterEnabled && request.reads.gsmInfo.any isGatewayHealthyFailure

/-- The transaction that the feedback works with. -/
def feedbackTxn (data : StoredScoringData) : Except ApiError FeedbackTxn :=
  (paymentFromApiPayload request.payload.merchantId data.toGatewayScoringData).map fun payment =>
    ⟨payment, data.dateCreated, data.routingApproach.getD ""⟩

def enforceFailure : Bool :=
  request.payload.enforceDynamicRoutingFailure.getD false

/-- The outcome of an experiment is emitted before anything else. -/
def checkAndUpdateGatewayScoreFromPayload (store : PaymentStore F) :
    UpdateResult × PaymentStore F :=
  let payload := request.payload
  let store := store.emitIfInFlight payload.paymentId payload.merchantId
    (isTransactionSuccess payload.status)
  if request.skipsPenalization then (.success, store)
  else
    match store.scoringData (gatewayScoringDataKey payload.paymentId) with
    | none => (.gatewayScoringDataNotFound, store)
    | some data =>
        match request.feedbackTxn data with
        | .error error => (.invalidRequest error, store)
        | .ok txn => request.checkAndUpdateGatewayScore configs txn request.enforceFailure store

end UpdateRequest

/-! ## Histories -/

/-- A key that can expire. -/
inductive StoredKey where
  | scoringData (key : String)
  | inflight (key : String)
  | lock (key : String)
  | window (key : String)
  | record (key : RedisKey)

def PaymentStore.expire (store : PaymentStore F) : StoredKey → PaymentStore F
  | .scoringData key => { store with scoringData := Function.update store.scoringData key none }
  | .inflight key => { store with inflight := Function.update store.inflight key none }
  | .lock key => { store with locks := Function.update store.locks key none }
  | .window key => { store with windows := store.windows.del key }
  | .record key => { store with records := Function.update store.records key none }

inductive PaymentEvent (F : Type) where
  | decide (request : DecideRequest F)
  | update (request : UpdateRequest F)
  | expire (key : StoredKey)

/-- The merchant of a request; an expiry has none. -/
def PaymentEvent.merchantId : PaymentEvent F → Option String
  | .decide request => some request.payment.merchantId
  | .update request => some request.payload.merchantId
  | .expire _ => none

variable [MachineNumber F]

def servePayment (configs : ServiceConfigs) (store : PaymentStore F) :
    PaymentEvent F → Option UpdateResult × PaymentStore F
  | .decide request => (none, decideGateway configs request store)
  | .update request =>
      let answered := request.checkAndUpdateGatewayScoreFromPayload configs store
      (some answered.1, answered.2)
  | .expire key => (none, store.expire key)

end DecisionEngine.Feedback
