import DecisionEngine.Config.Features
import DecisionEngine.Feedback.PaymentHistory

/-!
# The filter of errors

Feedback may say with which error the gateway has answered.  A table of rules says of some errors
that the gateway is healthy, and for the merchants that have the feature the scores are not
updated then.

The filter does not look at the status of the payment, so it also takes rewards away.
-/

namespace DecisionEngine.Feedback

open DecisionEngine.Config Map Number Scoring Text

/-! ## The table of rules -/

inductive GsmDecision where
  | retry
  | doDefault
  deriving DecidableEq

def GsmDecision.fromStr (text : String) : Except String GsmDecision :=
  if text = "retry" then .ok .retry
  else if text = "do_default" then .ok .doDefault
  else .error text

/-- The connector, the flow, the sub-flow, the code and the message of an error. -/
structure GsmKey where
  connector : String
  flow : String
  subFlow : String
  code : String
  message : String
  deriving DecidableEq

/-- A row of the table. -/
structure CsvRow extends GsmKey where
  decision : String
  stepUpPossible : String
  unifiedMessage : String

structure GsmRule extends GsmKey where
  decision : GsmDecision
  stepUpPossible : Bool
  unifiedMessage : Option String

def noneIfEmpty (text : String) : Option String :=
  if text.isEmpty then none else some text

section Rules

variable [LetterCase]

def parseBoolString (text : String) : Bool :=
  LetterCase.toUppercase text ∈ ["TRUE", "1", "YES"]

def CsvRow.rule (row : CsvRow) : Except String GsmRule :=
  (GsmDecision.fromStr row.decision).map fun decision =>
    { row with
      decision := decision
      stepUpPossible := parseBoolString row.stepUpPossible
      unifiedMessage := noneIfEmpty row.unifiedMessage }

abbrev ConfigGsmStore := HashMap GsmKey GsmRule

/-- The rows one after another; the first decision that is unknown is an error. -/
def insertRows (index : ConfigGsmStore) : List CsvRow → Except String ConfigGsmStore
  | [] => .ok index
  | row :: rest =>
      match row.rule with
      | .ok rule => insertRows (index.insert row.toGsmKey rule) rest
      | .error failure => .error failure

def fromCsvRows (rows : List CsvRow) : Except String ConfigGsmStore :=
  insertRows ∅ rows

end Rules

/-! ## Errors of gateways -/

structure GsmErrorInfo where
  connector : String
  flow : String
  subFlow : String
  errorCode : Option String
  errorMessage : Option String
  issuerErrorCode : Option String
  cardNetwork : Option String

/-- The code of the issuer has at least two characters. -/
def issuerLookupKey (cardNetwork issuerCode : String) : String :=
  "Network:" ++ cardNetwork ++ "|IssuerCode:" ++
    String.ofList (issuerCode.toList.leftpad 2 '0')

/-- The key of an error with its code and message. -/
def GsmErrorInfo.key (errorInfo : GsmErrorInfo) (code message : String) : GsmKey :=
  ⟨errorInfo.connector, errorInfo.flow, errorInfo.subFlow, code, message⟩

/-- The key of the issuer's code, where the error has one. -/
def GsmErrorInfo.issuerKey (errorInfo : GsmErrorInfo) : Option GsmKey :=
  match errorInfo.cardNetwork, errorInfo.issuerErrorCode with
  | some network, some issuerCode =>
      let key := issuerLookupKey network issuerCode
      some (errorInfo.key key key)
  | _, _ => none

def GsmErrorInfo.connectorKey (errorInfo : GsmErrorInfo) : GsmKey :=
  errorInfo.key (errorInfo.errorCode.getD "") (errorInfo.errorMessage.getD "")

def getGsmRule (store : ConfigGsmStore) (errorInfo : GsmErrorInfo) : Option GsmRule :=
  (errorInfo.issuerKey.bind store.lookup).or (store.lookup errorInfo.connectorKey)

def lookupFromErrorInfo (store : ConfigGsmStore) (errorInfo : GsmErrorInfo) : Option GsmInfo :=
  (getGsmRule store errorInfo).map fun rule => ⟨rule.stepUpPossible, rule.unifiedMessage⟩

/-! ## What the table says -/

/-- The row of a key is the last one that has it. -/
inductive RowFor (key : GsmKey) : List CsvRow → CsvRow → Prop where
  | last {row : CsvRow} {rest : List CsvRow} (hasKey : row.toGsmKey = key)
      (isLast : ∀ later ∈ rest, later.toGsmKey ≠ key) : RowFor key (row :: rest) row
  | later {first row : CsvRow} {rest : List CsvRow} (isRow : RowFor key rest row) :
      RowFor key (first :: rest) row

/-- The row for the issuer's code, or the one for the connector's where there is none. -/
inductive MostSpecific (rows : List CsvRow) (errorInfo : GsmErrorInfo) : CsvRow → Prop where
  | issuer {key : GsmKey} {row : CsvRow} (hasIssuer : errorInfo.issuerKey = some key)
      (isRow : RowFor key rows row) : MostSpecific rows errorInfo row
  | connector {row : CsvRow}
      (noIssuerRow : ∀ key ∈ errorInfo.issuerKey, ∀ row ∈ rows, row.toGsmKey ≠ key)
      (isRow : RowFor errorInfo.connectorKey rows row) : MostSpecific rows errorInfo row

theorem RowFor.mem {key : GsmKey} {rows : List CsvRow} {row : CsvRow}
    (isRow : RowFor key rows row) : row ∈ rows ∧ row.toGsmKey = key := by
  induction isRow with
  | last hasKey isLast => exact ⟨List.mem_cons_self, hasKey⟩
  | later isRow ih => exact ⟨List.mem_cons_of_mem _ ih.1, ih.2⟩

theorem exists_rowFor {key : GsmKey} {rows : List CsvRow}
    (listed : ∃ row ∈ rows, row.toGsmKey = key) : ∃ row, RowFor key rows row := by
  induction rows with
  | nil =>
      rcases listed with ⟨row, isRow, _⟩
      cases isRow
  | cons first rest ih =>
      by_cases inRest : ∃ row ∈ rest, row.toGsmKey = key
      · rcases ih inRest with ⟨row, isRow⟩
        exact ⟨row, .later isRow⟩
      · rcases listed with ⟨row, isListed, hasKey⟩
        rcases List.mem_cons.mp isListed with rfl | isLater
        · exact ⟨row, .last hasKey fun later isLater sameKey => inRest ⟨later, isLater, sameKey⟩⟩
        · exact absurd ⟨row, isLater, hasKey⟩ inRest

section Lookup

variable [LetterCase]

theorem rule_of_insertRows {index store : ConfigGsmStore} {rows : List CsvRow}
    (loaded : insertRows index rows = .ok store) :
    ∀ row ∈ rows, ∃ rule, row.rule = .ok rule := by
  induction rows generalizing index with
  | nil => simp
  | cons first rest ih =>
      cases isRule : first.rule with
      | error failure => simp [insertRows, isRule] at loaded
      | ok rule =>
          rw [insertRows, isRule] at loaded
          exact List.forall_mem_cons.mpr ⟨⟨rule, isRule⟩, ih loaded⟩

/-- What is found under a key is the rule of its row, or what was there before. -/
theorem lookup_insertRows {index store : ConfigGsmStore} {rows : List CsvRow}
    (loaded : insertRows index rows = .ok store) (key : GsmKey) (rule : GsmRule) :
    store.lookup key = some rule ↔
      (∃ row, RowFor key rows row ∧ row.rule = .ok rule) ∨
        (∀ row ∈ rows, row.toGsmKey ≠ key) ∧ index.lookup key = some rule := by
  induction rows generalizing index with
  | nil =>
      cases loaded
      constructor
      · exact fun found => .inr ⟨by simp, found⟩
      · rintro (⟨row, isRow, _⟩ | ⟨_, found⟩)
        · cases isRow
        · exact found
  | cons first rest ih =>
      cases isFirst : first.rule with
      | error failure => simp [insertRows, isFirst] at loaded
      | ok firstRule =>
          rw [insertRows, isFirst] at loaded
          rw [ih loaded]
          constructor
          · rintro (⟨row, isRow, isRule⟩ | ⟨noneLater, found⟩)
            · exact .inl ⟨row, .later isRow, isRule⟩
            · by_cases hasKey : first.toGsmKey = key
              · rw [← hasKey, AList.lookup_insert, Option.some.injEq] at found
                exact .inl ⟨first, .last hasKey noneLater, found ▸ isFirst⟩
              · rw [AList.lookup_insert_ne (Ne.symm hasKey)] at found
                exact .inr ⟨List.forall_mem_cons.mpr ⟨hasKey, noneLater⟩, found⟩
          · rintro (⟨row, isRow, isRule⟩ | ⟨noneHas, found⟩)
            · cases isRow with
              | last hasKey isLast =>
                  rw [isRule, Except.ok.injEq] at isFirst
                  refine .inr ⟨isLast, ?_⟩
                  rw [hasKey, AList.lookup_insert, isFirst]
              | later isRow => exact .inl ⟨row, isRow, isRule⟩
            · have otherKey := (List.forall_mem_cons.mp noneHas).1
              refine .inr ⟨(List.forall_mem_cons.mp noneHas).2, ?_⟩
              rwa [AList.lookup_insert_ne (Ne.symm otherKey)]

/-- A table that has been loaded. -/
structure GsmTable where
  rows : List CsvRow
  store : ConfigGsmStore
  loaded : fromCsvRows rows = .ok store

namespace GsmTable

variable (table : GsmTable)

theorem lookup_eq_some_iff (key : GsmKey) (rule : GsmRule) :
    table.store.lookup key = some rule ↔
      ∃ row, RowFor key table.rows row ∧ row.rule = .ok rule := by
  rw [lookup_insertRows table.loaded, AList.lookup_empty]
  simp

theorem lookup_eq_none_iff (key : GsmKey) :
    table.store.lookup key = none ↔ ∀ row ∈ table.rows, row.toGsmKey ≠ key := by
  rw [Option.eq_none_iff_forall_ne_some]
  constructor
  · intro noRule row listed hasKey
    rcases exists_rowFor ⟨row, listed, hasKey⟩ with ⟨last, isRow⟩
    rcases rule_of_insertRows table.loaded last isRow.mem.1 with ⟨rule, isRule⟩
    exact noRule rule ((table.lookup_eq_some_iff key rule).mpr ⟨last, isRow, isRule⟩)
  · intro noRow rule found
    rcases (table.lookup_eq_some_iff key rule).mp found with ⟨row, isRow, _⟩
    exact noRow row isRow.mem.1 isRow.mem.2

/-- The rule that is found for an error is that of the most specific row. -/
theorem getGsmRule_eq_some_iff (errorInfo : GsmErrorInfo) (rule : GsmRule) :
    getGsmRule table.store errorInfo = some rule ↔
      ∃ row, MostSpecific table.rows errorInfo row ∧ row.rule = .ok rule := by
  rw [getGsmRule, Option.or_eq_some_iff]
  constructor
  · rintro (found | ⟨noIssuerRule, found⟩)
    · rcases Option.bind_eq_some_iff.mp found with ⟨key, hasIssuer, isFound⟩
      rcases (table.lookup_eq_some_iff key rule).mp isFound with ⟨row, isRow, isRule⟩
      exact ⟨row, .issuer hasIssuer isRow, isRule⟩
    · rcases (table.lookup_eq_some_iff _ rule).mp found with ⟨row, isRow, isRule⟩
      refine ⟨row, .connector ?_ isRow, isRule⟩
      intro key hasIssuer
      rw [hasIssuer] at noIssuerRule
      exact (table.lookup_eq_none_iff key).mp noIssuerRule
  · rintro ⟨row, specific, isRule⟩
    cases specific with
    | @issuer key _ hasIssuer isRow =>
        rw [hasIssuer]
        exact .inl ((table.lookup_eq_some_iff key rule).mpr ⟨row, isRow, isRule⟩)
    | connector noIssuerRow isRow =>
        refine .inr ⟨?_, (table.lookup_eq_some_iff _ rule).mpr ⟨row, isRow, isRule⟩⟩
        cases hasIssuer : errorInfo.issuerKey with
        | none => rfl
        | some key => exact (table.lookup_eq_none_iff key).mpr (noIssuerRow key hasIssuer)

end GsmTable

/-- The row says that the gateway is not at fault. -/
def CsvRow.NotAtFault (row : CsvRow) : Prop :=
  parseBoolString row.stepUpPossible = true ∨
    row.unifiedMessage = "Issue with Payment Method details"

/-- The most specific row for the error says that the gateway is not at fault. -/
def FindsHealthy (rows : List CsvRow) (errorInfo : GsmErrorInfo) : Prop :=
  ∃ row, MostSpecific rows errorInfo row ∧ row.NotAtFault

theorem isGatewayHealthyFailure_iff {row : CsvRow} {rule : GsmRule} (isRule : row.rule = .ok rule) :
    isGatewayHealthyFailure ⟨rule.stepUpPossible, rule.unifiedMessage⟩ ↔ row.NotAtFault := by
  rw [CsvRow.rule] at isRule
  cases decided : GsmDecision.fromStr row.decision with
  | error failure => simp [decided, Except.map] at isRule
  | ok decision =>
      simp only [decided, Except.map, Except.ok.injEq] at isRule
      subst isRule
      simp only [isGatewayHealthyFailure, CsvRow.NotAtFault, noneIfEmpty, Bool.or_eq_true,
        beq_iff_eq]
      refine or_congr_right ?_
      by_cases empty : row.unifiedMessage = ""
      · simp [empty]
      · simp [empty]

theorem lookupFromErrorInfo_healthy_iff (table : GsmTable) (errorInfo : GsmErrorInfo) :
    (lookupFromErrorInfo table.store errorInfo).any isGatewayHealthyFailure ↔
      FindsHealthy table.rows errorInfo := by
  rw [lookupFromErrorInfo, FindsHealthy, Option.any_map, Option.any_eq_true]
  constructor
  · rintro ⟨rule, found, healthy⟩
    rcases (table.getGsmRule_eq_some_iff errorInfo rule).mp found with ⟨row, specific, isRule⟩
    exact ⟨row, specific, (isGatewayHealthyFailure_iff isRule).mp healthy⟩
  · rintro ⟨row, specific, notAtFault⟩
    have listed : row ∈ table.rows := by
      cases specific with
      | issuer _ isRow => exact isRow.mem.1
      | connector _ isRow => exact isRow.mem.1
    rcases rule_of_insertRows table.loaded row listed with ⟨rule, isRule⟩
    exact ⟨rule, (table.getGsmRule_eq_some_iff errorInfo rule).mpr ⟨row, specific, isRule⟩,
      (isGatewayHealthyFailure_iff isRule).mpr notAtFault⟩

end Lookup

/-! ## Updates of the scores -/

/-- The windows and the records of an update. -/
structure Scores (F : Type) where
  windows : Redis.Store
  records : RedisKey → Option (CachedGatewayScore F)

/-- An update of one score. -/
inductive ScoresWrite (F : Type) where
  | window (key : String) (gatewayScoringType : GatewayScoringType) (bucketSize : Int)
  | record (key : RedisKey) (update : FeedbackUpdate F)

variable {F : Type}

def PaymentStore.scores (store : PaymentStore F) : Scores F :=
  ⟨store.windows, store.records⟩

def ScoresWrite.apply [MachineNumber F] (scores : Scores F) : ScoresWrite F → Scores F
  | .window key gatewayScoringType bucketSize =>
      { scores with
        windows := updateScoreAndQueue scores.windows key gatewayScoringType bucketSize }
  | .record key update =>
      { scores with
        records := Function.update scores.records key
          (some (updateKeyScoreForKeysFromConsumer update (scores.records key))) }

theorem scores_emitIfInFlight (store : PaymentStore F) (paymentId merchantId : String)
    (isSuccess : Bool) :
    (store.emitIfInFlight paymentId merchantId isSuccess).scores = store.scores := by
  rw [PaymentStore.emitIfInFlight]
  cases store.readInflight paymentId <;> rfl

theorem scores_checkAndSendShouldUpdateGatewayScore (store : PaymentStore F)
    (merchantId lockKey : String) :
    (store.checkAndSendShouldUpdateGatewayScore merchantId lockKey).2.scores = store.scores := by
  rw [PaymentStore.checkAndSendShouldUpdateGatewayScore]
  cases store.locks lockKey <;> rfl

namespace UpdateRequest

variable (configs : ServiceConfigs) (request : UpdateRequest F)

variable (gatewayScoringType : GatewayScoringType) (txn : FeedbackTxn)

def windowUpdates (data : Option StoredScoringData) : List (ScoresWrite F) :=
  if request.shouldRecordSrv3PostUpdate gatewayScoringType txn data then
    [.window
      ((request.producerKey configs (data.map (·.toGatewayScoringData)) .srV3Key).getD "")
      gatewayScoringType
      (getSrV3MerchantBucketSize request.reads.merchantSrV3InputConfig
        request.reads.defaultSrV3InputConfig txn.payment)]
  else []

def recordUpdates (data : Option StoredScoringData) : List (ScoresWrite F) :=
  if request.shouldUpdateGatewayScore gatewayScoringType &&
      request.isUpdateWithinWindow gatewayScoringType txn data then
    data.elim [] fun data =>
      (request.getAllUnifiedKeys configs data).map fun entry =>
        .record entry.2 (request.feedbackUpdate gatewayScoringType txn data entry.1)
  else []

/-- The updates for a transaction, none of them without the lock. -/
def txnUpdates (store : PaymentStore F) : List (ScoresWrite F) :=
  let gatewayScoringType := request.getGatewayScoringType txn request.enforceFailure
  let data := store.scoringData (gatewayScoringDataKey request.payload.paymentId)
  if request.reads.updateScoreLockEnabled &&
      (store.locks (request.lockKey txn request.enforceFailure)).isSome then []
  else if request.reads.merchantFound then
    request.windowUpdates configs gatewayScoringType txn data ++
      request.recordUpdates configs gatewayScoringType txn data
  else []

/-- The updates that the feedback performs, in their order. -/
def scoreUpdates (store : PaymentStore F) : List (ScoresWrite F) :=
  if request.skipsPenalization then []
  else
    match store.scoringData (gatewayScoringDataKey request.payload.paymentId) with
    | none => []
    | some data =>
        match request.feedbackTxn data with
        | .error _ => []
        | .ok txn => request.txnUpdates configs txn store

variable [MachineNumber F]

variable (data : Option StoredScoringData)

theorem foldl_windowUpdates (scores : Scores F) :
    (request.windowUpdates configs gatewayScoringType txn data).foldl ScoresWrite.apply scores =
      { scores with
        windows :=
          if request.shouldRecordSrv3PostUpdate gatewayScoringType txn data then
            request.updateSrV3Score configs gatewayScoringType txn data scores.windows
          else scores.windows } := by
  rw [windowUpdates]
  split
  · rfl
  · rfl

/-- The keys of a payment are updated one after another. -/
theorem foldl_keyUpdates (data : StoredScoringData) (keys : List (ScoreKeyType × RedisKey))
    (scores : Scores F) :
    (keys.map fun entry => ScoresWrite.record entry.2
        (request.feedbackUpdate gatewayScoringType txn data entry.1)).foldl
          ScoresWrite.apply scores =
      { scores with
        records := keys.foldl
          (fun records entry =>
            Function.update records entry.2
              (some (updateKeyScoreForKeysFromConsumer
                (request.feedbackUpdate gatewayScoringType txn data entry.1) (records entry.2))))
          scores.records } := by
  induction keys generalizing scores with
  | nil => rfl
  | cons first rest ih =>
      rw [List.map_cons, List.foldl_cons, ih]
      rfl

theorem foldl_recordUpdates (scores : Scores F) :
    (request.recordUpdates configs gatewayScoringType txn data).foldl ScoresWrite.apply scores =
      { scores with
        records :=
          if request.shouldUpdateGatewayScore gatewayScoringType &&
              request.isUpdateWithinWindow gatewayScoringType txn data then
            data.elim scores.records fun data =>
              request.updateRecords configs gatewayScoringType txn data scores.records
          else scores.records } := by
  rw [recordUpdates]
  split
  · cases data with
    | none => rfl
    | some data => exact request.foldl_keyUpdates gatewayScoringType txn data _ scores
  · rfl

variable (store : PaymentStore F)

theorem scores_updateGatewayScore :
    (request.updateGatewayScore configs gatewayScoringType txn store).scores =
      (request.windowUpdates configs gatewayScoringType txn
          (store.scoringData (gatewayScoringDataKey request.payload.paymentId)) ++
        request.recordUpdates configs gatewayScoringType txn
          (store.scoringData (gatewayScoringDataKey request.payload.paymentId))).foldl
        ScoresWrite.apply store.scores := by
  rw [List.foldl_append, foldl_windowUpdates, foldl_recordUpdates]
  rfl

theorem scores_checkAndUpdateGatewayScore :
    (request.checkAndUpdateGatewayScore configs txn request.enforceFailure store).2.scores =
      (request.txnUpdates configs txn store).foldl ScoresWrite.apply store.scores := by
  have locked := scores_checkAndSendShouldUpdateGatewayScore store request.payload.merchantId
    (request.lockKey txn request.enforceFailure)
  have sameData := scoringData_checkAndSendShouldUpdateGatewayScore store
    request.payload.merchantId (request.lockKey txn request.enforceFailure)
  have taken : (store.checkAndSendShouldUpdateGatewayScore request.payload.merchantId
      (request.lockKey txn request.enforceFailure)).1 =
        !(store.locks (request.lockKey txn request.enforceFailure)).isSome := by
    rw [PaymentStore.checkAndSendShouldUpdateGatewayScore]
    cases store.locks (request.lockKey txn request.enforceFailure) <;> rfl
  rw [checkAndUpdateGatewayScore, txnUpdates, taken, Bool.not_not]
  split
  · exact locked
  · split
    · rw [scores_updateGatewayScore, locked, sameData]
    · exact locked

/-- What the feedback makes of the scores is what its updates make of them. -/
theorem scores_checkAndUpdateGatewayScoreFromPayload :
    (request.checkAndUpdateGatewayScoreFromPayload configs store).2.scores =
      (request.scoreUpdates configs store).foldl ScoresWrite.apply store.scores := by
  have emitted := scores_emitIfInFlight store request.payload.paymentId request.payload.merchantId
    (isTransactionSuccess request.payload.status)
  rw [checkAndUpdateGatewayScoreFromPayload, scoreUpdates]
  rw [PaymentStore.scoringData_emitIfInFlight]
  split
  · exact emitted
  · cases store.scoringData (gatewayScoringDataKey request.payload.paymentId) with
    | none => exact emitted
    | some data =>
        dsimp only
        cases request.feedbackTxn data with
        | error failure => exact emitted
        | ok txn =>
            dsimp only
            rw [scores_checkAndUpdateGatewayScore, emitted, txnUpdates, txnUpdates,
              PaymentStore.locks_emitIfInFlight, PaymentStore.scoringData_emitIfInFlight]

section

omit [MachineNumber F]

theorem windowUpdates_ne_nil_iff :
    request.windowUpdates configs gatewayScoringType txn data ≠ [] ↔
      request.shouldRecordSrv3PostUpdate gatewayScoringType txn data := by
  rw [windowUpdates]
  split <;> simp_all

theorem recordUpdates_ne_nil_iff (data : StoredScoringData) :
    request.recordUpdates configs gatewayScoringType txn (some data) ≠ [] ↔
      request.shouldUpdateGatewayScore gatewayScoringType ∧
        request.isUpdateWithinWindow gatewayScoringType txn (some data) ∧
        request.getAllUnifiedKeys configs data ≠ [] := by
  rw [recordUpdates]
  split
  · rename_i within
    rw [Bool.and_eq_true] at within
    simp [within]
  · rename_i notWithin
    rw [Bool.and_eq_true] at notWithin
    constructor
    · exact fun nonempty => absurd rfl nonempty
    · exact fun due => absurd ⟨due.1, due.2.1⟩ notWithin

/-- The lock of a payment is free or not heeded, the merchant is known, and a window or a record
is to be updated. -/
def TxnUpdatesDue (data : StoredScoringData) (txn : FeedbackTxn) (store : PaymentStore F) : Prop :=
  let gatewayScoringType := request.getGatewayScoringType txn request.enforceFailure
  (request.reads.updateScoreLockEnabled →
    store.locks (request.lockKey txn request.enforceFailure) = none) ∧
  request.reads.merchantFound ∧
  (request.shouldRecordSrv3PostUpdate gatewayScoringType txn (some data) ∨
    request.shouldUpdateGatewayScore gatewayScoringType ∧
      request.isUpdateWithinWindow gatewayScoringType txn (some data) ∧
      request.getAllUnifiedKeys configs data ≠ [])

/-- The stored data are those of a payment with updates to perform. -/
def UpdatesDue (store : PaymentStore F) : Prop :=
  ∃ data txn, store.scoringData (gatewayScoringDataKey request.payload.paymentId) = some data ∧
    request.feedbackTxn data = .ok txn ∧ request.TxnUpdatesDue configs data txn store

theorem txnUpdates_ne_nil_iff {data : StoredScoringData} (txn : FeedbackTxn)
    {store : PaymentStore F}
    (isData : store.scoringData (gatewayScoringDataKey request.payload.paymentId) = some data) :
    request.txnUpdates configs txn store ≠ [] ↔ request.TxnUpdatesDue configs data txn store := by
  rw [txnUpdates, TxnUpdatesDue, isData, ← windowUpdates_ne_nil_iff configs,
    ← recordUpdates_ne_nil_iff]
  cases request.reads.updateScoreLockEnabled <;>
    cases store.locks (request.lockKey txn request.enforceFailure) <;>
    cases request.reads.merchantFound <;>
    simp [imp_iff_not_or]

theorem scoreUpdates_ne_nil_iff :
    request.scoreUpdates configs store ≠ [] ↔
      request.skipsPenalization = false ∧ request.UpdatesDue configs store := by
  rw [scoreUpdates, UpdatesDue]
  cases request.skipsPenalization with
  | true => simp
  | false =>
      cases isData : store.scoringData (gatewayScoringDataKey request.payload.paymentId) with
      | none => simp
      | some data =>
          cases isTxn : request.feedbackTxn data with
          | error failure => simp [isTxn]
          | ok txn => simp [isTxn, request.txnUpdates_ne_nil_iff configs txn isData]

end

/-! ### What a change of the scores tells -/

/-- The feedback reaches the scores: it is not left out, its payment is known and can be
converted, the lock is free or not heeded, and the merchant is known. -/
structure Heeded (data : StoredScoringData) (txn : FeedbackTxn) (store : PaymentStore F) :
    Prop where
  notSkipped : request.skipsPenalization = false
  isData : store.scoringData (gatewayScoringDataKey request.payload.paymentId) = some data
  isTxn : request.feedbackTxn data = .ok txn
  free : request.reads.updateScoreLockEnabled →
    store.locks (request.lockKey txn request.enforceFailure) = none
  merchantFound : request.reads.merchantFound

/-- The payment is younger than the threshold for a verdict on it. -/
def IsYoung (txn : FeedbackTxn) : Prop :=
  getTimeFromTxnCreatedInMills request.reads.now txn < request.reads.latencyThreshold txn.payment

/-- A record is changed for a success within the latency window, or for a young payment that is
pending, under a key of the payment. -/
def RecordDue (key : RedisKey) : Prop :=
  ∃ data txn, request.Heeded data txn store ∧ request.enforceFailure = false ∧
    (isTransactionSuccess request.payload.status ∧
        request.isUpdateWithinLatencyWindow txn .reward (some data) ∨
      isTransactionPending request.payload.status ∧ request.IsYoung txn) ∧
    ∃ scoreKeyType, (scoreKeyType, key) ∈ request.getAllUnifiedKeys configs data

/-- A window is changed for a payment that has ended or is no longer young, within the latency
window. -/
def WindowDue (store : PaymentStore F) : Prop :=
  ∃ data txn, request.Heeded data txn store ∧
    (request.enforceFailure ∨ isTransactionSuccess request.payload.status ∨
      isTransactionFailure request.payload.status ∨ ¬request.IsYoung txn) ∧
    request.isUpdateWithinWindow (request.getGatewayScoringType txn request.enforceFailure) txn
      (some data)

variable {update : ScoresWrite F}

section

omit [MachineNumber F]

theorem heeded_of_mem_scoreUpdates {store : PaymentStore F}
    (listed : update ∈ request.scoreUpdates configs store) :
    ∃ data txn, request.Heeded data txn store ∧
      (update ∈ request.windowUpdates configs
          (request.getGatewayScoringType txn request.enforceFailure) txn (some data) ∨
        update ∈ request.recordUpdates configs
          (request.getGatewayScoringType txn request.enforceFailure) txn (some data)) := by
  rw [scoreUpdates] at listed
  split at listed
  · cases listed
  · next notSkipped =>
      split at listed
      · cases listed
      · next data isData =>
          split at listed
          · cases listed
          · next txn isTxn =>
              rw [txnUpdates, isData] at listed
              split at listed
              · cases listed
              · next notLocked =>
                  split at listed
                  · next merchantFound =>
                      refine ⟨data, txn, ⟨by simpa using notSkipped, isData, isTxn, ?_,
                        merchantFound⟩, List.mem_append.mp listed⟩
                      intro heeds
                      simpa [heeds] using notLocked
                  · cases listed

theorem isWindow_of_mem_windowUpdates {gatewayScoringType : GatewayScoringType}
    {txn : FeedbackTxn} {data : Option StoredScoringData} {update : ScoresWrite F}
    (listed : update ∈ request.windowUpdates configs gatewayScoringType txn data) :
    (∃ key bucketSize, update = .window key gatewayScoringType bucketSize) ∧
      request.shouldRecordSrv3PostUpdate gatewayScoringType txn data := by
  rw [windowUpdates] at listed
  split at listed
  · next records => exact ⟨⟨_, _, List.mem_singleton.mp listed⟩, records⟩
  · cases listed

theorem isRecord_of_mem_recordUpdates {gatewayScoringType : GatewayScoringType}
    {txn : FeedbackTxn} {data : StoredScoringData} {update : ScoresWrite F}
    (listed : update ∈ request.recordUpdates configs gatewayScoringType txn (some data)) :
    (∃ entry ∈ request.getAllUnifiedKeys configs data, update = .record entry.2
        (request.feedbackUpdate gatewayScoringType txn data entry.1)) ∧
      request.shouldUpdateGatewayScore gatewayScoringType ∧
      request.isUpdateWithinWindow gatewayScoringType txn (some data) := by
  rw [recordUpdates] at listed
  split at listed
  · next due =>
      rcases List.mem_map.mp listed with ⟨entry, isEntry, rfl⟩
      exact ⟨⟨entry, isEntry, rfl⟩, Bool.and_eq_true_iff.mp due⟩
  · cases listed

end

/-- Updates that name no record leave it as it is. -/
theorem records_foldl_apply {key : RedisKey} {updates : List (ScoresWrite F)} (scores : Scores F)
    (unnamed : ∀ update, .record key update ∉ updates) :
    (updates.foldl ScoresWrite.apply scores).records key = scores.records key := by
  induction updates generalizing scores with
  | nil => rfl
  | cons first rest ih =>
      rw [List.foldl_cons, ih _ fun update listed => unnamed update (List.mem_cons_of_mem _ listed)]
      cases first with
      | window => rfl
      | record other update =>
          apply Function.update_of_ne
          rintro rfl
          exact unnamed update List.mem_cons_self

theorem windows_foldl_apply {updates : List (ScoresWrite F)} (scores : Scores F)
    (unnamed : ∀ key gatewayScoringType bucketSize,
      .window key gatewayScoringType bucketSize ∉ updates) :
    (updates.foldl ScoresWrite.apply scores).windows = scores.windows := by
  induction updates generalizing scores with
  | nil => rfl
  | cons first rest ih =>
      rw [List.foldl_cons, ih _ fun key scoringType bucketSize listed =>
        unnamed key scoringType bucketSize (List.mem_cons_of_mem _ listed)]
      cases first with
      | window => exact absurd List.mem_cons_self (unnamed _ _ _)
      | record => rfl

section

omit [MachineNumber F]

/-- A record is updated for a success and for a young payment that is pending. -/
theorem scoringType_of_updates {txn : FeedbackTxn}
    (updates : request.shouldUpdateGatewayScore
      (request.getGatewayScoringType txn request.enforceFailure)) :
    request.enforceFailure = false ∧
      (isTransactionSuccess request.payload.status ∧
          request.getGatewayScoringType txn request.enforceFailure = .reward ∨
        isTransactionPending request.payload.status ∧ request.IsYoung txn) := by
  rw [getGatewayScoringType] at updates ⊢
  split at updates
  · cases updates
  · next notEnforced =>
      refine ⟨by simpa using notEnforced, ?_⟩
      rw [if_neg notEnforced]
      split at updates
      · next success => exact .inl ⟨success, if_pos success⟩
      · split at updates
        · cases updates
        · split at updates
          · next young => exact .inr ⟨updates, young⟩
          · cases updates

/-- A window is updated for a payment that has ended or is no longer young. -/
theorem scoringType_of_records {txn : FeedbackTxn}
    (records : request.getGatewayScoringType txn request.enforceFailure ≠ .penalise) :
    request.enforceFailure ∨ isTransactionSuccess request.payload.status ∨
      isTransactionFailure request.payload.status ∨ ¬request.IsYoung txn := by
  rw [getGatewayScoringType] at records
  split at records
  · next enforced => exact .inl enforced
  · split at records
    · next success => exact .inr (.inl success)
    · split at records
      · next failure => exact .inr (.inr (.inl failure))
      · split at records
        · exact absurd rfl records
        · next old => exact .inr (.inr (.inr old))

theorem recordDue_of_mem_scoreUpdates {store : PaymentStore F} {key : RedisKey}
    {update : FeedbackUpdate F} (listed : .record key update ∈ request.scoreUpdates configs store) :
    request.RecordDue configs store key := by
  rcases request.heeded_of_mem_scoreUpdates configs listed with
    ⟨data, txn, heeded, inWindow | inRecord⟩
  · rcases (request.isWindow_of_mem_windowUpdates configs inWindow).1 with ⟨_, _, isWindow⟩
    cases isWindow
  · rcases request.isRecord_of_mem_recordUpdates configs inRecord with
      ⟨⟨entry, isEntry, isRecord⟩, updates, within⟩
    cases isRecord
    have byType := request.scoringType_of_updates updates
    refine ⟨data, txn, heeded, byType.1, ?_, entry.1, isEntry⟩
    rcases byType.2 with ⟨success, isReward⟩ | pending
    · rw [isReward] at within
      exact .inl ⟨success, within⟩
    · exact .inr pending

theorem windowDue_of_mem_scoreUpdates {store : PaymentStore F} {key : String}
    {gatewayScoringType : GatewayScoringType} {bucketSize : Int}
    (listed : .window key gatewayScoringType bucketSize ∈ request.scoreUpdates configs store) :
    request.WindowDue store := by
  rcases request.heeded_of_mem_scoreUpdates configs listed with
    ⟨data, txn, heeded, inWindow | inRecord⟩
  · have records := (request.isWindow_of_mem_windowUpdates configs inWindow).2
    rw [shouldRecordSrv3PostUpdate] at records
    simp only [Bool.and_eq_true, decide_eq_true_eq] at records
    exact ⟨data, txn, heeded, request.scoringType_of_records records.1.1.1, records.2⟩
  · rcases (request.isRecord_of_mem_recordUpdates configs inRecord).1 with ⟨_, -, isRecord⟩
    cases isRecord

end

/-- A record changes only for a success within the latency window or a young payment that is
pending, and a window only for a payment that has ended or is no longer young, within the
latency window; and nothing changes for feedback that does not reach the scores. -/
theorem changes_checkAndUpdateGatewayScoreFromPayload :
    (∀ key, (request.checkAndUpdateGatewayScoreFromPayload configs store).2.records key ≠
        store.records key → request.RecordDue configs store key) ∧
      ((request.checkAndUpdateGatewayScoreFromPayload configs store).2.windows ≠ store.windows →
        request.WindowDue store) := by
  have updated := request.scores_checkAndUpdateGatewayScoreFromPayload configs store
  constructor
  · intro key changed
    by_contra notDue
    apply changed
    have same := records_foldl_apply store.scores fun update listed =>
      notDue (request.recordDue_of_mem_scoreUpdates configs listed)
    exact (congrFun (congrArg Scores.records updated) key).trans same
  · intro changed
    by_contra notDue
    apply changed
    have same := windows_foldl_apply store.scores fun _ _ _ listed =>
      notDue (request.windowDue_of_mem_scoreUpdates configs listed)
    exact (congrArg Scores.windows updated).trans same

end UpdateRequest

/-! ## The filter -/

section Filter

variable [LetterCase]

/-- What the filter reads: the rules, and the feature with the draw for its rollout. -/
structure ErrorFilter where
  table : GsmTable
  conf : Option FeatureConf
  draw : Int

namespace UpdateRequest

variable (configs : ServiceConfigs) (filter : ErrorFilter) (request : UpdateRequest F)

/-- The connector of an error that is looked up is the gateway of the payload. -/
def effectiveErrorInfo (errorInfo : GsmErrorInfo) : GsmErrorInfo :=
  { errorInfo with connector := request.payload.gateway }

def gsmFilterEnabled : Bool :=
  checkMerchantEnabled filter.conf request.payload.merchantId filter.draw

/-- The request with an error in its payload, or without one; the feature and the rules are only
read where there is one. -/
def withErrorInfo (errorInfo : Option GsmErrorInfo) : UpdateRequest F :=
  { request with
    reads :=
      { request.reads with
        gsmFilterEnabled := errorInfo.isSome && request.gsmFilterEnabled filter
        gsmInfo := errorInfo.bind fun errorInfo =>
          lookupFromErrorInfo filter.table.store (request.effectiveErrorInfo errorInfo) } }

/-- The filter finds that the gateway is not at fault. -/
def FilterApplies (errorInfo : GsmErrorInfo) : Prop :=
  request.gsmFilterEnabled filter = true ∧
    FindsHealthy filter.table.rows (request.effectiveErrorInfo errorInfo)

theorem skipsPenalization_withErrorInfo_iff (errorInfo : GsmErrorInfo) :
    (request.withErrorInfo filter (some errorInfo)).skipsPenalization ↔
      request.FilterApplies filter errorInfo := by
  rw [FilterApplies, ← lookupFromErrorInfo_healthy_iff]
  exact Bool.and_eq_true_iff

@[simp]
theorem skipsPenalization_without : (request.withErrorInfo filter none).skipsPenalization = false :=
  rfl

variable [MachineNumber F]

/-- What the filter does to the feedback with an error: nothing to a reward, and a penalty is left
out exactly when the gateway is not at fault. -/
structure OnlyRemovesPenalties (errorInfo : GsmErrorInfo) (store : PaymentStore F) : Prop where
  sameRewards : isTransactionSuccess request.payload.status →
    (request.withErrorInfo filter (some errorInfo)).scoreUpdates configs store =
      (request.withErrorInfo filter none).scoreUpdates configs store
  skipped : isTransactionFailure request.payload.status → request.FilterApplies filter errorInfo →
    (request.withErrorInfo filter (some errorInfo)).scoreUpdates configs store = [] ∧
    ((request.withErrorInfo filter (some errorInfo)).checkAndUpdateGatewayScoreFromPayload
      configs store).1 = .success
  notSkipped : isTransactionFailure request.payload.status →
    ¬request.FilterApplies filter errorInfo →
    (request.withErrorInfo filter (some errorInfo)).scoreUpdates configs store =
        (request.withErrorInfo filter none).scoreUpdates configs store ∧
      (request.withErrorInfo filter (some errorInfo)).checkAndUpdateGatewayScoreFromPayload
          configs store =
        (request.withErrorInfo filter none).checkAndUpdateGatewayScoreFromPayload configs store

variable {errorInfo : GsmErrorInfo}

omit [MachineNumber F] in
theorem scoreUpdates_of_applies (applies : request.FilterApplies filter errorInfo)
    (store : PaymentStore F) :
    (request.withErrorInfo filter (some errorInfo)).scoreUpdates configs store = [] := by
  rw [scoreUpdates, if_pos ((request.skipsPenalization_withErrorInfo_iff filter errorInfo).mpr
    applies)]

omit [MachineNumber F] in
theorem scoreUpdates_of_not_applies (notApplies : ¬request.FilterApplies filter errorInfo)
    (store : PaymentStore F) :
    (request.withErrorInfo filter (some errorInfo)).scoreUpdates configs store =
      (request.withErrorInfo filter none).scoreUpdates configs store := by
  rw [scoreUpdates, scoreUpdates, skipsPenalization_without, if_neg
    fun skips => notApplies ((request.skipsPenalization_withErrorInfo_iff filter errorInfo).mp
      skips)]
  rfl

/-- A reward is performed without an error and taken away with it. -/
theorem not_onlyRemovesPenalties {store : PaymentStore F}
    (success : isTransactionSuccess request.payload.status)
    (applies : request.FilterApplies filter errorInfo) (due : request.UpdatesDue configs store) :
    ¬request.OnlyRemovesPenalties configs filter errorInfo store := by
  intro only
  have same := only.sameRewards success
  rw [request.scoreUpdates_of_applies configs filter applies store] at same
  exact ((request.withErrorInfo filter none).scoreUpdates_ne_nil_iff configs store).mpr
    ⟨rfl, due⟩ same.symm

/-- The filter takes a reward away exactly when the payment has succeeded, the gateway is not at
fault, and there is an update to perform. -/
theorem onlyRemovesPenalties_iff (errorInfo : GsmErrorInfo) (store : PaymentStore F) :
    request.OnlyRemovesPenalties configs filter errorInfo store ↔
      ¬(isTransactionSuccess request.payload.status ∧ request.FilterApplies filter errorInfo ∧
        request.UpdatesDue configs store) := by
  constructor
  · rintro only ⟨success, applies, due⟩
    exact request.not_onlyRemovesPenalties configs filter success applies due only
  · intro notTaken
    by_cases applies : request.FilterApplies filter errorInfo
    · have skips := (request.skipsPenalization_withErrorInfo_iff filter errorInfo).mpr applies
      have none := request.scoreUpdates_of_applies configs filter applies store
      refine ⟨fun success => ?_, fun _ _ => ⟨none, ?_⟩,
        fun _ notApplies => absurd applies notApplies⟩
      · have noneDue : ¬request.UpdatesDue configs store :=
          fun due => notTaken ⟨success, applies, due⟩
        have noneWithout := mt
          ((request.withErrorInfo filter .none).scoreUpdates_ne_nil_iff configs store).mp
          fun due => noneDue due.2
        rw [none, not_not.mp noneWithout]
      · rw [checkAndUpdateGatewayScoreFromPayload, if_pos skips]
    · have same := request.scoreUpdates_of_not_applies configs filter applies store
      have notSkips : ¬(request.withErrorInfo filter (some errorInfo)).skipsPenalization :=
        mt (request.skipsPenalization_withErrorInfo_iff filter errorInfo).mp applies
      refine ⟨fun _ => same, fun _ isApplied => absurd isApplied applies, fun _ _ => ⟨same, ?_⟩⟩
      rw [checkAndUpdateGatewayScoreFromPayload, if_neg notSkips,
        checkAndUpdateGatewayScoreFromPayload, skipsPenalization_without]
      rfl

end UpdateRequest

end Filter

/-! ## A reward that is taken away -/

local instance filteredCase : LetterCase := LetterCase.ascii

/-- One rule: a refusal of this connector is a matter of the card. -/
def refusedRow : CsvRow :=
  ⟨⟨"stripe", "Payment", "Authorize", "2", "Refused"⟩, "do_default", "FALSE",
    "Issue with Payment Method details"⟩

def refusedRule : GsmRule :=
  ⟨refusedRow.toGsmKey, .doDefault, false, some "Issue with Payment Method details"⟩

def refusedTable : GsmTable where
  rows := [refusedRow]
  store := AList.insert refusedRow.toGsmKey refusedRule ∅
  loaded := rfl

def refusal : GsmErrorInfo :=
  ⟨"stripe", "Payment", "Authorize", some "2", some "Refused", none, none⟩

/-- The filter of a merchant that has the feature. -/
def refusalFilter : ErrorFilter where
  table := refusedTable
  conf := some ⟨false, none, none, some [⟨"beta", 100⟩]⟩
  draw := 1

/-- Feedback on a payment that has succeeded, for which the routing approach does not matter. -/
def chargedFeedback : UpdateRequest ℚ :=
  let feedback := promptFeedback "beta" "order_1" .charged
  { feedback with reads := { feedback.reads with srV3ProducerIsolation := false } }

def storedPayment : StoredScoringData :=
  (cardDecision "beta" "order_1" none).storedData "SR_SELECTION_V3_ROUTING"

/-- The payment was refused before it succeeded, and the feedback still has the error. -/
theorem onlyRemovesPenalties_counterexample :
    ¬chargedFeedback.OnlyRemovesPenalties noServiceConfigs refusalFilter refusal
      { noPayments with scoringData := fun _ => some storedPayment } := by
  have isRow : RowFor refusal.connectorKey refusedTable.rows refusedRow :=
    .last rfl fun later listed => nomatch listed
  have applies : chargedFeedback.FilterApplies refusalFilter refusal :=
    ⟨by decide, refusedRow, .connector (fun key hasIssuer => nomatch hasIssuer) isRow, .inr rfl⟩
  apply chargedFeedback.not_onlyRemovesPenalties noServiceConfigs refusalFilter (by decide) applies
  have found : (chargedFeedback.feedbackTxn storedPayment).isOk := by decide +kernel
  cases isTxn : chargedFeedback.feedbackTxn storedPayment with
  | error failure =>
      rw [isTxn] at found
      cases found
  | ok txn =>
      refine ⟨storedPayment, txn, rfl, isTxn, fun _ => rfl, rfl, .inl ?_⟩
      have reward : chargedFeedback.getGatewayScoringType txn chargedFeedback.enforceFailure =
          .reward := rfl
      have inTime : 1000 - txn.dateCreated < 600000 := by omega
      rw [reward]
      simp [chargedFeedback, promptFeedback, UpdateRequest.shouldRecordSrv3PostUpdate,
        UpdateRequest.isUpdateWithinWindow, UpdateRequest.isUpdateWithinLatencyWindow,
        getTimeFromTxnCreatedInMills, inTime]

end DecisionEngine.Feedback
