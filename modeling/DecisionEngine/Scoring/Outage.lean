import DecisionEngine.Scoring.ScoreMap
import DecisionEngine.Scoring.ScoringData

/-!
# Scheduled outages

The outages that apply to a payment, and their penalty.  The penalty divides the score
of the gateway that an outage names, and a gateway without a score is penalized from
the full score.
-/

namespace DecisionEngine.Scoring

open Map Number

structure BankCode where
  bankCode : String
  bankName : String

structure ScheduledOutageMetadata where
  cardType : Option CardType
  flowType : Option String
  txnObjectType : Option TxnObjectType
  app : Option String
  handle : Option String
  sourceObject : Option String

/-- The times are in nanoseconds. -/
structure GatewayOutage where
  startTime : Int
  endTime : Int
  gateway : Option Gateway
  merchantId : Option String
  bank : Option String
  paymentMethodType : Option String
  paymentMethod : Option String
  juspayBankCodeId : Option Int
  metadata : Option ScheduledOutageMetadata

/-- What the penalty of the outages is computed from, besides the payment. -/
structure OutageReads where
  currentTime : Int
  /-- The validation duration of the service, in seconds, if it is configured. -/
  scheduledOutageValidationDuration : Option Int
  /-- The outages in the memory of the process. -/
  cachedOutages : Option (List GatewayOutage)
  /-- The table of the outages, or its failure. -/
  gatewayOutages : Option (List GatewayOutage)
  juspayBankCode : Option BankCode

/-! ## Scheduled outages -/

def checkDuration (outage : GatewayOutage) (duration : Int) : Bool :=
  decide (|outage.endTime - outage.startTime| < duration * 10 ^ 9)

def checkPmtOutage (outage : GatewayOutage) : Bool :=
  match outage.paymentMethodType with
  | none => true
  | some pmt =>
      pmt == upi || outage.gateway.isSome || outage.bank.isSome || outage.paymentMethod.isSome ||
        outage.juspayBankCodeId.isSome || outage.metadata.isSome

def validateScheduledOutage (duration : Int) (outage : GatewayOutage) : Bool :=
  checkDuration outage duration && checkPmtOutage outage

/-- The current outages of gateways; a failure of the table counts as no outages. -/
def getPotentialGwOutages (table : Option (List GatewayOutage)) (currentTime : Int) :
    List GatewayOutage :=
  (table.getD []).filter fun outage =>
    decide (outage.startTime < currentTime) && decide (currentTime < outage.endTime) &&
      outage.gateway.isSome

def getScheduledOutage (reads : OutageReads) : List GatewayOutage :=
  match reads.cachedOutages with
  | some cached => cached
  | none =>
      (getPotentialGwOutages reads.gatewayOutages reads.currentTime).filter
        (validateScheduledOutage (reads.scheduledOutageValidationDuration.getD 86400))

/-! ## Outages of a payment -/

/-- An outage without the field applies to every payment. -/
def scheduleEqualTo {α β : Type} (cmp : α → β → Bool) (input : Option α)
    (scheduleOutage : Option β) : Bool :=
  match input, scheduleOutage with
  | _, none => true
  | none, some _ => false
  | some input, some scheduleOutage => cmp input scheduleOutage

/-- A handle of a payment source is never in an outage. -/
def checkPaymentSource (paymentSource : String) (metadata : ScheduledOutageMetadata) : Bool :=
  if paymentSource.contains '@' then false
  else
    scheduleEqualTo (· == ·) (some paymentSource) metadata.app &&
      scheduleEqualTo (· == ·) (some paymentSource) metadata.handle

def checkScheduledOutageMetadata (payment : Payment)
    (metadata : Option ScheduledOutageMetadata) : Bool :=
  match metadata with
  | none => true
  | some metadata =>
      scheduleEqualTo (· == ·) payment.txnDetail.txnObjectType metadata.txnObjectType &&
        scheduleEqualTo (· == ·) payment.txnDetail.sourceObject metadata.sourceObject &&
        scheduleEqualTo (fun (x : Option String) y => x == some y) (some none)
          metadata.flowType &&
        (if payment.txnCardInfo.paymentMethodType == card then
          scheduleEqualTo (· == ·) payment.txnCardInfo.cardType metadata.cardType
        else if payment.txnCardInfo.paymentMethodType == upi then
          match payment.txnCardInfo.paymentSource with
          | none => false
          | some paymentSource => checkPaymentSource paymentSource metadata
        else true)

def checkScheduledOutage (payment : Payment) (juspayBankCode : Option BankCode)
    (outage : GatewayOutage) : Bool :=
  let paymentMethod :=
    if payment.txnCardInfo.paymentMethodType == upi then payment.txnDetail.sourceObject
    else some payment.txnCardInfo.paymentMethod
  scheduleEqualTo (· == ·) (some payment.merchantId) outage.merchantId &&
    scheduleEqualTo (· == ·) paymentMethod outage.paymentMethod &&
    scheduleEqualTo (· == ·) (some payment.txnCardInfo.paymentMethodType)
      outage.paymentMethodType &&
    scheduleEqualTo
      (fun (bankCode : Option BankCode) outageBank =>
        match bankCode with
        | some bank => bank.bankCode == outageBank || bank.bankName == outageBank
        | none => false)
      (some juspayBankCode) outage.bank &&
    checkScheduledOutageMetadata payment outage.metadata

/-- The outages that penalize a gateway of this payment. -/
def applicableOutages (reads : OutageReads) (payment : Payment) : List GatewayOutage :=
  (getScheduledOutage reads).filter (checkScheduledOutage payment reads.juspayBankCode)

/-! ## The penalty -/

section Penalty

variable {F : Type} [MachineNumber F]

/-- A gateway that has no score gets one here. -/
def penalizeForOutage (scoreMap : GatewayScoreMap F) (outage : GatewayOutage) :
    GatewayScoreMap F :=
  match outage.gateway with
  | some gateway => scoreMap.insert gateway ((scoreMap.lookup gateway).getD (ofRat 1) / ofRat 10)
  | none => scoreMap

def updateScoreForOutage (reads : OutageReads) (payment : Payment)
    (scoreMap : GatewayScoreMap F) : GatewayScoreMap F :=
  (applicableOutages reads payment).foldl penalizeForOutage scoreMap

variable {scoreMap : GatewayScoreMap F} {gateway : Gateway}

theorem mem_penalizeForOutage {outage : GatewayOutage} :
    gateway ∈ penalizeForOutage scoreMap outage ↔
      outage.gateway = some gateway ∨ gateway ∈ scoreMap := by
  cases named : outage.gateway with
  | none => simp [penalizeForOutage, named]
  | some gateway => simp [penalizeForOutage, named, AList.mem_insert, eq_comm]

theorem mem_foldl_penalizeForOutage {outages : List GatewayOutage} :
    gateway ∈ outages.foldl penalizeForOutage scoreMap ↔
      (∃ outage ∈ outages, outage.gateway = some gateway) ∨ gateway ∈ scoreMap := by
  induction outages generalizing scoreMap with
  | nil => simp
  | cons first rest ih =>
      rw [List.foldl_cons, ih, mem_penalizeForOutage]
      simp only [List.mem_cons, exists_eq_or_imp]
      exact or_left_comm.trans or_assoc.symm

/-- The penalty adds the gateways that the outages of the payment name. -/
theorem mem_updateScoreForOutage {reads : OutageReads} {payment : Payment} :
    gateway ∈ updateScoreForOutage reads payment scoreMap ↔
      (∃ outage ∈ applicableOutages reads payment, outage.gateway = some gateway) ∨
        gateway ∈ scoreMap :=
  mem_foldl_penalizeForOutage

end Penalty

end DecisionEngine.Scoring
