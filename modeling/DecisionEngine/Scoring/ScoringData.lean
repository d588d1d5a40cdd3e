import DecisionEngine.Scoring.SrV3Config

/-!
# Payments and scoring data

What the scoring reads of a payment, the data that the decider stores for it, and the payment
that the feedback rebuilds from them.
-/

namespace DecisionEngine.Scoring

open Map Text

/-! ## Payments

What the scoring reads of a payment: its transaction, its payment instrument, and the
merchant and the currency of its order.
-/

inductive CardType where
  | aadhaar
  | atmCard
  | cash
  | credit
  | debit
  | nb
  | paylater
  | prepaid
  | reward
  | upi
  | wallet
  | virtualAccount
  | otc
  | rtp
  | crypto
  | blank
  | pan
  deriving DecidableEq

inductive TxnObjectType where
  | orderPayment
  | mandateRegister
  | emandateRegister
  | mandatePayment
  | emandatePayment
  | tpvPayment
  | tpvEmandateRegister
  | tpvMandateRegister
  | tpvEmandatePayment
  | tpvMandatePayment
  | partialCapture
  | partialVoid
  | vanPayment
  | motoPayment
  | unknown
  deriving DecidableEq

structure TxnDetail where
  sourceObject : Option String
  txnObjectType : Option TxnObjectType
  country : Option String

structure TxnCardInfo where
  paymentMethodType : String
  paymentMethod : String
  cardIsin : Option String
  cardSwitchProvider : Option String
  cardType : Option CardType
  authType : Option String
  paymentSource : Option String

structure Payment where
  merchantId : String
  txnDetail : TxnDetail
  txnCardInfo : TxnCardInfo
  currency : String

def Payment.srRoutingDimensions (payment : Payment) : SrRoutingDimensions where
  cardNetwork := payment.txnCardInfo.cardSwitchProvider
  cardIsin := payment.txnCardInfo.cardIsin
  currency := some payment.currency
  country := payment.txnDetail.country
  authType := payment.txnCardInfo.authType

/-- A card is known by its issuer number. -/
def isCardTransaction (txnCardInfo : TxnCardInfo) : Bool :=
  match txnCardInfo.cardIsin with
  | none => false
  | some isin => isin != ""

def getPaymentMethod (paymentMethodType pm sourceObject : String) : String :=
  if paymentMethodType == upi && pm == "UPI" then sourceObject else pm

/-! ## Scoring data

The data that the decider stores for a payment, and the payment that the feedback
rebuilds from it.
-/

/-! ## Texts of the enumerations -/

inductive AuthType where
  | atmpin
  | threeDs
  | threeDs2
  | otp
  | oboOtp
  | vies
  | noThreeDs
  | networkToken
  | moto
  | fido
  | ctp
  deriving DecidableEq

def authTypeToText : AuthType → String
  | .atmpin => "ATMPIN"
  | .threeDs => "THREE_DS"
  | .threeDs2 => "THREE_DS_2"
  | .otp => "OTP"
  | .oboOtp => "OBO_OTP"
  | .vies => "VIES"
  | .noThreeDs => "NO_THREE_DS"
  | .networkToken => "NETWORK_TOKEN"
  | .moto => "MOTO"
  | .fido => "FIDO"
  | .ctp => "CTP"

def textToAuthType : String → Option AuthType
  | "ATMPIN" => some .atmpin
  | "THREE_DS" => some .threeDs
  | "THREE_DS_2" => some .threeDs2
  | "OTP" => some .otp
  | "OBO_OTP" => some .oboOtp
  | "VIES" => some .vies
  | "NO_THREE_DS" => some .noThreeDs
  | "NETWORK_TOKEN" => some .networkToken
  | "MOTO" => some .moto
  | "FIDO" => some .fido
  | "CTP" => some .ctp
  | _ => none

@[simp]
theorem textToAuthType_authTypeToText (authType : AuthType) :
    textToAuthType (authTypeToText authType) = some authType := by
  cases authType <;> rfl

def cardTypeToText : CardType → String
  | .aadhaar => "AADHAAR"
  | .atmCard => "ATM_CARD"
  | .cash => "CASH"
  | .credit => "CREDIT"
  | .debit => "DEBIT"
  | .nb => "NB"
  | .paylater => "PAYLATER"
  | .prepaid => "PREPAID"
  | .reward => "REWARD"
  | .upi => "UPI"
  | .wallet => "WALLET"
  | .virtualAccount => "VIRTUAL_ACCOUNT"
  | .otc => "OTC"
  | .rtp => "RTP"
  | .crypto => "CRYPTO"
  | .blank => "BLANK"
  | .pan => "PAN"

def TxnObjectType.toText : TxnObjectType → String
  | .orderPayment => "ORDER_PAYMENT"
  | .mandateRegister => "MANDATE_REGISTER"
  | .emandateRegister => "EMANDATE_REGISTER"
  | .mandatePayment => "MANDATE_PAYMENT"
  | .emandatePayment => "EMANDATE_PAYMENT"
  | .tpvPayment => "TPV_PAYMENT"
  | .tpvEmandateRegister => "TPV_EMANDATE_REGISTER"
  | .tpvMandateRegister => "TPV_MANDATE_REGISTER"
  | .tpvEmandatePayment => "TPV_EMANDATE_PAYMENT"
  | .tpvMandatePayment => "TPV_MANDATE_PAYMENT"
  | .partialCapture => "PARTIAL_CAPTURE"
  | .partialVoid => "PARTIAL_VOID"
  | .vanPayment => "VAN_PAYMENT"
  | .motoPayment => "MOTO_PAYMENT"
  | .unknown => "UNKNOWN"

def TxnObjectType.fromText : String → Option TxnObjectType
  | "ORDER_PAYMENT" => some .orderPayment
  | "MANDATE_REGISTER" => some .mandateRegister
  | "EMANDATE_REGISTER" => some .emandateRegister
  | "MANDATE_PAYMENT" => some .mandatePayment
  | "EMANDATE_PAYMENT" => some .emandatePayment
  | "TPV_PAYMENT" => some .tpvPayment
  | "TPV_EMANDATE_REGISTER" => some .tpvEmandateRegister
  | "TPV_MANDATE_REGISTER" => some .tpvMandateRegister
  | "TPV_EMANDATE_PAYMENT" => some .tpvEmandatePayment
  | "TPV_MANDATE_PAYMENT" => some .tpvMandatePayment
  | "PARTIAL_CAPTURE" => some .partialCapture
  | "PARTIAL_VOID" => some .partialVoid
  | "VAN_PAYMENT" => some .vanPayment
  | "MOTO_PAYMENT" => some .motoPayment
  | "UNKNOWN" => some .unknown
  | _ => none

/-- A payment whose authentication type is one of the enumeration. -/
structure ReceivedPayment extends Payment where
  authType : Option AuthType
  authType_text : txnCardInfo.authType = authType.map authTypeToText

/-! ## The stored data -/

/-- What the stored data are computed from, besides the payment. -/
structure ScoringDataReads where
  /-- The upper case of the Unicode tables. -/
  toUppercase : String → String
  isGriEnabledForElimination : Bool
  isGriEnabledForSrRouting : Bool
  /-- All gateways have one reference id, where reference ids are enabled. -/
  useServiceConfigForGri : Bool
  handlePackageBasedRouting : Bool
  srEvaluationAtAuthLevel : Bool
  srEvaluationAtBankLevel : Bool
  juspayBankCode : Option String
  udfs : HashMap Int String
  isLegacyDeciderFlow : Bool

/-- The authentication type that card payments are scored under. -/
def cardAuthType (authType : Option String) : String :=
  match (authType.map toAsciiUppercase).getD "" with
  | "THREE_DS" => "THREE_DS"
  | "THREE_DS_2" => "THREE_DS"
  | "OTP" => "OTP"
  | _ => "UNKNOWN"

def getDefaultGatewayScoringData (reads : ScoringDataReads) (payment : Payment) :
    GatewayScoringData where
  merchantId := payment.merchantId
  paymentMethodType := reads.toUppercase payment.txnCardInfo.paymentMethodType
  paymentMethod :=
    if payment.txnCardInfo.paymentMethod == upi then payment.txnDetail.sourceObject.getD ""
    else payment.txnCardInfo.paymentMethod
  orderType := (payment.txnDetail.txnObjectType.map TxnObjectType.toText).getD ""
  cardType := none
  bankCode := none
  authType := payment.txnCardInfo.authType
  paymentSource := none
  isPaymentSourceEnabledForSrRouting := false
  isAuthLevelEnabledForSrRouting := false
  isBankLevelEnabledForSrRouting := false
  isGriEnabledForElimination :=
    reads.useServiceConfigForGri && reads.isGriEnabledForElimination
  isGriEnabledForSrRouting := reads.useServiceConfigForGri && reads.isGriEnabledForSrRouting
  cardIsIn := payment.txnCardInfo.cardIsin
  cardSwitchProvider := payment.txnCardInfo.cardSwitchProvider
  currency := some payment.currency
  country := payment.txnDetail.country
  isLegacyDeciderFlow := reads.isLegacyDeciderFlow
  udfs := some reads.udfs

/-- The part of a payment source after its last `@`, in upper case. -/
def packageOfSource (reads : ScoringDataReads) (paymentSource : Option String) : String :=
  ((paymentSource.filter (· ≠ "")).map fun source =>
    reads.toUppercase (((split '@' source).getLast?).getD "")).getD ""

/-- The data that the decider stores for a payment. -/
def getGatewayScoringData (reads : ScoringDataReads) (payment : Payment) :
    GatewayScoringData :=
  let data := getDefaultGatewayScoringData reads payment
  if payment.txnCardInfo.paymentMethodType == upi then
    { data with
      paymentSource := some (packageOfSource reads payment.txnCardInfo.paymentSource)
      isPaymentSourceEnabledForSrRouting := reads.handlePackageBasedRouting }
  else if payment.txnCardInfo.paymentMethodType == card then
    { data with
      authType := some (cardAuthType payment.txnCardInfo.authType)
      cardType := some ((payment.txnCardInfo.cardType.map fun cardType =>
        toAsciiUppercase (cardTypeToText cardType)).getD "")
      bankCode := some (reads.juspayBankCode.getD "UNKNOWN")
      isBankLevelEnabledForSrRouting := reads.srEvaluationAtBankLevel
      isAuthLevelEnabledForSrRouting := reads.srEvaluationAtAuthLevel }
  else data

/-! ## The rebuilt payment -/

inductive ApiError where
  | missingRequiredField (field : String)

/-- The transaction and its currency. -/
def getTxnDetailFromApiPayload (data : GatewayScoringData) : Except ApiError (TxnDetail × String) :=
  match data.currency with
  | none => .error (.missingRequiredField "currency")
  | some currency =>
      .ok ({
        sourceObject := some data.paymentMethod
        txnObjectType := some ((TxnObjectType.fromText data.orderType).getD .orderPayment)
        country := data.country }, currency)

/-- The issuer number and the network of the card are not taken from the data. -/
def getTxnCardInfoFromApiPayload (data : GatewayScoringData) : TxnCardInfo where
  paymentMethodType := data.paymentMethodType
  paymentMethod := data.paymentMethod
  cardIsin := none
  cardSwitchProvider := none
  cardType := none
  authType := (data.authType.bind textToAuthType).map authTypeToText
  paymentSource := data.paymentSource

/-- The payment that the feedback works with. -/
def paymentFromApiPayload (merchantId : String) (data : GatewayScoringData) :
    Except ApiError Payment :=
  (getTxnDetailFromApiPayload data).map fun detail =>
    { merchantId
      txnDetail := detail.1
      txnCardInfo := getTxnCardInfoFromApiPayload data
      currency := detail.2 }

/-! ## What the feedback sees of a payment -/

section Rebuilt

variable (reads : ScoringDataReads)

/-- The authentication type after the way through the stored data. -/
def rebuiltAuthType (payment : Payment) : Option String :=
  ((if payment.txnCardInfo.paymentMethodType == card then
      some (cardAuthType payment.txnCardInfo.authType)
    else payment.txnCardInfo.authType).bind textToAuthType).map authTypeToText

/-- The payment after the way through the stored data. -/
def rebuiltPayment (payment : Payment) : Payment :=
  let data := getGatewayScoringData reads payment
  { merchantId := payment.merchantId
    txnDetail := {
      sourceObject := some data.paymentMethod
      txnObjectType := some ((TxnObjectType.fromText data.orderType).getD .orderPayment)
      country := payment.txnDetail.country }
    txnCardInfo := getTxnCardInfoFromApiPayload data
    currency := payment.currency }

/-- What neither a payment method nor its flags decide is as in the default data. -/
theorem getGatewayScoringData_field {α : Type*} (field : GatewayScoringData → α)
    (ofUpi : ∀ data paymentSource isEnabled,
      field { data with paymentSource, isPaymentSourceEnabledForSrRouting := isEnabled } =
        field data)
    (ofCard : ∀ data authType cardType bankCode onBank onAuth,
      field
        { data with
          authType
          cardType
          bankCode
          isBankLevelEnabledForSrRouting := onBank
          isAuthLevelEnabledForSrRouting := onAuth } = field data)
    (payment : Payment) :
    field (getGatewayScoringData reads payment) =
      field (getDefaultGatewayScoringData reads payment) := by
  rw [getGatewayScoringData]
  split
  · exact ofUpi _ _ _
  · split
    · exact ofCard _ _ _ _ _ _
    · rfl

variable (payment : Payment)

@[simp]
theorem getGatewayScoringData_paymentMethodType :
    (getGatewayScoringData reads payment).paymentMethodType =
      reads.toUppercase payment.txnCardInfo.paymentMethodType :=
  getGatewayScoringData_field reads GatewayScoringData.paymentMethodType (fun _ _ _ => rfl)
    (fun _ _ _ _ _ _ => rfl) payment

@[simp]
theorem getGatewayScoringData_paymentMethod :
    (getGatewayScoringData reads payment).paymentMethod =
      if payment.txnCardInfo.paymentMethod == upi then payment.txnDetail.sourceObject.getD ""
      else payment.txnCardInfo.paymentMethod :=
  getGatewayScoringData_field reads GatewayScoringData.paymentMethod (fun _ _ _ => rfl)
    (fun _ _ _ _ _ _ => rfl) payment

@[simp]
theorem getGatewayScoringData_currency :
    (getGatewayScoringData reads payment).currency = some payment.currency :=
  getGatewayScoringData_field reads GatewayScoringData.currency (fun _ _ _ => rfl)
    (fun _ _ _ _ _ _ => rfl) payment

@[simp]
theorem getGatewayScoringData_country :
    (getGatewayScoringData reads payment).country = payment.txnDetail.country :=
  getGatewayScoringData_field reads GatewayScoringData.country (fun _ _ _ => rfl)
    (fun _ _ _ _ _ _ => rfl) payment

@[simp]
theorem getGatewayScoringData_authType :
    (getGatewayScoringData reads payment).authType =
      if payment.txnCardInfo.paymentMethodType == card then
        some (cardAuthType payment.txnCardInfo.authType)
      else payment.txnCardInfo.authType := by
  simp only [getGatewayScoringData]
  by_cases isCard : payment.txnCardInfo.paymentMethodType = card
  · rw [isCard, if_neg (by decide), if_pos (by decide), if_pos (by decide)]
  · have notCard : ¬ (payment.txnCardInfo.paymentMethodType == card) = true := by
      rw [beq_iff_eq]
      exact isCard
    rw [if_neg notCard, if_neg notCard]
    split <;> rfl

/-- The feedback always rebuilds a payment from data that the decider stored. -/
theorem paymentFromApiPayload_getGatewayScoringData :
    paymentFromApiPayload payment.merchantId (getGatewayScoringData reads payment) =
      .ok (rebuiltPayment reads payment) := by
  rw [paymentFromApiPayload, getTxnDetailFromApiPayload, getGatewayScoringData_currency]
  simp only [getGatewayScoringData_country, Except.map, rebuiltPayment]

/-- A card keeps two of its authentication types. -/
theorem cardAuthType_rebuilt (authType : Option AuthType) :
    ((textToAuthType (cardAuthType (authType.map authTypeToText))).map authTypeToText =
        authType.map authTypeToText) ↔
      authType = none ∨ authType = some .threeDs ∨ authType = some .otp := by
  cases authType with
  | none => decide
  | some authType => cases authType <;> decide

theorem rebuiltAuthType_eq_iff (payment : ReceivedPayment) :
    rebuiltAuthType payment.toPayment = payment.txnCardInfo.authType ↔
      (payment.txnCardInfo.paymentMethodType = card →
        payment.authType = none ∨ payment.authType = some .threeDs ∨
          payment.authType = some .otp) := by
  rw [rebuiltAuthType, payment.authType_text]
  by_cases isCard : payment.txnCardInfo.paymentMethodType = card
  · rw [if_pos (beq_iff_eq.mpr isCard), Option.bind_some, cardAuthType_rebuilt]
    exact ⟨fun kept _ => kept, fun kept => kept isCard⟩
  · rw [if_neg (by rwa [beq_iff_eq])]
    apply iff_of_true _ fun isCard' => absurd isCard' isCard
    cases payment.authType with
    | none => rfl
    | some authType => simp

end Rebuilt

end DecisionEngine.Scoring
