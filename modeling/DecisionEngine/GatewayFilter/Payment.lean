import DecisionEngine.Json.Value
import DecisionEngine.Scoring.ScoringData

/-!
# Payments to find gateways for

What the filters read of a payment: its transaction, its payment instrument, its merchant,
its order and what the request adds.  Columns that hold JSON are texts; they are decoded
where they are read.
-/

namespace DecisionEngine.GatewayFilter

open Scoring

inductive VaultProvider where
  | juspay
  | payU
  | sodexo
  | cof
  | networkToken
  | issuerToken
  deriving DecidableEq

inductive ValidationType where
  | cardMandate
  | emandate
  | tpv
  | tpvEmandate
  | reward
  | tpvMandate
  deriving DecidableEq

def ValidationType.toText : ValidationType → String
  | cardMandate => "CARD_MANDATE"
  | emandate => "EMANDATE"
  | tpv => "TPV"
  | tpvEmandate => "TPV_EMANDATE"
  | reward => "REWARD"
  | tpvMandate => "TPV_MANDATE"

def textToValidationType (text : String) : Option ValidationType :=
  match text with
  | "CARD_MANDATE" => some .cardMandate
  | "EMANDATE" => some .emandate
  | "TPV" => some .tpv
  | "TPV_EMANDATE" => some .tpvEmandate
  | "REWARD" => some .reward
  | "TPV_MANDATE" => some .tpvMandate
  | _ => none

/-- What the filters read of the transaction's internal metadata. -/
structure InternalMetadata where
  isCvvLessTxn : Option Bool
  storedCardVaultProvider : Option String
  tokenProvider : Option String
  deriving DecidableEq

structure TxnDetail where
  txnObjectType : Option TxnObjectType
  txnType : Option String
  isEmi : Option Bool
  emiBank : Option String
  emiTenure : Option Int
  currency : String
  expressCheckout : Option Bool
  internalTrackingInfo : Option String
  internalMetadata : Option String

structure TxnCardInfo where
  paymentMethodType : String
  paymentMethod : String
  cardIsin : Option String
  cardSwitchProvider : Option String
  cardIssuerBankName : Option String
  cardType : Option CardType
  authType : Option AuthType
  paymentSource : Option String

structure MerchantAccount where
  id : Int
  merchantId : String
  enableGatewayReferenceIdBasedRouting : Option Bool

/-- The rule of an offer, as its `gatewayInfo` text. -/
structure TxnOfferDetail where
  gatewayInfo : Option String

structure Order where
  currency : String

structure OrderMetadataV2 where
  metadata : Option String

structure GatewayPriorityLogicOutput where
  gatewayReferenceIds : List (String × String)

structure DeciderParams where
  dpMerchantAccount : MerchantAccount
  dpOrder : Order
  dpOrderMetadata : OrderMetadataV2
  dpTxnDetail : TxnDetail
  dpTxnOfferDetails : Option (List TxnOfferDetail)
  dpTxnCardInfo : TxnCardInfo
  dpVaultProvider : Option VaultProvider
  dpTxnType : Option String
  dpEnforceGatewayList : Option (List Gateway)
  dpPriorityLogicOutput : Option GatewayPriorityLogicOutput
  dpEDCCApplied : Option Bool

structure GatewayRule where
  forceRouting : Option Bool
  gatewayNames : List Gateway

structure SupportedPaymentFlows where
  paymentFlowIds : List String
  enforcedPaymentFlows : Option (List String)
  deriving DecidableEq

structure EMIAccountDetails where
  emiTenure : Option Int
  isEmi : Option Json.Value

/-- The JSON decoder, at each of the types that the filters decode a text to. -/
structure Decoders where
  value : String → Option Json.Value
  texts : String → Option (List String)
  fields : String → Option (List (String × Json.Value))
  internalMetadata : String → Option InternalMetadata
  /-- The payment flows of the tracking info. -/
  paymentFlows : String → Option (List String)
  supportedPaymentFlows : String → Option SupportedPaymentFlows
  gatewayRule : String → Option GatewayRule
  emiAccountDetails : String → Option EMIAccountDetails
  /-- The networks of the metadata of bank support for instalments. -/
  supportedNetworks : String → Option (Option (List String))
  /-- The vendors' sub-merchant ids of a split settlement. -/
  vendorSubMids : String → Option (List String)
  /-- The text of a value. -/
  display : Json.Value → String

/-! ## Reading a field -/

def boolOfValue : Json.Value → Option Bool
  | .bool value => some value
  | _ => none

def textsOfValue (value : Json.Value) : Option (List String) :=
  match value with
  | .array values => values.mapM Json.Value.asString
  | _ => none

/-- A field of a JSON object, which may also be a text that holds the value. -/
def getValue {α : Type} (decoders : Decoders) (fromValue : Json.Value → Option α)
    (key jsonText : String) : Option α := do
  let parsed ← decoders.value jsonText
  let val ← parsed.get key
  match fromValue val with
  | some read => some read
  | none =>
      match val with
      | .string "True" => fromValue (.bool true)
      | .string "False" => fromValue (.bool false)
      | .string text => decoders.value text >>= fromValue
      | _ => none

/-! ## The payment instrument -/

/-- A card is known by its issuer number. -/
def isCardTransaction (txnCardInfo : TxnCardInfo) : Bool :=
  match txnCardInfo.cardIsin with
  | none => false
  | some isin => isin != ""

def isNbTransaction (txnCardInfo : TxnCardInfo) : Bool :=
  txnCardInfo.cardType == some .nb

def isGooglePayTxn (txnCardInfo : TxnCardInfo) : Bool :=
  txnCardInfo.paymentMethodType == "WALLET" && txnCardInfo.paymentMethod == "GOOGLEPAY"

variable (decoders : Decoders)

def fetchFromPaymentSource (key : String) (txnCardInfo : TxnCardInfo) :
    Option String :=
  txnCardInfo.paymentSource.bind (getValue decoders Json.Value.asString key)

def fetchEmiType (decoders : Decoders) : TxnCardInfo → Option String :=
  fetchFromPaymentSource decoders "emi_type"

def fetchJuspayBankCode (decoders : Decoders) : TxnCardInfo → Option String :=
  fetchFromPaymentSource decoders "juspay_bank_code"

def checkNoOrLowCostEmi (txnCardInfo : TxnCardInfo) : Bool :=
  (fetchEmiType decoders txnCardInfo).any fun emiType =>
    ["NO_COST_EMI", "LOW_COST_EMI"].contains emiType

def isEmandateSupportedPaymentMethod (txnCardInfo : TxnCardInfo) : Bool :=
  ["CARD", "NB", "WALLET", "UPI", "AADHAAR", "PAPERNACH", "PAN", "RTP"].contains
    txnCardInfo.paymentMethodType

/-! ## The transaction -/

def isEmandateTransaction (txnDetail : TxnDetail) : Bool :=
  match txnDetail.txnObjectType with
  | some .emandateRegister | some .tpvEmandateRegister
  | some .emandatePayment | some .tpvEmandatePayment => true
  | _ => false

def isEmandatePaymentTransaction (txnDetail : TxnDetail) : Bool :=
  match txnDetail.txnObjectType with
  | some .emandatePayment | some .tpvEmandatePayment => true
  | _ => false

def isRecurringPaymentTransaction (txnDetail : TxnDetail) : Bool :=
  match txnDetail.txnObjectType with
  | some .emandatePayment | some .tpvEmandatePayment
  | some .mandatePayment | some .tpvMandatePayment => true
  | _ => false

def isMandateTransaction (txnDetail : TxnDetail) : Bool :=
  match txnDetail.txnObjectType with
  | some .mandateRegister | some .mandatePayment => true
  | _ => false

def isTpvTransaction (txnDetail : TxnDetail) : Bool :=
  txnDetail.txnObjectType == some .tpvPayment

def isTpvMandateTransaction (txnDetail : TxnDetail) : Bool :=
  txnDetail.txnObjectType == some .tpvEmandateRegister

def isEmandateAmountFilterNeeded (txnDetail : TxnDetail) (txnCardInfo : TxnCardInfo) : Bool :=
  txnDetail.txnObjectType == some .emandateRegister &&
    ["CARD", "NB", "AADHAAR", "PAN"].contains txnCardInfo.paymentMethodType

def paymentFlowsRequiredForGwFiltering : List String :=
  ["DOTP", "CARD_MOTO", "MANDATE_REGISTER", "MANDATE_PAYMENT", "EMANDATE_REGISTER",
    "EMANDATE_PAYMENT", "TA_FILE", "REVERSE_PENNY_DROP", "MUTUAL_FUND", "CROSS_BORDER_PAYMENT",
    "SINGLE_BLOCK_MULTIPLE_DEBIT", "ONE_TIME_MANDATE", "PIX_AUTOMATIC_REDIRECT"]

def getPaymentFlowListFromTxnDetail (txnDetail : TxnDetail) :
    List String :=
  match txnDetail.internalTrackingInfo.bind decoders.paymentFlows with
  | some flows => flows.filter paymentFlowsRequiredForGwFiltering.contains
  | none => []

def isOtmFlow (txnDetail : TxnDetail) : Bool :=
  (getPaymentFlowListFromTxnDetail decoders txnDetail).contains "ONE_TIME_MANDATE"

def isPixAutomaticRedirectFlow (txnDetail : TxnDetail) : Bool :=
  (getPaymentFlowListFromTxnDetail decoders txnDetail).contains "PIX_AUTOMATIC_REDIRECT"

def isReversePennyDropTxn (txnDetail : TxnDetail) : Bool :=
  (getPaymentFlowListFromTxnDetail decoders txnDetail).contains "REVERSE_PENNY_DROP"

def getJuspayBankCodeFromInternalMetadata (txnDetail : TxnDetail) :
    Option String := do
  let metadata ← txnDetail.internalMetadata
  let parsed ← decoders.value metadata
  let code ← parsed.get "juspayBankCode"
  code.asString

/-! ## Card tokens -/

def storedVaultIn (providers : List String) (internalMeta : Option InternalMetadata) : Bool :=
  (internalMeta.bind (·.storedCardVaultProvider)).any providers.contains

def isTokenRepeatTxn : Option InternalMetadata → Bool :=
  storedVaultIn ["NETWORK_TOKEN", "ISSUER_TOKEN", "ALT_ID"]

def isNetworkTokenRepeatTxn : Option InternalMetadata → Bool :=
  storedVaultIn ["NETWORK_TOKEN"]

def isIssuerTokenRepeatTxn : Option InternalMetadata → Bool :=
  storedVaultIn ["ISSUER_TOKEN"]

def isAltIdBasedTxn : Option InternalMetadata → Bool :=
  storedVaultIn ["ALT_ID"]

def getStoredCardVaultProvider (internalMeta : Option InternalMetadata) : String :=
  (internalMeta.bind (·.storedCardVaultProvider)).getD "DEFAULT"

def getTokenProvider (internalMeta : Option InternalMetadata) (txnCardInfo : TxnCardInfo)
    (cardSwitchProvider : String) : String :=
  let juspayBankCode := fetchJuspayBankCode decoders txnCardInfo
  match internalMeta with
  | some internalMetaData =>
      match internalMetaData.tokenProvider with
      | some tokenProvider => tokenProvider
      | none =>
          if internalMetaData.storedCardVaultProvider == some "NETWORK_TOKEN" then
            cardSwitchProvider
          else juspayBankCode.getD "DEFAULT"
  | none => juspayBankCode.getD "DEFAULT"

/-! ## Order metadata and reference ids -/

def getTrueString (text : Option String) : Option String :=
  text.filter (· != "")

/-- The fields of the metadata, those that are no text as the text of their value. -/
def getMetadata (params : DeciderParams) : List (String × String) :=
  match params.dpOrderMetadata.metadata with
  | some textMeta => ((decoders.fields textMeta).getD []).map fun (key, value) =>
      match value with
      | .string text => (key, text)
      | other => (key, decoders.display other)
  | none => []

def isEnabledForAllMgas (params : DeciderParams) : Bool :=
  (getMetadata decoders params).any fun field => field.1 == "enabledForAllMgas"

def getPlGwRefIdMap (params : DeciderParams) : List (String × String) :=
  match params.dpPriorityLogicOutput with
  | some output => output.gatewayReferenceIds
  | none => []

/-- The metadata and the reference ids of the priority logic, with reference ids enabled. -/
def getOrderMetadataAndPlRefIdMap (params : DeciderParams) :
    List (String × String) × List (String × String) :=
  if params.dpMerchantAccount.enableGatewayReferenceIdBasedRouting.getD false then
    (getMetadata decoders params, getPlGwRefIdMap params)
  else ([], [])

def gatewayRefIdsOf (fields : List (String × String)) : List String :=
  (fields.filter fun field =>
    "gateway_reference_id".toList.isSuffixOf field.1.toList).map Prod.snd

def getAllPossibleRefIds (params : DeciderParams) : List String :=
  let (metadata, plRefIdMap) := getOrderMetadataAndPlRefIdMap decoders params
  gatewayRefIdsOf metadata ++ gatewayRefIdsOf plRefIdMap

def getGatewayReferenceId (params : DeciderParams) (gw : Gateway) :
    Option String :=
  let (metadata, plRefIdMap) := getOrderMetadataAndPlRefIdMap decoders params
  let metaRes := plRefIdMap.lookup (gw ++ ":gateway_reference_id")
    <|> plRefIdMap.lookup "JUSPAY:gateway_reference_id"
    <|> metadata.lookup (gw ++ ":gateway_reference_id")
    <|> metadata.lookup "JUSPAY:gateway_reference_id"
  metaRes.filter (· != "")

/-! ## Issuer numbers -/

/-- The issuer number, or its leading digits when it is a long one. -/
def getBinList (cardBin : Option String) : List String :=
  match getTrueString cardBin with
  | none => []
  | some bin =>
      if 6 < bin.utf8ByteSize then
        [6, 7, 8, 9].map fun len => String.ofList (bin.toList.take (min len bin.length))
      else [bin]

end DecisionEngine.GatewayFilter
