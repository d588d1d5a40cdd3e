import DecisionEngine.GatewayFilter.Payment

/-!
# Gateway accounts

The accounts that a merchant has at gateways: the rows of their table, what a row says of
the flows that its account supports, and the queries for the accounts of a merchant.
-/

namespace DecisionEngine.GatewayFilter

open Scoring

/-- A row of the table of gateway accounts. -/
structure DBMerchantGatewayAccount where
  id : Int
  accountDetails : String
  gateway : Gateway
  merchantId : String
  paymentMethods : Option String
  supportedPaymentFlows : Option String
  disabled : Option Bool
  referenceId : Option String
  supportedCurrencies : Option String
  supportedTxnType : Option String

structure MerchantGatewayAccount where
  id : Int
  accountDetails : String
  gateway : Gateway
  merchantId : String
  paymentMethods : Option String
  supportedPaymentFlows : Option SupportedPaymentFlows
  disabled : Option Bool
  referenceId : Option String
  supportedCurrencies : Option String
  supportedTxnType : Option String
  deriving DecidableEq

def supportedPaymentFlowsOf (decoders : Decoders) (column : Option String) :
    Option (Option SupportedPaymentFlows) :=
  match column with
  | none => some none
  | some text => (decoders.supportedPaymentFlows text).map some

/-- The account of a row, unless the supported flows do not decode. -/
def MerchantGatewayAccount.tryFrom (decoders : Decoders) (row : DBMerchantGatewayAccount) :
    Option MerchantGatewayAccount :=
  (supportedPaymentFlowsOf decoders row.supportedPaymentFlows).map fun supportedPaymentFlows =>
    { id := row.id
      accountDetails := row.accountDetails
      gateway := row.gateway
      merchantId := row.merchantId
      paymentMethods := row.paymentMethods
      supportedPaymentFlows
      disabled := row.disabled
      referenceId := row.referenceId
      supportedCurrencies := row.supportedCurrencies
      supportedTxnType := row.supportedTxnType }

/-! ## What an account supports -/

def isPaymentFlowEnabledInMga (mga : MerchantGatewayAccount) (paymentFlow : String) :
    Option Bool :=
  mga.supportedPaymentFlows.map fun flows => flows.paymentFlowIds.contains paymentFlow

/-- The supported flows decide; without them the flag of the account details does. -/
def checkIfEnabledInMga (decoders : Decoders) (mga : MerchantGatewayAccount)
    (paymentFlow accDetailsFlagToBeChecked : String) : Bool :=
  (isPaymentFlowEnabledInMga mga paymentFlow).getD
    ((getValue decoders boolOfValue accDetailsFlagToBeChecked mga.accountDetails).getD false)

/-- As `checkIfEnabledInMga`, with a missing flag set. -/
def checkIfNoDsEnabledInMga (decoders : Decoders) (mga : MerchantGatewayAccount)
    (paymentFlow accDetailsFlagToBeChecked : String) : Bool :=
  (isPaymentFlowEnabledInMga mga paymentFlow).getD
    ((getValue decoders boolOfValue accDetailsFlagToBeChecked mga.accountDetails).getD true)

def isSubscription (decoders : Decoders) (mga : MerchantGatewayAccount) : Bool :=
  checkIfEnabledInMga decoders mga "MANDATE" "subscription"

def isEmandateEnabled (decoders : Decoders) (mga : MerchantGatewayAccount) : Bool :=
  checkIfEnabledInMga decoders mga "EMANDATE" "enableEmandate"

def isOnlySubscription (decoders : Decoders) (mga : MerchantGatewayAccount) : Bool :=
  checkIfEnabledInMga decoders mga "SUBSCRIPTION_ONLY" "onlySubscription"

def isTpvOnlyGateway (decoders : Decoders) (mga : MerchantGatewayAccount) : Bool :=
  checkIfEnabledInMga decoders mga "TPV_ONLY" "tpvOnly"

def isViesEnabled (decoders : Decoders) (mga : MerchantGatewayAccount) : Bool :=
  checkIfEnabledInMga decoders mga "CARD_VIES" "viesEnabled"

def isSplitSettlementOnlyGateway (decoders : Decoders) (mga : MerchantGatewayAccount) : Bool :=
  checkIfEnabledInMga decoders mga "SPLIT_SETTLE_ONLY" "splitSettlementOnly"

def isSeamless (decoders : Decoders) (mga : MerchantGatewayAccount) : Bool :=
  (getValue decoders boolOfValue "seamless" mga.accountDetails).getD false

def checkForReversePennyDropInMga (mga : MerchantGatewayAccount) : Bool :=
  match mga.supportedPaymentFlows with
  | none => false
  | some flows => flows.paymentFlowIds.contains "REVERSE_PENNY_DROP"

def isTxnTypeEnabled (decoders : Decoders) (supportedTxnType : Option String)
    (paymentMethodType txnType : String) : Bool :=
  match supportedTxnType.bind (getValue decoders textsOfValue paymentMethodType) with
  | none => true
  | some types => types.contains txnType

def canAcceptPaymentMethod (decoders : Decoders) (mga : MerchantGatewayAccount) (pm : String) :
    Bool :=
  match mga.paymentMethods.bind (getValue decoders some "paymentMethods") with
  | some (.array methods) => (methods.filterMap Json.Value.asString).contains pm
  | _ => false

/-! ## Queries -/

/-- The table, unless its reads fail. -/
abbrev Rows (α : Type) := Option (List α)

/-- What a query finds; a failed one finds nothing. -/
def Rows.findAll {α : Type} (rows : Rows α) (predicate : α → Bool) : List α :=
  (rows.getD []).filter predicate

@[simp]
theorem Rows.mem_findAll {α : Type} {rows : Rows α} {predicate : α → Bool} {row : α} :
    row ∈ rows.findAll predicate ↔ row ∈ rows.getD [] ∧ predicate row = true :=
  List.mem_filter

section Queries

variable (decoders : Decoders) (accounts : Rows DBMerchantGatewayAccount)

/-- The accounts of the merchant.  The query has no condition on `disabled`. -/
def getEnabledMgasByMerchantId (mid : String) : List MerchantGatewayAccount :=
  (accounts.findAll fun row => row.merchantId == mid).filterMap
    (MerchantGatewayAccount.tryFrom decoders)

/-- The accounts of the merchant that have no reference id or one of these, and are not
disabled. -/
def getEnabledMgasByMerchantIdAndRefId (mid : String) (refIds : List String) :
    List MerchantGatewayAccount :=
  (accounts.findAll fun row => row.merchantId == mid && row.referenceId.all refIds.contains &&
    row.disabled.all (!·)).filterMap (MerchantGatewayAccount.tryFrom decoders)

def filterMorpheus (mgas : List MerchantGatewayAccount) : List MerchantGatewayAccount :=
  mgas.filter fun mga => mga.gateway != "MORPHEUS"

def getAllEnabledMgasByMerchantId (mid : String) : List MerchantGatewayAccount :=
  filterMorpheus (getEnabledMgasByMerchantId decoders accounts mid)

def getTpvOnlyGatewayAccounts (mid : String) (refIds : List String) :
    List MerchantGatewayAccount :=
  (filterMorpheus (getEnabledMgasByMerchantIdAndRefId decoders accounts mid refIds)).filter
    (isTpvOnlyGateway decoders)

def getSplitSettlementOnlyGatewayAccounts (mid : String) (refIds : List String) :
    List MerchantGatewayAccount :=
  (filterMorpheus (getEnabledMgasByMerchantIdAndRefId decoders accounts mid refIds)).filter
    (isSplitSettlementOnlyGateway decoders)

end Queries

end DecisionEngine.GatewayFilter
