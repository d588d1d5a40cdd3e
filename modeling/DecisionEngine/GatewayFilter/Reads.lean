import DecisionEngine.GatewayFilter.Accounts
import DecisionEngine.Scoring.Decision

/-!
# What the filters read

Beside the accounts: the lists of gateways in the service configuration, the answers of
feature flags, and the tables of card information, payment method flows and instalments.
The contents are those of one run.
-/

namespace DecisionEngine.GatewayFilter

open Scoring Text

structure DBGatewayCardInfo where
  id : Int
  isin : Option String
  gateway : Option Gateway
  authType : Option String
  juspayBankCodeId : Option Int
  disabled : Option Bool
  validationType : Option String
  paymentMethodType : Option String

structure GatewayCardInfo where
  id : Int
  gateway : Option Gateway
  authType : Option String
  validationType : Option ValidationType

def validationTypeOf (column : Option String) : Option (Option ValidationType) :=
  match column with
  | none => some none
  | some text => (textToValidationType text).map some

/-- The card information of a row, unless its validation type has no such text. -/
def GatewayCardInfo.tryFrom (row : DBGatewayCardInfo) : Option GatewayCardInfo :=
  (validationTypeOf row.validationType).map fun validationType =>
    { id := row.id, gateway := row.gateway, authType := row.authType, validationType }

structure MerchantGatewayCardInfo where
  id : Int
  disabled : Bool
  gatewayCardInfoId : Int
  merchantAccountId : Int
  merchantGatewayAccountId : Option Int

structure BankCode where
  id : Int
  bankCode : String

structure GatewayPaymentMethodFlow where
  id : String
  paymentMethodId : Option String
  gateway : Gateway
  paymentFlowId : String
  juspayBankCodeId : Option Int
  countryCodeAlpha3 : Option String
  disabled : Bool
  paymentMethodType : Option String

structure MerchantGatewayPaymentMethodFlow where
  gatewayPaymentMethodFlowId : String
  merchantGatewayAccountId : Int
  disabled : Option Bool

structure GatewayBankEmiSupport where
  id : Int
  gateway : Gateway
  bank : String
  scope : Option String

structure GatewayBankEmiSupportV2 where
  id : Int
  gateway : Gateway
  juspayBankCodeId : Int
  scope : String
  cardType : String
  tenure : Int
  metadata : Option String

structure EmiBankCode where
  emiBank : String
  juspayBankCodeId : Int

structure MerchantGatewayAccountSubInfo where
  merchantGatewayAccountId : Int
  subInfoType : String
  subIdType : String
  juspaySubAccountId : String
  disabled : Bool

structure Tables where
  merchantGatewayAccounts : Rows DBMerchantGatewayAccount
  gatewayCardInfos : Rows DBGatewayCardInfo
  merchantGatewayCardInfos : Rows MerchantGatewayCardInfo
  juspayBankCodes : Rows BankCode
  gatewayPaymentMethodFlows : Rows GatewayPaymentMethodFlow
  merchantGatewayPaymentMethodFlows : Rows MerchantGatewayPaymentMethodFlow
  gatewayBankEmiSupports : Rows GatewayBankEmiSupport
  gatewayBankEmiSupportV2s : Rows GatewayBankEmiSupportV2
  emiBankCodes : Rows EmiBankCode
  merchantGatewayAccountSubInfos : Rows MerchantGatewayAccountSubInfo

/-- The service configuration at each of the types that the filters decode it to. -/
structure Configs where
  texts : String → Option (List String)
  gatewaysByText : String → Option (List (String × List Gateway))
  gatewaysByAuthType : String → Option (List (AuthType × List Gateway))
  /-- As pairs in a list, of which the last of one authentication type counts. -/
  gatewaysOfAuthTypes : String → Option (List (AuthType × List Gateway))
  gatewaysOfTexts : String → Option (List (String × List Gateway))
  gatewayOfVaults : String → Option (List (VaultProvider × Gateway))

/-- The answers of feature flags, of caches and of services for this merchant and payment. -/
structure Answers where
  isFeatureEnabled : String → Bool
  isFeatureEnabledByDimension : String → String → Bool
  /-- A feature asked of a row of the support for instalments, by the row's id. -/
  isFeatureEnabledForRow : Int → String → String → Bool
  /-- The merchant has the feature in the feature table. -/
  hasFeature : String → Bool
  isCvvlessFlowEnabled : Bool
  /-- The brand kept for an issuer number, or else the one of its card information. -/
  cardBrand : String → Option String
  paymentMethodId : String → Option String
  isKnownCountry : String → Bool
  isEmiEligible : List String → String → Bool
  textToCurr : String → Option String
  /-- The amount is at most the one registered for the row, or the default without one. -/
  isWithinRegisterAmount : MerchantGatewayCardInfo → Bool

structure Reads where
  decoders : Decoders
  tables : Tables
  configs : Configs
  answers : Answers

variable (reads : Reads)

/-- The texts under a key of the configuration, none when the key is absent. -/
def Reads.gateways (key : String) : List Gateway :=
  (reads.configs.texts key).getD []

/-! ## Cards -/

def getCardBrand (params : DeciderParams) : Option String :=
  match params.dpTxnCardInfo.cardIsin with
  | none => none
  | some isin => if isin == "" then none else reads.answers.cardBrand isin

def getAllByMgciIds (ids : List Int) : List GatewayCardInfo :=
  (reads.tables.gatewayCardInfos.findAll fun row => ids.contains row.id).filterMap
    GatewayCardInfo.tryFrom

/-- Enabled card information of the issuer numbers and the gateways. -/
def getEnabledGatewayCardInfoForGateways (cardBins : List String) (gateways : List Gateway) :
    List GatewayCardInfo :=
  (reads.tables.gatewayCardInfos.findAll fun row => row.isin.any cardBins.contains &&
    row.gateway.any gateways.contains && row.disabled.all (!·)).filterMap
      GatewayCardInfo.tryFrom

def recordParsingFailed : ErrorResponse where
  status := "500"
  errorCode := "INTERNAL_SERVER_ERROR"
  errorMessage := "Internal Server Error"
  routingApproach := none
  errorInfo :=
    { code := "INTERNAL_SERVER_ERROR"
      userMessage := "Internal Server Error."
      developerMessage := "record parsing failed." }

variable (merchantAccount : MerchantAccount)

/-- Card information of the issuer numbers that is enabled for the merchant too.  One row
that does not parse fails the request. -/
def getSupportedGatewayCardInfoForBins (cardBins : List String) :
    Except ErrorResponse (List GatewayCardInfo) :=
  let gciRecords := reads.tables.gatewayCardInfos.findAll fun row =>
    row.isin.any cardBins.contains && row.disabled == some false
  let gcis := gciRecords.map (·.id)
  let mgciRecords := reads.tables.merchantGatewayCardInfos.findAll fun row =>
    row.merchantAccountId == merchantAccount.id && !row.disabled &&
      gcis.contains row.gatewayCardInfoId
  let gcisFiltered := mgciRecords.map (·.gatewayCardInfoId)
  match (gciRecords.filter fun gci => gcisFiltered.contains gci.id).mapM
      GatewayCardInfo.tryFrom with
  | some records => .ok records
  | none => .error recordParsingFailed

def findAllMgcisByMaccAndGciPId (gciIds : List Int) : List MerchantGatewayCardInfo :=
  reads.tables.merchantGatewayCardInfos.findAll fun row =>
    gciIds.contains row.gatewayCardInfoId && row.merchantAccountId == merchantAccount.id &&
      !row.disabled

/-- The merchant's card information for the bank, the validation type and the accounts. -/
def filterGatewaysForPaymentMethodAndValidationType (txnCardInfo : TxnCardInfo)
    (enabledGatewayAccounts : List MerchantGatewayAccount) (givenValidationType : ValidationType) :
    List MerchantGatewayCardInfo :=
  let validJpbcIds := (reads.tables.juspayBankCodes.findAll fun row =>
    row.bankCode == txnCardInfo.paymentMethod).map (·.id)
  let gciIds := (reads.tables.gatewayCardInfos.findAll fun row =>
    row.juspayBankCodeId.any validJpbcIds.contains && row.disabled == some false &&
      row.validationType == some givenValidationType.toText &&
      row.paymentMethodType == some txnCardInfo.paymentMethodType).map (·.id)
  reads.tables.merchantGatewayCardInfos.findAll fun row =>
    gciIds.contains row.gatewayCardInfoId && row.merchantAccountId == merchantAccount.id &&
      !row.disabled &&
      row.merchantGatewayAccountId.any (enabledGatewayAccounts.map (·.id)).contains

def filterGatewayCardInfoForMaxRegisterAmount (params : DeciderParams)
    (merchantGatewayCardInfos : List MerchantGatewayCardInfo) : List MerchantGatewayCardInfo :=
  if isEmandateAmountFilterNeeded params.dpTxnDetail params.dpTxnCardInfo then
    merchantGatewayCardInfos.filter reads.answers.isWithinRegisterAmount
  else merchantGatewayCardInfos

/-! ## Token repeats -/

def getNetworkTokenSupportedGateways (flow network : String) :
    Option (List Gateway) :=
  match flow with
  | "OTP" => reads.configs.texts (network ++ "_TOKEN_REPEAT_OTP_SUPPORTED_GATEWAYS")
  | "CVV_LESS" => reads.configs.texts (network ++ "_TOKEN_REPEAT_CVVLESS_SUPPORTED_GATEWAYS")
  | "MANDATE" => reads.configs.texts (network ++ "_TOKEN_REPEAT_MANDATE_SUPPORTED_GATEWAYS")
  | "CARD" => reads.configs.texts (network ++ "_TOKEN_REPEAT_SUPPORTED_GATEWAYS")
  | _ => some []

def getTokenSupportedGatewaysKey (brand providerCategory tokenProvider flow : String) :
    Option (List Gateway) :=
  let provider := if brand == tokenProvider then "" else tokenProvider
  reads.configs.texts
    (join "_" [brand, provider, providerCategory, flow] ++ "_SUPPORTED_GATEWAYS")

def getTokenSupportedGateways (params : DeciderParams) (flow : String)
    (internalMeta : Option InternalMetadata) : Option (List Gateway) :=
  let tokenType := getStoredCardVaultProvider internalMeta
  let brand := params.dpTxnCardInfo.cardSwitchProvider.getD "DEFAULT"
  let tokenProvider := getTokenProvider reads.decoders internalMeta params.dpTxnCardInfo brand
  if tokenType == "NETWORK_TOKEN" then getNetworkTokenSupportedGateways reads flow brand
  else getTokenSupportedGatewaysKey reads brand tokenType tokenProvider flow

/-! ## Payment method flows -/

/-- The flows found, those with a country that is none left out. -/
def findAllGpmfByGatewayPaymentFlowPaymentMethod (gateways : List Gateway) (pmId pfId : String) :
    List GatewayPaymentMethodFlow :=
  (reads.tables.gatewayPaymentMethodFlows.findAll fun row => gateways.contains row.gateway &&
    row.paymentMethodId == some pmId && row.paymentFlowId == pfId && !row.disabled).filter
      fun row => row.countryCodeAlpha3.all reads.answers.isKnownCountry

def findAllGpmfByCountryCodeGwPfIdPmtJbcid (countryCode : String) (gateways : List Gateway)
    (pfId pmt : String) (jbcId : Int) :
    List GatewayPaymentMethodFlow :=
  reads.tables.gatewayPaymentMethodFlows.findAll fun row => gateways.contains row.gateway &&
    row.juspayBankCodeId == some jbcId && row.paymentFlowId == pfId && !row.disabled &&
    row.countryCodeAlpha3 == some countryCode && row.paymentMethodType == some pmt

def getAllMgpmfByMgaIdAndGpmfIds (mgaIds : List Int) (gpmfIds : List String) :
    List MerchantGatewayPaymentMethodFlow :=
  reads.tables.merchantGatewayPaymentMethodFlows.findAll fun row =>
    mgaIds.contains row.merchantGatewayAccountId &&
      gpmfIds.contains row.gatewayPaymentMethodFlowId && row.disabled == some false

def findBankCode (bankCode : String) : Option BankCode :=
  (reads.tables.juspayBankCodes.findAll fun row => row.bankCode == bankCode).head?

/-! ## Instalments -/

def getGatewayBankEmiSupport (emiBank : Option String) (gws : List Gateway) (scope : String) :
    List GatewayBankEmiSupport :=
  match emiBank with
  | none => []
  | some bank =>
      let scope := if scope == "CARDLESS" then "CARD" else scope
      if gws.isEmpty then []
      else reads.tables.gatewayBankEmiSupports.findAll fun row => row.bank == bank &&
        gws.contains row.gateway &&
        (if scope == "NULL" then row.scope.isNone else row.scope == some scope)

def isSuffixOf (suffix text : String) : Bool :=
  suffix.toList.isSuffixOf text.toList

def dropSuffix (suffix text : String) : String :=
  String.ofList (text.toList.take (text.length - suffix.length))

def trimSuffix (text : String) : String :=
  if isSuffixOf "_CLEMI" text then dropSuffix "_CLEMI" text
  else if isSuffixOf "_CC" text then dropSuffix "_CC" text
  else if isSuffixOf "DC" text then dropSuffix "DC" text
  else text

def getGatewayBankEmiSupportV2 (emiBank : Option String) (gws : List Gateway) (scope : String)
    (tenure : Option Int) : List GatewayBankEmiSupportV2 :=
  match emiBank, tenure with
  | some bank, some ten =>
      match reads.tables.emiBankCodes.findAll fun row => row.emiBank == trimSuffix bank with
      | [emiBankCode] =>
          let cardType :=
            if scope == "CARDLESS" then "CONSUMER_FINANCE"
            else if isSuffixOf "DC" bank then "DEBIT" else "CREDIT"
          reads.tables.gatewayBankEmiSupportV2s.findAll fun row =>
            row.juspayBankCodeId == emiBankCode.juspayBankCodeId &&
              gws.contains row.gateway && row.scope == scope && row.cardType == cardType &&
              row.tenure == ten
      | _ => []
  | _, _ => []

/-- Banks that validate issuer numbers have the card's number among the eligible ones. -/
def checkIfBinIsEligibleForEmi (cardIsin juspayBankCode cardType : Option String) : Bool :=
  match cardIsin, juspayBankCode, cardType with
  | some isin, some bank, some type =>
      if ((reads.configs.texts "EMI_BIN_VALIDATION_SUPPORTED_BANKS").any fun banks =>
          banks.contains (bank ++ "::" ++ type)) then
        reads.answers.isEmiEligible (getBinList (some isin)) bank
      else true
  | _, _, _ => true

end DecisionEngine.GatewayFilter
