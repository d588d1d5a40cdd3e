import DecisionEngine.Cache.Aside
import DecisionEngine.Number.Decimal
import DecisionEngine.Text.Basic

/-!
# Payment flows of a merchant

The flows that a merchant has are rows of the configuration table.  Whether one flow is enabled
and whether all of a list are is looked up by two functions, which keep their answers in one
cache.

The row of a list is looked up by the joined names of its flows, which is the name of a row only
where the list has one flow.  The key of its answer joins the names too, with a character that
some names have.
-/

namespace DecisionEngine.Config

open Cache Number Text Transition

inductive PaymentFlow where
  | card3ds
  | card3ds2
  | cardDotp
  | cardMoto
  | cardNo3ds
  | cardVies
  | zeroAuth
  | cardTokenization
  | cvvless
  | directDebit
  | emandate
  | emi
  | inappDebit
  | mandate
  | partialCapture
  | partialVoid
  | partialPayment
  | preauth
  | sdklessIntent
  | splitPayment
  | splitSettlement
  | topup
  | tpv
  | visaCheckout
  | outage
  | srBasedRouting
  | eliminationBasedRouting
  | plBasedRouting
  | mandateWorkflow
  | altid
  | surcharge
  | offer
  | captcha
  | paymentCollectionLink
  | autoRefund
  | paymentLink
  | paymentForm
  | riskCheck
  | dynamicCurrencyConversion
  | partPayment
  | standaloneAuthentication
  | standaloneAuthorization
  | standaloneCapture
  | authnAuthz
  | authzCapture
  | redirectDebit
  | linkAndDebit
  | newCard
  | instantRefund
  | async
  | dotp
  | merchantManagedDebit
  | addressVerification
  | frictionless3ds
  | taFile
  | fido
  | refund
  | ctp
  | oneTimePayment
  | reversePennyDrop
  | onDemandSplitSettlement
  | creditCardOnUpi
  | deciderFallbackDotpTo3ds
  | deciderFallbackNo3dsTo3ds
  | paymentChannelFallbackDotpTo3ds
  | pgFailureFallbackDotpTo3ds
  | tokenizationConsentFallbackDotpTo3ds
  | customerFallbackDotpTo3ds
  | authProviderFallback3ds2To3ds
  | frmPreferenceToNo3ds
  | merchantFallback3ds2To3ds
  | merchantFallbackFidoTo3ds
  | orderPreferenceFallbackNo3dsTo3ds
  | merchantPreferenceFallbackNo3dsTo3ds
  | orderPreferenceToNo3ds
  | mutualFund
  | crossBorderPayment
  | applepayTokenDecryptionFlow
  | oneTimeMandate
  | singleBlockMultipleDebit
  | silentRetry
  | walletTopup
  | networkTokenCreated
  | issuerTokenCreated
  | lockerTokenCreated
  | sodexoTokenCreated
  | networkTokenUsed
  | issuerTokenUsed
  | lockerTokenUsed
  | sodexoTokenUsed
  | payuTokenUsed
  | mandateRegister
  | mandateRegisterDebit
  | mandatePayment
  | emandateRegister
  | emandateRegisterDebit
  | emandatePayment
  | siHub
  | tpvEmandate
  | collect
  | intent
  | inapp
  | qr
  | pushPay
  | noCostEmi
  | lowCostEmi
  | standardEmi
  | standardEmiSplit
  | internalNoCostEmi
  | internalLowCostEmi
  | internalNoCostEmiSplit
  | internalLowCostEmiSplit
  | directBankEmi
  | pgEmi
  | autoDisbursement
  | autoUserRegistration
  | bankInstantRefund
  | mandatePredebitNotificationDisablement
  | orderAmountAsSubventionAmount
  | orderIdAsReconId
  | passUserTokenToGateway
  | s2sFlow
  | splitSettleOnly
  | subscriptionOnly
  | tpvOnly
  | txnUuidAsTr
  | upiIntentRegistration
  | v2Integration
  | v2LinkAndPay
  | vpos2
  | paymentPage
  | ppQuickpay
  | ppRetry
  | inappNewPay
  | inappRepeatPay
  | pixAutomaticRedirect
  deriving DecidableEq

def paymentFlowsToText : PaymentFlow → String
  | .card3ds => "CARD_3DS"
  | .card3ds2 => "CARD_3DS2"
  | .frictionless3ds => "FRICTIONLESS_3DS"
  | .cardDotp => "CARD_DOTP"
  | .cardMoto => "CARD_MOTO"
  | .cardNo3ds => "CARD_NO_3DS"
  | .cardVies => "CARD_VIES"
  | .zeroAuth => "ZERO_AUTH"
  | .cardTokenization => "CARD_TOKENIZATION"
  | .cvvless => "CVVLESS"
  | .directDebit => "DIRECT_DEBIT"
  | .emandate => "EMANDATE"
  | .emi => "EMI"
  | .inappDebit => "INAPP_DEBIT"
  | .mandate => "MANDATE"
  | .partialCapture => "PARTIAL_CAPTURE"
  | .partialVoid => "PARTIAL_VOID"
  | .partialPayment => "PARTIAL_PAYMENT"
  | .preauth => "PREAUTH"
  | .sdklessIntent => "SDKLESS_INTENT"
  | .splitPayment => "SPLIT_PAYMENT"
  | .splitSettlement => "SPLIT_SETTLEMENT"
  | .walletTopup => "WALLET_TOPUP"
  | .tpv => "TPV"
  | .visaCheckout => "VISA_CHECKOUT"
  | .autoDisbursement => "AUTO_DISBURSEMENT"
  | .autoUserRegistration => "AUTO_USER_REGISTRATION"
  | .bankInstantRefund => "BANK_INSTANT_REFUND"
  | .mandatePredebitNotificationDisablement => "MANDATE_PREDEBIT_NOTIFICATION_DISABLEMENT"
  | .orderAmountAsSubventionAmount => "ORDER_AMOUNT_AS_SUBVENTION_AMOUNT"
  | .orderIdAsReconId => "ORDER_ID_AS_RECON_ID"
  | .passUserTokenToGateway => "PASS_USER_TOKEN_TO_GATEWAY"
  | .s2sFlow => "S2S_FLOW"
  | .splitSettleOnly => "SPLIT_SETTLE_ONLY"
  | .subscriptionOnly => "SUBSCRIPTION_ONLY"
  | .tpvOnly => "TPV_ONLY"
  | .txnUuidAsTr => "TXN_UUID_AS_TR"
  | .upiIntentRegistration => "UPI_INTENT_REGISTRATION"
  | .v2Integration => "V2_INTEGRATION"
  | .v2LinkAndPay => "V2_LINK_AND_PAY"
  | .vpos2 => "VPOS2"
  | .outage => "OUTAGE"
  | .srBasedRouting => "SR_BASED_ROUTING"
  | .eliminationBasedRouting => "ELIMINATION_BASED_ROUTING"
  | .plBasedRouting => "PL_BASED_ROUTING"
  | .mandateWorkflow => "MANDATE_WORKFLOW"
  | .altid => "ALTID"
  | .surcharge => "SURCHARGE"
  | .offer => "OFFER"
  | .captcha => "CAPTCHA"
  | .paymentCollectionLink => "PAYMENT_COLLECTION_LINK"
  | .autoRefund => "AUTO_REFUND"
  | .paymentLink => "PAYMENT_LINK"
  | .paymentForm => "PAYMENT_FORM"
  | .riskCheck => "RISK_CHECK"
  | .dynamicCurrencyConversion => "DYNAMIC_CURRENCY_CONVERSION"
  | .partPayment => "PART_PAYMENT"
  | .standaloneAuthentication => "STANDALONE_AUTHENTICATION"
  | .standaloneAuthorization => "STANDALONE_AUTHORIZATION"
  | .standaloneCapture => "STANDALONE_CAPTURE"
  | .authnAuthz => "AUTHN_AUTHZ"
  | .authzCapture => "AUTHZ_CAPTURE"
  | .redirectDebit => "REDIRECT_DEBIT"
  | .linkAndDebit => "LINK_AND_DEBIT"
  | .newCard => "NEW_CARD"
  | .networkTokenCreated => "NETWORK_TOKEN_CREATED"
  | .issuerTokenCreated => "ISSUER_TOKEN_CREATED"
  | .lockerTokenCreated => "LOCKER_TOKEN_CREATED"
  | .sodexoTokenCreated => "SODEXO_TOKEN_CREATED"
  | .networkTokenUsed => "NETWORK_TOKEN_USED"
  | .issuerTokenUsed => "ISSUER_TOKEN_USED"
  | .lockerTokenUsed => "LOCKER_TOKEN_USED"
  | .sodexoTokenUsed => "SODEXO_TOKEN_USED"
  | .payuTokenUsed => "PAYU_TOKEN_USED"
  | .mandateRegister => "MANDATE_REGISTER"
  | .mandateRegisterDebit => "MANDATE_REGISTER_DEBIT"
  | .mandatePayment => "MANDATE_PAYMENT"
  | .emandateRegister => "EMANDATE_REGISTER"
  | .emandateRegisterDebit => "EMANDATE_REGISTER_DEBIT"
  | .emandatePayment => "EMANDATE_PAYMENT"
  | .siHub => "SI_HUB"
  | .tpvEmandate => "TPV_EMANDATE"
  | .collect => "COLLECT"
  | .intent => "INTENT"
  | .inapp => "INAPP"
  | .qr => "QR"
  | .pushPay => "PUSH_PAY"
  | .instantRefund => "INSTANT_REFUND"
  | .async => "ASYNC"
  | .dotp => "DOTP"
  | .merchantManagedDebit => "MERCHANT_MANAGED_DEBIT"
  | .addressVerification => "ADDRESS_VERIFICATION"
  | .taFile => "TA_FILE"
  | .paymentPage => "PAYMENT_PAGE"
  | .ppQuickpay => "PP_QUICKPAY"
  | .ppRetry => "PP_RETRY"
  | .inappNewPay => "INAPP_NEW_PAY"
  | .inappRepeatPay => "INAPP_REPEAT_PAY"
  | .pgEmi => "PG_EMI"
  | .silentRetry => "SILENT_RETRY"
  | .fido => "FIDO"
  | .refund => "REFUND"
  | .ctp => "CTP"
  | .oneTimePayment => "ONE_TIME_PAYMENT"
  | .noCostEmi => "NO_COST_EMI"
  | .lowCostEmi => "LOW_COST_EMI"
  | .standardEmi => "STANDARD_EMI"
  | .standardEmiSplit => "STANDARD_EMI_SPLIT"
  | .internalNoCostEmi => "INTERNAL_NO_COST_EMI"
  | .internalLowCostEmi => "INTERNAL_LOW_COST_EMI"
  | .internalNoCostEmiSplit => "INTERNAL_NO_COST_EMI_SPLIT"
  | .internalLowCostEmiSplit => "INTERNAL_LOW_COST_EMI_SPLIT"
  | .directBankEmi => "DIRECT_BANK_EMI"
  | .reversePennyDrop => "REVERSE_PENNY_DROP"
  | .topup => "TOPUP"
  | .onDemandSplitSettlement => "ON_DEMAND_SPLIT_SETTLEMENT"
  | .creditCardOnUpi => "CREDIT_CARD_ON_UPI"
  | .deciderFallbackDotpTo3ds => "DECIDER_FALLBACK_DOTP_TO_3DS"
  | .deciderFallbackNo3dsTo3ds => "DECIDER_FALLBACK_NO_3DS_TO_3DS"
  | .paymentChannelFallbackDotpTo3ds => "PAYMENT_CHANNEL_FALLBACK_DOTP_TO_3DS"
  | .pgFailureFallbackDotpTo3ds => "PG_FAILURE_FALLBACK_DOTP_TO_3DS"
  | .tokenizationConsentFallbackDotpTo3ds => "TOKENIZATION_CONSENT_FALLBACK_DOTP_TO_3DS"
  | .customerFallbackDotpTo3ds => "CUSTOMER_FALLBACK_DOTP_TO_3DS"
  | .authProviderFallback3ds2To3ds => "AUTH_PROVIDER_FALLBACK_3DS2_TO_3DS"
  | .frmPreferenceToNo3ds => "FRM_PREFERENCE_TO_NO_3DS"
  | .merchantFallback3ds2To3ds => "MERCHANT_FALLBACK_3DS2_TO_3DS"
  | .merchantFallbackFidoTo3ds => "MERCHANT_FALLBACK_FIDO_TO_3DS"
  | .orderPreferenceFallbackNo3dsTo3ds => "ORDER_PREFERENCE_FALLBACK_NO_3DS_TO_3DS"
  | .merchantPreferenceFallbackNo3dsTo3ds => "MERCHANT_PREFERENCE_FALLBACK_NO_3DS_TO_3DS"
  | .orderPreferenceToNo3ds => "ORDER_PREFERENCE_TO_NO_3DS"
  | .mutualFund => "MUTUAL_FUND"
  | .crossBorderPayment => "CROSS_BORDER_PAYMENT"
  | .applepayTokenDecryptionFlow => "APPLEPAY_TOKEN_DECRYPTION_FLOW"
  | .oneTimeMandate => "ONE_TIME_MANDATE"
  | .singleBlockMultipleDebit => "SINGLE_BLOCK_MULTIPLE_DEBIT"
  | .pixAutomaticRedirect => "PIX_AUTOMATIC_REDIRECT"

/-! ## The table -/

inductive ConfigCategory where
  | paymentFlow
  | generalConfig
  deriving DecidableEq

inductive ConfigStatus where
  | enabled
  | disabled
  deriving DecidableEq

def configCategoryToText : ConfigCategory → String
  | .paymentFlow => "PAYMENT_FLOW"
  | .generalConfig => "GENERAL_CONFIG"

def toConfigCategory (category : String) : Option ConfigCategory :=
  if category = "PAYMENT_FLOW" then some .paymentFlow
  else if category = "GENERAL_CONFIG" then some .generalConfig
  else none

def configStatusToText : ConfigStatus → String
  | .enabled => "ENABLED"
  | .disabled => "DISABLED"

def toConfigStatus (status : String) : Option ConfigStatus :=
  if status = "ENABLED" then some .enabled
  else if status = "DISABLED" then some .disabled
  else none

/-- A row as it is stored; no two columns but the id are unique. -/
structure DBMerchantConfig where
  id : String
  merchantAccountId : Int
  configCategory : String
  configName : String
  status : String
  configValue : Option String

structure MerchantConfig where
  id : String
  merchantAccountId : Int
  configCategory : ConfigCategory
  configName : String
  status : ConfigStatus
  configValue : Option String

def MerchantConfig.tryFrom (db : DBMerchantConfig) : Option MerchantConfig := do
  let configCategory ← toConfigCategory db.configCategory
  let status ← toConfigStatus db.status
  pure ⟨db.id, db.merchantAccountId, configCategory, db.configName, status, db.configValue⟩

/-- The rows in the order in which the database returns them. -/
abbrev MerchantConfigTable := List DBMerchantConfig

def loadMerchantConfigByMpidCategoryNameAndStatus (table : MerchantConfigTable)
    (merchantAccountId : Int) (category name status : String) : Option MerchantConfig :=
  (table.find? fun row => row.merchantAccountId = merchantAccountId ∧
    row.configCategory = category ∧ row.configName = name ∧ row.status = status).bind
      MerchantConfig.tryFrom

def loadMerchantConfigByMpidCategoryAndName (table : MerchantConfigTable)
    (merchantAccountId : Int) (category name : String) : Option MerchantConfig :=
  (table.find? fun row => row.merchantAccountId = merchantAccountId ∧
    row.configCategory = category ∧ row.configName = name).bind MerchantConfig.tryFrom

/-- The first row of the name. -/
def namedRow (table : MerchantConfigTable) (merchantId : Int) (name : String) :
    Option DBMerchantConfig :=
  table.find? fun row => row.merchantAccountId = merchantId ∧
    row.configCategory = configCategoryToText .paymentFlow ∧ row.configName = name

/-! ## The two functions -/

/-- What `isPaymentFlowEnabledForMerchant` finds when it has no answer. -/
def findPaymentFlow (table : MerchantConfigTable) (merchantPId : Int) (paymentFlow : PaymentFlow) :
    Bool :=
  (loadMerchantConfigByMpidCategoryNameAndStatus table merchantPId
    (configCategoryToText .paymentFlow) (paymentFlowsToText paymentFlow)
    (configStatusToText .enabled)).isSome

/-- What `isMerchantEnabledForPaymentFlows` finds when it has no answer. -/
def findPaymentFlows (table : MerchantConfigTable) (merchantId : Int)
    (paymentFlows : List PaymentFlow) : Bool :=
  let flowTexts := paymentFlows.map paymentFlowsToText
  let mcArr := loadMerchantConfigByMpidCategoryAndName table merchantId
    (configCategoryToText .paymentFlow) (join "," flowTexts)
  let isValidLength := mcArr.toList.length = paymentFlows.length
  let areAllPfsEnabled := mcArr.toList.all fun mc => mc.status = .enabled
  isValidLength && areAllPfsEnabled

/-- A call of one of the two. -/
inductive FlowQuery where
  | isPaymentFlowEnabledForMerchant (merchantPId : Int) (paymentFlow : PaymentFlow)
  | isMerchantEnabledForPaymentFlows (merchantId : Int) (paymentFlows : List PaymentFlow)

namespace FlowQuery

def cacheKey : FlowQuery → String
  | isPaymentFlowEnabledForMerchant merchantPId paymentFlow =>
      "mc_pf_" ++ toString merchantPId ++ "_" ++ paymentFlowsToText paymentFlow
  | isMerchantEnabledForPaymentFlows merchantId paymentFlows =>
      "mc_pf_arr_" ++ toString merchantId ++ "_" ++
        join "_" (paymentFlows.map paymentFlowsToText)

def find (table : MerchantConfigTable) : FlowQuery → Bool
  | isPaymentFlowEnabledForMerchant merchantPId paymentFlow =>
      findPaymentFlow table merchantPId paymentFlow
  | isMerchantEnabledForPaymentFlows merchantId paymentFlows =>
      findPaymentFlows table merchantId paymentFlows

def merchant : FlowQuery → Int
  | isPaymentFlowEnabledForMerchant merchantPId _ => merchantPId
  | isMerchantEnabledForPaymentFlows merchantId _ => merchantId

def flows : FlowQuery → List PaymentFlow
  | isPaymentFlowEnabledForMerchant _ paymentFlow => [paymentFlow]
  | isMerchantEnabledForPaymentFlows _ paymentFlows => paymentFlows

def isOfList : FlowQuery → Bool
  | isPaymentFlowEnabledForMerchant _ _ => false
  | isMerchantEnabledForPaymentFlows _ _ => true

end FlowQuery

/-! ## What the answers should be -/

/-- A row says that the flow is enabled for the merchant. -/
def FlowEnabled (table : MerchantConfigTable) (merchantId : Int) (paymentFlow : PaymentFlow) :
    Prop :=
  ∃ row ∈ table, row.merchantAccountId = merchantId ∧
    row.configCategory = configCategoryToText .paymentFlow ∧
    row.configName = paymentFlowsToText paymentFlow ∧ row.status = configStatusToText .enabled

/-- Each answer says whether all flows of the call are enabled, and an answer from the cache was
found by the same call. -/
structure FlowsAnswered (table : MerchantConfigTable) (trace : List (MemoEvent FlowQuery Bool)) :
    Prop where
  right : ∀ event ∈ trace, ∀ query answer, event.answered = some (query, answer) →
    (answer = true ↔ ∀ flow ∈ query.flows, FlowEnabled table query.merchant flow)
  own : OwnAnswers trace

/-- The rows that the call reads say whether all of its flows are enabled. -/
def LookupRight (table : MerchantConfigTable) : FlowQuery → Prop
  | .isPaymentFlowEnabledForMerchant _ _ => True
  | .isMerchantEnabledForPaymentFlows merchantId [] =>
      loadMerchantConfigByMpidCategoryAndName table merchantId
        (configCategoryToText .paymentFlow) "" = none
  | .isMerchantEnabledForPaymentFlows merchantId [paymentFlow] =>
      FlowEnabled table merchantId paymentFlow →
        ∃ row, namedRow table merchantId (paymentFlowsToText paymentFlow) = some row ∧
          row.status = configStatusToText .enabled
  | .isMerchantEnabledForPaymentFlows merchantId (first :: second :: rest) =>
      ∃ flow ∈ first :: second :: rest, ¬FlowEnabled table merchantId flow

/-- What two calls have in common that share an entry. -/
def FlowQuery.words (query : FlowQuery) : Bool × Int × List String :=
  (query.isOfList, query.merchant, (query.flows.map paymentFlowsToText).flatMap (split '_'))

/-! ## Keys -/

section Keys

variable {first second : FlowQuery} {merchantId other : Int} {text otherText : String}

theorem paymentFlowsToText_ne_empty (flow : PaymentFlow) : paymentFlowsToText flow ≠ "" := by
  cases flow <;> simp [paymentFlowsToText]

theorem split_ne_nil (separator : Char) : split separator text ≠ [] := by
  rw [split]
  simp

theorem numbered_eq_iff :
    toString merchantId ++ "_" ++ text = toString other ++ "_" ++ otherText ↔
      merchantId = other ∧ text = otherText := by
  constructor
  · intro same
    have afterNumber (number : Int) (rest : String) :
        splitOnce '_' (toString number ++ "_" ++ rest) = some (toString number, rest) :=
      splitOnce_append (notMem_toString (by decide) (by decide) number)
    have atFirst := afterNumber merchantId text
    have atSecond := afterNumber other otherText
    have parts := Option.some.inj (atFirst.symm.trans ((congrArg _ same).trans atSecond))
    exact ⟨toString_int_injective (Prod.mk.inj parts).1, (Prod.mk.inj parts).2⟩
  · rintro ⟨rfl, rfl⟩
    rfl

/-- The names of flows are joined to the same text just when they have the same words. -/
theorem join_flowTexts_eq_iff {flows others : List PaymentFlow} :
    join "_" (flows.map paymentFlowsToText) = join "_" (others.map paymentFlowsToText) ↔
      (flows.map paymentFlowsToText).flatMap (split '_') =
        (others.map paymentFlowsToText).flatMap (split '_') := by
  have empty (flow : PaymentFlow) (rest : List PaymentFlow) :
      join "_" ((flow :: rest).map paymentFlowsToText) ≠ join "_" [] ∧
        ((flow :: rest).map paymentFlowsToText).flatMap (split '_') ≠ [] := by
    refine ⟨join_cons_ne_empty "_" (paymentFlowsToText_ne_empty flow), ?_⟩
    rw [List.map_cons, List.flatMap_cons]
    exact List.append_ne_nil_of_left_ne_nil (split_ne_nil _) _
  cases flows with
  | nil =>
      cases others with
      | nil => exact iff_of_true rfl rfl
      | cons flow rest => exact iff_of_false (empty flow rest).1.symm (empty flow rest).2.symm
  | cons flow rest =>
      cases others with
      | nil => exact iff_of_false (empty flow rest).1 (empty flow rest).2
      | cons other others =>
          exact @join_eq_join_iff '_' _ _ (List.cons_ne_nil _ _) (List.cons_ne_nil _ _)

/-- The key of a list is none of a single flow. -/
theorem listKey_ne_flowKey :
    "mc_pf_arr_" ++ toString merchantId ++ "_" ++ text ≠
      "mc_pf_" ++ toString other ++ "_" ++ otherText := by
  intro same
  have sameRest : "arr_" ++ (toString merchantId ++ "_" ++ text) =
      toString other ++ "_" ++ otherText := by
    have isPrefix : "mc_pf_arr_" = "mc_pf_" ++ "arr_" := rfl
    rw [isPrefix] at same
    simp only [String.append_assoc] at same ⊢
    exact (String.append_right_inj _).mp same
  have sameChars := congrArg String.toList sameRest
  simp only [String.toList_append] at sameChars
  cases digits : (toString other).toList with
  | nil => exact toString_ne_empty other digits
  | cons first rest =>
      rw [digits] at sameChars
      have isFirst : 'a' = first := (List.cons.inj sameChars).1
      have listed : 'a' ∈ (toString other).toList := by
        rw [digits, isFirst]
        exact List.mem_cons_self
      exact notMem_toString (by decide) (by decide) other listed

/-- Two calls share an entry just when they are of one kind, for one merchant, and their flows
have the same words. -/
theorem cacheKey_eq_iff : first.cacheKey = second.cacheKey ↔ first.words = second.words := by
  cases first with
  | isPaymentFlowEnabledForMerchant merchantId flow =>
      cases second with
      | isPaymentFlowEnabledForMerchant other otherFlow =>
          simp only [FlowQuery.cacheKey, FlowQuery.words, FlowQuery.isOfList, FlowQuery.merchant,
            FlowQuery.flows, List.map_singleton, List.flatMap_singleton, Prod.mk.injEq, true_and,
            (split_injective '_').eq_iff]
          rw [String.append_assoc, String.append_assoc, String.append_assoc, String.append_assoc,
            String.append_right_inj, ← String.append_assoc, ← String.append_assoc, numbered_eq_iff]
      | isMerchantEnabledForPaymentFlows other flows =>
          exact iff_of_false listKey_ne_flowKey.symm nofun
  | isMerchantEnabledForPaymentFlows merchantId flows =>
      cases second with
      | isPaymentFlowEnabledForMerchant other flow =>
          exact iff_of_false listKey_ne_flowKey nofun
      | isMerchantEnabledForPaymentFlows other others =>
          simp only [FlowQuery.cacheKey, FlowQuery.words, FlowQuery.isOfList, FlowQuery.merchant,
            FlowQuery.flows, Prod.mk.injEq, true_and, ← join_flowTexts_eq_iff]
          rw [String.append_assoc, String.append_assoc, String.append_assoc, String.append_assoc,
            String.append_right_inj, ← String.append_assoc, ← String.append_assoc, numbered_eq_iff]

theorem injOn_cacheKey_iff {queries : Set FlowQuery} :
    Set.InjOn FlowQuery.cacheKey queries ↔ Set.InjOn FlowQuery.words queries := by
  simp only [Set.InjOn, cacheKey_eq_iff]

end Keys

/-! ## Rows -/

section Rows

variable {table : MerchantConfigTable} {merchantId : Int} {paymentFlow : PaymentFlow}

theorem toConfigStatus_eq_enabled_iff {status : String} :
    toConfigStatus status = some .enabled ↔ status = configStatusToText .enabled := by
  rw [toConfigStatus, configStatusToText]
  split
  · next isEnabled => exact iff_of_true rfl isEnabled
  · next notEnabled =>
      refine iff_of_false ?_ notEnabled
      split <;> simp

theorem tryFrom_eq_map {row : DBMerchantConfig}
    (isFlow : row.configCategory = configCategoryToText .paymentFlow) :
    MerchantConfig.tryFrom row = (toConfigStatus row.status).map fun status =>
      ⟨row.id, row.merchantAccountId, .paymentFlow, row.configName, status, row.configValue⟩ := by
  rw [MerchantConfig.tryFrom, isFlow]
  cases toConfigStatus row.status <;> rfl

theorem loadMerchantConfigByMpidCategoryAndName_eq (name : String) :
    loadMerchantConfigByMpidCategoryAndName table merchantId (configCategoryToText .paymentFlow)
      name = (namedRow table merchantId name).bind MerchantConfig.tryFrom :=
  rfl

theorem of_namedRow {name : String} {row : DBMerchantConfig}
    (isRow : namedRow table merchantId name = some row) :
    row ∈ table ∧ row.merchantAccountId = merchantId ∧
      row.configCategory = configCategoryToText .paymentFlow ∧ row.configName = name := by
  have fits := List.find?_some isRow
  exact ⟨List.mem_of_find?_eq_some isRow, of_decide_eq_true fits⟩

theorem findPaymentFlow_eq_true_iff :
    findPaymentFlow table merchantId paymentFlow = true ↔
      FlowEnabled table merchantId paymentFlow := by
  rw [findPaymentFlow, loadMerchantConfigByMpidCategoryNameAndStatus]
  constructor
  · intro found
    cases isRow : table.find? fun row => row.merchantAccountId = merchantId ∧
        row.configCategory = configCategoryToText .paymentFlow ∧
        row.configName = paymentFlowsToText paymentFlow ∧
        row.status = configStatusToText .enabled with
    | none =>
        rw [isRow] at found
        cases found
    | some row =>
        have fits := List.find?_some isRow
        exact ⟨row, List.mem_of_find?_eq_some isRow, of_decide_eq_true fits⟩
  · rintro ⟨row, listed, fits⟩
    have isSome : (table.find? fun row => row.merchantAccountId = merchantId ∧
        row.configCategory = configCategoryToText .paymentFlow ∧
        row.configName = paymentFlowsToText paymentFlow ∧
        row.status = configStatusToText .enabled).isSome :=
      List.find?_isSome.mpr ⟨row, listed, decide_eq_true fits⟩
    rcases Option.isSome_iff_exists.mp isSome with ⟨first, isFirst⟩
    have firstFits := List.find?_some isFirst
    rcases of_decide_eq_true firstFits with ⟨-, isFlow, -, isEnabled⟩
    rw [isFirst, Option.bind_some, tryFrom_eq_map isFlow,
      toConfigStatus_eq_enabled_iff.mpr isEnabled]
    rfl

theorem findPaymentFlows_singleton :
    findPaymentFlows table merchantId [paymentFlow] = true ↔
      ∃ row, namedRow table merchantId (paymentFlowsToText paymentFlow) = some row ∧
        row.status = configStatusToText .enabled := by
  rw [findPaymentFlows, List.map_singleton, join_singleton,
    loadMerchantConfigByMpidCategoryAndName_eq]
  cases isRow : namedRow table merchantId (paymentFlowsToText paymentFlow) with
  | none => simp
  | some row =>
      rw [Option.bind_some, tryFrom_eq_map (of_namedRow isRow).2.2.1]
      simp only [Option.some.injEq, exists_eq_left', ← toConfigStatus_eq_enabled_iff]
      cases toConfigStatus row.status with
      | none => simp
      | some status => simp

theorem findPaymentFlows_nil :
    findPaymentFlows table merchantId [] = true ↔
      loadMerchantConfigByMpidCategoryAndName table merchantId
        (configCategoryToText .paymentFlow) "" = none := by
  rw [findPaymentFlows, List.map_nil]
  change (_ && _) = true ↔ loadMerchantConfigByMpidCategoryAndName table merchantId
    (configCategoryToText .paymentFlow) (join "," []) = none
  cases loadMerchantConfigByMpidCategoryAndName table merchantId
    (configCategoryToText .paymentFlow) (join "," []) <;> simp

/-- No row is counted as two. -/
theorem findPaymentFlows_cons_cons (first second : PaymentFlow) (rest : List PaymentFlow) :
    findPaymentFlows table merchantId (first :: second :: rest) = false := by
  rw [findPaymentFlows]
  cases loadMerchantConfigByMpidCategoryAndName table merchantId
    (configCategoryToText .paymentFlow)
    (join "," ((first :: second :: rest).map paymentFlowsToText)) <;> simp

/-- What is found says whether all flows are enabled just when the rows that are read do. -/
theorem find_eq_true_iff_iff (query : FlowQuery) :
    (query.find table = true ↔ ∀ flow ∈ query.flows, FlowEnabled table query.merchant flow) ↔
      LookupRight table query := by
  cases query with
  | isPaymentFlowEnabledForMerchant merchantId flow =>
      refine iff_of_true ?_ trivial
      rw [FlowQuery.find, findPaymentFlow_eq_true_iff, FlowQuery.flows, List.forall_mem_singleton]
      rfl
  | isMerchantEnabledForPaymentFlows merchantId flows =>
      rw [FlowQuery.find, FlowQuery.flows, FlowQuery.merchant]
      match flows with
      | [] =>
          rw [findPaymentFlows_nil, LookupRight]
          simp
      | [flow] =>
          rw [findPaymentFlows_singleton, List.forall_mem_singleton, LookupRight]
          refine ⟨Iff.mpr, fun reads => ⟨?_, reads⟩⟩
          rintro ⟨row, isRow, isEnabled⟩
          rcases of_namedRow isRow with ⟨listed, fits⟩
          exact ⟨row, listed, fits.1, fits.2.1, fits.2.2, isEnabled⟩
      | first :: second :: rest =>
          rw [findPaymentFlows_cons_cons, LookupRight]
          simp only [Bool.false_eq_true, false_iff, not_forall, exists_prop]

end Rows

/-! ## Runs -/

/-- In every run of calls the answers are right, and each call gets its own, just when the rows
that each call reads are enough for it and no two calls have the same words. -/
theorem flowsAnswered_iff (table : MerchantConfigTable) (queries : Set FlowQuery) :
    (∀ trace entries,
        Run (MemoStepIn FlowQuery.cacheKey (FlowQuery.find table) queries) (fun _ => none) trace
          entries →
        FlowsAnswered table trace) ↔
      (∀ query ∈ queries, LookupRight table query) ∧ Set.InjOn FlowQuery.words queries := by
  rw [← injOn_cacheKey_iff, ← @ownAnswers_iff _ _ _ _ _ (FlowQuery.find table)]
  constructor
  · intro answered
    refine ⟨?_, fun trace entries run => (answered trace entries run).own⟩
    intro query listed
    have right := (answered _ _ (run_computed query listed)).right _ List.mem_cons_self query _ rfl
    exact (find_eq_true_iff_iff query).mp right
  · rintro ⟨lookups, own⟩ trace entries run
    refine ⟨?_, own trace entries run⟩
    intro event happened query answer answers
    rcases (own trace entries run).eq_compute run happened answers with ⟨listed, rfl⟩
    exact (find_eq_true_iff_iff query).mpr (lookups query listed)

/-- Two flows that are enabled, each in its row. -/
def twoFlowRows : MerchantConfigTable :=
  [⟨"1", 7, "PAYMENT_FLOW", "CARD_3DS", "ENABLED", none⟩,
    ⟨"2", 7, "PAYMENT_FLOW", "ZERO_AUTH", "ENABLED", none⟩]

/-- Both flows are enabled, but the list of the two is not; and one list of flows is served the
answer to another. -/
theorem flowsAnswered_counterexample :
    (∃ trace entries,
        Run (MemoStepIn FlowQuery.cacheKey (FlowQuery.find twoFlowRows) Set.univ) (fun _ => none)
          trace entries ∧
        ∃ event ∈ trace, ∃ query answer, event.answered = some (query, answer) ∧
          ¬(answer = true ↔ ∀ flow ∈ query.flows, FlowEnabled twoFlowRows query.merchant flow)) ∧
      ∃ trace entries,
        Run (MemoStepIn FlowQuery.cacheKey (FlowQuery.find twoFlowRows) Set.univ) (fun _ => none)
          trace entries ∧ ¬OwnAnswers trace := by
  constructor
  · refine ⟨_, _, run_computed (.isMerchantEnabledForPaymentFlows 7 [.card3ds, .zeroAuth])
      trivial, _, List.mem_cons_self, _, _, rfl, fun right => ?_⟩
    rw [FlowQuery.find, findPaymentFlows_cons_cons] at right
    have enabled : ∀ flow ∈ [PaymentFlow.card3ds, .zeroAuth], FlowEnabled twoFlowRows 7 flow := by
      simp [FlowEnabled, twoFlowRows, configCategoryToText, configStatusToText,
        paymentFlowsToText]
    exact absurd (right.mpr enabled) (by decide)
  · refine ⟨_, _, run_served (.isMerchantEnabledForPaymentFlows 7 [.tpv, .emandate])
      (.isMerchantEnabledForPaymentFlows 7 [.tpvEmandate]) trivial trivial rfl,
      fun own => ?_⟩
    have computed := own [_] _ _ [] rfl
    exact absurd (List.mem_singleton.mp computed) (by simp)

end DecisionEngine.Config
