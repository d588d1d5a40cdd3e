import DecisionEngine.GatewayFilter.Eligibility

/-!
# Functional gateways of a card payment

The second filter is about payments without the card's security code, repeats with a card
token, offline files and merchant containers.  With the second version of the flow without
security codes, the gateways are listed account by account.
-/

namespace DecisionEngine.GatewayFilter

open Scoring Selection Text

variable (reads : Reads) (params : DeciderParams)

def cardSwitchProviderOrDefault : String :=
  params.dpTxnCardInfo.cardSwitchProvider.getD "DEFAULT"

/-! ## Without a security code -/

def checkCvvLessSupportRupay : Bool :=
  match fetchJuspayBankCode reads.decoders params.dpTxnCardInfo with
  | some bankCode =>
      let cardType := (params.dpTxnCardInfo.cardType.map cardTypeToText).getD ""
      reads.answers.isFeatureEnabledByDimension
        (cardSwitchProviderOrDefault params ++ "_TOKEN_REPEAT_CVVLESS_SUPPORTED_BANKS")
        (bankCode ++ "::" ++ toAsciiUppercase cardType)
  | none => false

def isBrandSupportsCvvless (brand : String) : Bool :=
  if brand == "RUPAY" then checkCvvLessSupportRupay reads params else true

/-- The accounts that have the flow without security codes for the payment method. -/
def cvvLessV2Mgas (pmId : String) (state : DeciderState) : List MerchantGatewayAccount :=
  let allGPMfEntries := findAllGpmfByGatewayPaymentFlowPaymentMethod reads
    state.functionalGateways pmId "CVVLESS"
  let gmpfGws := allGPMfEntries.map (·.gateway)
  let filteredMga := state.accounts.filter fun mga => gmpfGws.contains mga.gateway
  let mgpmfEntries := getAllMgpmfByMgaIdAndGpmfIds reads (filteredMga.map (·.id))
    (allGPMfEntries.map (·.id))
  let filteredMgaList := mgpmfEntries.map (·.merchantGatewayAccountId)
  filteredMga.filter fun mga => filteredMgaList.contains mga.id

/-- The payment method whose accounts the second version lists, when it lists any. -/
def cvvLessV2Method : Option String :=
  let brand := cardSwitchProviderOrDefault params
  if reads.answers.isCvvlessFlowEnabled && isBrandSupportsCvvless reads params brand then
    reads.answers.paymentMethodId brand
  else none

def filterForCvvLessV2 (state : DeciderState) : DeciderState :=
  match cvvLessV2Method reads params with
  | some pmId =>
      let finalFilteredMga := cvvLessV2Mgas reads pmId state
      setGws (finalFilteredMga.map (·.gateway)) (setMgas finalFilteredMga state)
  | none => setGws [] state

def filterForMoto (state : DeciderState) : DeciderState :=
  let authTypeRestrictedGateways :=
    (reads.configs.gatewaysByAuthType "AUTH_TYPE_RESTRICTED_GATEWAYS").getD []
  let motoSupportedGateways :=
    (params.dpTxnCardInfo.authType.bind fun authType =>
      authTypeRestrictedGateways.lookup authType).getD []
  setGws (state.functionalGateways.filter motoSupportedGateways.contains) state

def filterForTokenRepeatCvvLess (state : DeciderState) : DeciderState :=
  let functionalGateways :=
    if isBrandSupportsCvvless reads params (cardSwitchProviderOrDefault params) then
      let supported :=
        (getTokenSupportedGateways reads params "CVV_LESS" state.internalMetaData).getD []
      state.functionalGateways.filter supported.contains
    else []
  setGws functionalGateways state

def filterForCvvLessCards (state : DeciderState) : DeciderState :=
  let byBrand := (reads.configs.gatewaysByText
    "CARD_BRAND_TO_CVVLESS_TXN_SUPPORTED_GATEWAYS").getD []
  let supported := reads.gateways "CVVLESS_TXN_SUPPORTED_COMMON_GATEWAYS" ++
    (byBrand.lookup params.dpTxnCardInfo.paymentMethod).getD []
  if supported.isEmpty then state
  else setGws (state.functionalGateways.filter supported.contains) state

/-- A card payment without the card's security code. -/
def isCvvLess (state : DeciderState) : Bool :=
  isCardTransaction params.dpTxnCardInfo &&
    state.internalMetaData.any fun internalMeta => internalMeta.isCvvLessTxn == some true

/-- The second version is for repeats with a card token, of merchants that have it. -/
def takesCvvLessV2 (state : DeciderState) : Bool :=
  isCvvLess params state && params.dpTxnCardInfo.authType != some .moto &&
    isTokenRepeatTxn state.internalMetaData &&
    reads.answers.isFeatureEnabled "ENABLED_CVVLESS_V2_ENABLED_MERCHANTS"

def filterForCvvLess (state : DeciderState) : DeciderState :=
  if isCvvLess params state then
    if params.dpTxnCardInfo.authType == some .moto then filterForMoto reads params state
    else if isTokenRepeatTxn state.internalMetaData then
      if reads.answers.isFeatureEnabled "ENABLED_CVVLESS_V2_ENABLED_MERCHANTS" then
        filterForCvvLessV2 reads params state
      else filterForTokenRepeatCvvLess reads params state
    else filterForCvvLessCards reads params state
  else state

/-! ## Card tokens, offline files and merchant containers -/

def filterForTokenRepeatOtp (state : DeciderState) : DeciderState :=
  if params.dpTxnCardInfo.authType == some .otp then
    let supported :=
      (getTokenSupportedGateways reads params "OTP" state.internalMetaData).getD []
    setGws (state.functionalGateways.filter supported.contains) state
  else state

def filterForTokenRepeatCard (state : DeciderState) : DeciderState :=
  let supported := (getTokenSupportedGateways reads params "CARD" state.internalMetaData).getD []
  setGws (state.functionalGateways.filter fun gw => supported.isEmpty || supported.contains gw)
    state

def filterForTokenRepeat (state : DeciderState) : DeciderState :=
  if isCardTransaction params.dpTxnCardInfo && isTokenRepeatTxn state.internalMetaData then
    filterForTokenRepeatCard reads params (filterForTokenRepeatOtp reads params state)
  else state

def filterForTaFile (state : DeciderState) : DeciderState :=
  if isCardTransaction params.dpTxnCardInfo && params.dpTxnCardInfo.authType == some .moto &&
      (getPaymentFlowListFromTxnDetail reads.decoders params.dpTxnDetail).contains "TA_FILE" then
    setGws (state.functionalGateways.filter
      (reads.gateways "TA_OFFLINE_ENABLED_GATEWAYS").contains) state
  else state

def filterForMerchantContainer (state : DeciderState) : DeciderState :=
  let supported := reads.gateways "MERCHANT_CONTAINER_SUPPORTED_GATEWAYS"
  let isContainer := params.dpTxnCardInfo.paymentMethodType == "MERCHANT_CONTAINER"
  setGws (state.functionalGateways.filter fun gw => supported.contains gw == isContainer) state

def setInternalMetaData (state : DeciderState) : DeciderState :=
  { state with
    internalMetaData := params.dpTxnDetail.internalMetadata.bind reads.decoders.internalMetadata }

def filterFunctionalGateways (state : DeciderState) : DeciderState :=
  filterForMerchantContainer reads params (filterForTaFile reads params
    (filterForTokenRepeat reads params (filterForCvvLess reads params
      (setInternalMetaData reads params state))))

/-! ## What it keeps -/

variable {reads params} {state : DeciderState}

theorem cvvLessV2Mgas_subset (pmId : String) : cvvLessV2Mgas reads pmId state ⊆ state.accounts :=
  List.Subset.trans (List.filter_subset_self _) (List.filter_subset_self _)

/-- When the second version lists accounts, they come gateway by gateway. -/
def CvvLessListsTogether (reads : Reads) (params : DeciderParams) (state : DeciderState) : Prop :=
  takesCvvLessV2 reads params state = true → ∀ pmId, cvvLessV2Method reads params = some pmId →
    Grouped ((cvvLessV2Mgas reads pmId state).map (·.gateway))

theorem narrowing_filterForCvvLessV2 : state.Narrowing (filterForCvvLessV2 reads params state) := by
  unfold filterForCvvLessV2
  split
  · next pmId _ =>
      rw [DeciderState.Narrowing, selection_setGws_setMgas]
      exact narrowing_enumerate (cvvLessV2Mgas_subset pmId)
  · exact (thinning_setGws (List.nil_sublist _)).toNarrowing

theorem thinning_filterForTokenRepeatCvvLess :
    state.Thinning (filterForTokenRepeatCvvLess reads params state) := by
  simp only [filterForTokenRepeatCvvLess]
  split
  · exact thinning_setGws_filter _
  · exact thinning_setGws (List.nil_sublist _)

theorem thinning_filterForCvvLessCards :
    state.Thinning (filterForCvvLessCards reads params state) := by
  simp only [filterForCvvLessCards]
  split
  · exact Thinning.refl
  · exact thinning_setGws_filter _

theorem thinning_filterForCvvLess (other : takesCvvLessV2 reads params state = false) :
    state.Thinning (filterForCvvLess reads params state) := by
  unfold filterForCvvLess
  split
  · next cvvLess =>
      split
      · exact thinning_setGws_filter _
      · next notMoto =>
          split
          · next repeats =>
              split
              · next enabled =>
                  have moto : params.dpTxnCardInfo.authType = some .moto := by
                    simpa [takesCvvLessV2, cvvLess, repeats, enabled] using other
                  simp [moto] at notMoto
              · exact thinning_filterForTokenRepeatCvvLess
          · exact thinning_filterForCvvLessCards
  · exact Thinning.refl

theorem filterForCvvLess_of_takes (takes : takesCvvLessV2 reads params state = true) :
    filterForCvvLess reads params state = filterForCvvLessV2 reads params state := by
  simp only [takesCvvLessV2, Bool.and_eq_true, bne_iff_ne] at takes
  simp [filterForCvvLess, takes]

theorem narrowing_filterForCvvLess : state.Narrowing (filterForCvvLess reads params state) := by
  cases takes : takesCvvLessV2 reads params state with
  | true =>
      rw [filterForCvvLess_of_takes takes]
      exact narrowing_filterForCvvLessV2
  | false => exact (thinning_filterForCvvLess takes).toNarrowing

theorem grouped_filterForCvvLess (coupled : state.Coupled)
    (together : CvvLessListsTogether reads params state)
    (grouped : Grouped state.functionalGateways) :
    Grouped (filterForCvvLess reads params state).functionalGateways := by
  cases takes : takesCvvLessV2 reads params state with
  | true =>
      rw [filterForCvvLess_of_takes takes, filterForCvvLessV2]
      split
      · next pmId isMethod => exact together takes pmId isMethod
      · exact grouped_of_nodup List.nodup_nil
  | false => exact (thinning_filterForCvvLess takes).grouped coupled grouped

theorem thinning_filterForTokenRepeat :
    state.Thinning (filterForTokenRepeat reads params state) := by
  unfold filterForTokenRepeat
  split
  · refine Thinning.trans ?_ (thinning_setGws_filter _)
    simp only [filterForTokenRepeatOtp]
    split
    · exact thinning_setGws_filter _
    · exact Thinning.refl
  · exact Thinning.refl

theorem thinning_filterForTaFile : state.Thinning (filterForTaFile reads params state) := by
  unfold filterForTaFile
  split
  · exact thinning_setGws_filter _
  · exact Thinning.refl

/-- What comes after the first part of the filter. -/
theorem thinning_filterFunctionalGateways (state : DeciderState) :
    (filterForCvvLess reads params (setInternalMetaData reads params state)).Thinning
      (filterFunctionalGateways reads params state) :=
  (thinning_filterForTokenRepeat.trans thinning_filterForTaFile).trans
    (thinning_setGws_filter _)

theorem narrowing_filterFunctionalGateways :
    state.Narrowing (filterFunctionalGateways reads params state) := by
  have first : (setInternalMetaData reads params state).Narrowing
      (filterForCvvLess reads params (setInternalMetaData reads params state)) :=
    narrowing_filterForCvvLess
  exact first.trans (thinning_filterFunctionalGateways state).toNarrowing

theorem grouped_filterFunctionalGateways (coupled : state.Coupled)
    (together : CvvLessListsTogether reads params (setInternalMetaData reads params state))
    (grouped : Grouped state.functionalGateways) :
    Grouped (filterFunctionalGateways reads params state).functionalGateways := by
  have first : (setInternalMetaData reads params state).Narrowing
      (filterForCvvLess reads params (setInternalMetaData reads params state)) :=
    narrowing_filterForCvvLess
  exact (thinning_filterFunctionalGateways state).grouped (first.coupled coupled)
    (grouped_filterForCvvLess coupled together grouped)

end DecisionEngine.GatewayFilter
