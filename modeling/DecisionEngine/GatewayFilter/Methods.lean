import DecisionEngine.GatewayFilter.CardFilters

/-!
# Filters for instalments and offers

Instalments list a gateway for each row of bank support that the table has for it.  The
rules of offers keep the gateways that they name.
-/

namespace DecisionEngine.GatewayFilter

open Scoring Selection

section Instalments

variable (reads : Reads) (params : DeciderParams)

/-! ## Instalments -/

/-- Mandates and reduced costs are for the gateways configured for them. -/
def supportsInstalments (gw : Gateway) : Bool :=
  let disabled := (((reads.configs.gatewaysByText
    "SI_ON_EMI_DISABLED_CARD_BRAND_GATEWAY_MAPPING").getD []).lookup
      ((getCardBrand reads params).getD "")).getD []
  let supportsMandate :=
    (reads.gateways "SI_ON_EMI_CARD_SUPPORTED_GATEWAYS").contains gw && !disabled.contains gw
  let supportsCost := (reads.gateways "NO_OR_LOW_COST_EMI_SUPPORTED_GATEWAYS").contains gw
  (!isMandateTransaction params.dpTxnDetail || supportsMandate) &&
    (!checkNoOrLowCostEmi reads.decoders params.dpTxnCardInfo || supportsCost)

/-- None when the card's number is not eligible for instalments. -/
def instalmentGateways (state : DeciderState) : List Gateway :=
  let gws := state.functionalGateways.filter (supportsInstalments reads params)
  if isCardTransaction params.dpTxnCardInfo && !gws.isEmpty &&
      !checkIfBinIsEligibleForEmi reads params.dpTxnCardInfo.cardIsin
        (getJuspayBankCodeFromInternalMetadata reads.decoders params.dpTxnDetail)
        (params.dpTxnCardInfo.cardType.map cardTypeToText) then []
  else gws

def emiScope (state : DeciderState) : String :=
  let isCard := isCardTransaction params.dpTxnCardInfo
  if isCard && isNetworkTokenRepeatTxn state.internalMetaData then "NETWORK_TOKEN"
  else if isCard && isIssuerTokenRepeatTxn state.internalMetaData then "ISSUER_TOKEN"
  else if isCard && isAltIdBasedTxn state.internalMetaData then "ALT_ID"
  else if params.dpTxnDetail.emiBank.any (isSuffixOf "_CLEMI") then "CARDLESS"
  else "CARD"

/-- With an alternative id, the row's gateway has the feature for the bank. -/
def isAltIdEnabled (scope : String) (rowId : Int) (gateway : Gateway) : Bool :=
  scope != "ALT_ID" || params.dpTxnDetail.emiBank.any fun emiBank =>
    reads.answers.isFeatureEnabledForRow rowId "ALT_ID_ENABLED_GATEWAY_FOR_EMIBANK"
      (gateway ++ "::" ++ emiBank)

def supportsNetwork (row : GatewayBankEmiSupportV2) : Bool :=
  match (row.metadata.bind reads.decoders.supportedNetworks).bind id with
  | some supportedNetworks => supportedNetworks.contains params.dpTxnCardInfo.paymentMethod
  | none => true

variable (gws : List Gateway)

def extractGatewaysV2 (scope : String) : List Gateway :=
  ((getGatewayBankEmiSupportV2 reads params.dpTxnDetail.emiBank gws scope
    params.dpTxnDetail.emiTenure).filter fun row =>
      isAltIdEnabled reads params scope row.id row.gateway &&
        supportsNetwork reads params row).map (·.gateway)

def extractGateways (scope : String) : List Gateway :=
  ((getGatewayBankEmiSupport reads params.dpTxnDetail.emiBank gws scope).filter fun row =>
    isAltIdEnabled reads params scope row.id row.gateway).map (·.gateway)

/-- The gateway of every row of bank support for the instalments. -/
def emiGateways (state : DeciderState) : List Gateway :=
  let gws := instalmentGateways reads params state
  let scope := emiScope params state
  if gws.isEmpty then gws
  else if reads.answers.isFeatureEnabled "IS_GBESV2_ENABLED" then
    extractGatewaysV2 reads params gws scope
  else extractGateways reads params gws scope

def filterGatewaysForEmi (state : DeciderState) : DeciderState :=
  if params.dpTxnDetail.isEmi.getD false then setGws (emiGateways reads params state) state
  else if isCardTransaction params.dpTxnCardInfo then
    setGws (state.functionalGateways.filter fun gw =>
      !(reads.gateways "CARD_EMI_EXPLICIT_GATEWAYS").contains gw) state
  else state

/-! ## Offers -/

def filterByGatewayRule (gwListAcc : List Gateway) (offer : TxnOfferDetail) : List Gateway :=
  match offer.gatewayInfo.bind reads.decoders.gatewayRule with
  | some gatewayRule =>
      if gatewayRule.forceRouting.getD false then
        gwListAcc.filter gatewayRule.gatewayNames.contains
      else gwListAcc
  | none => gwListAcc

def filterGatewaysForTxnOfferDetails (state : DeciderState) : DeciderState :=
  match params.dpTxnOfferDetails with
  | some offers =>
      let filteredGws := offers.foldl (filterByGatewayRule reads) state.functionalGateways
      if state.functionalGateways.length != filteredGws.length then setGws filteredGws state
      else state
  | none => state

/-! ## What they keep -/

variable {reads params} {state : DeciderState}

/-- The rows of bank support for the instalments come gateway by gateway. -/
def EmiListsTogether (reads : Reads) (params : DeciderParams) (state : DeciderState) : Prop :=
  params.dpTxnDetail.isEmi.getD false = true → Grouped (emiGateways reads params state)

theorem instalmentGateways_sublist :
    (instalmentGateways reads params state).Sublist state.functionalGateways := by
  simp only [instalmentGateways]
  split
  · exact List.nil_sublist _
  · exact List.filter_sublist

theorem extractGateways_subset (scope : String) :
    extractGateways reads params gws scope ⊆ gws := by
  intro gw extracted
  rcases List.mem_map.mp extracted with ⟨row, isRow, rfl⟩
  have found := (List.mem_filter.mp isRow).1
  unfold getGatewayBankEmiSupport at found
  split at found
  · cases found
  · simp only at found
    split at found
    · cases found
    · have passes := (Rows.mem_findAll.mp found).2
      simp only [Bool.and_eq_true] at passes
      simpa using passes.1.2

theorem extractGatewaysV2_subset (scope : String) :
    extractGatewaysV2 reads params gws scope ⊆ gws := by
  intro gw extracted
  rcases List.mem_map.mp extracted with ⟨row, isRow, rfl⟩
  have found := (List.mem_filter.mp isRow).1
  unfold getGatewayBankEmiSupportV2 at found
  split at found
  · split at found
    · have passes := (Rows.mem_findAll.mp found).2
      simp only [Bool.and_eq_true] at passes
      simpa using passes.1.1.1.2
    · cases found
  · cases found

theorem emiGateways_subset : emiGateways reads params state ⊆ state.functionalGateways := by
  have instalments : instalmentGateways reads params state ⊆ state.functionalGateways :=
    instalmentGateways_sublist.subset
  simp only [emiGateways]
  split
  · exact instalments
  · split
    · exact List.Subset.trans (extractGatewaysV2_subset _ _) instalments
    · exact List.Subset.trans (extractGateways_subset _ _) instalments

theorem narrowing_filterGatewaysForEmi :
    state.Narrowing (filterGatewaysForEmi reads params state) := by
  unfold filterGatewaysForEmi
  split
  · exact narrowing_relabel emiGateways_subset
  · split
    · exact (thinning_setGws_filter _).toNarrowing
    · exact Narrowing.refl

theorem grouped_filterGatewaysForEmi (together : EmiListsTogether reads params state)
    (grouped : Grouped state.functionalGateways) :
    Grouped (filterGatewaysForEmi reads params state).functionalGateways := by
  unfold filterGatewaysForEmi
  split
  · next isEmi => exact together isEmi
  · split
    · exact grouped.sublist List.filter_sublist
    · exact grouped

theorem filterByGatewayRule_sublist (offer : TxnOfferDetail) :
    (filterByGatewayRule reads gws offer).Sublist gws := by
  unfold filterByGatewayRule
  split
  · split
    · exact List.filter_sublist
    · exact List.Sublist.refl gws
  · exact List.Sublist.refl gws

theorem foldl_filterByGatewayRule_sublist (offers : List TxnOfferDetail) (gws : List Gateway) :
    (offers.foldl (filterByGatewayRule reads) gws).Sublist gws := by
  induction offers generalizing gws with
  | nil => exact List.Sublist.refl gws
  | cons offer rest ih => exact (ih _).trans (filterByGatewayRule_sublist gws offer)

theorem thinning_filterGatewaysForTxnOfferDetails :
    state.Thinning (filterGatewaysForTxnOfferDetails reads params state) := by
  unfold filterGatewaysForTxnOfferDetails
  split
  · simp only
    split
    · exact thinning_setGws (foldl_filterByGatewayRule_sublist _ _)
    · exact Thinning.refl
  · exact Thinning.refl

end Instalments

/-! ## Filters for payment methods

The accounts that accept the payment method, which are read from the table again when the
metadata asks for all accounts, and the gateways configured for a kind of payment only, or
also for it.
-/

section Methods

variable (reads : Reads) (params : DeciderParams)

/-! ## Payment method -/

/-- The new integration is for the accounts that have it, of the listed gateways. -/
def supportsV2Integration (mga : MerchantGatewayAccount) : Bool :=
  let value := ((isPaymentFlowEnabledInMga mga "V2_INTEGRATION").map fun enabled =>
    if enabled then "true" else "0") <|>
      getValue reads.decoders Json.Value.asString "shouldUseV2Integration" mga.accountDetails
  !(reads.gateways "V2_INTEGRATION_NOT_SUPPORTED_GATEWAYS").contains mga.gateway ||
    value == some "true" || value == some "1"

def supportsUpiIntent (mga : MerchantGatewayAccount) : Bool :=
  !(reads.gateways "UPI_INTENT_NOT_SUPPORTED_GATEWAYS").contains mga.gateway ||
    getValue reads.decoders Json.Value.asString "isUpiIntentEnabled" mga.accountDetails ==
      some "true"

def filterGatewaysForUpiPayBasedOnSupportedFlow (mgas : List MerchantGatewayAccount) :
    List MerchantGatewayAccount :=
  (mgas.filter (supportsV2Integration reads)).filter (supportsUpiIntent reads)

def getPaymentMethodForNonCardTransaction : String :=
  if ["CONSUMER_FINANCE", "UPI", "REWARD", "CASH"].contains
      params.dpTxnCardInfo.paymentMethodType then params.dpTxnCardInfo.paymentMethod
  else params.dpTxnCardInfo.cardIssuerBankName.getD ""

variable (eligibleMgas : List MerchantGatewayAccount)

def getGatewaysAcceptingPaymentMethod (gateways : List Gateway) (paymentMethod : String) :
    List MerchantGatewayAccount :=
  eligibleMgas.filter fun mga =>
    canAcceptPaymentMethod reads.decoders mga paymentMethod && gateways.contains mga.gateway

/-- The filter is for payments other than those with a bank account. -/
def skipsPaymentMethod (state : DeciderState) : Bool :=
  state.functionalGateways.isEmpty || isEmandateTransaction params.dpTxnDetail ||
    isTpvTransaction params.dpTxnDetail || isEmandatePaymentTransaction params.dpTxnDetail

def cardPaymentMethod : Option String :=
  if params.dpTxnCardInfo.paymentMethod == "" then getCardBrand reads params
  else some params.dpTxnCardInfo.paymentMethod

/-- A payment by an app for which some of the gateways have no new integration. -/
def checksUpiPay (st : List Gateway) : Bool :=
  let pm := getPaymentMethodForNonCardTransaction params
  (pm == "UPI_PAY" || pm == "UPI_QR") && !st.isEmpty &&
    (reads.gateways "V2_INTEGRATION_NOT_SUPPORTED_GATEWAYS").any st.contains

/-- The accounts for a payment without a card.  The gateways to test against are those of the
accounts once the flows are checked. -/
def nonCardMgas (st : List Gateway) :
    List MerchantGatewayAccount :=
  let pm := getPaymentMethodForNonCardTransaction params
  if checksUpiPay reads params st then
    let updMgas := filterGatewaysForUpiPayBasedOnSupportedFlow reads eligibleMgas
    getGatewaysAcceptingPaymentMethod reads updMgas (updMgas.map (·.gateway)) pm
  else getGatewaysAcceptingPaymentMethod reads eligibleMgas st pm

/-- The accounts that accept the payment method, or none of them when there is no method. -/
def acceptingMgas (st : List Gateway) :
    Option (List MerchantGatewayAccount) :=
  if isCardTransaction params.dpTxnCardInfo then
    (cardPaymentMethod reads params).map (getGatewaysAcceptingPaymentMethod reads eligibleMgas st)
  else some (nonCardMgas reads params eligibleMgas st)

def filterGatewaysForPaymentMethod (state : DeciderState) : DeciderState :=
  let st := state.functionalGateways
  let (mgas, state) := loadMgas reads params state
  let eligibleMgas := mgas.filter fun mga => st.contains mga.gateway
  if skipsPaymentMethod params state then state
  else
    match acceptingMgas reads params eligibleMgas st with
    | some remMgas => setGwsAndMgas remMgas state
    | none => state

/-! ## Gateways of a kind of payment -/

def filterGatewaysForTokenProvider (state : DeciderState) : DeciderState :=
  match params.dpVaultProvider with
  | none => state
  | some .juspay => state
  | some vault =>
      let mapping := (reads.configs.gatewayOfVaults "TOKEN_PROVIDER_GATEWAY_MAPPING").getD []
      setGws (state.functionalGateways.filter fun gateway =>
        mapping.any fun entry => entry.1 == vault && entry.2 == gateway) state

/-- For a payment of the kind, the gateways of the kind; for another, those not only of it. -/
def filterForKind (isKind : Bool) (only also : List Gateway) (state : DeciderState) :
    DeciderState :=
  setGws (state.functionalGateways.filter fun gw =>
    if isKind then only.contains gw || also.contains gw else !only.contains gw) state

def filterGatewaysForWallet (state : DeciderState) : DeciderState :=
  let upiOnly := if isGooglePayTxn params.dpTxnCardInfo then
    reads.gateways "UPI_ONLY_GATEWAYS" else []
  filterForKind (params.dpTxnCardInfo.cardType == some .wallet)
    (reads.gateways "WALLET_ONLY_GATEWAYS") (reads.gateways "WALLET_ALSO_GATEWAYS" ++ upiOnly)
    state

def filterGatewaysForNbOnly (state : DeciderState) : DeciderState :=
  if params.dpTxnCardInfo.cardType != some .nb then
    filterForKind false (reads.gateways "NB_ONLY_GATEWAYS") [] state
  else state

def filterGatewaysForConsumerFinance (state : DeciderState) : DeciderState :=
  filterForKind (params.dpTxnCardInfo.paymentMethodType == "CONSUMER_FINANCE")
    (reads.gateways "CONSUMER_FINANCE_ONLY_GATEWAYS")
    (reads.gateways "CONSUMER_FINANCE_ALSO_GATEWAYS") state

/-- A payment by another app that may be such a payment keeps all gateways. -/
def filterGatewaysForUpi (state : DeciderState) : DeciderState :=
  if params.dpTxnCardInfo.paymentMethodType == "UPI" ||
      !isGooglePayTxn params.dpTxnCardInfo then
    filterForKind (params.dpTxnCardInfo.paymentMethodType == "UPI")
      (reads.gateways "UPI_ONLY_GATEWAYS") (reads.gateways "UPI_ALSO_GATEWAYS") state
  else state

def filterGatewaysForReward (state : DeciderState) : DeciderState :=
  filterForKind (params.dpTxnCardInfo.cardType == some .reward ||
      params.dpTxnCardInfo.paymentMethodType == "REWARD")
    (reads.gateways "REWARD_ONLY_GATEWAYS") (reads.gateways "REWARD_ALSO_GATEWAYS") state

def filterGatewaysForCash (state : DeciderState) : DeciderState :=
  if params.dpTxnCardInfo.paymentMethodType != "CASH" then
    filterForKind false (reads.gateways "CASH_ONLY_GATEWAYS") [] state
  else state

/-! ## Types of transactions -/

def isUpiTransaction : Bool :=
  params.dpTxnCardInfo.paymentMethodType == "UPI" && params.dpTxnCardInfo.paymentMethod == "UPI"

variable (txnType : String)

def currMgas (state : DeciderState) : List MerchantGatewayAccount :=
  if isUpiTransaction params then
    state.accounts.filter fun mga => state.functionalGateways.contains mga.gateway &&
      isTxnTypeEnabled reads.decoders mga.supportedTxnType "UPI" txnType
  else state.accounts

variable (st : List Gateway)

def upiPayMgas (mgas : List MerchantGatewayAccount) :
    List MerchantGatewayAccount :=
  let combined := reads.gateways "V2_INTEGRATION_NOT_SUPPORTED_GATEWAYS" ++
    reads.gateways "UPI_INTENT_NOT_SUPPORTED_GATEWAYS"
  if (txnType == "UPI_PAY" || txnType == "UPI_QR") && !(intersect st combined).isEmpty then
    filterGatewaysForUpiPayBasedOnSupportedFlow reads mgas
  else mgas

def txnTypeMgas (state : DeciderState) : List MerchantGatewayAccount :=
  let mgas := currMgas reads params txnType state
  let st := if isUpiTransaction params then mgas.map (·.gateway) else state.functionalGateways
  let supported := (((reads.configs.gatewaysByText "TXN_TYPE_GATEWAY_MAPPING").getD []).lookup
    txnType).getD []
  (upiPayMgas reads txnType st mgas).filter fun mga => supported.contains mga.gateway

def filterGatewaysForTxnType (state : DeciderState) : DeciderState :=
  match getTrueString params.dpTxnType with
  | none => state
  | some txnType => setGwsAndMgas (txnTypeMgas reads params txnType state) state

def filterGatewaysForTxnDetailType (state : DeciderState) : DeciderState :=
  let txnType := params.dpTxnDetail.txnType.getD ""
  let restricted :=
    (reads.configs.gatewaysOfTexts "TXN_DETAIL_TYPE_RESTRICTED_GATEWAYS").getD []
  let supported := (restricted.lookup txnType).getD []
  setGws (state.functionalGateways.filter fun gw =>
    txnType != "ZERO_AUTH" || supported.contains gw) state

/-! ## What they keep -/

variable {reads params} {state : DeciderState}

variable (mgas : List MerchantGatewayAccount)

theorem upiPay_subset :
    filterGatewaysForUpiPayBasedOnSupportedFlow reads mgas ⊆ mgas :=
  List.Subset.trans (List.filter_subset_self _) (List.filter_subset_self _)

theorem nonCardMgas_subset :
    nonCardMgas reads params eligibleMgas st ⊆ eligibleMgas := by
  simp only [nonCardMgas]
  split
  · exact List.Subset.trans (List.filter_subset_self _) (upiPay_subset _)
  · exact List.filter_subset_self _

theorem acceptingMgas_subset {eligibleMgas mgas : List MerchantGatewayAccount}
    {st : List Gateway} (accepting : acceptingMgas reads params eligibleMgas st = some mgas) :
    mgas ⊆ eligibleMgas := by
  unfold acceptingMgas at accepting
  split at accepting
  · rcases Option.map_eq_some_iff.mp accepting with ⟨paymentMethod, _, rfl⟩
    exact List.filter_subset_self _
  · rw [← Option.some.inj accepting]
    exact nonCardMgas_subset _ _

/-- The account accepts the method of the payment, and the flow of a payment by an app. -/
def acceptsPaymentMethod (reads : Reads) (params : DeciderParams) (st : List Gateway)
    (mga : MerchantGatewayAccount) : Bool :=
  if isCardTransaction params.dpTxnCardInfo then
    (cardPaymentMethod reads params).any (canAcceptPaymentMethod reads.decoders mga)
  else canAcceptPaymentMethod reads.decoders mga (getPaymentMethodForNonCardTransaction params) &&
    (!checksUpiPay reads params st || (supportsV2Integration reads mga &&
      supportsUpiIntent reads mga))

theorem mem_nonCardMgas {eligibleMgas : List MerchantGatewayAccount} {st : List Gateway}
    (eligible : ∀ mga ∈ eligibleMgas, mga.gateway ∈ st) {mga : MerchantGatewayAccount} :
    mga ∈ nonCardMgas reads params eligibleMgas st ↔ mga ∈ eligibleMgas ∧
      canAcceptPaymentMethod reads.decoders mga (getPaymentMethodForNonCardTransaction params) =
        true ∧ (checksUpiPay reads params st = true →
          supportsV2Integration reads mga = true ∧ supportsUpiIntent reads mga = true) := by
  cases checks : checksUpiPay reads params st with
  | true =>
      simp only [nonCardMgas, checks, if_true, getGatewaysAcceptingPaymentMethod,
        List.mem_filter, Bool.and_eq_true, List.contains_iff_mem, forall_const]
      constructor
      · rintro ⟨isUpd, accepts, -⟩
        rcases List.mem_filter.mp isUpd with ⟨isIntegrated, intent⟩
        rcases List.mem_filter.mp isIntegrated with ⟨isEligible, integrated⟩
        exact ⟨isEligible, accepts, integrated, intent⟩
      · rintro ⟨isEligible, accepts, integrated, intent⟩
        have isUpd : mga ∈ filterGatewaysForUpiPayBasedOnSupportedFlow reads eligibleMgas :=
          List.mem_filter.mpr ⟨List.mem_filter.mpr ⟨isEligible, integrated⟩, intent⟩
        exact ⟨isUpd, accepts, List.mem_map_of_mem isUpd⟩
  | false =>
      simp only [nonCardMgas, checks, getGatewaysAcceptingPaymentMethod, List.mem_filter,
        Bool.and_eq_true, List.contains_iff_mem, Bool.false_eq_true, if_false, false_implies,
        and_true]
      constructor
      · rintro ⟨isEligible, accepts, -⟩
        exact ⟨isEligible, accepts⟩
      · rintro ⟨isEligible, accepts⟩
        exact ⟨isEligible, accepts, eligible mga isEligible⟩

/-- What is kept of eligible accounts are those that accept the payment. -/
theorem mem_acceptingMgas {eligibleMgas mgas : List MerchantGatewayAccount} {st : List Gateway}
    (eligible : ∀ mga ∈ eligibleMgas, mga.gateway ∈ st)
    (accepting : acceptingMgas reads params eligibleMgas st = some mgas)
    {mga : MerchantGatewayAccount} :
    mga ∈ mgas ↔ mga ∈ eligibleMgas ∧ acceptsPaymentMethod reads params st mga = true := by
  unfold acceptingMgas at accepting
  unfold acceptsPaymentMethod
  split at accepting
  · next isCard =>
      rcases Option.map_eq_some_iff.mp accepting with ⟨paymentMethod, isMethod, rfl⟩
      simp only [isCard, if_true, isMethod, Option.any_some, getGatewaysAcceptingPaymentMethod,
        List.mem_filter, Bool.and_eq_true, List.contains_iff_mem]
      constructor
      · rintro ⟨isEligible, accepts, -⟩
        exact ⟨isEligible, accepts⟩
      · rintro ⟨isEligible, accepts⟩
        exact ⟨isEligible, accepts, eligible mga isEligible⟩
  · next noCard =>
      rw [← Option.some.inj accepting, mem_nonCardMgas eligible, if_neg noCard]
      cases checks : checksUpiPay reads params st with
      | true => simp
      | false => simp

/-- The payment has a method to accept, which a card may lack. -/
def hasPaymentMethod (reads : Reads) (params : DeciderParams) : Bool :=
  !isCardTransaction params.dpTxnCardInfo || (cardPaymentMethod reads params).isSome

theorem acceptingMgas_eq_none_iff {eligibleMgas : List MerchantGatewayAccount}
    {st : List Gateway} : acceptingMgas reads params eligibleMgas st = none ↔
      hasPaymentMethod reads params = false := by
  unfold acceptingMgas hasPaymentMethod
  split
  · next isCard => simp [isCard]
  · next noCard => simp [noCard]

theorem acceptsPaymentMethod_of_not_has (noMethod : hasPaymentMethod reads params = false)
    (st : List Gateway) (mga : MerchantGatewayAccount) :
    acceptsPaymentMethod reads params st mga = false := by
  simp only [hasPaymentMethod, Bool.or_eq_false_iff, Bool.not_eq_false',
    Option.isSome_eq_false_iff, Option.isNone_iff_eq_none] at noMethod
  simp [acceptsPaymentMethod, noMethod]

/-- The filter reads the accounts that the metadata asks for, or those in the state. -/
theorem loadMgas_of_coupled (coupled : state.Coupled)
    (single : isEnabledForAllMgas reads.decoders params = false) :
    loadMgas reads params state = (state.accounts, state) := by
  rw [loadMgas, single, if_neg Bool.false_ne_true]
  exact getEnabledMgas_of_coupled reads params coupled

theorem thinning_filterGatewaysForPaymentMethod
    (single : isEnabledForAllMgas reads.decoders params = false) :
    state.Thinning (filterGatewaysForPaymentMethod reads params state) := by
  refine Thinning.of_coupled fun coupled => ?_
  simp only [filterGatewaysForPaymentMethod, loadMgas_of_coupled coupled single]
  split
  · exact Thinning.refl
  · split
    · next mgas accepting =>
        exact thinning_setGwsAndMgas
          (List.Subset.trans (acceptingMgas_subset accepting) (List.filter_subset_self _))
    · exact Thinning.refl

/-- With all accounts asked for, the filter changes nothing, or sets those of all accounts of
the merchant that are of the functional gateways and accept the payment. -/
theorem filterGatewaysForPaymentMethod_of_all (state : DeciderState)
    (all : isEnabledForAllMgas reads.decoders params = true) :
    (filterGatewaysForPaymentMethod reads params state = state ∧
      (skipsPaymentMethod params state = true ∨ hasPaymentMethod reads params = false)) ∨
    (skipsPaymentMethod params state = false ∧ ∃ mgas,
      filterGatewaysForPaymentMethod reads params state = setGwsAndMgas mgas state ∧
        ∀ mga, mga ∈ mgas ↔ mga ∈ allMgas reads params ∧ mga.gateway ∈ state.functionalGateways ∧
          acceptsPaymentMethod reads params state.functionalGateways mga = true) := by
  have loaded : loadMgas reads params state = (allMgas reads params, state) := by
    rw [loadMgas, if_pos all]
  simp only [filterGatewaysForPaymentMethod, loaded]
  cases skips : skipsPaymentMethod params state with
  | true => exact Or.inl ⟨rfl, Or.inl rfl⟩
  | false =>
      rw [if_neg Bool.false_ne_true]
      cases accepting : acceptingMgas reads params
          ((allMgas reads params).filter fun mga => state.functionalGateways.contains mga.gateway)
          state.functionalGateways with
      | none => exact Or.inl ⟨rfl, Or.inr (acceptingMgas_eq_none_iff.mp accepting)⟩
      | some mgas =>
          refine Or.inr ⟨rfl, mgas, rfl, fun mga => ?_⟩
          have eligible : ∀ mga ∈ (allMgas reads params).filter fun mga =>
              state.functionalGateways.contains mga.gateway,
              mga.gateway ∈ state.functionalGateways := by
            intro mga isEligible
            simpa using (List.mem_filter.mp isEligible).2
          rw [mem_acceptingMgas eligible accepting, List.mem_filter, List.contains_iff_mem,
            and_assoc]

theorem thinning_filterGatewaysForTokenProvider :
    state.Thinning (filterGatewaysForTokenProvider reads params state) := by
  unfold filterGatewaysForTokenProvider
  split
  · exact Thinning.refl
  · exact Thinning.refl
  · exact thinning_setGws_filter _

theorem thinning_filterForKind (isKind : Bool) (only also : List Gateway) :
    state.Thinning (filterForKind isKind only also state) :=
  thinning_setGws_filter _

theorem thinning_filterGatewaysForNbOnly :
    state.Thinning (filterGatewaysForNbOnly reads params state) := by
  unfold filterGatewaysForNbOnly
  split
  · exact thinning_filterForKind _ _ _
  · exact Thinning.refl

theorem thinning_filterGatewaysForUpi :
    state.Thinning (filterGatewaysForUpi reads params state) := by
  unfold filterGatewaysForUpi
  split
  · exact thinning_filterForKind _ _ _
  · exact Thinning.refl

theorem thinning_filterGatewaysForCash :
    state.Thinning (filterGatewaysForCash reads params state) := by
  unfold filterGatewaysForCash
  split
  · exact thinning_filterForKind _ _ _
  · exact Thinning.refl

theorem currMgas_subset :
    currMgas reads params txnType state ⊆ state.accounts := by
  unfold currMgas
  split
  · exact List.filter_subset_self _
  · exact List.Subset.refl _

theorem upiPayMgas_subset : upiPayMgas reads txnType st mgas ⊆ mgas := by
  simp only [upiPayMgas]
  split
  · exact upiPay_subset mgas
  · exact List.Subset.refl mgas

theorem txnTypeMgas_subset :
    txnTypeMgas reads params txnType state ⊆ state.accounts :=
  List.Subset.trans (List.filter_subset_self _)
    (List.Subset.trans (upiPayMgas_subset _ _ _) (currMgas_subset txnType))

theorem thinning_filterGatewaysForTxnType :
    state.Thinning (filterGatewaysForTxnType reads params state) := by
  unfold filterGatewaysForTxnType
  split
  · exact Thinning.refl
  · exact thinning_setGwsAndMgas (txnTypeMgas_subset _)

end Methods

end DecisionEngine.GatewayFilter
