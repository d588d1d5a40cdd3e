import DecisionEngine.GatewayFilter.Functional

/-!
# Card information

The card information of gateways decides which of them can authenticate a card in a given
way, or validate a card mandate.  A gateway has as many rows as it has kinds of cards.
-/

namespace DecisionEngine.GatewayFilter

open Scoring Selection

section CardInfo

variable (reads : Reads)

/-- The gateways for which card mandates are checked merchant by merchant. -/
def getMerchantWiseMandateBinEligibleGateways (mandateEnabledGateways : List Gateway) :
    List Gateway :=
  ((reads.gateways "MERCHANT_WISE_MANDATE_BIN_ENFORCED_GATEWAYS").filter
    mandateEnabledGateways.contains).filter fun gw =>
      reads.answers.hasFeature ("MERCHANT_WISE_SI_BINS_" ++ gw)

def getMerchantGatewayCardInfoFeatureName (authType : Option AuthType)
    (validationType : Option ValidationType) (gw : Gateway) : Option String :=
  let flow := validationType.map (·.toText) <|> authType.map authTypeToText
  flow.map fun text => "MERCHANT_GATEWAY_CARD_INFO_" ++ text ++ "_" ++ gw

def isMerchantWiseAuthTypeCheckNeeded (authType : Option AuthType)
    (validationType : Option ValidationType) (gw : Gateway) : Bool :=
  (reads.gateways "MERCHANT_WISE_AUTH_TYPE_BIN_ENFORCED_GATEWAYS").contains gw &&
    (getMerchantGatewayCardInfoFeatureName authType validationType gw).any
      reads.answers.hasFeature

/-- Card mandates of the authentication type, which is three-domain secure by default. -/
def isCardMandateInfo (mAuthType : Option AuthType) (ci : GatewayCardInfo) : Bool :=
  ci.validationType == some .cardMandate &&
    ci.authType.getD "THREE_DS" == authTypeToText (mAuthType.getD .threeDs)

def cardMandateInfos (merchantAccount : MerchantAccount) (cardBins : List String)
    (enabledGateways : List Gateway) (mAuthType : Option AuthType) :
    Except ErrorResponse (List GatewayCardInfo) := do
  let merchantWise := getMerchantWiseMandateBinEligibleGateways reads enabledGateways
  let supportedGci ← getSupportedGatewayCardInfoForBins reads merchantAccount cardBins
  let merchantWiseInfos := supportedGci.filter fun ci =>
    ci.gateway.any merchantWise.contains && isCardMandateInfo mAuthType ci
  let filteredGateways := enabledGateways.filter fun gw => !merchantWise.contains gw
  let eligible := (getEnabledGatewayCardInfoForGateways reads cardBins filteredGateways).filter
    (isCardMandateInfo mAuthType)
  return eligible ++ merchantWiseInfos

/-- Card information of the enabled gateways, of those to check merchant by merchant only
what is enabled for the merchant. -/
def checkedCardInfos (merchantAccount : MerchantAccount) (cardBins : List String)
    (enabledGateways : List Gateway) (mAuthType : Option AuthType)
    (mValidationType : Option ValidationType) : List GatewayCardInfo :=
  let checkNeeded := isMerchantWiseAuthTypeCheckNeeded reads mAuthType mValidationType
  let merchantValidationRequiredGws := enabledGateways.filter checkNeeded
  let gciValidationGws := enabledGateways.filter fun gw => !checkNeeded gw
  let gcis := getEnabledGatewayCardInfoForGateways reads cardBins enabledGateways
  let withoutMerchantValidation := gcis.filter fun gci =>
    gciValidationGws.contains (gci.gateway.getD "none") &&
      !merchantValidationRequiredGws.contains (gci.gateway.getD "none")
  let withMerchantValidation := gcis.filter fun gci =>
    merchantValidationRequiredGws.contains (gci.gateway.getD "none")
  let mgcisEnabled := findAllMgcisByMaccAndGciPId reads merchantAccount
    (withMerchantValidation.map (·.id))
  let enabledGciIds := (mgcisEnabled.filter (!·.disabled)).map (·.gatewayCardInfoId)
  let afterMerchantValidation := gcis.filter fun gci => enabledGciIds.contains gci.id
  let eligible := withoutMerchantValidation ++ afterMerchantValidation
  match mValidationType with
  | some vType => eligible.filter fun ci => ci.validationType.map (·.toText) == some vType.toText
  | none => eligible.filter fun ci => ci.authType == mAuthType.map authTypeToText

def filterGatewaysCardInfo (merchantAccount : MerchantAccount) (cardBins : List String)
    (enabledGateways : List Gateway) (mAuthType : Option AuthType)
    (mValidationType : Option ValidationType) : Except ErrorResponse (List GatewayCardInfo) :=
  if !enabledGateways.isEmpty && (mAuthType.isSome || mValidationType.isSome) then
    if mValidationType == some .cardMandate then
      cardMandateInfos reads merchantAccount cardBins enabledGateways mAuthType
    else
      .ok (checkedCardInfos reads merchantAccount cardBins enabledGateways mAuthType
        mValidationType)
  else .ok []

/-! ## The gateways of card information -/

def gatewaysOf (infos : List GatewayCardInfo) : List Gateway :=
  infos.filterMap (·.gateway)

variable {reads} {merchantAccount : MerchantAccount} {cardBins : List String}
  {enabledGateways : List Gateway} {mAuthType : Option AuthType}
  {mValidationType : Option ValidationType} {infos : List GatewayCardInfo}

theorem gatewaysOf_subset_iff {gateways : List Gateway} : gatewaysOf infos ⊆ gateways ↔
    ∀ info ∈ infos, ∀ gateway, info.gateway = some gateway → gateway ∈ gateways := by
  simp only [gatewaysOf, List.subset_def, List.mem_filterMap]
  constructor
  · intro within info isInfo gateway isGateway
    exact within ⟨info, isInfo, isGateway⟩
  · rintro within gateway ⟨info, isInfo, isGateway⟩
    exact within info isInfo gateway isGateway

theorem gatewaysOf_subset_of_subset {infos' : List GatewayCardInfo} {gateways : List Gateway}
    (fewer : infos' ⊆ infos) (within : gatewaysOf infos ⊆ gateways) :
    gatewaysOf infos' ⊆ gateways := by
  rw [gatewaysOf_subset_iff] at within ⊢
  intro info isInfo
  exact within info (fewer isInfo)

theorem tryFrom_gateway {row : DBGatewayCardInfo} {info : GatewayCardInfo}
    (parses : GatewayCardInfo.tryFrom row = some info) : info.gateway = row.gateway := by
  rcases Option.map_eq_some_iff.mp parses with ⟨_, _, rfl⟩
  rfl

theorem gatewaysOf_getEnabled (gateways : List Gateway) :
    gatewaysOf (getEnabledGatewayCardInfoForGateways reads cardBins gateways) ⊆ gateways := by
  rw [gatewaysOf_subset_iff]
  intro info isInfo gateway isGateway
  rcases List.mem_filterMap.mp isInfo with ⟨row, isRow, parses⟩
  have passes := (Rows.mem_findAll.mp isRow).2
  rw [tryFrom_gateway parses] at isGateway
  simp only [isGateway, Option.any_some, Bool.and_eq_true] at passes
  simpa using passes.1.2

theorem merchantWise_subset : getMerchantWiseMandateBinEligibleGateways reads enabledGateways ⊆
    enabledGateways := by
  intro gw isMerchantWise
  have enforced := (List.mem_filter.mp isMerchantWise).1
  simpa using (List.mem_filter.mp enforced).2

theorem gatewaysOf_cardMandateInfos (found : cardMandateInfos reads merchantAccount cardBins
    enabledGateways mAuthType = .ok infos) : gatewaysOf infos ⊆ enabledGateways := by
  unfold cardMandateInfos at found
  cases supported : getSupportedGatewayCardInfoForBins reads merchantAccount cardBins with
  | error failure =>
      rw [supported] at found
      cases found
  | ok supportedGci =>
      rw [supported] at found
      cases found
      rw [gatewaysOf_subset_iff]
      intro info isInfo gateway isGateway
      rcases List.mem_append.mp isInfo with eligible | merchantWise
      · have filtered := gatewaysOf_subset_iff.mp (gatewaysOf_getEnabled _) info
          (List.mem_filter.mp eligible).1 gateway isGateway
        exact (List.mem_filter.mp filtered).1
      · have passes := (List.mem_filter.mp merchantWise).2
        simp only [isGateway, Option.any_some, Bool.and_eq_true] at passes
        exact merchantWise_subset (by simpa using passes.1)

theorem gatewaysOf_checkedCardInfos : gatewaysOf (checkedCardInfos reads merchantAccount cardBins
    enabledGateways mAuthType mValidationType) ⊆ enabledGateways := by
  have enabled : gatewaysOf (getEnabledGatewayCardInfoForGateways reads cardBins
      enabledGateways) ⊆ enabledGateways := gatewaysOf_getEnabled _
  refine gatewaysOf_subset_of_subset ?_ enabled
  simp only [checkedCardInfos]
  split
  · exact List.Subset.trans (List.filter_subset_self _)
      (List.append_subset.mpr ⟨List.filter_subset_self _, List.filter_subset_self _⟩)
  · exact List.Subset.trans (List.filter_subset_self _)
      (List.append_subset.mpr ⟨List.filter_subset_self _, List.filter_subset_self _⟩)

/-- Card information found is of the gateways asked for. -/
theorem gatewaysOf_filterGatewaysCardInfo (found : filterGatewaysCardInfo reads merchantAccount
    cardBins enabledGateways mAuthType mValidationType = .ok infos) :
    gatewaysOf infos ⊆ enabledGateways := by
  unfold filterGatewaysCardInfo at found
  split at found
  · split at found
    · exact gatewaysOf_cardMandateInfos found
    · cases found
      exact gatewaysOf_checkedCardInfos
  · cases found
    exact List.nil_subset _

end CardInfo

/-! ## Filters for cards

The filters for the brand of a card, for its authentication and for its validation.  The
authentication lists a gateway for each row of its card information.  The validation of a
bank account reads the accounts of the merchant from the table again.
-/

section CardFilters

variable (reads : Reads) (params : DeciderParams)

/-! ## Brand -/

def isGatewayForBrand (cardBrand : Option String) (gw : Gateway) : Bool :=
  let sodexoOnly := reads.gateways "SODEXO_ONLY_GATEWAYS"
  let amexNotSupported := reads.gateways "AMEX_NOT_SUPPORTED_GATEWAYS"
  match cardBrand with
  | some "AMEX" => (reads.gateways "AMEX_SUPPORTED_GATEWAYS").contains gw
  | some "SODEXO" =>
      sodexoOnly.contains gw || (reads.gateways "SODEXO_ALSO_GATEWAYS").contains gw
  | some _ => !amexNotSupported.contains gw && !sodexoOnly.contains gw
  | none => !amexNotSupported.contains gw

def filterGatewaysForBrand (state : DeciderState) : DeciderState :=
  setGws (state.functionalGateways.filter
    (isGatewayForBrand reads (getCardBrand reads params))) state

/-! ## Authentication -/

def keepFunctionalMgas (passes : MerchantGatewayAccount → Bool) (state : DeciderState) :
    DeciderState :=
  setGwsAndMgas (state.accounts.filter fun mga =>
    passes mga && state.functionalGateways.contains mga.gateway) state

/-- The accounts that authenticate as the card is to be.  An authentication type is one only,
so at most one of the four filters of the source applies. -/
def filterMgasForAuthType (state : DeciderState) : DeciderState :=
  match params.dpTxnCardInfo.authType with
  | some .otp => keepFunctionalMgas (fun mga =>
      checkIfEnabledInMga reads.decoders mga "CARD_DOTP" "cardDirectOtpEnabled") state
  | some .moto => keepFunctionalMgas (fun mga =>
      checkIfEnabledInMga reads.decoders mga "CARD_MOTO" "cardMotoEnabled") state
  | some .noThreeDs => keepFunctionalMgas (fun mga =>
      checkIfNoDsEnabledInMga reads.decoders mga "CARD_NO_3DS" "cardNo3DsEnabled") state
  | some .vies => keepFunctionalMgas (isViesEnabled reads.decoders) state
  | _ => state

def isGatewayCardInfoCheckNeeded (gateway : Gateway) : Bool :=
  let authType := params.dpTxnCardInfo.authType
  authType == some .atmpin &&
      (reads.gateways "ATM_PIN_CARD_INFO_RESTRICTED_GATEWAYS").contains gateway ||
    authType == some .otp &&
      (reads.gateways "OTP_CARD_INFO_SUPPORTED_GATEWAYS").contains gateway ||
    authType == some .moto &&
      (reads.gateways "MOTO_CARD_INFO_SUPPORTED_GATEWAYS").contains gateway

def isAuthTypeSupportedGateway (gateway : Gateway) : Bool :=
  let authType := params.dpTxnCardInfo.authType
  -- collected into a map, the last pair of one authentication type counts
  let restricted :=
    ((reads.configs.gatewaysOfAuthTypes "AUTH_TYPE_RESTRICTED_GATEWAYS").getD []).reverse
  match authType.bind fun type => restricted.lookup type with
  | some gws => gws.contains gateway
  | none =>
      authType == some .vies ||
        (!(authType.any fun type => type != .atmpin &&
            (reads.gateways "ATM_PIN_CARD_INFO_RESTRICTED_GATEWAYS").contains gateway) &&
          !(authType.any fun type => type != .otp &&
            (reads.gateways "OTP_CARD_INFO_RESTRICTED_GATEWAYS").contains gateway))

/-- The card information for the gateways that need a check of it. -/
def authTypeCardInfos (cardIsin : String) (state : DeciderState) :
    Except ErrorResponse (List GatewayCardInfo) :=
  filterGatewaysCardInfo reads params.dpMerchantAccount (getBinList (some cardIsin))
    (state.functionalGateways.filter (isGatewayCardInfoCheckNeeded reads params))
    params.dpTxnCardInfo.authType none

def authTypeSupportedGws (state : DeciderState) : List Gateway :=
  (state.functionalGateways.filter fun gw =>
    !isGatewayCardInfoCheckNeeded reads params gw).filter
      (isAuthTypeSupportedGateway reads params)

def filterGatewaysForAuthType (state : DeciderState) : Except ErrorResponse DeciderState :=
  match params.dpTxnCardInfo.cardIsin with
  | none => .ok state
  | some cardIsin =>
      let state := filterMgasForAuthType reads params state
      if reads.answers.hasFeature "DISABLE_DECIDER_BIN_ELIGIBILITY_CHECK" then .ok state
      else do
        let infos ← authTypeCardInfos reads params cardIsin state
        return setGws (gatewaysOf infos ++ authTypeSupportedGws reads params state) state

/-! ## Card mandates -/

/-- The gateways on the list, or all of them when the list is missing or has none of them. -/
def narrowUnlessEmpty (supported : Option (List Gateway)) (gws : List Gateway) : List Gateway :=
  let narrowed := match supported with
    | some supported => gws.filter supported.contains
    | none => gws
  if narrowed.isEmpty then gws else narrowed

def cardMandateExcluded (state : DeciderState) : List Gateway :=
  intersect (reads.gateways "CARD_MANDATE_BIN_FILTER_EXCLUDED_GATEWAYS")
    state.functionalGateways

def cardMandateCardInfos (state : DeciderState) : Except ErrorResponse (List GatewayCardInfo) :=
  filterGatewaysCardInfo reads params.dpMerchantAccount
    (getBinList params.dpTxnCardInfo.cardIsin) state.functionalGateways none (some .cardMandate)

def filterForMandateTokenRepeat (state : DeciderState) : DeciderState :=
  if isTokenRepeatTxn state.internalMetaData then
    setGws (narrowUnlessEmpty (getTokenSupportedGateways reads params "MANDATE"
      state.internalMetaData) state.functionalGateways) state
  else state

def filterForMandateGuestCheckout (state : DeciderState) : DeciderState :=
  if !params.dpTxnDetail.expressCheckout.getD false &&
      !isTokenRepeatTxn state.internalMetaData then
    setGws (narrowUnlessEmpty (reads.configs.texts (cardSwitchProviderOrDefault params ++
      "_MANDATE_GUEST_CHECKOUT_SUPPORTED_GATEWAYS")) state.functionalGateways) state
  else state

def filterForCardMandate (state : DeciderState) : Except ErrorResponse DeciderState := do
  let infos ← cardMandateCardInfos reads params state
  let newGws := ordNub (gatewaysOf infos) ++ cardMandateExcluded reads state
  return filterForMandateGuestCheckout reads params
    (filterForMandateTokenRepeat reads params (setGws newGws state))

/-! ## Bank accounts and their mandates -/

variable (validationType : ValidationType)

/-- The merchant's card information of the bank for the accounts that match the order. -/
def validationInfos (mgas : List MerchantGatewayAccount) :
    List MerchantGatewayCardInfo :=
  filterGatewayCardInfoForMaxRegisterAmount reads params
    (filterGatewaysForPaymentMethodAndValidationType reads params.dpMerchantAccount
      params.dpTxnCardInfo (mgas.filter (predicate reads params)) validationType)

variable (mgas : List MerchantGatewayAccount)

/-- The account matches the order and has card information, and so has its gateway. -/
def isValidated (mga : MerchantGatewayAccount) : Bool :=
  let infos := validationInfos reads params validationType mgas
  let newSt := gatewaysOf (getAllByMgciIds reads (infos.map (·.gatewayCardInfoId)))
  predicate reads params mga && newSt.contains mga.gateway &&
    (infos.map (·.merchantGatewayAccountId)).contains (some mga.id)

def setValidatedMgas (state : DeciderState) : DeciderState :=
  setGwsAndMgas (mgas.filter (isValidated reads params validationType mgas)) state

/-- The accounts of the merchant for the order's reference ids, read from the table. -/
def tableMgas : List MerchantGatewayAccount :=
  getEnabledMgasByMerchantIdAndRefId reads.decoders reads.tables.merchantGatewayAccounts
    params.dpMerchantAccount.merchantId (getAllPossibleRefIds reads.decoders params)

/-- Mandates validate the accounts in the state.  Other validations of a bank account validate
the accounts of the table. -/
def filterForBankAccount (state : DeciderState) : DeciderState :=
  if isOtmFlow reads.decoders params.dpTxnDetail ||
      isPixAutomaticRedirectFlow reads.decoders params.dpTxnDetail then state
  else if isEmandateTransaction params.dpTxnDetail then
    let (mgas, state) := getEnabledMgas reads params state
    setValidatedMgas reads params
      (if isTpvMandateTransaction params.dpTxnDetail then .tpvEmandate else .emandate)
      (mgas.filter (isEmandateEnabled reads.decoders)) state
  else setValidatedMgas reads params .tpv (tableMgas reads params) state

/-! ## Other validations -/

/-- The gateways of accounts for validations only, when these are all of the gateway's. -/
def gatewaysToBeRemoved (tpvOnlyMgas allMgas : List MerchantGatewayAccount) : List Gateway :=
  ((tpvOnlyMgas.map (·.gateway)).dedup).filter fun gw =>
    (allMgas.filter (·.gateway == gw)).length == (tpvOnlyMgas.filter (·.gateway == gw)).length

/-- Both groups of accounts are those for validations only. -/
def filterForTpvOnly (state : DeciderState) : DeciderState :=
  let tpvOnlySupported := reads.gateways "TPV_ONLY_SUPPORTED_GATEWAYS"
  if !tpvOnlySupported.isEmpty &&
      !(intersect tpvOnlySupported state.functionalGateways).isEmpty then
    let tpvOnlyMgas := getTpvOnlyGatewayAccounts reads.decoders
      reads.tables.merchantGatewayAccounts params.dpMerchantAccount.merchantId
      (getAllPossibleRefIds reads.decoders params)
    let removed := gatewaysToBeRemoved tpvOnlyMgas tpvOnlyMgas
    setGws (state.functionalGateways.filter fun gw => !removed.contains gw) state
  else state

def isCardMandate : Bool :=
  isMandateTransaction params.dpTxnDetail && isCardTransaction params.dpTxnCardInfo

def isBankAccountValidation : Bool :=
  isTpvTransaction params.dpTxnDetail || (isEmandateTransaction params.dpTxnDetail &&
    isEmandateSupportedPaymentMethod params.dpTxnCardInfo)

def filterGatewaysForValidationType (state : DeciderState) :
    Except ErrorResponse DeciderState :=
  if isCardMandate params then filterForCardMandate reads params state
  else if isBankAccountValidation params then .ok (filterForBankAccount reads params state)
  else .ok (filterForTpvOnly reads params state)

/-! ## What they keep -/

variable {reads params} {state after : DeciderState}

theorem thinning_filterMgasForAuthType :
    state.Thinning (filterMgasForAuthType reads params state) := by
  unfold filterMgasForAuthType
  split
  · exact thinning_setGwsAndMgas_filter _
  · exact thinning_setGwsAndMgas_filter _
  · exact thinning_setGwsAndMgas_filter _
  · exact thinning_setGwsAndMgas_filter _
  · exact Thinning.refl

theorem authTypeSupportedGws_sublist :
    (authTypeSupportedGws reads params state).Sublist state.functionalGateways :=
  List.filter_sublist.trans List.filter_sublist

/-- The rows of card information found for authentication come gateway by gateway. -/
def AuthTypeListsTogether (reads : Reads) (params : DeciderParams) (state : DeciderState) : Prop :=
  reads.answers.hasFeature "DISABLE_DECIDER_BIN_ELIGIBILITY_CHECK" = false →
    ∀ cardIsin infos, params.dpTxnCardInfo.cardIsin = some cardIsin →
      authTypeCardInfos reads params cardIsin (filterMgasForAuthType reads params state) =
        .ok infos → Grouped (gatewaysOf infos)

/-- The filter changes nothing, keeps accounts, or lists the gateways of card information. -/
theorem filterGatewaysForAuthType_cases
    (filtered : filterGatewaysForAuthType reads params state = .ok after) :
    (params.dpTxnCardInfo.cardIsin = none ∧ after = state) ∨
      after = filterMgasForAuthType reads params state ∨
      ∃ cardIsin infos, params.dpTxnCardInfo.cardIsin = some cardIsin ∧
        reads.answers.hasFeature "DISABLE_DECIDER_BIN_ELIGIBILITY_CHECK" = false ∧
        authTypeCardInfos reads params cardIsin (filterMgasForAuthType reads params state) =
          .ok infos ∧
        after = setGws
          (gatewaysOf infos ++
            authTypeSupportedGws reads params (filterMgasForAuthType reads params state))
          (filterMgasForAuthType reads params state) := by
  unfold filterGatewaysForAuthType at filtered
  split at filtered
  · next noIsin =>
      left
      exact ⟨noIsin, (Except.ok.inj filtered).symm⟩
  · next cardIsin isIsin =>
      right
      simp only at filtered
      split at filtered
      · left
        exact (Except.ok.inj filtered).symm
      · next enabled =>
          right
          cases found : authTypeCardInfos reads params cardIsin
              (filterMgasForAuthType reads params state) with
          | error failure =>
              rw [found] at filtered
              cases filtered
          | ok infos =>
              rw [found] at filtered
              refine ⟨cardIsin, infos, isIsin, by simpa using enabled, found, ?_⟩
              exact (Except.ok.inj filtered).symm

theorem gatewaysOf_authTypeCardInfos {cardIsin : String} {infos : List GatewayCardInfo}
    (found : authTypeCardInfos reads params cardIsin state = .ok infos) :
    gatewaysOf infos ⊆
      state.functionalGateways.filter (isGatewayCardInfoCheckNeeded reads params) :=
  gatewaysOf_filterGatewaysCardInfo found

theorem narrowing_filterGatewaysForAuthType
    (filtered : filterGatewaysForAuthType reads params state = .ok after) :
    state.Narrowing after := by
  rcases filterGatewaysForAuthType_cases filtered with
    ⟨-, rfl⟩ | rfl | ⟨_, infos, _, _, found, rfl⟩
  · exact Narrowing.refl
  · exact thinning_filterMgasForAuthType.toNarrowing
  · refine thinning_filterMgasForAuthType.toNarrowing.trans (narrowing_relabel ?_)
    refine List.append_subset.mpr ⟨?_, authTypeSupportedGws_sublist.subset⟩
    exact List.Subset.trans (gatewaysOf_authTypeCardInfos found) (List.filter_subset_self _)

theorem grouped_filterGatewaysForAuthType
    (filtered : filterGatewaysForAuthType reads params state = .ok after)
    (together : AuthTypeListsTogether reads params state)
    (grouped : params.dpTxnCardInfo.cardIsin = none → Grouped state.functionalGateways)
    (groupedMgas : Grouped (filterMgasForAuthType reads params state).functionalGateways) :
    Grouped after.functionalGateways := by
  rcases filterGatewaysForAuthType_cases filtered with
    ⟨noIsin, rfl⟩ | rfl | ⟨cardIsin, infos, isIsin, enabled, found, rfl⟩
  · exact grouped noIsin
  · exact groupedMgas
  · refine Grouped.append (together enabled cardIsin infos isIsin found)
      (groupedMgas.sublist authTypeSupportedGws_sublist) ?_
    intro gw ofInfo supported
    have needed := (List.mem_filter.mp (gatewaysOf_authTypeCardInfos found ofInfo)).2
    have notNeeded := (List.mem_filter.mp (List.mem_filter.mp supported).1).2
    simp [needed] at notNeeded

theorem narrowUnlessEmpty_sublist (supported : Option (List Gateway)) (gws : List Gateway) :
    (narrowUnlessEmpty supported gws).Sublist gws := by
  simp only [narrowUnlessEmpty]
  split
  · split
    · exact List.Sublist.refl gws
    · exact List.filter_sublist
  · rw [ite_self]

theorem thinning_filterForMandateTokenRepeat :
    state.Thinning (filterForMandateTokenRepeat reads params state) := by
  unfold filterForMandateTokenRepeat
  split
  · exact thinning_setGws (narrowUnlessEmpty_sublist _ _)
  · exact Thinning.refl

theorem thinning_filterForMandateGuestCheckout :
    state.Thinning (filterForMandateGuestCheckout reads params state) := by
  unfold filterForMandateGuestCheckout
  split
  · exact thinning_setGws (narrowUnlessEmpty_sublist _ _)
  · exact Thinning.refl

/-- The gateways with card information for a card mandate, and those that need none, come
gateway by gateway. -/
def CardMandateListsTogether (reads : Reads) (params : DeciderParams) (state : DeciderState) :
    Prop :=
  isCardMandate params = true → ∀ infos, cardMandateCardInfos reads params state = .ok infos →
    Grouped (ordNub (gatewaysOf infos) ++ cardMandateExcluded reads state)

theorem filterForCardMandate_cases
    (filtered : filterForCardMandate reads params state = .ok after) :
    ∃ infos, cardMandateCardInfos reads params state = .ok infos ∧
      (setGws (ordNub (gatewaysOf infos) ++ cardMandateExcluded reads state) state).Thinning
        after := by
  unfold filterForCardMandate at filtered
  cases found : cardMandateCardInfos reads params state with
  | error failure =>
      rw [found] at filtered
      cases filtered
  | ok infos =>
      rw [found] at filtered
      refine ⟨infos, rfl, ?_⟩
      rw [← Except.ok.inj filtered]
      exact thinning_filterForMandateTokenRepeat.trans thinning_filterForMandateGuestCheckout

theorem cardMandateGateways_subset {infos : List GatewayCardInfo}
    (found : cardMandateCardInfos reads params state = .ok infos) :
    ordNub (gatewaysOf infos) ++ cardMandateExcluded reads state ⊆ state.functionalGateways := by
  refine List.append_subset.mpr ⟨?_, intersect_subset_right _ _⟩
  intro gw listed
  exact gatewaysOf_filterGatewaysCardInfo found (mem_ordNub.mp listed)

theorem narrowing_filterForCardMandate
    (filtered : filterForCardMandate reads params state = .ok after) :
    state.Narrowing after := by
  rcases filterForCardMandate_cases filtered with ⟨infos, found, thinning⟩
  exact (narrowing_relabel (cardMandateGateways_subset found)).trans thinning.toNarrowing

theorem grouped_filterForCardMandate (coupled : state.Coupled)
    (filtered : filterForCardMandate reads params state = .ok after)
    (isMandate : isCardMandate params = true)
    (together : CardMandateListsTogether reads params state) :
    Grouped after.functionalGateways := by
  rcases filterForCardMandate_cases filtered with ⟨infos, found, thinning⟩
  exact thinning.grouped (coupled_relabel coupled (cardMandateGateways_subset found))
    (together isMandate infos found)

/-! ## Validations that read the table -/

/-- A validation of a bank account without a mandate. -/
def validatesTableMgas (reads : Reads) (params : DeciderParams) : Bool :=
  isTpvTransaction params.dpTxnDetail && !isOtmFlow reads.decoders params.dpTxnDetail &&
    !isPixAutomaticRedirectFlow reads.decoders params.dpTxnDetail

theorem filterGatewaysForValidationType_of_table
    (validates : validatesTableMgas reads params = true) :
    filterGatewaysForValidationType reads params state =
      .ok (setValidatedMgas reads params .tpv (tableMgas reads params) state) := by
  simp only [validatesTableMgas, Bool.and_eq_true, Bool.not_eq_true'] at validates
  have isTpv : params.dpTxnDetail.txnObjectType = some .tpvPayment := by
    simpa [isTpvTransaction] using validates.1.1
  simp [filterGatewaysForValidationType, isCardMandate, isMandateTransaction,
    isBankAccountValidation, isTpvTransaction, filterForBankAccount, isEmandateTransaction,
    isTpv, validates]

theorem thinning_setValidatedMgas {validationType : ValidationType}
    {mgas : List MerchantGatewayAccount} (fewer : mgas ⊆ state.accounts) :
    state.Thinning (setValidatedMgas reads params validationType mgas state) :=
  thinning_setGwsAndMgas (List.Subset.trans (List.filter_subset_self _) fewer)

theorem thinning_filterForTpvOnly : state.Thinning (filterForTpvOnly reads params state) := by
  simp only [filterForTpvOnly]
  split
  · exact thinning_setGws_filter _
  · exact Thinning.refl

theorem thinning_filterForBankAccount (isBankAccount : isBankAccountValidation params = true)
    (other : validatesTableMgas reads params = false) :
    state.Thinning (filterForBankAccount reads params state) := by
  refine Thinning.of_coupled fun coupled => ?_
  unfold filterForBankAccount
  split
  · exact Thinning.refl
  · next flows =>
      split
      · rw [getEnabledMgas_of_coupled reads params coupled]
        exact thinning_setValidatedMgas (List.filter_subset_self _)
      · next noMandate =>
          have isTpv : isTpvTransaction params.dpTxnDetail = true := by
            simpa [isBankAccountValidation, noMandate] using isBankAccount
          exact absurd other (by simpa [validatesTableMgas, isTpv] using flows)

theorem narrowing_filterGatewaysForValidationType
    (other : validatesTableMgas reads params = false)
    (filtered : filterGatewaysForValidationType reads params state = .ok after) :
    state.Narrowing after := by
  unfold filterGatewaysForValidationType at filtered
  split at filtered
  · exact narrowing_filterForCardMandate filtered
  · split at filtered
    · next isBankAccount =>
        rw [← Except.ok.inj filtered]
        exact (thinning_filterForBankAccount isBankAccount other).toNarrowing
    · rw [← Except.ok.inj filtered]
      exact thinning_filterForTpvOnly.toNarrowing

theorem grouped_filterGatewaysForValidationType (coupled : state.Coupled)
    (filtered : filterGatewaysForValidationType reads params state = .ok after)
    (together : CardMandateListsTogether reads params state)
    (grouped : Grouped state.functionalGateways) :
    Grouped after.functionalGateways := by
  cases validates : validatesTableMgas reads params with
  | true =>
      rw [filterGatewaysForValidationType_of_table validates] at filtered
      rw [← Except.ok.inj filtered]
      exact grouped_of_nodup (nodup_ordNub _)
  | false =>
      unfold filterGatewaysForValidationType at filtered
      split at filtered
      · next isMandate => exact grouped_filterForCardMandate coupled filtered isMandate together
      · split at filtered
        · next isBankAccount =>
            rw [← Except.ok.inj filtered]
            exact (thinning_filterForBankAccount isBankAccount validates).grouped coupled grouped
        · rw [← Except.ok.inj filtered]
          exact thinning_filterForTpvOnly.grouped coupled grouped

end CardFilters

end DecisionEngine.GatewayFilter
