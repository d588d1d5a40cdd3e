import DecisionEngine.GatewayFilter.Reintroduction

/-!
# Gateways listed once

The gateways left are those of the accounts left.  Most filters list each of them once, but
some list them row by row or account by account.  The caller removes only the repetitions next
to each other: what a filter lists apart stays so unless a later filter lists the gateways
anew.
-/

namespace DecisionEngine.GatewayFilter

open Scoring Selection

/-- The gateways that the caller hands to the scoring. -/
def uniqueFunctionalGateways (result : FilteredGateways) : List Gateway :=
  dedupAdjacent result.gateways

variable {reads : Reads} {params : DeciderParams} {name : DeciderFilterName}
  {filters later : List DeciderFilterName} {state before after : DeciderState}
  {result : FilteredGateways}

/-! ## One filter -/

/-- The rows or accounts that the filter lists gateways of are of different gateways. -/
def ListsTogether (reads : Reads) (params : DeciderParams) (before : DeciderState) :
    DeciderFilterName → Prop
  | .filterFunctionalGateways =>
      CvvLessListsTogether reads params (setInternalMetaData reads params before)
  | .forAuthType => AuthTypeListsTogether reads params before
  | .forValidationType => CardMandateListsTogether reads params before
  | .forEmi => EmiListsTogether reads params before
  | .forOTM => FlowListsTogether reads params otmFlow before
  | .forPixFlows => FlowListsTogether reads params pixFlow before
  | _ => True

theorem grouped_paymentMethod (coupled : before.Coupled)
    (filtered : applyFilter reads params .forPaymentMethod before = .ok after)
    (grouped : Grouped before.functionalGateways) : Grouped after.functionalGateways := by
  cases all : isEnabledForAllMgas reads.decoders params with
  | false =>
      cases filtered
      exact (thinning_filterGatewaysForPaymentMethod all).grouped coupled grouped
  | true =>
      have reloading : reloads reads params .forPaymentMethod = true := all
      rcases applyFilter_of_reloads reloading filtered with rfl | ⟨mgas, rfl⟩
      · exact grouped
      · exact grouped_of_nodup (nodup_ordNub _)

theorem grouped_applyFilter (coupled : before.Coupled)
    (together : ListsTogether reads params before name)
    (filtered : applyFilter reads params name before = .ok after)
    (grouped : Grouped before.functionalGateways) : Grouped after.functionalGateways := by
  cases isThin : thins name with
  | true => exact (thinning_applyFilter isThin filtered).grouped coupled grouped
  | false =>
      cases name with
      | filterFunctionalGateways =>
          cases filtered
          exact grouped_filterFunctionalGateways coupled together grouped
      | forAuthType =>
          exact grouped_filterGatewaysForAuthType filtered together (fun _ => grouped)
            (thinning_filterMgasForAuthType.grouped coupled grouped)
      | forValidationType =>
          exact grouped_filterGatewaysForValidationType coupled filtered together grouped
      | forEmi =>
          cases filtered
          exact grouped_filterGatewaysForEmi together grouped
      | forPaymentMethod => exact grouped_paymentMethod coupled filtered grouped
      | forOTM =>
          cases filtered
          exact grouped_filterForBankFlow coupled together grouped
      | forPixFlows =>
          cases filtered
          exact grouped_filterForBankFlow coupled together grouped
      | _ => cases isThin

/-! ## Lists made anew -/

/-- The filter lists gateways of rows or accounts, whatever the list before it. -/
def listsAnew (reads : Reads) (params : DeciderParams) (before : DeciderState) :
    DeciderFilterName → Bool
  | .forAuthType => params.dpTxnCardInfo.cardIsin.isSome &&
      params.dpTxnCardInfo.authType.any [.otp, .moto, .noThreeDs, .vies].contains
  | .forValidationType => isCardMandate params || (isBankAccountValidation params &&
      !(isOtmFlow reads.decoders params.dpTxnDetail ||
        isPixAutomaticRedirectFlow reads.decoders params.dpTxnDetail))
  | .forEmi => params.dpTxnDetail.isEmi.getD false
  | .forPaymentMethod => !skipsPaymentMethod params before && hasPaymentMethod reads params
  | .forTxnType => (getTrueString params.dpTxnType).isSome
  | .forSplitSettlement =>
      match getSplitSettlementDetails reads params with
      | some givenSubMids => !givenSubMids.isEmpty
      | none => !(intersect (reads.gateways "SPLIT_SETTLEMENT_SUPPORTED_GATEWAYS")
          before.functionalGateways).isEmpty
  | .forOTM => takesFlow reads params otmFlow &&
      (findBankCode reads params.dpTxnCardInfo.paymentMethod).isSome
  | .forPixFlows => takesFlow reads params pixFlow &&
      (findBankCode reads params.dpTxnCardInfo.paymentMethod).isSome
  | .forMGASelectionIntegrity =>
      before.isDynamicMgaEnabled && params.dpTxnDetail.isEmi.getD false
  | _ => false

theorem grouped_authType_of_anew (anew : listsAnew reads params before .forAuthType = true)
    (together : AuthTypeListsTogether reads params before)
    (filtered : filterGatewaysForAuthType reads params before = .ok after) :
    Grouped after.functionalGateways := by
  rcases Bool.and_eq_true_iff.mp anew with ⟨hasIsin, hasAuthType⟩
  rcases (Option.any_eq_true _ _).mp hasAuthType with ⟨authType, isAuthType, listed⟩
  have groupedMgas : Grouped (filterMgasForAuthType reads params before).functionalGateways := by
    unfold filterMgasForAuthType
    rw [isAuthType]
    cases authType with
    | otp => exact grouped_of_nodup (nodup_ordNub _)
    | moto => exact grouped_of_nodup (nodup_ordNub _)
    | noThreeDs => exact grouped_of_nodup (nodup_ordNub _)
    | vies => exact grouped_of_nodup (nodup_ordNub _)
    | _ => cases listed
  refine grouped_filterGatewaysForAuthType filtered together ?_ groupedMgas
  intro noIsin
  rw [noIsin] at hasIsin
  cases hasIsin

theorem grouped_validationType_of_anew (coupled : before.Coupled)
    (anew : listsAnew reads params before .forValidationType = true)
    (together : CardMandateListsTogether reads params before)
    (filtered : filterGatewaysForValidationType reads params before = .ok after) :
    Grouped after.functionalGateways := by
  unfold filterGatewaysForValidationType at filtered
  split at filtered
  · next isMandate => exact grouped_filterForCardMandate coupled filtered isMandate together
  · next noMandate =>
      rcases Bool.or_eq_true_iff.mp anew with isMandate | isValidation
      · exact absurd isMandate noMandate
      rcases Bool.and_eq_true_iff.mp isValidation with ⟨isValidation, noFlow⟩
      rw [if_pos isValidation] at filtered
      rw [← Except.ok.inj filtered, filterForBankAccount,
        if_neg (by simpa using noFlow)]
      split
      · exact grouped_of_nodup (nodup_ordNub _)
      · exact grouped_of_nodup (nodup_ordNub _)

theorem grouped_paymentMethod_of_anew (coupled : before.Coupled)
    (anew : listsAnew reads params before .forPaymentMethod = true) :
    Grouped (filterGatewaysForPaymentMethod reads params before).functionalGateways := by
  rcases Bool.and_eq_true_iff.mp anew with ⟨isTaken, isPaid⟩
  rw [Bool.not_eq_true'] at isTaken
  have loaded : ∃ mgas, loadMgas reads params before = (mgas, before) := by
    cases all : isEnabledForAllMgas reads.decoders params with
    | false => exact ⟨_, loadMgas_of_coupled coupled all⟩
    | true => exact ⟨_, if_pos all⟩
  rcases loaded with ⟨mgas, isLoaded⟩
  simp only [filterGatewaysForPaymentMethod, isLoaded, isTaken, Bool.false_eq_true, if_false]
  split
  · exact grouped_of_nodup (nodup_ordNub _)
  · next accepting =>
      rw [acceptingMgas_eq_none_iff, isPaid] at accepting
      cases accepting

theorem grouped_splitSettlement_of_anew
    (anew : listsAnew reads params before .forSplitSettlement = true) :
    Grouped
      (filterFunctionalGatewaysForSplitSettlement reads params before).functionalGateways := by
  unfold filterFunctionalGatewaysForSplitSettlement
  have anew : (match getSplitSettlementDetails reads params with
      | some givenSubMids => !givenSubMids.isEmpty
      | none => !(intersect (reads.gateways "SPLIT_SETTLEMENT_SUPPORTED_GATEWAYS")
          before.functionalGateways).isEmpty) = true := anew
  split
  · next givenSubMids isGiven =>
      rw [isGiven, Bool.not_eq_true'] at anew
      rw [anew]
      exact grouped_of_nodup (nodup_ordNub _)
  · next noDetails =>
      rw [noDetails, Bool.not_eq_true'] at anew
      simp only [filterForSplitSettlementOnly, anew]
      exact grouped_of_nodup (nodup_ordNub _)

theorem grouped_bankFlow_of_anew {flow : BankFlow}
    (takes : takesFlow reads params flow = true)
    (hasCode : (findBankCode reads params.dpTxnCardInfo.paymentMethod).isSome = true)
    (together : FlowListsTogether reads params flow before) :
    Grouped (filterForBankFlow reads params flow before).functionalGateways := by
  rcases Option.isSome_iff_exists.mp hasCode with ⟨jbc, isCode⟩
  simp only [filterForBankFlow, takes, if_true, isCode]
  exact together takes jbc isCode

theorem grouped_integrity_of_anew
    (anew : listsAnew reads params before .forMGASelectionIntegrity = true) :
    Grouped (filterGatewaysForMGASelectionIntegrity reads params before).functionalGateways := by
  rcases Bool.and_eq_true_iff.mp anew with ⟨isEnabled, isEmi⟩
  simp only [filterGatewaysForMGASelectionIntegrity, isEnabled, if_true,
    filterForEMITenureSpecificMGAs, isEmi]
  exact grouped_of_nodup ((nodup_ordNub _).filter _)

/-- A list made anew is without repetitions, whatever the list before it. -/
theorem grouped_of_anew (coupled : before.Coupled)
    (anew : listsAnew reads params before name = true)
    (together : ListsTogether reads params before name)
    (filtered : applyFilter reads params name before = .ok after) :
    Grouped after.functionalGateways := by
  cases name with
  | forAuthType => exact grouped_authType_of_anew anew together filtered
  | forSplitSettlement =>
      cases filtered
      exact grouped_splitSettlement_of_anew anew
  | forValidationType => exact grouped_validationType_of_anew coupled anew together filtered
  | forEmi =>
      cases filtered
      have isEmi : params.dpTxnDetail.isEmi.getD false = true := anew
      simp only [filterGatewaysForEmi, isEmi, if_true]
      exact together isEmi
  | forPaymentMethod =>
      cases filtered
      exact grouped_paymentMethod_of_anew coupled anew
  | forTxnType =>
      cases filtered
      rcases Option.isSome_iff_exists.mp anew with ⟨txnType, isType⟩
      simp only [filterGatewaysForTxnType, isType]
      exact grouped_of_nodup (nodup_ordNub _)
  | forOTM =>
      cases filtered
      have anew := Bool.and_eq_true_iff.mp anew
      exact grouped_bankFlow_of_anew anew.1 anew.2 together
  | forPixFlows =>
      cases filtered
      have anew := Bool.and_eq_true_iff.mp anew
      exact grouped_bankFlow_of_anew anew.1 anew.2 together
  | forMGASelectionIntegrity =>
      cases filtered
      exact grouped_integrity_of_anew anew
  | _ => cases anew

/-! ## Whole runs -/

/-- What a filter of the run lists twice, a later one lists anew. -/
def RunListsTogether (reads : Reads) (params : DeciderParams) : Prop :=
  ∀ name later before after, Pending reads params (name :: later) before →
    applyFilter reads params name before = .ok after →
      ListsTogether reads params before name ∨
        Renewed reads params (listsAnew reads params) later after

theorem grouped_getFunctionalGateways :
    Grouped (getFunctionalGateways reads params state).functionalGateways := by
  rcases getFunctionalGateways_spec state with ⟨mgas, -, isChosen⟩
  have isListed : (getFunctionalGateways reads params state).functionalGateways = _ :=
    congrArg Labelled.labels isChosen
  rw [isListed]
  exact grouped_of_nodup (nodup_ordNub _)

theorem grouped_of_pending (together : RunListsTogether reads params)
    (pending : Pending reads params filters state) : Grouped state.functionalGateways ∨
      Renewed reads params (listsAnew reads params) filters state := by
  have keeps : ∀ name later before after, Pending reads params (name :: later) before →
      ListsTogether reads params before name →
        Grouped before.functionalGateways ∨ listsAnew reads params before name = true →
          applyFilter reads params name before = .ok after → Grouped after.functionalGateways := by
    intro name later before after pending listsOnce grouped filtered
    have coupled := coupled_of_pending pending
    rcases grouped with grouped | anew
    · exact grouped_applyFilter coupled listsOnce filtered grouped
    · exact grouped_of_anew coupled anew listsOnce filtered
  have start : Grouped (getFunctionalGateways reads params .initial).functionalGateways :=
    grouped_getFunctionalGateways
  exact holds_or_renewed (Grouped ·.functionalGateways) (Or.inl start) keeps together pending

/-- The gateways for the scoring are those of the accounts returned, and each of them is there
once when each filter of the run lists them gateway by gateway or a later one lists them
anew. -/
theorem gateways_represent_accounts (returned : newGwFilters reads params = .ok result) :
    (∀ gw, gw ∈ uniqueFunctionalGateways result ↔
        ∃ mga ∈ result.state.accounts, mga.gateway = gw) ∧
      (RunListsTogether reads params → (uniqueFunctionalGateways result).Nodup) := by
  simp only [uniqueFunctionalGateways, mem_dedupAdjacent, nodup_dedupAdjacent_iff]
  rw [newGwFilters_gateways returned]
  refine ⟨(coupled_of_returned returned).mem_labels_iff, ?_⟩
  intro together
  rcases newGwFilters_reached returned with pending | noGateways
  · rcases grouped_of_pending together pending with grouped | anew
    · exact grouped
    · cases anew
  · rw [noGateways]
    exact grouped_of_nodup List.nodup_nil

/-- A payment without a card, instalments and flows has no lists by rows or accounts. -/
theorem runListsTogether_plainPayment : RunListsTogether reads plainPayment := by
  intro name later before after _ _
  left
  cases name with
  | filterFunctionalGateways => exact nofun
  | forAuthType => exact nofun
  | forValidationType => exact nofun
  | forEmi => exact nofun
  | forOTM => exact nofun
  | forPixFlows => exact nofun
  | _ => trivial

/-- Tracking information of a one-time mandate. -/
def mandateTracking : String :=
  "\x7b\"paymentFlowInfo\":\x7b\"paymentFlows\":[\"ONE_TIME_MANDATE\"]\x7d\x7d"

def mandateFlows : String := "\x7b\"paymentFlowIds\":[\"ONE_TIME_MANDATE\"]\x7d"

/-- A one-time mandate at a bank, for which all accounts are asked. -/
def mandatePayment : DeciderParams :=
  { plainPayment with
    dpOrderMetadata := { metadata := some allMgasMetadata }
    dpTxnDetail := { plainPayment.dpTxnDetail with
      txnObjectType := some .emandateRegister
      internalTrackingInfo := some mandateTracking } }

/-- An account by its id and gateway. -/
def mandateAccount (account : Int × Gateway) : DBMerchantGatewayAccount :=
  { plainAccount account.1 account.2 with supportedPaymentFlows := some mandateFlows }

/-- Accounts that all have the flow for the bank. -/
def mandateReads (accounts : List (Int × Gateway)) : Reads :=
  let plain := plainReads (accounts.map mandateAccount)
  { plain with
    decoders :=
      { plain.decoders with
        paymentFlows := fun text =>
          if text == mandateTracking then some ["ONE_TIME_MANDATE"] else none
        supportedPaymentFlows := fun text =>
          if text == mandateFlows then some ⟨["ONE_TIME_MANDATE"], none⟩ else none }
    tables :=
      { plain.tables with
        juspayBankCodes := some [{ id := 7, bankCode := "NB_HDFC" }]
        gatewayPaymentMethodFlows := some ((accounts.map Prod.snd).dedup.map fun gateway => {
          id := gateway
          paymentMethodId := none
          gateway := gateway
          paymentFlowId := "ONE_TIME_MANDATE"
          juspayBankCodeId := some 7
          countryCodeAlpha3 := some "IND"
          disabled := false
          paymentMethodType := some "NB" })
        merchantGatewayPaymentMethodFlows := some (accounts.map fun account => {
          gatewayPaymentMethodFlowId := account.2
          merchantGatewayAccountId := account.1
          disabled := some false }) } }

def mandateResult (accounts : List (Int × Gateway)) : FilteredGateways where
  gateways := accounts.map Prod.snd
  mgas := []
  state :=
    { functionalGateways := accounts.map Prod.snd
      mgas := (accounts.map mandateAccount).mapM
        (MerchantGatewayAccount.tryFrom (mandateReads accounts).decoders)
      internalMetaData := none
      isDynamicMgaEnabled := false }

theorem gateways_represent_accounts_plain :
    (∀ gw, gw ∈ uniqueFunctionalGateways plainResult ↔
        ∃ mga ∈ plainResult.state.accounts, mga.gateway = gw) ∧
      (uniqueFunctionalGateways plainResult).Nodup := by
  have represents := gateways_represent_accounts newGwFilters_plain
  exact ⟨represents.1, represents.2 (runListsTogether_plainPayment)⟩

/-- An account of another gateway is between two of one gateway: this gateway is there twice. -/
theorem gateways_represent_accounts_counterexample :
    let accounts : List (Int × Gateway) := [(1, "PAYU"), (2, "RAZORPAY"), (3, "PAYU")]
    newGwFilters (mandateReads accounts) mandatePayment = .ok (mandateResult accounts) ∧
      ¬ (uniqueFunctionalGateways (mandateResult accounts)).Nodup := by
  decide +kernel

end DecisionEngine.GatewayFilter
