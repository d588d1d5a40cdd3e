import DecisionEngine.GatewayFilter.Methods

/-!
# Filters for flows and splits

Payments that are split among vendors, flows that gateways have to support, and the
accounts of which one is left for each gateway when the decider chooses the account.  The
flows of one-time mandates and of automatic redirects list the gateways account by account.
-/

namespace DecisionEngine.GatewayFilter

open Scoring Selection Text

variable (reads : Reads) (params : DeciderParams)

/-! ## Split settlements -/

def getSplitSettlementDetails : Option (List String) :=
  ((getMetadata reads.decoders params).lookup "split_settlement_details").bind
    reads.decoders.vendorSubMids

/-- The vendors that the account settles with. -/
def vendorSubAccounts (subInfos : List MerchantGatewayAccountSubInfo)
    (mga : MerchantGatewayAccount) : List String :=
  (subInfos.filter fun info => info.merchantGatewayAccountId == mga.id &&
    info.subIdType == "VENDOR" && info.subInfoType == "SPLIT_SETTLEMENT" &&
      !info.disabled).map (·.juspaySubAccountId)

def parsesAsSubInfo (info : MerchantGatewayAccountSubInfo) : Bool :=
  info.subInfoType == "SPLIT_SETTLEMENT" &&
    (info.subIdType == "MARKETPLACE" || info.subIdType == "VENDOR")

/-- The ids of the accounts that settle with all the vendors. -/
def splitSettlementMgaIds (givenSubMids : List String) (state : DeciderState) : List Int :=
  let filteredGatewayAccounts := (tableMgas reads params).filter fun mga =>
    predicate reads params mga && state.functionalGateways.contains mga.gateway
  let subInfos := (reads.tables.merchantGatewayAccountSubInfos.findAll fun info =>
    (filteredGatewayAccounts.map (·.id)).contains info.merchantGatewayAccountId).filter
      parsesAsSubInfo
  let matching := filteredGatewayAccounts.filter fun mga =>
    (intersect givenSubMids (vendorSubAccounts subInfos mga)).length == givenSubMids.length
  ordNub (matching.map (·.id))

def filterForSplitSettlementOnly (state : DeciderState) : DeciderState :=
  let supported := reads.gateways "SPLIT_SETTLEMENT_SUPPORTED_GATEWAYS"
  if (intersect supported state.functionalGateways).isEmpty then state
  else
    let mgas := getSplitSettlementOnlyGatewayAccounts reads.decoders
      reads.tables.merchantGatewayAccounts params.dpMerchantAccount.merchantId
      (getAllPossibleRefIds reads.decoders params)
    setGwsAndMgas (state.accounts.filter fun mga => !(mgas.any fun only => only.id == mga.id))
      state

def filterFunctionalGatewaysForSplitSettlement (state : DeciderState) : DeciderState :=
  match getSplitSettlementDetails reads params with
  | some givenSubMids =>
      if givenSubMids.isEmpty then state
      else
        let mgaIds := splitSettlementMgaIds reads params givenSubMids state
        setGwsAndMgas (state.accounts.filter fun mga => mgaIds.contains mga.id) state
  | none => filterForSplitSettlementOnly reads params state

/-! ## Required flows -/

def filterGatewaysForFlow (flow key : String) (gateways : List Gateway) : List Gateway :=
  if (getPaymentFlowListFromTxnDetail reads.decoders params.dpTxnDetail).contains flow then
    gateways.filter (reads.gateways key).contains
  else gateways

def filterFunctionalGatewaysForMerchantRequiredFlow (state : DeciderState) : DeciderState :=
  let mfFilteredGw := filterGatewaysForFlow reads params "MUTUAL_FUND"
    "MUTUAL_FUND_FLOW_SUPPORTED_GATEWAYS" state.functionalGateways
  let mfAndCbFilteredGw := filterGatewaysForFlow reads params "CROSS_BORDER_PAYMENT"
    "CROSS_BORDER_FLOW_SUPPORTED_GATEWAYS" mfFilteredGw
  let filteredGw := filterGatewaysForFlow reads params "SINGLE_BLOCK_MULTIPLE_DEBIT"
    "SBMD_SUPPORTED_GATEWAYS" mfAndCbFilteredGw
  setGws filteredGw state

/-! ## Flows of a bank -/

/-- What a flow asks of an account and of its gateway. -/
structure BankFlow where
  paymentFlow : String
  accDetailsFlag : String
  countryCode : String

def otmFlow : BankFlow where
  paymentFlow := "ONE_TIME_MANDATE"
  accDetailsFlag := "OTM_ENABLED"
  countryCode := "IND"

def pixFlow : BankFlow where
  paymentFlow := "PIX_AUTOMATIC_REDIRECT"
  accDetailsFlag := "enablePixAutomaticRedirect"
  countryCode := "BRA"

def eligibleFlowMgas (flow : BankFlow) (state : DeciderState) : List MerchantGatewayAccount :=
  (getEnabledMgas reads params state).1.filter fun mga =>
    checkIfEnabledInMga reads.decoders mga flow.paymentFlow flow.accDetailsFlag &&
      state.functionalGateways.contains mga.gateway

/-- The accounts that have the flow for the bank. -/
def bankFlowMgas (flow : BankFlow) (jbc : BankCode) (state : DeciderState) :
    List MerchantGatewayAccount :=
  let eligible := eligibleFlowMgas reads params flow state
  let allGpmfEntries := findAllGpmfByCountryCodeGwPfIdPmtJbcid reads flow.countryCode
    (eligible.map (·.gateway)) flow.paymentFlow params.dpTxnCardInfo.paymentMethodType jbc.id
  let mgpmfEntries := getAllMgpmfByMgaIdAndGpmfIds reads (eligible.map (·.id))
    (allGpmfEntries.map (·.id))
  let mgaIds := mgpmfEntries.map (·.merchantGatewayAccountId)
  eligible.filter fun mga => mgaIds.contains mga.id

def takesFlow (flow : BankFlow) : Bool :=
  (getPaymentFlowListFromTxnDetail reads.decoders params.dpTxnDetail).contains flow.paymentFlow

def filterForBankFlow (flow : BankFlow) (state : DeciderState) : DeciderState :=
  if takesFlow reads params flow then
    let (_, loaded) := getEnabledMgas reads params state
    match findBankCode reads params.dpTxnCardInfo.paymentMethod with
    | some jbc =>
        let mgas := bankFlowMgas reads params flow jbc state
        setGws (mgas.map (·.gateway)) (setMgas mgas loaded)
    | none => setGws state.functionalGateways loaded
  else setGws state.functionalGateways state

def filterFunctionalGatewaysForOTMFlow : DeciderState → DeciderState :=
  filterForBankFlow reads params otmFlow

def filterFunctionalGatewaysForPixFlows : DeciderState → DeciderState :=
  filterForBankFlow reads params pixFlow

/-! ## One account for each gateway -/

def gatewaysWithTenureBasedCreds : List Gateway :=
  ["HDFC", "HDFC_CC_EMI", "ICICI"]

def getEmi (isEmi : Option Json.Value) : Bool :=
  match isEmi with
  | some (.bool value) => value
  | some (.string text) => toAsciiLowercase text == "true"
  | _ => false

/-- The account is for the tenure, of a gateway that has accounts for tenures. -/
def isForTenure (mga : MerchantGatewayAccount) : Bool :=
  if gatewaysWithTenureBasedCreds.contains mga.gateway then
    match reads.decoders.emiAccountDetails mga.accountDetails with
    | some details => getEmi details.isEmi == params.dpTxnDetail.isEmi.getD false &&
        details.emiTenure.getD 0 == params.dpTxnDetail.emiTenure.getD 0
    | none => true
  else true

def filterForEMITenureSpecificMGAs (state : DeciderState) : DeciderState :=
  if params.dpTxnDetail.isEmi.getD false then
    setGwsAndMgas (state.accounts.filter fun mga =>
      state.functionalGateways.contains mga.gateway && isForTenure reads params mga) state
  else state

def validateOnlyOneMga (mgas : List MerchantGatewayAccount) (st : List Gateway) :
    List Gateway :=
  st.filter fun gwt => (mgas.filter (·.gateway == gwt)).length == 1

def filterGatewaysForMGASelectionIntegrity (state : DeciderState) : DeciderState :=
  if state.isDynamicMgaEnabled then
    let state := filterForEMITenureSpecificMGAs reads params state
    let filteredMgas := state.accounts.filter fun mga =>
      state.functionalGateways.contains mga.gateway
    setGws (validateOnlyOneMga filteredMgas state.functionalGateways) state
  else state

/-! ## What they keep -/

variable {reads params} {state : DeciderState} {flow : BankFlow}

theorem thinning_filterFunctionalGatewaysForSplitSettlement :
    state.Thinning (filterFunctionalGatewaysForSplitSettlement reads params state) := by
  unfold filterFunctionalGatewaysForSplitSettlement
  split
  · split
    · exact Thinning.refl
    · exact thinning_setGwsAndMgas_filter _
  · simp only [filterForSplitSettlementOnly]
    split
    · exact Thinning.refl
    · exact thinning_setGwsAndMgas_filter _

theorem filterGatewaysForFlow_sublist (name key : String) (gateways : List Gateway) :
    (filterGatewaysForFlow reads params name key gateways).Sublist gateways := by
  unfold filterGatewaysForFlow
  split
  · exact List.filter_sublist
  · exact List.Sublist.refl gateways

theorem thinning_filterFunctionalGatewaysForMerchantRequiredFlow :
    state.Thinning (filterFunctionalGatewaysForMerchantRequiredFlow reads params state) :=
  thinning_setGws ((filterGatewaysForFlow_sublist _ _ _).trans
    ((filterGatewaysForFlow_sublist _ _ _).trans (filterGatewaysForFlow_sublist _ _ _)))

/-- The accounts that have the flow for the bank come gateway by gateway. -/
def FlowListsTogether (reads : Reads) (params : DeciderParams) (flow : BankFlow)
    (state : DeciderState) : Prop :=
  takesFlow reads params flow = true →
    ∀ jbc, findBankCode reads params.dpTxnCardInfo.paymentMethod = some jbc →
      Grouped ((bankFlowMgas reads params flow jbc state).map (·.gateway))

theorem bankFlowMgas_subset (coupled : state.Coupled) (jbc : BankCode) :
    bankFlowMgas reads params flow jbc state ⊆ state.accounts := by
  have eligible : eligibleFlowMgas reads params flow state ⊆ state.accounts := by
    rw [eligibleFlowMgas, getEnabledMgas_of_coupled reads params coupled]
    exact List.filter_subset_self _
  exact List.Subset.trans (List.filter_subset_self _) eligible

theorem narrowing_filterForBankFlow :
    state.Narrowing (filterForBankFlow reads params flow state) := by
  refine Narrowing.of_coupled fun coupled => ?_
  have same : state.Narrowing (setGws state.functionalGateways state) :=
    (thinning_setGws (List.Sublist.refl _)).toNarrowing
  simp only [filterForBankFlow, getEnabledMgas_of_coupled reads params coupled]
  split
  · split
    · next jbc _ =>
        rw [selection_setGws_setMgas]
        exact narrowing_enumerate (bankFlowMgas_subset coupled jbc)
    · exact same
  · exact same

theorem grouped_filterForBankFlow (coupled : state.Coupled)
    (together : FlowListsTogether reads params flow state)
    (grouped : Grouped state.functionalGateways) :
    Grouped (filterForBankFlow reads params flow state).functionalGateways := by
  simp only [filterForBankFlow, getEnabledMgas_of_coupled reads params coupled]
  split
  · next takes =>
      split
      · next jbc isCode => exact together takes jbc isCode
      · exact grouped
  · exact grouped

theorem thinning_filterForEMITenureSpecificMGAs :
    state.Thinning (filterForEMITenureSpecificMGAs reads params state) := by
  unfold filterForEMITenureSpecificMGAs
  split
  · exact thinning_setGwsAndMgas_filter _
  · exact Thinning.refl

theorem thinning_filterGatewaysForMGASelectionIntegrity :
    state.Thinning (filterGatewaysForMGASelectionIntegrity reads params state) := by
  unfold filterGatewaysForMGASelectionIntegrity
  split
  · exact thinning_filterForEMITenureSpecificMGAs.trans (thinning_setGws_filter _)
  · exact Thinning.refl

end DecisionEngine.GatewayFilter
