import DecisionEngine.GatewayFilter.Reads
import DecisionEngine.Selection.Narrowing
import Mathlib.Data.List.Dedup

/-!
# The decider state

The functional gateways and, once they are loaded, the accounts that stand behind them.  A
filter writes both through a few setters; as a selection of accounts by their gateways,
each setter is an operation on selections.
-/

namespace DecisionEngine.GatewayFilter

open Scoring Search Selection

section State

structure DeciderState where
  functionalGateways : List Gateway
  mgas : Option (List MerchantGatewayAccount)
  internalMetaData : Option InternalMetadata
  isDynamicMgaEnabled : Bool
  deriving DecidableEq

/-- The state in which a decision begins. -/
def DeciderState.initial : DeciderState where
  functionalGateways := []
  mgas := none
  internalMetaData := none
  isDynamicMgaEnabled := false

/-- The accounts kept, none before they are loaded. -/
def DeciderState.accounts (state : DeciderState) : List MerchantGatewayAccount :=
  state.mgas.getD []

variable (mgas : List MerchantGatewayAccount)

def setMgas (state : DeciderState) : DeciderState :=
  { state with mgas := some mgas }

def setGwsAndMgas (filteredMgas : List MerchantGatewayAccount) (state : DeciderState) :
    DeciderState :=
  { setMgas filteredMgas state with
    functionalGateways := ordNub (filteredMgas.map (·.gateway)) }

def setGws (gws : List Gateway) (state : DeciderState) : DeciderState :=
  { state with
    mgas := state.mgas.map fun mgas => mgas.filter fun mga => mga.gateway ∈ gws
    functionalGateways := gws }

/-- The accounts in the state, or else those of the table, which are kept then. -/
def getEnabledMgas (reads : Reads) (params : DeciderParams) (state : DeciderState) :
    List MerchantGatewayAccount × DeciderState :=
  match state.mgas with
  | some mgas => (mgas, state)
  | none =>
      let mgas := filterMorpheus (getEnabledMgasByMerchantIdAndRefId reads.decoders
        reads.tables.merchantGatewayAccounts params.dpMerchantAccount.merchantId
        (getAllPossibleRefIds reads.decoders params))
      (mgas, setMgas mgas state)

/-- The members of both lists, each of them once. -/
def intersect (first second : List Gateway) : List Gateway :=
  first.dedup.filter second.contains

theorem intersect_subset_right (first second : List Gateway) :
    intersect first second ⊆ second := by
  intro gw isBoth
  simpa using (List.mem_filter.mp isBoth).2

/-! ## The selection of a state -/

def DeciderState.selection (state : DeciderState) : Labelled MerchantGatewayAccount Gateway where
  labels := state.functionalGateways
  items := state.mgas

/-- The gateways are those of the accounts, which are loaded. -/
abbrev DeciderState.Coupled (state : DeciderState) : Prop :=
  Selection.Coupled MerchantGatewayAccount.gateway state.selection

/-- No gateway and no account is new after the filter. -/
abbrev DeciderState.Narrows (before after : DeciderState) : Prop :=
  Selection.Narrows before.selection after.selection

abbrev DeciderState.Narrowing (before after : DeciderState) : Prop :=
  Selection.Narrowing MerchantGatewayAccount.gateway before.selection after.selection

abbrev DeciderState.Thinning (before after : DeciderState) : Prop :=
  Selection.Thinning MerchantGatewayAccount.gateway before.selection after.selection

@[simp]
theorem selection_setGwsAndMgas (state : DeciderState) :
    (setGwsAndMgas mgas state).selection = choose MerchantGatewayAccount.gateway mgas := rfl

@[simp]
theorem selection_setGws_setMgas (state : DeciderState) :
    (setGws (mgas.map (·.gateway)) (setMgas mgas state)).selection =
      enumerate MerchantGatewayAccount.gateway mgas :=
  relabel_map state.functionalGateways mgas

@[simp]
theorem accounts_setGwsAndMgas (state : DeciderState) :
    (setGwsAndMgas mgas state).accounts = mgas := rfl

variable {state : DeciderState}

theorem thinning_setGws {gws : List Gateway} (fewer : gws.Sublist state.functionalGateways) :
    state.Thinning (setGws gws state) :=
  thinning_relabel fewer

theorem thinning_setGws_filter (passes : Gateway → Bool) :
    state.Thinning (setGws (state.functionalGateways.filter passes) state) :=
  thinning_filter passes

theorem thinning_setGwsAndMgas {mgas : List MerchantGatewayAccount}
    (fewer : mgas ⊆ state.accounts) : state.Thinning (setGwsAndMgas mgas state) :=
  thinning_choose fewer

theorem thinning_setGwsAndMgas_filter (passes : MerchantGatewayAccount → Bool) :
    state.Thinning (setGwsAndMgas (state.accounts.filter passes) state) :=
  thinning_setGwsAndMgas (List.filter_subset_self _)

/-- Loaded accounts are not read from the table again. -/
theorem getEnabledMgas_of_coupled (reads : Reads) (params : DeciderParams)
    (coupled : state.Coupled) : getEnabledMgas reads params state = (state.accounts, state) := by
  have loaded : state.mgas.isSome := coupled.loaded
  rcases Option.isSome_iff_exists.mp loaded with ⟨mgas, isMgas⟩
  simp [getEnabledMgas, DeciderState.accounts, isMgas]

end State

/-! ## Functional gateways

The first filter loads the accounts of the merchant and keeps those that the payment can
use: of an enforced gateway, of the reference id of the order, for its payment flows and
for its currency.
-/

section Eligibility

variable (reads : Reads) (params : DeciderParams)

/-! ## Enforced gateways and payment flows -/

/-- Instalments and recurring payments keep the enforced gateways, if there are any. -/
def enforcedGatewayAccounts (mgas : List MerchantGatewayAccount) :
    List MerchantGatewayAccount :=
  if params.dpTxnDetail.isEmi.getD false || isRecurringPaymentTransaction params.dpTxnDetail then
    match params.dpEnforceGatewayList with
    | none => mgas
    | some [] => mgas
    | some enGatewayList => mgas.filter fun mga => enGatewayList.contains mga.gateway
  else mgas

/-- The reference id of the account is the one of the order for its gateway. -/
def predicate (mga : MerchantGatewayAccount) : Bool :=
  mga.referenceId == getGatewayReferenceId reads.decoders params mga.gateway

def areEqualArrays (xs ys : List String) : Bool :=
  sortBy id xs == sortBy id ys

def enforcedPaymentFlows (mga : MerchantGatewayAccount) : List String :=
  (mga.supportedPaymentFlows.bind (·.enforcedPaymentFlows)).getD []

def evaluatePaymentFlowEnforcement (txnPaymentFlows : List String)
    (initialMgas : List MerchantGatewayAccount) (gateway : Gateway) :
    List MerchantGatewayAccount :=
  let filteredMgas := initialMgas.filter fun mga =>
    predicate reads params mga && mga.gateway == gateway
  let enforced := (filteredMgas.flatMap enforcedPaymentFlows).dedup
  if enforced.isEmpty then filteredMgas
  else
    let flowsToEnforce := txnPaymentFlows.filter enforced.contains
    filteredMgas.filter fun mga => areEqualArrays (enforcedPaymentFlows mga) flowsToEnforce

/-- The accounts of each gateway that enforce the flows of the payment.  The source walks a
hash set of gateways; its order is taken to be that of the accounts. -/
def filterMGAsByEnforcedPaymentFlows (initialMgas : List MerchantGatewayAccount) :
    List MerchantGatewayAccount :=
  let gateways := (initialMgas.map (·.gateway)).dedup
  let txnPaymentFlows :=
    (getPaymentFlowListFromTxnDetail reads.decoders params.dpTxnDetail).dedup
  gateways.flatMap (evaluatePaymentFlowEnforcement reads params txnPaymentFlows initialMgas)

/-! ## Currency and kind of payment -/

def canAcceptCurrency (supportedMgaCurrencies currency : String) : Bool :=
  let currList := match reads.decoders.texts supportedMgaCurrencies with
    | some texts => texts.filterMap reads.answers.textToCurr
    | none => []
  currList.contains currency || (currList.isEmpty && currency == "INR")

def currencyFilter (orderCurr : String) (mga : MerchantGatewayAccount) : Bool :=
  match getTrueString mga.supportedCurrencies with
  | some currencies => canAcceptCurrency reads currencies orderCurr
  | none => orderCurr == "INR"

def isMgaEligible (mga : MerchantGatewayAccount) : Bool :=
  let txnObjType := params.dpTxnDetail.txnObjectType.getD .unknown
  if (reads.gateways "MGA_ELIGIBLE_SEAMLESS_GATEWAYS").contains mga.gateway &&
      (isCardTransaction params.dpTxnCardInfo || isNbTransaction params.dpTxnCardInfo) then
    isSeamless reads.decoders mga
  else if txnObjType == .mandateRegister then isSubscription reads.decoders mga
  else if txnObjType == .emandateRegister &&
      !isOtmFlow reads.decoders params.dpTxnDetail &&
      !isPixAutomaticRedirectFlow reads.decoders params.dpTxnDetail then
    isEmandateEnabled reads.decoders mga
  else !isOnlySubscription reads.decoders mga

/-- Dynamic currency conversion is for accounts that support it. -/
def edccMgas (mgas : List MerchantGatewayAccount) : List MerchantGatewayAccount :=
  if params.dpTxnDetail.currency != params.dpOrder.currency &&
      params.dpEDCCApplied == some true then
    mgas.filter fun mga =>
      (reads.gateways "EDCC_SUPPORTED_GATEWAYS").contains mga.gateway &&
        checkIfEnabledInMga reads.decoders mga "DYNAMIC_CURRENCY_CONVERSION" "isEdccSupported"
  else mgas

def rpdFilterMgas (mgas : List MerchantGatewayAccount) : List MerchantGatewayAccount :=
  if isReversePennyDropTxn reads.decoders params.dpTxnDetail then
    mgas.filter checkForReversePennyDropInMga
  else mgas

/-! ## The filter -/

/-- Several accounts of one gateway leave the choice of the account to the decider. -/
def validateAndSetDynamicMGAFlag (proceedWithAllMgas : Bool)
    (mgas : List MerchantGatewayAccount) (state : DeciderState) : DeciderState :=
  let gwts := mgas.map (·.gateway)
  if !proceedWithAllMgas && gwts.length != gwts.dedup.length then
    { state with isDynamicMgaEnabled := true }
  else state

/-- All accounts of the merchant, disabled ones too. -/
def allMgas : List MerchantGatewayAccount :=
  getAllEnabledMgasByMerchantId reads.decoders reads.tables.merchantGatewayAccounts
    params.dpMerchantAccount.merchantId

/-- All accounts when the metadata asks for them, or else those in the state. -/
def loadMgas (state : DeciderState) : List MerchantGatewayAccount × DeciderState :=
  if isEnabledForAllMgas reads.decoders params then (allMgas reads params, state)
  else getEnabledMgas reads params state

/-- Enforced accounts, of the reference ids of the order unless all accounts are asked for. -/
def referencedMgas (mgas : List MerchantGatewayAccount) : List MerchantGatewayAccount :=
  let enforced := enforcedGatewayAccounts params mgas
  if isEnabledForAllMgas reads.decoders params then enforced
  else enforced.filter (predicate reads params)

def flowMgas (mgas : List MerchantGatewayAccount) : List MerchantGatewayAccount :=
  let converting := edccMgas reads params mgas
  if isEnabledForAllMgas reads.decoders params then converting
  else filterMGAsByEnforcedPaymentFlows reads params converting

def eligibleMgas (mgas : List MerchantGatewayAccount) : List MerchantGatewayAccount :=
  let rpdMgas := rpdFilterMgas reads params mgas
  if isEnabledForAllMgas reads.decoders params then rpdMgas
  else rpdMgas.filter (isMgaEligible reads params)

def getFunctionalGateways (state : DeciderState) : DeciderState :=
  let (enabledGatewayAccounts, state) := loadMgas reads params state
  let referenced := referencedMgas reads params enabledGatewayAccounts
  let state := validateAndSetDynamicMGAFlag (isEnabledForAllMgas reads.decoders params)
    referenced state
  let mgas := flowMgas reads params referenced
  if mgas.isEmpty then setGwsAndMgas [] state
  else
    let currencyFilteredMgas := mgas.filter (currencyFilter reads params.dpTxnDetail.currency)
    let state := setGwsAndMgas currencyFilteredMgas state
    setGwsAndMgas (eligibleMgas reads params currencyFilteredMgas) state

/-! ## What it keeps -/

variable {reads params}

variable (mgas : List MerchantGatewayAccount)

theorem enforcedGatewayAccounts_subset :
    enforcedGatewayAccounts params mgas ⊆ mgas := by
  unfold enforcedGatewayAccounts
  split
  · split
    · exact List.Subset.refl _
    · exact List.Subset.refl _
    · exact List.filter_subset_self _
  · exact List.Subset.refl _

theorem evaluatePaymentFlowEnforcement_subset (txnPaymentFlows : List String)
    (initialMgas : List MerchantGatewayAccount) (gateway : Gateway) :
    evaluatePaymentFlowEnforcement reads params txnPaymentFlows initialMgas gateway ⊆
      initialMgas := by
  simp only [evaluatePaymentFlowEnforcement]
  split
  · exact List.filter_subset_self _
  · exact List.Subset.trans (List.filter_subset_self _) (List.filter_subset_self _)

variable (initialMgas : List MerchantGatewayAccount)

theorem filterMGAsByEnforcedPaymentFlows_subset :
    filterMGAsByEnforcedPaymentFlows reads params initialMgas ⊆ initialMgas := by
  intro mga isEligible
  rcases List.mem_flatMap.mp isEligible with ⟨gateway, _, isEvaluated⟩
  exact evaluatePaymentFlowEnforcement_subset _ _ _ isEvaluated

theorem edccMgas_subset :
    edccMgas reads params mgas ⊆ mgas := by
  unfold edccMgas
  split
  · exact List.filter_subset_self _
  · exact List.Subset.refl _

theorem rpdFilterMgas_subset :
    rpdFilterMgas reads params mgas ⊆ mgas := by
  unfold rpdFilterMgas
  split
  · exact List.filter_subset_self _
  · exact List.Subset.refl _

theorem referencedMgas_subset :
    referencedMgas reads params mgas ⊆ mgas := by
  simp only [referencedMgas]
  split
  · exact enforcedGatewayAccounts_subset mgas
  · exact List.Subset.trans (List.filter_subset_self _) (enforcedGatewayAccounts_subset mgas)

theorem flowMgas_subset :
    flowMgas reads params mgas ⊆ mgas := by
  simp only [flowMgas]
  split
  · exact edccMgas_subset mgas
  · exact List.Subset.trans (filterMGAsByEnforcedPaymentFlows_subset _) (edccMgas_subset mgas)

theorem eligibleMgas_subset :
    eligibleMgas reads params mgas ⊆ mgas := by
  simp only [eligibleMgas]
  split
  · exact rpdFilterMgas_subset mgas
  · exact List.Subset.trans (List.filter_subset_self _) (rpdFilterMgas_subset mgas)

/-- The filter leaves some of the loaded accounts, with each of their gateways once. -/
theorem getFunctionalGateways_spec (state : DeciderState) : ∃ mgas,
    mgas ⊆ (loadMgas reads params state).1 ∧
      (getFunctionalGateways reads params state).selection =
        choose MerchantGatewayAccount.gateway mgas := by
  have usable : flowMgas reads params (referencedMgas reads params
      (loadMgas reads params state).1) ⊆ (loadMgas reads params state).1 :=
    List.Subset.trans (flowMgas_subset _) (referencedMgas_subset _)
  simp only [getFunctionalGateways]
  split
  · exact ⟨[], List.nil_subset _, selection_setGwsAndMgas _ _⟩
  · refine ⟨_, ?_, selection_setGwsAndMgas _ _⟩
    exact List.Subset.trans (eligibleMgas_subset _)
      (List.Subset.trans (List.filter_subset_self _) usable)

end Eligibility

end DecisionEngine.GatewayFilter
