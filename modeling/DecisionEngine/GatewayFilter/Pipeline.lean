import DecisionEngine.GatewayFilter.Flows

/-!
# The filter pipeline

The filters in the order in which they run.  No filter runs after the second one when this
leaves no gateway.  A filter that reads a row that does not parse fails the request.
-/

namespace DecisionEngine.GatewayFilter

open Scoring Selection Transition

/-- The filters after the one that loads the accounts. -/
inductive DeciderFilterName where
  | filterFunctionalGateways
  | forBrand
  | forAuthType
  | forValidationType
  | forEmi
  | forTxnOfferDetails
  | forPaymentMethod
  | forTokenProvider
  | forWallet
  | forNbOnly
  | forConsumerFinance
  | forUpi
  | forTxnType
  | forTxnDetailType
  | forReward
  | forCash
  | forSplitSettlement
  | forMerchantRequiredFlow
  | forOTM
  | forPixFlows
  | forMGASelectionIntegrity
  deriving DecidableEq

/-- The filters after the second one. -/
def laterFilters : List DeciderFilterName :=
  [.forBrand, .forAuthType, .forValidationType, .forEmi, .forTxnOfferDetails,
    .forPaymentMethod, .forTokenProvider, .forWallet, .forNbOnly, .forConsumerFinance,
    .forUpi, .forTxnType, .forTxnDetailType, .forReward, .forCash, .forSplitSettlement,
    .forMerchantRequiredFlow, .forOTM, .forPixFlows, .forMGASelectionIntegrity]

variable (reads : Reads) (params : DeciderParams)

def applyFilter (name : DeciderFilterName) (state : DeciderState) :
    Except ErrorResponse DeciderState :=
  match name with
  | .filterFunctionalGateways => .ok (filterFunctionalGateways reads params state)
  | .forBrand => .ok (filterGatewaysForBrand reads params state)
  | .forAuthType => filterGatewaysForAuthType reads params state
  | .forValidationType => filterGatewaysForValidationType reads params state
  | .forEmi => .ok (filterGatewaysForEmi reads params state)
  | .forTxnOfferDetails => .ok (filterGatewaysForTxnOfferDetails reads params state)
  | .forPaymentMethod => .ok (filterGatewaysForPaymentMethod reads params state)
  | .forTokenProvider => .ok (filterGatewaysForTokenProvider reads params state)
  | .forWallet => .ok (filterGatewaysForWallet reads params state)
  | .forNbOnly => .ok (filterGatewaysForNbOnly reads params state)
  | .forConsumerFinance => .ok (filterGatewaysForConsumerFinance reads params state)
  | .forUpi => .ok (filterGatewaysForUpi reads params state)
  | .forTxnType => .ok (filterGatewaysForTxnType reads params state)
  | .forTxnDetailType => .ok (filterGatewaysForTxnDetailType reads params state)
  | .forReward => .ok (filterGatewaysForReward reads params state)
  | .forCash => .ok (filterGatewaysForCash reads params state)
  | .forSplitSettlement => .ok (filterFunctionalGatewaysForSplitSettlement reads params state)
  | .forMerchantRequiredFlow =>
      .ok (filterFunctionalGatewaysForMerchantRequiredFlow reads params state)
  | .forOTM => .ok (filterFunctionalGatewaysForOTMFlow reads params state)
  | .forPixFlows => .ok (filterFunctionalGatewaysForPixFlows reads params state)
  | .forMGASelectionIntegrity =>
      .ok (filterGatewaysForMGASelectionIntegrity reads params state)

def runFilters (filters : List DeciderFilterName) (state : DeciderState) :
    Except ErrorResponse DeciderState :=
  filters.foldlM (fun state name => applyFilter reads params name state) state

/-- The gateways for the scoring, the accounts that it chooses from, and the state left. -/
structure FilteredGateways where
  gateways : List Gateway
  mgas : List MerchantGatewayAccount
  state : DeciderState
  deriving DecidableEq

def FilteredGateways.ofState (state : DeciderState) : FilteredGateways where
  gateways := state.functionalGateways
  mgas := if state.isDynamicMgaEnabled then state.accounts else []
  state := state

def newGwFilters : Except ErrorResponse FilteredGateways :=
  let state := filterFunctionalGateways reads params
    (getFunctionalGateways reads params DeciderState.initial)
  if state.functionalGateways.isEmpty then .ok { gateways := [], mgas := [], state }
  else (runFilters reads params laterFilters state).map FilteredGateways.ofState

/-! ## The filters still to run -/

/-- The decider is in the state, with the filters still to run. -/
inductive Pending : List DeciderFilterName → DeciderState → Prop
  | start : Pending (.filterFunctionalGateways :: laterFilters)
      (getFunctionalGateways reads params DeciderState.initial)
  | filtered {name : DeciderFilterName} {later : List DeciderFilterName}
      {before after : DeciderState} (pending : Pending (name :: later) before)
      (filtered : applyFilter reads params name before = .ok after)
      (continues : name = .filterFunctionalGateways → after.functionalGateways ≠ []) :
      Pending later after

/-- One of the filters still to run renews what is in the state that it gets. -/
inductive Renewed (renews : DeciderState → DeciderFilterName → Bool) :
    List DeciderFilterName → DeciderState → Prop
  | next {name : DeciderFilterName} {later : List DeciderFilterName} {before : DeciderState}
      (isRenewed : renews before name = true) : Renewed renews (name :: later) before
  | later {name : DeciderFilterName} {later : List DeciderFilterName}
      {before after : DeciderState} (filtered : applyFilter reads params name before = .ok after)
      (isRenewed : Renewed renews later after) : Renewed renews (name :: later) before

variable {reads params} {name : DeciderFilterName} {filters later : List DeciderFilterName}
  {state before after : DeciderState} {result : FilteredGateways}

/-- What is still to run gives the result, unless the second filter is the next one. -/
theorem newGwFilters_of_pending (pending : Pending reads params filters state) :
    (filters = .filterFunctionalGateways :: laterFilters ∧
      state = getFunctionalGateways reads params DeciderState.initial) ∨
    (.filterFunctionalGateways ∉ filters ∧ newGwFilters reads params =
      (runFilters reads params filters state).map FilteredGateways.ofState) := by
  induction pending with
  | start => exact Or.inl ⟨rfl, rfl⟩
  | @filtered name later before after pending filtered continues ih =>
      right
      rcases ih with ⟨isStart, rfl⟩ | ⟨notFirst, returns⟩
      · cases isStart
        have isAfter := Except.ok.inj filtered
        have some := continues rfl
        refine ⟨by decide, ?_⟩
        rw [← isAfter] at some ⊢
        simp only [newGwFilters]
        rw [if_neg]
        simpa using some
      · refine ⟨fun listed => notFirst (List.mem_cons_of_mem _ listed), ?_⟩
        rw [returns, runFilters, List.foldlM_cons, filtered]
        rfl

/-- The second filter runs once. -/
theorem first_not_mem_later (pending : Pending reads params (name :: later) before) :
    .filterFunctionalGateways ∉ later := by
  rcases newGwFilters_of_pending pending with ⟨isStart, -⟩ | ⟨notFirst, -⟩
  · rw [(List.cons.inj isStart).2]
    decide
  · exact fun listed => notFirst (List.mem_cons_of_mem _ listed)

/-- What every filter that is run keeps, holds when all of them are run. -/
theorem runFilters_keeps {property : DeciderState → Prop}
    (keeps : ∀ name later before after, Pending reads params (name :: later) before →
      property before → applyFilter reads params name before = .ok after → property after)
    (pending : Pending reads params filters state)
    (notFirst : .filterFunctionalGateways ∉ filters) (holds : property state)
    (returned : runFilters reads params filters state = .ok after) :
    property after ∧ Pending reads params [] after := by
  induction filters generalizing state with
  | nil =>
      cases returned
      exact ⟨holds, pending⟩
  | cons name later ih =>
      rw [runFilters, List.foldlM_cons] at returned
      rcases bind_eq_ok.mp returned with ⟨middle, filtered, rest⟩
      have isOther : name ≠ .filterFunctionalGateways := by
        rintro rfl
        exact notFirst List.mem_cons_self
      exact ih (pending.filtered filtered fun isFirst => absurd isFirst isOther)
        (fun listed => notFirst (List.mem_cons_of_mem _ listed))
        (keeps name later state middle pending holds filtered) rest

/-- From a filter that was run, the result keeps what every filter keeps. -/
theorem newGwFilters_keeps {property : DeciderState → Prop}
    (keeps : ∀ name later before after, Pending reads params (name :: later) before →
      property before → applyFilter reads params name before = .ok after → property after)
    (pending : Pending reads params (name :: later) before)
    (filtered : applyFilter reads params name before = .ok after) (holds : property after)
    (returned : newGwFilters reads params = .ok result) : property result.state := by
  by_cases stops : name = .filterFunctionalGateways ∧ after.functionalGateways = []
  · rcases stops with ⟨rfl, isEmpty⟩
    rcases newGwFilters_of_pending pending with ⟨-, rfl⟩ | ⟨notFirst, -⟩
    · have isAfter := Except.ok.inj filtered
      simp only [newGwFilters] at returned
      rw [isAfter, isEmpty] at returned
      cases returned
      exact holds
    · exact absurd List.mem_cons_self notFirst
  · have continues : name = .filterFunctionalGateways → after.functionalGateways ≠ [] :=
      fun isFirst isEmpty => stops ⟨isFirst, isEmpty⟩
    have pendingAfter := pending.filtered filtered continues
    have notFirst := first_not_mem_later pending
    rcases newGwFilters_of_pending pendingAfter with ⟨isStart, -⟩ | ⟨-, returns⟩
    · rw [isStart] at notFirst
      exact absurd List.mem_cons_self notFirst
    · rw [returns] at returned
      cases ran : runFilters reads params later after with
      | error failure =>
          rw [ran] at returned
          cases returned
      | ok final =>
          rw [ran] at returned
          cases returned
          exact (runFilters_keeps keeps pendingAfter notFirst holds ran).1

/-- The state returned is one with nothing left to run, or without gateways after the second
filter. -/
theorem newGwFilters_reached (returned : newGwFilters reads params = .ok result) :
    Pending reads params [] result.state ∨ result.state.functionalGateways = [] := by
  simp only [newGwFilters] at returned
  split at returned
  · next isEmpty =>
      cases returned
      exact Or.inr (List.isEmpty_iff.mp isEmpty)
  · next some =>
      left
      cases ran : runFilters reads params laterFilters (filterFunctionalGateways reads params
          (getFunctionalGateways reads params DeciderState.initial)) with
      | error failure =>
          rw [ran] at returned
          cases returned
      | ok final =>
          rw [ran] at returned
          cases returned
          have first : Pending reads params laterFilters _ :=
            Pending.start.filtered rfl fun _ => by simpa using some
          have kept : True ∧ Pending reads params [] final :=
            runFilters_keeps (fun _ _ _ _ _ _ _ => trivial) first (by decide) trivial ran
          exact kept.2

/-- What a filter that meets its condition keeps or renews holds, or is renewed later, when it
is renewed after each filter that does not meet its condition. -/
theorem holds_or_renewed (property : DeciderState → Prop)
    {renews : DeciderState → DeciderFilterName → Bool}
    {condition : DeciderState → DeciderFilterName → Prop}
    (start : property (getFunctionalGateways reads params DeciderState.initial) ∨
      Renewed reads params renews (.filterFunctionalGateways :: laterFilters)
        (getFunctionalGateways reads params DeciderState.initial))
    (keeps : ∀ name later before after, Pending reads params (name :: later) before →
      condition before name → property before ∨ renews before name = true →
        applyFilter reads params name before = .ok after → property after)
    (run : ∀ name later before after, Pending reads params (name :: later) before →
      applyFilter reads params name before = .ok after →
        condition before name ∨ Renewed reads params renews later after)
    (pending : Pending reads params filters state) :
    property state ∨ Renewed reads params renews filters state := by
  induction pending with
  | start => exact start
  | @filtered name later before after pending filtered _ ih =>
      rcases run name later before after pending filtered with meets | isRenewed
      · rcases ih with holds | isRenewed
        · exact Or.inl (keeps name later before after pending meets (Or.inl holds) filtered)
        · cases isRenewed with
          | next renews =>
              exact Or.inl (keeps name later before after pending meets (Or.inr renews) filtered)
          | later filteredAgain isRenewed =>
              rw [filtered] at filteredAgain
              cases filteredAgain
              exact Or.inr isRenewed
      · exact Or.inr isRenewed

theorem newGwFilters_gateways (returned : newGwFilters reads params = .ok result) :
    result.gateways = result.state.functionalGateways := by
  simp only [newGwFilters] at returned
  split at returned
  · next isEmpty =>
      cases returned
      exact (List.isEmpty_iff.mp isEmpty).symm
  · cases ran : runFilters reads params laterFilters (filterFunctionalGateways reads params
        (getFunctionalGateways reads params DeciderState.initial)) with
    | error failure =>
        rw [ran] at returned
        cases returned
    | ok final =>
        rw [ran] at returned
        cases returned
        rfl

/-! ## A plain payment -/

/-- The metadata that asks for all accounts. -/
def allMgasMetadata : String := "\x7b\"enabledForAllMgas\":true\x7d"

def bankMethods : String := "\x7b\"paymentMethods\":[\"NB_HDFC\"]\x7d"

/-- The accounts alone, without any other row, configuration or feature. -/
def plainReads (accounts : List DBMerchantGatewayAccount) : Reads where
  decoders :=
    { value := fun text =>
        if text == bankMethods then
          some (.object [("paymentMethods", .array [.string "NB_HDFC"])])
        else none
      texts := fun text => if text == "[\"USD\"]" then some ["USD"] else none
      fields := fun text =>
        if text == allMgasMetadata then some [("enabledForAllMgas", .bool true)] else none
      internalMetadata := fun _ => none
      paymentFlows := fun _ => none
      supportedPaymentFlows := fun _ => none
      gatewayRule := fun _ => none
      emiAccountDetails := fun _ => none
      supportedNetworks := fun _ => none
      vendorSubMids := fun _ => none
      display := fun _ => "" }
  tables :=
    { merchantGatewayAccounts := some accounts
      gatewayCardInfos := some []
      merchantGatewayCardInfos := some []
      juspayBankCodes := some []
      gatewayPaymentMethodFlows := some []
      merchantGatewayPaymentMethodFlows := some []
      gatewayBankEmiSupports := some []
      gatewayBankEmiSupportV2s := some []
      emiBankCodes := some []
      merchantGatewayAccountSubInfos := some [] }
  configs :=
    { texts := fun _ => none
      gatewaysByText := fun _ => none
      gatewaysByAuthType := fun _ => none
      gatewaysOfAuthTypes := fun _ => none
      gatewaysOfTexts := fun _ => none
      gatewayOfVaults := fun _ => none }
  answers :=
    { isFeatureEnabled := fun _ => false
      isFeatureEnabledByDimension := fun _ _ => false
      isFeatureEnabledForRow := fun _ _ _ => false
      hasFeature := fun _ => false
      isCvvlessFlowEnabled := false
      cardBrand := fun _ => none
      paymentMethodId := fun _ => none
      isKnownCountry := fun _ => true
      isEmiEligible := fun _ _ => false
      textToCurr := some
      isWithinRegisterAmount := fun _ => true }

def plainAccount (id : Int) (gateway : Gateway) : DBMerchantGatewayAccount where
  id := id
  accountDetails := "\x7b\x7d"
  gateway := gateway
  merchantId := "shop"
  paymentMethods := some bankMethods
  supportedPaymentFlows := none
  disabled := some false
  referenceId := none
  supportedCurrencies := none
  supportedTxnType := none

/-- A payment from a bank account to the shop. -/
def plainPayment : DeciderParams where
  dpMerchantAccount :=
    { id := 5, merchantId := "shop", enableGatewayReferenceIdBasedRouting := none }
  dpOrder := { currency := "INR" }
  dpOrderMetadata := { metadata := none }
  dpTxnDetail :=
    { txnObjectType := some .orderPayment
      txnType := none
      isEmi := none
      emiBank := none
      emiTenure := none
      currency := "INR"
      expressCheckout := none
      internalTrackingInfo := none
      internalMetadata := none }
  dpTxnOfferDetails := none
  dpTxnCardInfo :=
    { paymentMethodType := "NB"
      paymentMethod := "NB_HDFC"
      cardIsin := none
      cardSwitchProvider := none
      cardIssuerBankName := some "NB_HDFC"
      cardType := some .nb
      authType := none
      paymentSource := none }
  dpVaultProvider := none
  dpTxnType := none
  dpEnforceGatewayList := none
  dpPriorityLogicOutput := none
  dpEDCCApplied := none

/-- An enabled account and a disabled one. -/
def mixedReads : Reads :=
  plainReads [plainAccount 1 "PAYU", { plainAccount 2 "RAZORPAY" with disabled := some true }]

/-- What a plain payment leaves of them. -/
def plainResult : FilteredGateways where
  gateways := ["PAYU"]
  mgas := []
  state :=
    { functionalGateways := ["PAYU"]
      mgas := [plainAccount 1 "PAYU"].mapM (MerchantGatewayAccount.tryFrom (plainReads []).decoders)
      internalMetaData := none
      isDynamicMgaEnabled := false }

theorem newGwFilters_plain :
    newGwFilters mixedReads plainPayment = .ok plainResult := by
  decide +kernel

end DecisionEngine.GatewayFilter
