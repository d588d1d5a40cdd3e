import DecisionEngine.GatewayFilter.Reintroduction

/-!
# Enabled accounts

The query of all accounts of a merchant has no condition on `disabled`.  It is made when the
metadata asks for all accounts, first to load them and again for the payment method; without
such metadata, every account in the state is an enabled one of the merchant.
-/

namespace DecisionEngine.GatewayFilter

open Scoring Selection

variable {reads : Reads} {params : DeciderParams} {name : DeciderFilterName}
  {filters later : List DeciderFilterName} {state before after : DeciderState}
  {mga : MerchantGatewayAccount} {result : FilteredGateways}

/-- The account of a row of the merchant that is not disabled. -/
def IsEnabledAccount (reads : Reads) (params : DeciderParams) (mga : MerchantGatewayAccount) :
    Prop :=
  ∃ row ∈ reads.tables.merchantGatewayAccounts.getD [],
    row.merchantId = params.dpMerchantAccount.merchantId ∧ row.disabled ≠ some true ∧
      MerchantGatewayAccount.tryFrom reads.decoders row = some mga

def OnlyEnabled (reads : Reads) (params : DeciderParams) (state : DeciderState) : Prop :=
  ∀ mga ∈ state.accounts, IsEnabledAccount reads params mga

/-! ## The queries -/

theorem tryFrom_disabled {decoders : Decoders} {row : DBMerchantGatewayAccount}
    (parses : MerchantGatewayAccount.tryFrom decoders row = some mga) :
    mga.disabled = row.disabled := by
  rcases Option.map_eq_some_iff.mp parses with ⟨_, _, rfl⟩
  rfl

theorem all_not_iff {flag : Option Bool} : flag.all (!·) = true ↔ flag ≠ some true := by
  cases flag with
  | none => simp
  | some isSet => simp

/-- The query by reference ids finds enabled accounts. -/
theorem isEnabledAccount_of_tableMgas (found : mga ∈ tableMgas reads params) :
    IsEnabledAccount reads params mga := by
  rcases List.mem_filterMap.mp found with ⟨row, isRow, parses⟩
  rcases Rows.mem_findAll.mp isRow with ⟨inTable, passes⟩
  simp only [Bool.and_eq_true, beq_iff_eq, all_not_iff] at passes
  exact ⟨row, inTable, passes.1.1, passes.2, parses⟩

/-- The query of all accounts finds the enabled ones among those that it finds. -/
theorem isEnabledAccount_iff (found : mga ∈ allMgas reads params) :
    IsEnabledAccount reads params mga ↔ mga.disabled ≠ some true := by
  constructor
  · rintro ⟨row, -, -, isEnabled, parses⟩
    rwa [tryFrom_disabled parses]
  · intro isEnabled
    rcases List.mem_filterMap.mp (List.mem_filter.mp found).1 with ⟨row, isRow, parses⟩
    rcases Rows.mem_findAll.mp isRow with ⟨inTable, isMerchant⟩
    rw [tryFrom_disabled parses] at isEnabled
    exact ⟨row, inTable, by simpa using isMerchant, isEnabled, parses⟩

/-! ## The first load -/

def isEnforced (params : DeciderParams) (mga : MerchantGatewayAccount) : Bool :=
  !(params.dpTxnDetail.isEmi.getD false || isRecurringPaymentTransaction params.dpTxnDetail) ||
    (params.dpEnforceGatewayList.getD []).isEmpty ||
      (params.dpEnforceGatewayList.getD []).contains mga.gateway

def convertsCurrency (reads : Reads) (params : DeciderParams) (mga : MerchantGatewayAccount) :
    Bool :=
  !(params.dpTxnDetail.currency != params.dpOrder.currency &&
      params.dpEDCCApplied == some true) ||
    ((reads.gateways "EDCC_SUPPORTED_GATEWAYS").contains mga.gateway &&
      checkIfEnabledInMga reads.decoders mga "DYNAMIC_CURRENCY_CONVERSION" "isEdccSupported")

def dropsReversePenny (reads : Reads) (params : DeciderParams) (mga : MerchantGatewayAccount) :
    Bool :=
  !isReversePennyDropTxn reads.decoders params.dpTxnDetail || checkForReversePennyDropInMga mga

/-- The tests of an account when all accounts are loaded. -/
def isLoaded (reads : Reads) (params : DeciderParams) (mga : MerchantGatewayAccount) : Bool :=
  isEnforced params mga && convertsCurrency reads params mga &&
    currencyFilter reads params.dpTxnDetail.currency mga && dropsReversePenny reads params mga

variable {mgas : List MerchantGatewayAccount}

theorem mem_enforcedGatewayAccounts :
    mga ∈ enforcedGatewayAccounts params mgas ↔ mga ∈ mgas ∧ isEnforced params mga = true := by
  unfold enforcedGatewayAccounts isEnforced
  split
  · next enforces =>
      split
      · next isNone => simp [isNone]
      · next isNil => simp [isNil]
      · next enGatewayList notEmpty isList =>
          have someGateway : enGatewayList.isEmpty = false := by simpa using notEmpty
          simp [isList, enforces, someGateway]
  · next free => simp [free]

theorem mem_edccMgas :
    mga ∈ edccMgas reads params mgas ↔ mga ∈ mgas ∧ convertsCurrency reads params mga = true := by
  unfold edccMgas convertsCurrency
  split
  · next converts => simp [converts]
  · next same => simp [same]

theorem mem_rpdFilterMgas :
    mga ∈ rpdFilterMgas reads params mgas ↔
      mga ∈ mgas ∧ dropsReversePenny reads params mga = true := by
  unfold rpdFilterMgas dropsReversePenny
  split
  · next isDrop => simp [isDrop]
  · next noDrop => simp [noDrop]

/-- With all accounts asked for, those that pass the tests are loaded. -/
theorem mem_loaded_iff (all : isEnabledForAllMgas reads.decoders params = true) :
    mga ∈ (getFunctionalGateways reads params state).accounts ↔
      mga ∈ allMgas reads params ∧ isLoaded reads params mga = true := by
  have usable : mga ∈ edccMgas reads params (enforcedGatewayAccounts params
      (allMgas reads params)) ↔ (mga ∈ allMgas reads params ∧ isEnforced params mga = true) ∧
        convertsCurrency reads params mga = true := by
    rw [mem_edccMgas, mem_enforcedGatewayAccounts]
  simp only [getFunctionalGateways, loadMgas, referencedMgas, flowMgas, eligibleMgas, all, if_true,
    isLoaded, Bool.and_eq_true]
  split
  · next isEmpty =>
      rw [List.isEmpty_iff.mp isEmpty] at usable
      constructor
      · intro isMga
        cases isMga
      · rintro ⟨isMga, ⟨⟨enforced, converts⟩, -⟩, -⟩
        exact absurd (usable.mpr ⟨⟨isMga, enforced⟩, converts⟩) List.not_mem_nil
  · rw [accounts_setGwsAndMgas, mem_rpdFilterMgas, List.mem_filter, usable]
    simp only [and_assoc]

/-- Every account that passes the tests of the first load is enabled. -/
def StartsEnabled (reads : Reads) (params : DeciderParams) : Prop :=
  isEnabledForAllMgas reads.decoders params = true → ∀ mga ∈ allMgas reads params,
    isLoaded reads params mga = true → mga.disabled ≠ some true

theorem onlyEnabled_start_iff :
    OnlyEnabled reads params (getFunctionalGateways reads params .initial) ↔
      StartsEnabled reads params := by
  unfold OnlyEnabled StartsEnabled
  cases all : isEnabledForAllMgas reads.decoders params with
  | true =>
      simp only [mem_loaded_iff all, forall_const, and_imp]
      constructor
      · intro enabled mga isMga isLoaded
        exact (isEnabledAccount_iff isMga).mp (enabled mga isMga isLoaded)
      · intro enabled mga isMga isLoaded
        exact (isEnabledAccount_iff isMga).mpr (enabled mga isMga isLoaded)
  | false =>
      refine iff_of_true ?_ nofun
      intro mga isKept
      rcases getFunctionalGateways_spec DeciderState.initial with ⟨mgas, loaded, isChosen⟩
      have isMgas : (getFunctionalGateways reads params .initial).accounts = mgas :=
        congrArg Labelled.kept isChosen
      rw [isMgas] at isKept
      have isTable := loaded isKept
      rw [loadMgas, all, if_neg Bool.false_ne_true] at isTable
      exact isEnabledAccount_of_tableMgas (List.mem_filter.mp isTable).1

/-! ## One filter -/

/-- Every account that the filter reads without a condition on `disabled` and admits is enabled. -/
def LoadsEnabled (reads : Reads) (params : DeciderParams) (before : DeciderState) :
    DeciderFilterName → Prop
  | .forPaymentMethod => isEnabledForAllMgas reads.decoders params = true →
      skipsPaymentMethod params before = false →
        ∀ mga ∈ allMgas reads params, mga.gateway ∈ before.functionalGateways →
          acceptsPaymentMethod reads params before.functionalGateways mga = true →
            mga.disabled ≠ some true
  | _ => True

/-- The filter sets accounts of the table, whatever the accounts before it. -/
def setsAnew (reads : Reads) (params : DeciderParams) (before : DeciderState) :
    DeciderFilterName → Bool
  | .forValidationType => validatesTableMgas reads params
  | .forPaymentMethod => isEnabledForAllMgas reads.decoders params &&
      !skipsPaymentMethod params before && hasPaymentMethod reads params
  | _ => false

theorem reloads_of_setsAnew (anew : setsAnew reads params before name = true) :
    reloads reads params name = true := by
  cases name with
  | forValidationType => exact anew
  | forPaymentMethod =>
      simp only [setsAnew, Bool.and_eq_true] at anew
      exact anew.1.1
  | _ => cases anew

theorem onlyEnabled_paymentMethod (all : isEnabledForAllMgas reads.decoders params = true)
    (loads : LoadsEnabled reads params before .forPaymentMethod)
    (enabled : OnlyEnabled reads params before ∨
      setsAnew reads params before .forPaymentMethod = true) :
    OnlyEnabled reads params (filterGatewaysForPaymentMethod reads params before) := by
  rcases filterGatewaysForPaymentMethod_of_all before all with
    ⟨same, skips⟩ | ⟨noSkip, mgas, isSet, isKept⟩
  · rw [same]
    refine enabled.resolve_right ?_
    rcases skips with skips | noMethod
    · simp [setsAnew, skips]
    · simp [setsAnew, noMethod]
  · rw [isSet]
    intro mga kept
    rcases (isKept mga).mp kept with ⟨isMga, functional, accepts⟩
    exact (isEnabledAccount_iff isMga).mpr (loads all noSkip mga isMga functional accepts)

/-- Enabled accounts before a filter, or none that matter, leave enabled accounts after it. -/
theorem onlyEnabled_applyFilter (pending : Pending reads params (name :: later) before)
    (loads : LoadsEnabled reads params before name)
    (enabled : OnlyEnabled reads params before ∨ setsAnew reads params before name = true)
    (filtered : applyFilter reads params name before = .ok after) :
    OnlyEnabled reads params after := by
  cases reloading : reloads reads params name with
  | false =>
      have enabledBefore := enabled.resolve_right fun anew => by
        rw [reloads_of_setsAnew anew] at reloading
        cases reloading
      have narrows := (narrowing_applyFilter reloading filtered).narrows
        (coupled_of_pending pending)
      exact fun mga kept => enabledBefore mga (narrows.kept kept)
  | true =>
      cases name with
      | forValidationType =>
          have tableRead : filterGatewaysForValidationType reads params before = _ :=
            filterGatewaysForValidationType_of_table reloading
          rw [applyFilter, tableRead] at filtered
          rw [← Except.ok.inj filtered]
          intro mga kept
          exact isEnabledAccount_of_tableMgas (List.mem_filter.mp kept).1
      | forPaymentMethod =>
          cases filtered
          exact onlyEnabled_paymentMethod reloading loads enabled
      | _ => cases reloading

theorem loadsEnabled_of_onlyEnabled (enabled : OnlyEnabled reads params after)
    (filtered : applyFilter reads params name before = .ok after) :
    LoadsEnabled reads params before name := by
  cases name with
  | forPaymentMethod =>
      cases filtered
      intro all noSkip mga isMga functional accepts
      rcases filterGatewaysForPaymentMethod_of_all before all with
        ⟨-, skips | noMethod⟩ | ⟨-, mgas, isSet, isKept⟩
      · rw [noSkip] at skips
        cases skips
      · rw [acceptsPaymentMethod_of_not_has noMethod] at accepts
        cases accepts
      · refine (isEnabledAccount_iff isMga).mp (enabled mga ?_)
        rw [isSet]
        exact (isKept mga).mpr ⟨isMga, functional, accepts⟩
  | _ => trivial

/-! ## Whole runs -/

/-- Whatever a filter of the run loads from the table is enabled, except that what is loaded
first need not be when a later filter sets the accounts anew. -/
def RunLoadsEnabled (reads : Reads) (params : DeciderParams) : Prop :=
  (StartsEnabled reads params ∨ Renewed reads params (setsAnew reads params)
    (.filterFunctionalGateways :: laterFilters) (getFunctionalGateways reads params .initial)) ∧
  ∀ name later before, Pending reads params (name :: later) before →
    LoadsEnabled reads params before name

theorem runLoadsEnabled_of_single (single : isEnabledForAllMgas reads.decoders params = false) :
    RunLoadsEnabled reads params := by
  constructor
  · left
    intro all
    rw [single] at all
    cases all
  · intro name later before _
    cases name with
    | forPaymentMethod =>
        intro all
        rw [single] at all
        cases all
    | _ => trivial

theorem onlyEnabled_of_pending (run : RunLoadsEnabled reads params)
    (pending : Pending reads params filters state) :
    OnlyEnabled reads params state ∨
      Renewed reads params (setsAnew reads params) filters state := by
  have keeps : ∀ name later before after, Pending reads params (name :: later) before →
      LoadsEnabled reads params before name →
        OnlyEnabled reads params before ∨ setsAnew reads params before name = true →
          applyFilter reads params name before = .ok after → OnlyEnabled reads params after := by
    intro name later before after pending loads enabled filtered
    exact onlyEnabled_applyFilter pending loads enabled filtered
  refine holds_or_renewed (OnlyEnabled reads params) (run.1.imp_left onlyEnabled_start_iff.mpr)
    keeps ?_ pending
  intro name later before _ pending _
  exact Or.inl (run.2 name later before pending)

theorem onlyEnabled_of_returned (run : RunLoadsEnabled reads params)
    (returned : newGwFilters reads params = .ok result) :
    OnlyEnabled reads params result.state := by
  rcases newGwFilters_reached returned with pending | noGateways
  · rcases onlyEnabled_of_pending run pending with enabled | renewed
    · exact enabled
    · cases renewed
  · intro mga kept
    have listed : mga.gateway ∈ result.state.functionalGateways :=
      ((coupled_of_returned returned).mem_labels_iff _).mpr ⟨mga, kept, rfl⟩
    rw [noGateways] at listed
    cases listed

/-- The accounts first loaded, and those that a filter leaves of enabled ones, are enabled
exactly when those that are read without a condition on `disabled` and pass the tests are; in
a run in which they are, every gateway returned is of an enabled account and every account
returned is one. -/
theorem enabled_accounts_used (reads : Reads) (params : DeciderParams) :
    (OnlyEnabled reads params (getFunctionalGateways reads params .initial) ↔
      StartsEnabled reads params) ∧
    (∀ name later before after, Pending reads params (name :: later) before →
      OnlyEnabled reads params before → applyFilter reads params name before = .ok after →
        (OnlyEnabled reads params after ↔ LoadsEnabled reads params before name)) ∧
    (RunLoadsEnabled reads params → ∀ result, newGwFilters reads params = .ok result →
      (∀ gw ∈ result.gateways, ∃ mga, IsEnabledAccount reads params mga ∧ mga.gateway = gw) ∧
        ∀ mga ∈ result.state.accounts, IsEnabledAccount reads params mga) := by
  refine ⟨onlyEnabled_start_iff, ?_, ?_⟩
  · intro name later before after pending enabled filtered
    constructor
    · intro enabledAfter
      exact loadsEnabled_of_onlyEnabled enabledAfter filtered
    · intro loads
      exact onlyEnabled_applyFilter pending loads (Or.inl enabled) filtered
  · intro run result returned
    have enabled := onlyEnabled_of_returned run returned
    refine ⟨?_, enabled⟩
    intro gw listed
    rw [newGwFilters_gateways returned] at listed
    rcases ((coupled_of_returned returned).mem_labels_iff gw).mp listed with ⟨mga, kept, isGw⟩
    exact ⟨mga, enabled mga kept, isGw⟩

theorem enabled_accounts_used_plain :
    ∃ mga, IsEnabledAccount mixedReads plainPayment mga ∧ mga.gateway = "PAYU" := by
  have single : isEnabledForAllMgas mixedReads.decoders plainPayment = false := rfl
  have used := (enabled_accounts_used _ _).2.2 (runLoadsEnabled_of_single single) _
    newGwFilters_plain
  exact used.1 "PAYU" List.mem_cons_self

/-- A plain payment whose metadata asks for all accounts. -/
def allMgasPayment : DeciderParams :=
  { plainPayment with dpOrderMetadata := { metadata := some allMgasMetadata } }

def disabledAccount : DBMerchantGatewayAccount :=
  { plainAccount 1 "PAYU" with disabled := some true }

/-- The merchant's only account is disabled, and its gateway is returned. -/
theorem enabled_accounts_used_counterexample :
    (newGwFilters (plainReads [disabledAccount]) allMgasPayment).map (·.gateways) =
        .ok ["PAYU"] ∧
      ∀ mga, ¬ IsEnabledAccount (plainReads [disabledAccount]) allMgasPayment mga := by
  refine ⟨by decide +kernel, ?_⟩
  rintro mga ⟨row, isRow, -, isEnabled, -⟩
  rw [List.mem_singleton.mp isRow] at isEnabled
  exact isEnabled rfl

end DecisionEngine.GatewayFilter
