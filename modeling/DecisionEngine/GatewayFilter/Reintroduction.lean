import DecisionEngine.GatewayFilter.Pipeline

/-!
# Filters that bring accounts back

A filter leaves fewer gateways and fewer accounts, except the two that read the accounts
from the table again: the validation of a bank account, and the payment method when the
metadata asks for all accounts.  They bring back what earlier filters removed and their own
tests admit.
-/

namespace DecisionEngine.GatewayFilter

open Scoring Selection

variable {reads : Reads} {params : DeciderParams} {name : DeciderFilterName}
  {filters later : List DeciderFilterName} {state before after : DeciderState}
  {result : FilteredGateways}

/-! ## One filter -/

/-- Filters that list each gateway as often as before, or once. -/
def thins : DeciderFilterName → Bool
  | .filterFunctionalGateways | .forAuthType | .forValidationType | .forEmi
  | .forPaymentMethod | .forOTM | .forPixFlows => false
  | _ => true

theorem thinning_applyFilter (isThin : thins name = true)
    (filtered : applyFilter reads params name before = .ok after) : before.Thinning after := by
  cases name with
  | filterFunctionalGateways => cases isThin
  | forAuthType => cases isThin
  | forValidationType => cases isThin
  | forEmi => cases isThin
  | forPaymentMethod => cases isThin
  | forOTM => cases isThin
  | forPixFlows => cases isThin
  | forBrand =>
      cases filtered
      exact thinning_setGws_filter _
  | forTxnOfferDetails =>
      cases filtered
      exact thinning_filterGatewaysForTxnOfferDetails
  | forTokenProvider =>
      cases filtered
      exact thinning_filterGatewaysForTokenProvider
  | forWallet =>
      cases filtered
      exact thinning_filterForKind _ _ _
  | forNbOnly =>
      cases filtered
      exact thinning_filterGatewaysForNbOnly
  | forConsumerFinance =>
      cases filtered
      exact thinning_filterForKind _ _ _
  | forUpi =>
      cases filtered
      exact thinning_filterGatewaysForUpi
  | forTxnType =>
      cases filtered
      exact thinning_filterGatewaysForTxnType
  | forTxnDetailType =>
      cases filtered
      exact thinning_setGws_filter _
  | forReward =>
      cases filtered
      exact thinning_filterForKind _ _ _
  | forCash =>
      cases filtered
      exact thinning_filterGatewaysForCash
  | forSplitSettlement =>
      cases filtered
      exact thinning_filterFunctionalGatewaysForSplitSettlement
  | forMerchantRequiredFlow =>
      cases filtered
      exact thinning_filterFunctionalGatewaysForMerchantRequiredFlow
  | forMGASelectionIntegrity =>
      cases filtered
      exact thinning_filterGatewaysForMGASelectionIntegrity

/-- The filter reads accounts from the table although they are loaded. -/
def reloads (reads : Reads) (params : DeciderParams) : DeciderFilterName → Bool
  | .forValidationType => validatesTableMgas reads params
  | .forPaymentMethod => isEnabledForAllMgas reads.decoders params
  | _ => false

theorem narrowing_applyFilter (noReload : reloads reads params name = false)
    (filtered : applyFilter reads params name before = .ok after) : before.Narrowing after := by
  cases isThin : thins name with
  | true => exact (thinning_applyFilter isThin filtered).toNarrowing
  | false =>
      cases name with
      | filterFunctionalGateways =>
          cases filtered
          exact narrowing_filterFunctionalGateways
      | forAuthType => exact narrowing_filterGatewaysForAuthType filtered
      | forValidationType => exact narrowing_filterGatewaysForValidationType noReload filtered
      | forEmi =>
          cases filtered
          exact narrowing_filterGatewaysForEmi
      | forPaymentMethod =>
          cases filtered
          exact (thinning_filterGatewaysForPaymentMethod noReload).toNarrowing
      | forOTM =>
          cases filtered
          exact narrowing_filterForBankFlow
      | forPixFlows =>
          cases filtered
          exact narrowing_filterForBankFlow
      | _ => cases isThin

/-- A filter that reloads keeps the state, or the accounts that it chooses. -/
theorem applyFilter_of_reloads (reloading : reloads reads params name = true)
    (filtered : applyFilter reads params name before = .ok after) :
    after = before ∨ ∃ mgas, after = setGwsAndMgas mgas before := by
  cases name with
  | forValidationType =>
      have tableRead : filterGatewaysForValidationType reads params before = _ :=
        filterGatewaysForValidationType_of_table reloading
      rw [applyFilter, tableRead] at filtered
      exact Or.inr ⟨_, (Except.ok.inj filtered).symm⟩
  | forPaymentMethod =>
      cases filtered
      rcases filterGatewaysForPaymentMethod_of_all before reloading with
        ⟨same, -⟩ | ⟨-, mgas, isSet, -⟩
      · exact Or.inl same
      · exact Or.inr ⟨mgas, isSet⟩
  | _ => cases reloading

theorem coupled_applyFilter (coupled : before.Coupled)
    (filtered : applyFilter reads params name before = .ok after) : after.Coupled := by
  cases reloading : reloads reads params name with
  | false => exact (narrowing_applyFilter reloading filtered).coupled coupled
  | true =>
      rcases applyFilter_of_reloads reloading filtered with rfl | ⟨mgas, rfl⟩
      · exact coupled
      · exact coupled_choose mgas

/-- Once they are loaded, the functional gateways are those of the accounts. -/
theorem coupled_of_pending (pending : Pending reads params filters state) : state.Coupled := by
  induction pending with
  | start =>
      rcases getFunctionalGateways_spec DeciderState.initial with ⟨mgas, -, isChosen⟩
      rw [DeciderState.Coupled, isChosen]
      exact coupled_choose mgas
  | filtered _ filtered _ ih => exact coupled_applyFilter ih filtered

theorem coupled_of_returned (returned : newGwFilters reads params = .ok result) :
    result.state.Coupled := by
  have keeps : ∀ name later before after, Pending reads params (name :: later) before →
      before.Coupled → applyFilter reads params name before = .ok after → after.Coupled := by
    intro name later before after _ coupled filtered
    exact coupled_applyFilter coupled filtered
  have loaded : (getFunctionalGateways reads params .initial).Coupled :=
    coupled_of_pending Pending.start
  exact newGwFilters_keeps keeps .start rfl (keeps _ _ _ _ .start loaded rfl) returned

/-! ## When no account comes back -/

/-- What a filter reads from the table and admits is still in the state. -/
def StaysNarrow (reads : Reads) (params : DeciderParams) (before : DeciderState) :
    DeciderFilterName → Prop
  | .forValidationType => validatesTableMgas reads params = true →
      ∀ mga ∈ tableMgas reads params,
        isValidated reads params .tpv (tableMgas reads params) mga = true → mga ∈ before.accounts
  | .forPaymentMethod => isEnabledForAllMgas reads.decoders params = true →
      skipsPaymentMethod params before = false →
        ∀ mga ∈ allMgas reads params, mga.gateway ∈ before.functionalGateways →
          acceptsPaymentMethod reads params before.functionalGateways mga = true →
            mga ∈ before.accounts
  | _ => True

theorem narrows_setGwsAndMgas_iff {mgas : List MerchantGatewayAccount} (coupled : before.Coupled) :
    before.Narrows (setGwsAndMgas mgas before) ↔ mgas ⊆ before.accounts := by
  constructor
  · intro narrows
    exact narrows.kept
  · intro fewer
    exact (narrowing_choose fewer).narrows coupled

theorem narrows_self (state : DeciderState) : state.Narrows state :=
  ⟨List.Subset.refl _, List.Subset.refl _⟩

theorem narrows_validation_iff (coupled : before.Coupled)
    (filtered : applyFilter reads params .forValidationType before = .ok after) :
    before.Narrows after ↔ StaysNarrow reads params before .forValidationType := by
  cases reloading : validatesTableMgas reads params with
  | false =>
      have noReload : reloads reads params .forValidationType = false := reloading
      have narrows : before.Narrows after :=
        (narrowing_applyFilter noReload filtered).narrows coupled
      simp [StaysNarrow, reloading, narrows]
  | true =>
      have tableRead : filterGatewaysForValidationType reads params before = _ :=
        filterGatewaysForValidationType_of_table reloading
      rw [applyFilter, tableRead] at filtered
      rw [← Except.ok.inj filtered, setValidatedMgas, narrows_setGwsAndMgas_iff coupled]
      simp only [StaysNarrow, reloading, forall_const, List.subset_def, List.mem_filter, and_imp]

theorem narrows_paymentMethod_iff (coupled : before.Coupled)
    (filtered : applyFilter reads params .forPaymentMethod before = .ok after) :
    before.Narrows after ↔ StaysNarrow reads params before .forPaymentMethod := by
  cases reloading : isEnabledForAllMgas reads.decoders params with
  | false =>
      have noReload : reloads reads params .forPaymentMethod = false := reloading
      have narrows : before.Narrows after :=
        (narrowing_applyFilter noReload filtered).narrows coupled
      simp [StaysNarrow, reloading, narrows]
  | true =>
      cases filtered
      rcases filterGatewaysForPaymentMethod_of_all before reloading with
        ⟨same, skips | noMethod⟩ | ⟨noSkip, mgas, isSet, isKept⟩
      · simp [StaysNarrow, same, narrows_self, skips]
      · simp [StaysNarrow, same, narrows_self, acceptsPaymentMethod_of_not_has noMethod]
      · rw [isSet, narrows_setGwsAndMgas_iff coupled]
        simp only [StaysNarrow, reloading, noSkip, forall_const, List.subset_def, isKept, and_imp]

/-- A filter leaves only gateways and accounts that were left before it, exactly when the
accounts that it reads from the table and admits are among these. -/
theorem narrows_applyFilter_iff (pending : Pending reads params (name :: later) before)
    (filtered : applyFilter reads params name before = .ok after) :
    before.Narrows after ↔ StaysNarrow reads params before name := by
  have coupled := coupled_of_pending pending
  have others (noReload : reloads reads params name = false) : before.Narrows after :=
    (narrowing_applyFilter noReload filtered).narrows coupled
  cases name with
  | forValidationType => exact narrows_validation_iff coupled filtered
  | forPaymentMethod => exact narrows_paymentMethod_iff coupled filtered
  | _ => exact iff_of_true (others rfl) trivial

/-! ## Whole runs -/

/-- Every filter that is run stays narrow. -/
def RunStaysNarrow (reads : Reads) (params : DeciderParams) : Prop :=
  ∀ name later before, Pending reads params (name :: later) before →
    StaysNarrow reads params before name

/-- With filters that stay narrow, the result has what each filter left at most. -/
theorem narrows_result (stays : RunStaysNarrow reads params)
    (pending : Pending reads params (name :: later) before)
    (filtered : applyFilter reads params name before = .ok after)
    (returned : newGwFilters reads params = .ok result) : after.Narrows result.state := by
  have keeps : ∀ name later before next, Pending reads params (name :: later) before →
      after.Narrows before → applyFilter reads params name before = .ok next →
        after.Narrows next := by
    intro name later before next pending narrows filtered
    exact narrows.trans ((narrows_applyFilter_iff pending filtered).mpr (stays _ _ _ pending))
  exact newGwFilters_keeps keeps pending filtered (narrows_self after) returned

/-- A filter brings nothing back exactly when the accounts that it reads from the table and
admits are still in the state; in a run in which all filters do so, what a filter removes
is not in the result. -/
theorem filters_narrow (pending : Pending reads params (name :: later) before)
    (filtered : applyFilter reads params name before = .ok after) :
    (before.Narrows after ↔ StaysNarrow reads params before name) ∧
      (RunStaysNarrow reads params → ∀ result, newGwFilters reads params = .ok result →
        result.gateways ⊆ after.functionalGateways ∧
          result.state.accounts ⊆ after.accounts) := by
  refine ⟨narrows_applyFilter_iff pending filtered, ?_⟩
  intro stays result returned
  have narrows := narrows_result stays pending filtered returned
  rw [newGwFilters_gateways returned]
  exact ⟨narrows.labels, narrows.kept⟩

/-- A validation of the bank account of a plain payment. -/
def bankValidation : DeciderParams :=
  { plainPayment with
    dpTxnDetail := { plainPayment.dpTxnDetail with txnObjectType := some .tpvPayment } }

/-- Of two accounts the one for another currency has card information for the bank. -/
def foreignAccountReads : Reads :=
  let accounts := [{ plainAccount 1 "RAZORPAY" with supportedCurrencies := some "[\"USD\"]" },
    plainAccount 2 "PAYU"]
  let plain := plainReads accounts
  { plain with
    tables :=
      { plain.tables with
        juspayBankCodes := some [{ id := 7, bankCode := "NB_HDFC" }]
        gatewayCardInfos := some [{
          id := 10
          isin := none
          gateway := some "RAZORPAY"
          authType := none
          juspayBankCodeId := some 7
          disabled := some false
          validationType := some "TPV"
          paymentMethodType := some "NB" }]
        merchantGatewayCardInfos := some [{
          id := 20
          disabled := false
          gatewayCardInfoId := 10
          merchantAccountId := 5
          merchantGatewayAccountId := some 1 }] } }

def loadedForeign : DeciderState :=
  getFunctionalGateways foreignAccountReads bankValidation .initial

def functionalForeign : DeciderState :=
  filterFunctionalGateways foreignAccountReads bankValidation loadedForeign

/-- What a plain payment has before its later filters. -/
def functionalPlain : DeciderState :=
  filterFunctionalGateways mixedReads plainPayment
    (getFunctionalGateways mixedReads plainPayment .initial)

theorem validates_foreign :
    (∃ later, Pending foreignAccountReads bankValidation (.forValidationType :: later)
      functionalForeign) ∧
    applyFilter foreignAccountReads bankValidation .forValidationType functionalForeign =
      .ok (setValidatedMgas foreignAccountReads bankValidation .tpv
        (tableMgas foreignAccountReads bankValidation) functionalForeign) := by
  have started : Pending foreignAccountReads bankValidation laterFilters functionalForeign :=
    Pending.start.filtered rfl fun _ => by decide +kernel
  exact ⟨⟨_, (started.filtered rfl nofun).filtered rfl nofun⟩,
    filterGatewaysForValidationType_of_table (by decide +kernel)⟩

theorem filters_narrow_validation :
    (∃ after,
      applyFilter foreignAccountReads bankValidation .forValidationType functionalForeign =
        .ok after ∧
      (functionalForeign.Narrows after ↔
        StaysNarrow foreignAccountReads bankValidation functionalForeign .forValidationType)) ∧
      plainResult.gateways ⊆ functionalPlain.functionalGateways := by
  rcases validates_foreign with ⟨⟨later, pending⟩, validated⟩
  have stays : RunStaysNarrow mixedReads plainPayment := by
    intro name later before _
    cases name <;> first | exact trivial | exact nofun
  have started : Pending mixedReads plainPayment _ _ := .start
  exact ⟨⟨_, validated, (filters_narrow pending validated).1⟩,
    ((filters_narrow started rfl).2 stays plainResult newGwFilters_plain).1⟩

/-- The account that the currency filter removed is the only one in the result. -/
theorem filters_narrow_counterexample :
    (∃ later before after,
      Pending foreignAccountReads bankValidation (.forValidationType :: later) before ∧
        applyFilter foreignAccountReads bankValidation .forValidationType before = .ok after ∧
          ¬ before.Narrows after) ∧
      loadedForeign.functionalGateways = ["PAYU"] ∧
      (newGwFilters foreignAccountReads bankValidation).map (·.gateways) = .ok ["RAZORPAY"] := by
  rcases validates_foreign with ⟨⟨later, pending⟩, validated⟩
  refine ⟨⟨_, _, _, pending, validated, ?_⟩, by decide +kernel, by decide +kernel⟩
  intro narrows
  have listed := narrows.labels (a := "RAZORPAY") (by decide +kernel)
  exact absurd listed (by decide +kernel)

end DecisionEngine.GatewayFilter
