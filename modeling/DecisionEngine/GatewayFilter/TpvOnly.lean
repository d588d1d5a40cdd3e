import DecisionEngine.GatewayFilter.Pipeline

/-!
# Accounts for validations only

A payment that is neither a validation nor a mandate loses the gateways of accounts that are
for validations only.  The accounts of a gateway are compared with themselves, so a gateway
with one such account is lost whatever its other accounts are for.
-/

namespace DecisionEngine.GatewayFilter

open Scoring

section TpvOnly

variable (reads : Reads) (params : DeciderParams)

/-- The accounts of a gateway that are enabled for the order's reference ids. -/
def accountsOf (gw : Gateway) : List MerchantGatewayAccount :=
  (tableMgas reads params).filter fun mga => mga.gateway = gw

def HasTpvOnly (gw : Gateway) : Prop :=
  ∃ mga ∈ accountsOf reads params gw, isTpvOnlyGateway reads.decoders mga = true

def AllTpvOnly (gw : Gateway) : Prop :=
  ∀ mga ∈ accountsOf reads params gw, isTpvOnlyGateway reads.decoders mga = true

/-- A gateway is lost when it has an account, and all of them are for validations only. -/
def LosesTpvOnly (before after : DeciderState) : Prop :=
  ∀ gw ∈ before.functionalGateways, gw ∉ after.functionalGateways ↔
    accountsOf reads params gw ≠ [] ∧ AllTpvOnly reads params gw

/-- One of the gateways is configured as one with accounts for validations only. -/
def ChecksTpvOnly (state : DeciderState) : Prop :=
  intersect (reads.gateways "TPV_ONLY_SUPPORTED_GATEWAYS") state.functionalGateways ≠ []

variable {reads params} {gw : Gateway} {state after : DeciderState}

/-- Each group of accounts has the size of itself. -/
theorem mem_gatewaysToBeRemoved_self {mgas : List MerchantGatewayAccount} :
    gw ∈ gatewaysToBeRemoved mgas mgas ↔ ∃ mga ∈ mgas, mga.gateway = gw := by
  rw [gatewaysToBeRemoved, List.mem_filter, List.mem_dedup, List.mem_map]
  exact and_iff_left (beq_self_eq_true _)

theorem exists_tpvOnlyAccount_iff :
    (∃ mga ∈ getTpvOnlyGatewayAccounts reads.decoders reads.tables.merchantGatewayAccounts
        params.dpMerchantAccount.merchantId (getAllPossibleRefIds reads.decoders params),
      mga.gateway = gw) ↔ gw ≠ "MORPHEUS" ∧ HasTpvOnly reads params gw := by
  simp only [getTpvOnlyGatewayAccounts, filterMorpheus, HasTpvOnly, accountsOf, tableMgas,
    List.mem_filter, bne_iff_ne, decide_eq_true_eq]
  constructor
  · rintro ⟨mga, ⟨⟨listed, notMorpheus⟩, tpvOnly⟩, rfl⟩
    exact ⟨notMorpheus, mga, ⟨listed, rfl⟩, tpvOnly⟩
  · rintro ⟨notMorpheus, mga, ⟨listed, rfl⟩, tpvOnly⟩
    exact ⟨mga, ⟨⟨listed, notMorpheus⟩, tpvOnly⟩, rfl⟩

/-- What the filter removes. -/
theorem notMem_filterForTpvOnly_iff (listed : gw ∈ state.functionalGateways) :
    gw ∉ (filterForTpvOnly reads params state).functionalGateways ↔
      ChecksTpvOnly reads state ∧ gw ≠ "MORPHEUS" ∧ HasTpvOnly reads params gw := by
  rw [filterForTpvOnly]
  by_cases checks : ChecksTpvOnly reads state
  · have configured : reads.gateways "TPV_ONLY_SUPPORTED_GATEWAYS" ≠ [] := by
      intro none
      rw [ChecksTpvOnly, none] at checks
      exact checks rfl
    have entered : (!(reads.gateways "TPV_ONLY_SUPPORTED_GATEWAYS").isEmpty &&
        !(intersect (reads.gateways "TPV_ONLY_SUPPORTED_GATEWAYS")
          state.functionalGateways).isEmpty) = true := by
      rw [Bool.and_eq_true, Bool.not_eq_true', Bool.not_eq_true', List.isEmpty_eq_false_iff,
        List.isEmpty_eq_false_iff]
      exact ⟨configured, checks⟩
    dsimp only
    rw [if_pos entered, setGws, List.mem_filter, ← exists_tpvOnlyAccount_iff,
      ← mem_gatewaysToBeRemoved_self]
    simp only [listed, checks, true_and, Bool.not_eq_true', ← List.contains_iff_mem,
      Bool.not_eq_false]
  · have skipped : ¬ (!(reads.gateways "TPV_ONLY_SUPPORTED_GATEWAYS").isEmpty &&
        !(intersect (reads.gateways "TPV_ONLY_SUPPORTED_GATEWAYS")
          state.functionalGateways).isEmpty) = true := by
      rw [Bool.and_eq_true, Bool.not_eq_true' (List.isEmpty (intersect _ _)),
        List.isEmpty_eq_false_iff]
      exact fun both => checks both.2
    dsimp only
    rw [if_neg skipped]
    exact iff_of_false (not_not.mpr listed) fun removed => checks removed.1

end TpvOnly

/-- The right gateways are lost exactly when no gateway with an account for validations only has
another account too, where such gateways are checked, and every one of them has, where they are
not. -/
theorem losesTpvOnly_iff (reads : Reads) (params : DeciderParams) (state after : DeciderState)
    (noCardMandate : isCardMandate params = false)
    (noValidation : isBankAccountValidation params = false)
    (filtered : filterGatewaysForValidationType reads params state = .ok after) :
    LosesTpvOnly reads params state after ↔
      ∀ gw ∈ state.functionalGateways, HasTpvOnly reads params gw →
        (AllTpvOnly reads params gw ↔ ChecksTpvOnly reads state ∧ gw ≠ "MORPHEUS") := by
  rw [filterGatewaysForValidationType, noCardMandate, if_neg Bool.false_ne_true, noValidation,
    if_neg Bool.false_ne_true] at filtered
  cases filtered
  refine forall₂_congr fun gw listed => ?_
  rw [notMem_filterForTpvOnly_iff listed]
  by_cases has : HasTpvOnly reads params gw
  · have nonempty : accountsOf reads params gw ≠ [] := by
      rcases has with ⟨mga, isAccount, -⟩
      exact List.ne_nil_of_mem isAccount
    simp only [has, and_true, nonempty, ne_eq, not_false_eq_true, true_and, forall_const]
    exact iff_comm
  · have noneLeft : ¬ (accountsOf reads params gw ≠ [] ∧ AllTpvOnly reads params gw) := by
      rintro ⟨nonempty, allTpvOnly⟩
      rcases List.exists_mem_of_ne_nil _ nonempty with ⟨mga, isAccount⟩
      exact has ⟨mga, isAccount, allTpvOnly mga isAccount⟩
    simp only [has, and_false, noneLeft, false_implies]

/-! ## A gateway with both kinds of accounts -/

def tpvOnlyFlows : String := "\x7b\"paymentFlowIds\":[\"TPV_ONLY\"]\x7d"

def tpvOnlyAccount (id : Int) (gateway : Gateway) : DBMerchantGatewayAccount :=
  { plainAccount id gateway with supportedPaymentFlows := some tpvOnlyFlows }

/-- One gateway that is configured as one with accounts for validations only. -/
def tpvOnlyReads (accounts : List DBMerchantGatewayAccount) : Reads :=
  let plain := plainReads accounts
  { plain with
    decoders :=
      { plain.decoders with
        supportedPaymentFlows := fun text =>
          if text == tpvOnlyFlows then some ⟨["TPV_ONLY"], none⟩ else none }
    configs :=
      { plain.configs with
        texts := fun key => if key == "TPV_ONLY_SUPPORTED_GATEWAYS" then some ["PAYU"] else none } }

def payuState : DeciderState :=
  { DeciderState.initial with functionalGateways := ["PAYU"] }

theorem not_losesTpvOnly_mixedAccounts :
    ¬ ∀ (reads : Reads) (params : DeciderParams) (state after : DeciderState),
      isCardMandate params = false → isBankAccountValidation params = false →
      filterGatewaysForValidationType reads params state = .ok after →
      LosesTpvOnly reads params state after := by
  intro loses
  let reads := tpvOnlyReads [plainAccount 1 "PAYU", tpvOnlyAccount 2 "PAYU"]
  let after := filterForTpvOnly reads plainPayment payuState
  have removed : "PAYU" ∉ after.functionalGateways := by
    decide +kernel
  have all := ((loses reads plainPayment payuState after (by decide) (by decide) rfl) "PAYU"
    List.mem_cons_self).mp removed
  have ordinary : ∃ mga ∈ accountsOf reads plainPayment "PAYU",
      isTpvOnlyGateway reads.decoders mga = false := by
    decide +kernel
  rcases ordinary with ⟨mga, isAccount, isOrdinary⟩
  rw [all.2 mga isAccount] at isOrdinary
  cases isOrdinary

theorem losesTpvOnly_singleAccount :
    LosesTpvOnly (tpvOnlyReads [tpvOnlyAccount 2 "PAYU"]) plainPayment payuState
      (filterForTpvOnly (tpvOnlyReads [tpvOnlyAccount 2 "PAYU"]) plainPayment payuState) := by
  refine (losesTpvOnly_iff (tpvOnlyReads [tpvOnlyAccount 2 "PAYU"]) plainPayment payuState _
    (by decide) (by decide) rfl).mpr ?_
  intro gw listed _
  rw [List.mem_singleton.mp listed]
  have all : ∀ mga ∈ accountsOf (tpvOnlyReads [tpvOnlyAccount 2 "PAYU"]) plainPayment "PAYU",
      isTpvOnlyGateway (tpvOnlyReads [tpvOnlyAccount 2 "PAYU"]).decoders mga = true := by
    decide +kernel
  refine iff_of_true all ⟨?_, by decide⟩
  unfold ChecksTpvOnly
  decide +kernel

end DecisionEngine.GatewayFilter
