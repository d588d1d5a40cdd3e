import DecisionEngine.GatewayFilter.Pipeline

/-!
# Payments split among vendors

An account is kept when all vendors of the order are among those it settles with.  The filter
counts the vendors that are in both lists, each of them once, against the vendors of the order,
so an order that names one vendor twice keeps no account.
-/

namespace DecisionEngine.GatewayFilter

open Scoring Selection

/-- The common members are as many as the first list has exactly if it has no member twice, and
none that the second one does not have. -/
theorem length_intersect_eq_iff {first second : List Gateway} :
    (intersect first second).length = first.length ↔ first.Nodup ∧ first ⊆ second := by
  have fewer : (intersect first second).length ≤ first.dedup.length := List.length_filter_le _ _
  have distinct : first.dedup.length ≤ first.length := (List.dedup_sublist first).length_le
  constructor
  · intro same
    have dedup : first.dedup = first :=
      (List.dedup_sublist first).eq_of_length (le_antisymm distinct (same ▸ fewer))
    have all : (first.filter second.contains).length = first.length := by
      rw [← same, intersect, dedup]
    refine ⟨List.dedup_eq_self.mp dedup, fun member listed => ?_⟩
    simpa using List.length_filter_eq_length_iff.mp all member listed
  · rintro ⟨nodup, subset⟩
    rw [intersect, List.dedup_eq_self.mpr nodup, List.length_filter_eq_length_iff]
    intro member listed
    simpa using subset listed

section Split

variable (reads : Reads) (params : DeciderParams) (givenSubMids : List String)

/-- The account is registered with the vendor, and the registration is enabled. -/
def IsRegistered (mgaId : Int) (subMid : String) : Prop :=
  ∃ info ∈ reads.tables.merchantGatewayAccountSubInfos.getD [],
    info.merchantGatewayAccountId = mgaId ∧ info.subIdType = "VENDOR" ∧
      info.subInfoType = "SPLIT_SETTLEMENT" ∧ info.disabled = false ∧
      info.juspaySubAccountId = subMid

/-- The account is registered with every vendor of the order. -/
def SettlesAll (mga : MerchantGatewayAccount) : Prop :=
  ∀ subMid ∈ givenSubMids, IsRegistered reads mga.id subMid

/-- The account is one of those that the order's reference ids select at the gateways. -/
def IsSelected (state : DeciderState) (mgaId : Int) : Prop :=
  ∃ mga ∈ tableMgas reads params, mga.id = mgaId ∧ predicate reads params mga = true ∧
    mga.gateway ∈ state.functionalGateways

/-- Exactly the accounts that settle with all vendors are kept, and their gateways. -/
structure KeepsSettling (before after : DeciderState) : Prop where
  accounts : ∀ mga ∈ before.accounts, mga ∈ after.accounts ↔ SettlesAll reads givenSubMids mga
  gateways : ∀ gw ∈ before.functionalGateways, gw ∈ after.functionalGateways ↔
    ∃ mga ∈ after.accounts, mga.gateway = gw

variable {reads params givenSubMids} {state : DeciderState}

theorem mem_vendorSubAccounts_iff {ids : List Int} {mga : MerchantGatewayAccount}
    (listed : mga.id ∈ ids) {subMid : String} :
    subMid ∈ vendorSubAccounts ((reads.tables.merchantGatewayAccountSubInfos.findAll fun info =>
        ids.contains info.merchantGatewayAccountId).filter parsesAsSubInfo) mga ↔
      IsRegistered reads mga.id subMid := by
  simp only [vendorSubAccounts, List.mem_map, List.mem_filter, Rows.mem_findAll, parsesAsSubInfo,
    Bool.and_eq_true, Bool.or_eq_true, beq_iff_eq, Bool.not_eq_true', List.contains_iff_mem,
    IsRegistered]
  constructor
  · rintro ⟨info, ⟨⟨⟨inTable, -⟩, -⟩, ⟨⟨isAccount, isVendor⟩, isSplit⟩, enabled⟩, isSubMid⟩
    exact ⟨info, inTable, isAccount, isVendor, isSplit, enabled, isSubMid⟩
  · rintro ⟨info, inTable, isAccount, isVendor, isSplit, enabled, isSubMid⟩
    exact ⟨info, ⟨⟨⟨inTable, isAccount ▸ listed⟩, isSplit, Or.inr isVendor⟩,
      ⟨⟨isAccount, isVendor⟩, isSplit⟩, enabled⟩, isSubMid⟩

/-- The ids of the accounts that are kept. -/
theorem mem_splitSettlementMgaIds_iff {mgaId : Int} :
    mgaId ∈ splitSettlementMgaIds reads params givenSubMids state ↔
      givenSubMids.Nodup ∧ IsSelected reads params state mgaId ∧
        ∀ subMid ∈ givenSubMids, IsRegistered reads mgaId subMid := by
  simp only [splitSettlementMgaIds, mem_ordNub, List.mem_map, List.mem_filter, beq_iff_eq,
    length_intersect_eq_iff, Bool.and_eq_true, List.contains_iff_mem, IsSelected]
  have registered : ∀ mga, mga ∈ tableMgas reads params → predicate reads params mga = true →
      mga.gateway ∈ state.functionalGateways →
      (givenSubMids ⊆ vendorSubAccounts
          ((reads.tables.merchantGatewayAccountSubInfos.findAll fun info =>
            (((tableMgas reads params).filter fun mga => predicate reads params mga &&
              state.functionalGateways.contains mga.gateway).map (·.id)).contains
                info.merchantGatewayAccountId).filter parsesAsSubInfo) mga ↔
        ∀ subMid ∈ givenSubMids, IsRegistered reads mga.id subMid) := by
    intro mga inTable isPredicated atGateway
    refine forall₂_congr fun subMid _ => mem_vendorSubAccounts_iff (List.mem_map_of_mem ?_)
    rw [List.mem_filter, Bool.and_eq_true, List.contains_iff_mem]
    exact ⟨inTable, isPredicated, atGateway⟩
  constructor
  · rintro ⟨mga, ⟨⟨inTable, isPredicated, atGateway⟩, nodup, settles⟩, rfl⟩
    exact ⟨nodup, ⟨mga, inTable, rfl, isPredicated, atGateway⟩,
      (registered mga inTable isPredicated atGateway).mp settles⟩
  · rintro ⟨nodup, ⟨mga, inTable, rfl, isPredicated, atGateway⟩, settles⟩
    exact ⟨mga, ⟨⟨inTable, isPredicated, atGateway⟩, nodup,
      (registered mga inTable isPredicated atGateway).mpr settles⟩, rfl⟩

end Split

/-- The right accounts are kept exactly when the order names no vendor, or names none twice and
has all the accounts that settle with its vendors selected, unless there is no such account. -/
theorem keepsSettling_iff (reads : Reads) (params : DeciderParams) (givenSubMids : List String)
    (state : DeciderState) (coupled : state.Coupled)
    (given : getSplitSettlementDetails reads params = some givenSubMids) :
    KeepsSettling reads givenSubMids state
        (filterFunctionalGatewaysForSplitSettlement reads params state) ↔
      givenSubMids = [] ∨ ∀ mga ∈ state.accounts, SettlesAll reads givenSubMids mga →
        givenSubMids.Nodup ∧ IsSelected reads params state mga.id := by
  rw [filterFunctionalGatewaysForSplitSettlement, given]
  dsimp only
  by_cases noVendor : givenSubMids = []
  · rw [noVendor, List.isEmpty_nil, if_pos rfl]
    refine iff_of_true ⟨fun mga listed => ?_, fun gw listed => ?_⟩ (Or.inl rfl)
    · exact iff_of_true listed (fun _ isVendor => by cases isVendor)
    · exact iff_of_true listed ((coupled.mem_labels_iff gw).mp listed)
  · rw [if_neg (by rwa [List.isEmpty_iff])]
    have kept : ∀ mga ∈ state.accounts,
        mga ∈ state.accounts.filter (fun mga =>
          (splitSettlementMgaIds reads params givenSubMids state).contains mga.id) ↔
        givenSubMids.Nodup ∧ IsSelected reads params state mga.id ∧
          SettlesAll reads givenSubMids mga := by
      intro mga listed
      rw [List.mem_filter, List.contains_iff_mem, mem_splitSettlementMgaIds_iff]
      exact and_iff_right listed
    constructor
    · intro keeps
      refine Or.inr fun mga listed settles => ?_
      have isKept := (kept mga listed).mp ((keeps.accounts mga listed).mpr settles)
      exact ⟨isKept.1, isKept.2.1⟩
    · rintro (isEmpty | selected)
      · exact absurd isEmpty noVendor
      · constructor
        · intro mga listed
          rw [accounts_setGwsAndMgas, kept mga listed]
          constructor
          · exact fun isKept => isKept.2.2
          · intro settles
            exact ⟨(selected mga listed settles).1, (selected mga listed settles).2, settles⟩
        · intro gw _
          rw [accounts_setGwsAndMgas, setGwsAndMgas, mem_ordNub, List.mem_map]

/-! ## A vendor with two splits -/

def splitMetadata : String := "\x7b\"split_settlement_details\":\"vendors\"\x7d"

/-- An order whose metadata has the details of a split. -/
def splitPayment : DeciderParams :=
  { plainPayment with dpOrderMetadata := { metadata := some splitMetadata } }

/-- One account, which is registered with one vendor. -/
def splitReads (givenSubMids : List String) : Reads :=
  let plain := plainReads [plainAccount 1 "PAYU"]
  { plain with
    decoders :=
      { plain.decoders with
        fields := fun text =>
          if text == splitMetadata then some [("split_settlement_details", .string "vendors")]
          else none
        vendorSubMids := fun text => if text == "vendors" then some givenSubMids else none }
    tables :=
      { plain.tables with
        merchantGatewayAccountSubInfos := some [{
          merchantGatewayAccountId := 1
          subInfoType := "SPLIT_SETTLEMENT"
          subIdType := "VENDOR"
          juspaySubAccountId := "seller"
          disabled := false }] } }

def splitState : DeciderState :=
  setGwsAndMgas (tableMgas (splitReads []) splitPayment) .initial

theorem not_keepsSettling_repeatedVendor :
    ¬ ∀ (reads : Reads) (params : DeciderParams) (givenSubMids : List String)
      (state : DeciderState), state.Coupled →
      getSplitSettlementDetails reads params = some givenSubMids →
      KeepsSettling reads givenSubMids state
        (filterFunctionalGatewaysForSplitSettlement reads params state) := by
  intro keeps
  let reads := splitReads ["seller", "seller"]
  have exact := (keeps reads splitPayment ["seller", "seller"] splitState
    (coupled_choose _) (by decide +kernel)).accounts
  have lost : ∃ mga ∈ splitState.accounts, mga.id = 1 ∧ mga ∉
      (filterFunctionalGatewaysForSplitSettlement reads splitPayment splitState).accounts := by
    decide +kernel
  rcases lost with ⟨mga, listed, isFirst, isLost⟩
  apply isLost
  rw [exact mga listed, SettlesAll, isFirst]
  intro subMid isVendor
  have isSeller : subMid = "seller" := by
    simpa using isVendor
  exact ⟨_, List.mem_singleton.mpr rfl, rfl, rfl, rfl, rfl, isSeller.symm⟩

theorem keepsSettling_singleVendor :
    KeepsSettling (splitReads ["seller"]) ["seller"] splitState
      (filterFunctionalGatewaysForSplitSettlement (splitReads ["seller"]) splitPayment
        splitState) := by
  refine (keepsSettling_iff (splitReads ["seller"]) splitPayment ["seller"] splitState
    (coupled_choose _) (by decide +kernel)).mpr (Or.inr ?_)
  intro mga listed _
  refine ⟨by decide, ?_⟩
  have selected : ∀ mga ∈ splitState.accounts,
      mga ∈ tableMgas (splitReads ["seller"]) splitPayment ∧
        predicate (splitReads ["seller"]) splitPayment mga = true ∧
        mga.gateway ∈ splitState.functionalGateways := by
    decide +kernel
  exact ⟨mga, (selected mga listed).1, rfl, (selected mga listed).2⟩

end DecisionEngine.GatewayFilter
