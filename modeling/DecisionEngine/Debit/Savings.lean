import DecisionEngine.Calibration.ParameterBounds
import DecisionEngine.Debit.CoBadged
import DecisionEngine.Search.Sorted

/-!
# Savings of debit networks

The fee of a network is an interchange fee, which for a regulated bank is one for all networks,
and the fee of the network itself.  Sorted by fee, the networks are reported with what they
save against the cheapest global one.
-/

namespace DecisionEngine.Debit

open Calibration Search

/-! ## Fees -/

inductive MerchantCategoryCode where
  | mcc0001
  deriving DecidableEq

structure NetworkProcessingData where
  percentage : ℚ
  fixedAmount : ℚ

structure NetworkInterchangeFee where
  nonRegulated : MerchantCategoryCode → Option (Network → Option NetworkProcessingData)
  regulated : NetworkProcessingData

structure DebitRoutingConfig where
  networkFee : Network → Option NetworkProcessingData
  interchangeFee : NetworkInterchangeFee
  fraudCheckFee : ℚ

namespace DebitRoutingConfig

variable (config : DebitRoutingConfig)

def getNonRegulatedInterchangeFee (merchantCategoryCode : MerchantCategoryCode)
    (network : Network) : Except ApiError NetworkProcessingData :=
  match config.interchangeFee.nonRegulated merchantCategoryCode with
  | none => .error (.missingRequiredField "interchange fee for merchant category code")
  | some fees =>
      match fees network with
      | none => .error (.missingRequiredField "interchange fee for non regulated")
      | some fee => .ok fee

def getNetworkFee (network : Network) : Except ApiError NetworkProcessingData :=
  match config.networkFee network with
  | none => .error (.missingRequiredField "interchange fee for non regulated")
  | some fee => .ok fee

end DebitRoutingConfig

def NetworkProcessingData.feeOf (feeData : NetworkProcessingData) (amount : ℚ) : ℚ :=
  amount * feeData.percentage / 100 + feeData.fixedAmount

def applyFraudCheckFeeIfApplicable (isRegulated : Bool) (regulatedName : Option RegulatedName)
    (fraudCheckFee totalInterchangeFee : ℚ) : ℚ :=
  if isRegulated then
    match regulatedName with
    | some .nonExemptWithFraud => totalInterchangeFee + fraudCheckFee
    | some (.unknown _) => totalInterchangeFee
    | none => totalInterchangeFee
  else totalInterchangeFee

section Fees

variable {Country : Type}

def calculateInterchangeFee (config : DebitRoutingConfig)
    (info : CoBadgedCardInfoResponse Country) (merchantCategoryCode : MerchantCategoryCode)
    (amount : ℚ) (network : Network) : Except ApiError ℚ := do
  let feeData ←
    if info.isRegulated then .ok config.interchangeFee.regulated
    else config.getNonRegulatedInterchangeFee merchantCategoryCode network
  return applyFraudCheckFeeIfApplicable info.isRegulated info.regulatedName
    config.fraudCheckFee (feeData.feeOf amount)

def calculateNetworkFee (config : DebitRoutingConfig) (amount : ℚ) (network : Network) :
    Except ApiError ℚ := do
  let feeData ← config.getNetworkFee network
  return feeData.feeOf amount

/-- The total fee of a network; a fee that is missing is reported as an unknown error. -/
def totalFee (config : DebitRoutingConfig) (info : CoBadgedCardInfoResponse Country)
    (merchantCategoryCode : MerchantCategoryCode) (amount : ℚ) (network : Network) :
    Except ApiError ℚ :=
  match calculateInterchangeFee config info merchantCategoryCode amount network with
  | .error _ => .error .unknownError
  | .ok interchangeFee =>
      match calculateNetworkFee config amount network with
      | .error _ => .error .unknownError
      | .ok networkFee => .ok (interchangeFee + networkFee)

def calculateTotalFeesPerNetwork (config : DebitRoutingConfig)
    (info : CoBadgedCardInfoResponse Country) (merchantCategoryCode : MerchantCategoryCode)
    (amount : ℚ) : Except ApiError (List (Network × ℚ)) :=
  info.coBadgedCardNetworks.mapM fun network => do
    let fee ← totalFee config info merchantCategoryCode amount network
    return (network, fee)

end Fees

/-! ## Savings -/

structure NetworkSavingInfo where
  network : Network
  savingPercentage : ℚ
  deriving DecidableEq

def calculateSavings (costs : List (Network × ℚ)) (calcSavingsPercentage : ℚ → ℚ) :
    List NetworkSavingInfo :=
  costs.map fun cost => ⟨cost.1, calcSavingsPercentage cost.2⟩

/-- What a fee saves of an amount against another one, in percent with two decimals. -/
def savingPercentage (baselineFee transactionAmount fee : ℚ) : ℚ :=
  let saving := baselineFee - fee
  if 0 < saving ∧ 0 < transactionAmount then
    roundAway (saving / transactionAmount * 10000) / 100
  else 0

def calculateNetworkSavingInfos (sortedNetworkCosts : List (Network × ℚ))
    (transactionAmount : ℚ) : Option (List NetworkSavingInfo) :=
  match sortedNetworkCosts with
  | [] => none
  | first :: _ =>
      if first.1.isGlobalNetwork then some (calculateSavings sortedNetworkCosts fun _ => 0)
      else
        match sortedNetworkCosts.find? fun cost => cost.1.isGlobalNetwork with
        | some baseline =>
            some (calculateSavings sortedNetworkCosts
              (savingPercentage baseline.2 transactionAmount))
        | none => some (calculateSavings sortedNetworkCosts fun _ => 0)

/-! ## Requests -/

structure DebitRoutingRequestData (Country : Type) where
  coBadgedCardNetworks : List Network
  issuerCountry : Country
  isRegulated : Bool
  regulatedName : Option RegulatedName
  cardType : CardType

def DebitRoutingRequestData.toResponse {Country : Type} (data : DebitRoutingRequestData Country) :
    CoBadgedCardInfoResponse Country :=
  ⟨data.coBadgedCardNetworks, data.issuerCountry, data.isRegulated, data.regulatedName,
    data.cardType⟩

structure CoBadgedCardRequest (Country : Type) where
  merchantCategoryCode : MerchantCategoryCode
  acquirerCountry : Country
  coBadgedCardData : Option (DebitRoutingRequestData Country)

structure DebitRoutingOutput (Country : Type) where
  coBadgedCardNetworksInfo : List NetworkSavingInfo
  issuerCountry : Country
  isRegulated : Bool
  regulatedName : Option RegulatedName
  cardType : CardType

namespace CoBadgedCardRequest

variable {Country : Type} (request : CoBadgedCardRequest Country)

def fetchCoBadgedCardInfo (table : List (CoBadgedCardInfo Country)) (cardIsin : Option String) :
    Option (CoBadgedCardInfoResponse Country) :=
  match request.coBadgedCardData with
  | some data => some data.toResponse
  | none => do
      let cardIsin ← cardIsin
      match getCoBadgedCardsInfo table cardIsin with
      | .ok info => info
      | .error _ => none

def sortedNetworksByFee (config : DebitRoutingConfig) (table : List (CoBadgedCardInfo Country))
    (cardIsin : Option String) (amount : ℚ) : Option (DebitRoutingOutput Country) := do
  let info ← request.fetchCoBadgedCardInfo table cardIsin
  let networkCosts ←
    (calculateTotalFeesPerNetwork config info request.merchantCategoryCode amount).toOption
  let infos ← calculateNetworkSavingInfos (sortBy Prod.snd networkCosts) amount
  return ⟨infos, info.issuerCountry, info.isRegulated, info.regulatedName, info.cardType⟩

end CoBadgedCardRequest

/-! ## Costs of networks -/

section Costs

variable {Country : Type} {config : DebitRoutingConfig} {info : CoBadgedCardInfoResponse Country}
  {merchantCategoryCode : MerchantCategoryCode} {amount : ℚ}

/-- The interchange fee of a regulated issuer is the same for every network, with the fee of a
fraud check where the issuer is not exempt from it. -/
theorem totalFee_regulated {network : Network} {networkFee : NetworkProcessingData}
    (isRegulated : info.isRegulated = true)
    (isNetworkFee : config.networkFee network = some networkFee) :
    totalFee config info merchantCategoryCode amount network =
      .ok (config.interchangeFee.regulated.feeOf amount +
        (if info.regulatedName matches some .nonExemptWithFraud then config.fraudCheckFee else 0) +
          networkFee.feeOf amount) := by
  rw [totalFee, calculateInterchangeFee, calculateNetworkFee, DebitRoutingConfig.getNetworkFee,
    isNetworkFee, isRegulated]
  rcases info.regulatedName with _ | _ | _ <;>
    simp [applyFraudCheckFeeIfApplicable, pure, Except.pure, bind, Except.bind]

theorem totalFee_nonRegulated {network : Network} {fees : Network → Option NetworkProcessingData}
    {interchangeFee networkFee : NetworkProcessingData} (notRegulated : info.isRegulated = false)
    (areFees : config.interchangeFee.nonRegulated merchantCategoryCode = some fees)
    (isInterchangeFee : fees network = some interchangeFee)
    (isNetworkFee : config.networkFee network = some networkFee) :
    totalFee config info merchantCategoryCode amount network =
      .ok (interchangeFee.feeOf amount + networkFee.feeOf amount) := by
  rw [totalFee, calculateInterchangeFee, calculateNetworkFee, DebitRoutingConfig.getNetworkFee,
    isNetworkFee, notRegulated, DebitRoutingConfig.getNonRegulatedInterchangeFee, areFees]
  simp [isInterchangeFee, applyFraudCheckFeeIfApplicable, pure, Except.pure, bind, Except.bind]

/-- The total fee of a network, zero for one whose fees are not configured. -/
def feeOrZero (config : DebitRoutingConfig) (info : CoBadgedCardInfoResponse Country)
    (merchantCategoryCode : MerchantCategoryCode) (amount : ℚ) (network : Network) : ℚ :=
  match totalFee config info merchantCategoryCode amount network with
  | .ok fee => fee
  | .error _ => 0

/-- The fees of a network are configured. -/
def HasFee (config : DebitRoutingConfig) (info : CoBadgedCardInfoResponse Country)
    (merchantCategoryCode : MerchantCategoryCode) (amount : ℚ) (network : Network) : Prop :=
  ∃ fee, totalFee config info merchantCategoryCode amount network = .ok fee

theorem totalFee_of_hasFee {network : Network}
    (hasFee : HasFee config info merchantCategoryCode amount network) :
    totalFee config info merchantCategoryCode amount network =
      .ok (feeOrZero config info merchantCategoryCode amount network) := by
  obtain ⟨fee, isFee⟩ := hasFee
  rw [feeOrZero, isFee]

/-- Costs are calculated for networks that all have fees. -/
theorem mapM_totalFee_of_hasFee {networks : List Network} (allFees : ∀ network ∈ networks,
      HasFee config info merchantCategoryCode amount network) :
    (networks.mapM fun network => do
        let fee ← totalFee config info merchantCategoryCode amount network
        return (network, fee)) =
      .ok (networks.map fun network =>
        (network, feeOrZero config info merchantCategoryCode amount network)) := by
  induction networks with
  | nil => rfl
  | cons network rest ih =>
      rw [List.forall_mem_cons] at allFees
      rw [List.mapM_cons, ih allFees.2, totalFee_of_hasFee allFees.1]
      rfl

theorem hasFee_of_mapM_totalFee {networks : List Network} {costs : List (Network × ℚ)}
    (calculated : (networks.mapM fun network => do
        let fee ← totalFee config info merchantCategoryCode amount network
        return (network, fee)) = .ok costs) :
    ∀ network ∈ networks, HasFee config info merchantCategoryCode amount network := by
  induction networks generalizing costs with
  | nil => simp
  | cons network rest ih =>
      rw [List.mapM_cons] at calculated
      cases first : totalFee config info merchantCategoryCode amount network with
      | error failure => rw [first] at calculated; cases calculated
      | ok fee =>
          rw [first] at calculated
          cases others : (rest.mapM fun network => do
              let fee ← totalFee config info merchantCategoryCode amount network
              return (network, fee)) with
          | error failure => rw [others] at calculated; cases calculated
          | ok restCosts => exact List.forall_mem_cons.mpr ⟨⟨fee, first⟩, ih others⟩

end Costs

/-! ## Reports of savings -/

/-- The cheapest global network. -/
structure IsBaseline (networks : List Network) (fee : Network → ℚ) (baseline : Network) :
    Prop where
  listed : baseline ∈ networks
  isGlobal : baseline.isGlobalNetwork = true
  cheapest : ∀ other ∈ networks, other.isGlobalNetwork = true → fee baseline ≤ fee other

/-- What the list of savings says about networks, each with its fee. -/
structure SavingsReport (networks : List Network) (fee : Network → ℚ) (amount : ℚ)
    (infos : List NetworkSavingInfo) : Prop where
  perm : (infos.map NetworkSavingInfo.network).Perm networks
  sorted : infos.Pairwise fun first second => fee first.network ≤ fee second.network
  nonneg : ∀ info ∈ infos, 0 ≤ info.savingPercentage
  antitone : infos.Pairwise fun first second => second.savingPercentage ≤ first.savingPercentage
  noBaseline : (∀ network ∈ networks, network.isGlobalNetwork = false) →
    ∀ info ∈ infos, info.savingPercentage = 0
  aboveBaseline : ∀ baseline, IsBaseline networks fee baseline → ∀ info ∈ infos,
    fee baseline ≤ fee info.network → info.savingPercentage = 0
  belowBaseline : ∀ baseline, IsBaseline networks fee baseline → ∀ info ∈ infos,
    fee info.network < fee baseline → info.savingPercentage =
      roundAway ((fee baseline - fee info.network) / amount * 10000) / 100

theorem savingPercentage_nonneg (baselineFee transactionAmount fee : ℚ) :
    0 ≤ savingPercentage baselineFee transactionAmount fee := by
  unfold savingPercentage
  dsimp only
  split
  · next saves =>
      have share : 0 ≤ (baselineFee - fee) / transactionAmount * 10000 :=
        mul_nonneg (div_pos saves.1 saves.2).le (by norm_num)
      exact div_nonneg (by exact_mod_cast roundAway_nonneg share) (by norm_num)
  · exact le_rfl

theorem savingPercentage_antitone {baselineFee transactionAmount first second : ℚ}
    (cheaper : first ≤ second) :
    savingPercentage baselineFee transactionAmount second ≤
      savingPercentage baselineFee transactionAmount first := by
  by_cases saves : 0 < baselineFee - second ∧ 0 < transactionAmount
  · have share : 0 ≤ (baselineFee - second) / transactionAmount * 10000 :=
      mul_nonneg (div_pos saves.1 saves.2).le (by norm_num)
    have more : (baselineFee - second) / transactionAmount * 10000 ≤
        (baselineFee - first) / transactionAmount * 10000 := by
      have := saves.2
      gcongr
    have firstSaves : 0 < baselineFee - first ∧ 0 < transactionAmount :=
      ⟨by linarith [saves.1], saves.2⟩
    simp only [savingPercentage, if_pos saves, if_pos firstSaves]
    gcongr
    exact roundAway_mono share more
  · have none : savingPercentage baselineFee transactionAmount second = 0 := if_neg saves
    rw [none]
    exact savingPercentage_nonneg _ _ _

theorem savingPercentage_eq_zero {baselineFee transactionAmount fee : ℚ}
    (dearer : baselineFee ≤ fee) : savingPercentage baselineFee transactionAmount fee = 0 := by
  refine if_neg ?_
  rintro ⟨saves, -⟩
  linarith

variable {costs : List (Network × ℚ)} {amount : ℚ}

/-- The costs are reported as savings against the first global one, or as none without one. -/
theorem calculateNetworkSavingInfos_eq (nonempty : costs ≠ [])
    (sorted : costs.Pairwise fun first second => first.2 ≤ second.2) :
    calculateNetworkSavingInfos costs amount = some (calculateSavings costs
      (match costs.find? fun cost => cost.1.isGlobalNetwork with
        | some baseline => savingPercentage baseline.2 amount
        | none => fun _ => 0)) := by
  cases costs with
  | nil => exact absurd rfl nonempty
  | cons first rest =>
      rw [calculateNetworkSavingInfos]
      by_cases isGlobal : first.1.isGlobalNetwork = true
      · have noSavings : ∀ cost ∈ first :: rest, savingPercentage first.2 amount cost.2 = 0 := by
          intro cost listed
          rcases List.mem_cons.mp listed with rfl | behind
          · exact savingPercentage_eq_zero le_rfl
          · exact savingPercentage_eq_zero ((List.pairwise_cons.mp sorted).1 cost behind)
        have found : (first :: rest).find? (fun cost => cost.1.isGlobalNetwork) = some first :=
          List.find?_cons_of_pos isGlobal
        rw [if_pos isGlobal, found]
        simp only [Option.some.injEq, calculateSavings, List.map_inj_left]
        intro cost listed
        rw [noSavings cost listed]
      · rw [if_neg isGlobal]
        cases (first :: rest).find? fun cost => cost.1.isGlobalNetwork <;> rfl

variable {networks : List Network} {fee : Network → ℚ}

/-- A list of savings in the order of the fees is a report when the savings are a function of
the fees that is never negative, falls, and is the saving against each baseline. -/
theorem savingsReport_of_sorted {saving : ℚ → ℚ}
    (perm : costs.Perm (networks.map fun network => (network, fee network)))
    (sorted : costs.Pairwise fun first second => first.2 ≤ second.2)
    (nonneg : ∀ fee, 0 ≤ saving fee)
    (antitone : ∀ first second, first ≤ second → saving second ≤ saving first)
    (noBaseline : (∀ network ∈ networks, network.isGlobalNetwork = false) → saving = fun _ => 0)
    (againstBaseline : ∀ baseline, IsBaseline networks fee baseline →
      saving = savingPercentage (fee baseline) amount)
    (positive : 0 < amount) :
    SavingsReport networks fee amount (calculateSavings costs saving) := by
  have isCost : ∀ cost ∈ costs, cost.2 = fee cost.1 := by
    intro cost listed
    obtain ⟨network, -, rfl⟩ := List.mem_map.mp (perm.mem_iff.mp listed)
    rfl
  have ofCost : ∀ info ∈ calculateSavings costs saving,
      info.savingPercentage = saving (fee info.network) := by
    intro info listed
    obtain ⟨cost, costListed, rfl⟩ := List.mem_map.mp listed
    exact congrArg saving (isCost cost costListed)
  refine ⟨?_, ?_, ?_, ?_, ?_, ?_, ?_⟩
  · have names := perm.map Prod.fst
    rw [List.map_map] at names
    rw [calculateSavings, List.map_map]
    simpa [Function.comp_def] using names
  · refine List.pairwise_map.mpr (sorted.imp_of_mem ?_)
    intro first second firstListed secondListed ordered
    rwa [isCost first firstListed, isCost second secondListed] at ordered
  · intro info listed
    rw [ofCost info listed]
    exact nonneg _
  · exact List.pairwise_map.mpr (sorted.imp fun ordered => antitone _ _ ordered)
  · intro noGlobal info listed
    rw [ofCost info listed, noBaseline noGlobal]
  · intro baseline isBaseline info listed dearer
    rw [ofCost info listed, againstBaseline baseline isBaseline]
    exact savingPercentage_eq_zero dearer
  · intro baseline isBaseline info listed cheaper
    rw [ofCost info listed, againstBaseline baseline isBaseline]
    exact if_pos ⟨sub_pos.mpr cheaper, positive⟩

/-- All cheapest global networks have one fee. -/
theorem IsBaseline.fee_eq {first second : Network} (isFirst : IsBaseline networks fee first)
    (isSecond : IsBaseline networks fee second) :
    fee first = fee second :=
  le_antisymm (isFirst.cheapest second isSecond.listed isSecond.isGlobal)
    (isSecond.cheapest first isFirst.listed isFirst.isGlobal)

/-- The savings of networks sorted by fee. -/
theorem savingsReport_of_costs (positive : 0 < amount) (nonempty : networks ≠ []) :
    ∃ infos, calculateNetworkSavingInfos
        (sortBy Prod.snd (networks.map fun network => (network, fee network))) amount =
          some infos ∧
      SavingsReport networks fee amount infos := by
  have perm := List.perm_insertionSort
    (fun first second : Network × ℚ => first.2 ≤ second.2)
    (networks.map fun network => (network, fee network))
  have sorted := pairwise_sortBy Prod.snd (networks.map fun network => (network, fee network))
  have someCost : sortBy Prod.snd (networks.map fun network => (network, fee network)) ≠ [] := by
    rw [ne_eq, sortBy_eq_nil, List.map_eq_nil_iff]
    exact nonempty
  refine ⟨_, calculateNetworkSavingInfos_eq someCost sorted, ?_⟩
  cases found : (sortBy Prod.snd (networks.map fun network => (network, fee network))).find?
      fun cost => cost.1.isGlobalNetwork with
  | none =>
      have noGlobal : ∀ network ∈ networks, network.isGlobalNetwork = false := by
        intro network listed
        have notFound := List.find?_eq_none.mp found (network, fee network)
          ((mem_sortBy Prod.snd).mpr (List.mem_map_of_mem listed))
        simpa using notFound
      refine savingsReport_of_sorted perm sorted (fun _ => le_rfl) (fun _ _ _ => le_rfl)
        (fun _ => rfl) ?_ positive
      intro baseline isBaseline
      have notGlobal := noGlobal baseline isBaseline.listed
      rw [isBaseline.isGlobal] at notGlobal
      cases notGlobal
  | some cost =>
      obtain ⟨costListed, isGlobal, cheapest⟩ := least_of_find?_sortBy found
      obtain ⟨network, listed, rfl⟩ := List.mem_map.mp costListed
      have isBaseline : IsBaseline networks fee network :=
        ⟨listed, isGlobal, fun other otherListed otherGlobal =>
          cheapest _ (List.mem_map_of_mem otherListed) otherGlobal⟩
      refine savingsReport_of_sorted perm sorted (savingPercentage_nonneg _ _)
        (fun _ _ => savingPercentage_antitone) ?_ ?_ positive
      · intro noGlobal
        have notGlobal := noGlobal network listed
        rw [isBaseline.isGlobal] at notGlobal
        cases notGlobal
      · intro other isOther
        rw [isBaseline.fee_eq isOther]

section Requests

variable {Country : Type} {request : CoBadgedCardRequest Country} {config : DebitRoutingConfig}
  {table : List (CoBadgedCardInfo Country)} {cardIsin : Option String} {amount : ℚ}
  {info : CoBadgedCardInfoResponse Country}

theorem sortedNetworksByFee_of_hasFee
    (fetched : request.fetchCoBadgedCardInfo table cardIsin = some info)
    (allFees : ∀ network ∈ info.coBadgedCardNetworks,
      HasFee config info request.merchantCategoryCode amount network) :
    request.sortedNetworksByFee config table cardIsin amount =
      (calculateNetworkSavingInfos (sortBy Prod.snd (info.coBadgedCardNetworks.map fun network =>
        (network, feeOrZero config info request.merchantCategoryCode amount network)))
        amount).map fun infos =>
          ⟨infos, info.issuerCountry, info.isRegulated, info.regulatedName, info.cardType⟩ := by
  rw [CoBadgedCardRequest.sortedNetworksByFee, fetched, Option.bind_eq_bind, Option.bind_some,
    calculateTotalFeesPerNetwork, mapM_totalFee_of_hasFee allFees]
  dsimp only [bind, Option.bind, Except.toOption, pure]
  cases calculateNetworkSavingInfos (sortBy Prod.snd (info.coBadgedCardNetworks.map fun network =>
    (network, feeOrZero config info request.merchantCategoryCode amount network))) amount <;> rfl

theorem hasFee_of_sortedNetworksByFee {output : DebitRoutingOutput Country}
    (fetched : request.fetchCoBadgedCardInfo table cardIsin = some info)
    (returned : request.sortedNetworksByFee config table cardIsin amount = some output) :
    ∀ network ∈ info.coBadgedCardNetworks,
      HasFee config info request.merchantCategoryCode amount network := by
  rw [CoBadgedCardRequest.sortedNetworksByFee, fetched, Option.bind_eq_bind,
    Option.bind_some] at returned
  cases calculated : calculateTotalFeesPerNetwork config info request.merchantCategoryCode
      amount with
  | error failure => rw [calculated] at returned; cases returned
  | ok costs => exact hasFee_of_mapM_totalFee calculated

end Requests

/-- Networks are reported when there are some and all have fees, sorted by fee and with their
savings against the cheapest global one. -/
theorem sortedNetworksByFee_savingsReport {Country : Type}
    (request : CoBadgedCardRequest Country) (config : DebitRoutingConfig)
    (table : List (CoBadgedCardInfo Country)) (cardIsin : Option String) {amount : ℚ}
    (positive : 0 < amount) {info : CoBadgedCardInfoResponse Country}
    (fetched : request.fetchCoBadgedCardInfo table cardIsin = some info) :
    ((∃ output, request.sortedNetworksByFee config table cardIsin amount = some output) ↔
      info.coBadgedCardNetworks ≠ [] ∧ ∀ network ∈ info.coBadgedCardNetworks,
        HasFee config info request.merchantCategoryCode amount network) ∧
    ∀ output, request.sortedNetworksByFee config table cardIsin amount = some output →
      SavingsReport info.coBadgedCardNetworks
        (feeOrZero config info request.merchantCategoryCode amount) amount
        output.coBadgedCardNetworksInfo := by
  have nonempty : ∀ output, request.sortedNetworksByFee config table cardIsin amount =
      some output → info.coBadgedCardNetworks ≠ [] := by
    intro output returned empty
    rw [sortedNetworksByFee_of_hasFee fetched (hasFee_of_sortedNetworksByFee fetched returned),
      empty] at returned
    cases returned
  constructor
  · constructor
    · rintro ⟨output, returned⟩
      exact ⟨nonempty output returned, hasFee_of_sortedNetworksByFee fetched returned⟩
    · rintro ⟨someNetwork, allFees⟩
      obtain ⟨infos, calculated, -⟩ := savingsReport_of_costs positive someNetwork
      exact ⟨_, by rw [sortedNetworksByFee_of_hasFee fetched allFees, calculated]; rfl⟩
  · intro output returned
    obtain ⟨infos, calculated, report⟩ :=
      savingsReport_of_costs positive (nonempty output returned)
    rw [sortedNetworksByFee_of_hasFee fetched (hasFee_of_sortedNetworksByFee fetched returned),
      calculated, Option.map_some, Option.some.injEq] at returned
    rw [← returned]
    exact report

/-- A regulated card of three networks. -/
def regulatedRequest : CoBadgedCardRequest String :=
  ⟨.mcc0001, "US", some ⟨[.visa, .star, .nyce], "US", true, some .nonExemptWithFraud, .debit⟩⟩

/-- Fees of five, two and three hundredths of the amount. -/
def sampleFees : DebitRoutingConfig where
  networkFee
    | .visa => some ⟨5, 0⟩
    | .star => some ⟨2, 0⟩
    | .nyce => some ⟨3, 1 / 10⟩
    | _ => none
  interchangeFee := ⟨fun _ => none, ⟨1 / 20, 21 / 100⟩⟩
  fraudCheckFee := 1 / 100

/-- What is known of the card. -/
def regulatedInfo : CoBadgedCardInfoResponse String :=
  ⟨[.visa, .star, .nyce], "US", true, some .nonExemptWithFraud, .debit⟩

theorem sortedNetworksByFee_savingsReport_regulated :
    ((∃ output, regulatedRequest.sortedNetworksByFee sampleFees [] none 100 = some output) ↔
      regulatedInfo.coBadgedCardNetworks ≠ [] ∧ ∀ network ∈ regulatedInfo.coBadgedCardNetworks,
        HasFee sampleFees regulatedInfo .mcc0001 100 network) ∧
    ∀ output, regulatedRequest.sortedNetworksByFee sampleFees [] none 100 = some output →
      SavingsReport regulatedInfo.coBadgedCardNetworks
        (feeOrZero sampleFees regulatedInfo .mcc0001 100) 100 output.coBadgedCardNetworksInfo :=
  sortedNetworksByFee_savingsReport regulatedRequest sampleFees [] none (by norm_num) rfl

example : (regulatedRequest.sortedNetworksByFee sampleFees [] none 100).map
    DebitRoutingOutput.coBadgedCardNetworksInfo =
      some [⟨.star, 3⟩, ⟨.nyce, 19 / 10⟩, ⟨.visa, 0⟩] := by
  decide +kernel

end DecisionEngine.Debit
