import DecisionEngine.CostIngestion.PriceOrders
import DecisionEngine.CostIngestion.PriceSources

/-!
# Precedence of overrides

The merchant may give a displayed cluster a price, which is looked up under the predicted
cluster of a request.  The learned price of the request may come from the rows of another
cluster, whose override is then not found.
-/

namespace DecisionEngine.CostIngestion

open Database Map Search Text

section Precedence

variable [LetterCase]

/-! ## Overrides of clusters -/

def ClusterDims.key (dims : ClusterDims) : String :=
  fineKey dims.connector dims.cardNetwork dims.variant dims.funding dims.issuerCountry
    dims.currency dims.icCategory

/-- Give a cluster a price, which replaces the one that it has. -/
def Overlays.withCluster (overlays : Overlays) (dims : ClusterDims) (cost : ServingCost) :
    Overlays :=
  { overlays with clusterOverrides := overlays.clusterOverrides ++ [(dims, cost)] }

theorem lookup_byCluster_concat (costs : List (ClusterDims × ServingCost)) (dims : ClusterDims)
    (cost : ServingCost) (key : String) :
    (byCluster (costs ++ [(dims, cost)])).lookup key =
      if key = dims.key then some cost else (byCluster costs).lookup key := by
  have step : byCluster (costs ++ [(dims, cost)]) = (byCluster costs).insert dims.key cost := by
    rw [byCluster, collect, List.map_append, List.foldl_append]
    rfl
  rw [step]
  by_cases isKey : key = dims.key
  · rw [if_pos isKey, isKey, AList.lookup_insert]
  · rw [if_neg isKey, AList.lookup_insert_ne isKey]

theorem lookup_byCluster_eq_none {costs : List (ClusterDims × ServingCost)} {key : String}
    (absent : key ∉ (costs.map Prod.fst).map ClusterDims.key) :
    (byCluster costs).lookup key = none := by
  rw [AList.lookup_eq_none, byCluster, mem_collect, List.map_map]
  rw [List.map_map] at absent
  exact absent

/-- Clusters that are all given one price have it. -/
theorem lookup_byCluster_same {clusters : List ClusterDims} {key : String}
    (listed : key ∈ clusters.map ClusterDims.key) (cost : ServingCost) :
    (byCluster (clusters.map fun dims => (dims, cost))).lookup key = some cost := by
  induction clusters using List.reverseRecOn with
  | nil => cases listed
  | append_singleton rest last ih =>
      rw [List.map_append, List.map_singleton, lookup_byCluster_concat]
      by_cases isLast : key = last.key
      · rw [if_pos isLast]
      · rw [if_neg isLast]
        apply ih
        rw [List.map_append, List.mem_append, List.map_singleton, List.mem_singleton] at listed
        exact listed.resolve_right isLast

variable [Rounding]

/-- The cluster that a request is predicted to be of, which no override changes. -/
def predictedBy (order : AssemblyOrder) (merchantId : String) (rows : ServingRows)
    (request : LookupRequest) : Option PredictedCluster :=
  predictCluster (buildModel order merchantId rows Overlays.none) request

/-- The learned price of a request comes from exactly one displayed cluster. -/
def PricedFrom (order : AssemblyOrder) (merchantId : String) (rows : ServingRows)
    (binProduct : BinProductMap) (request : LookupRequest) (dims : ClusterDims) : Prop :=
  let sources := learnedSources merchantId rows (resolveBinProduct binProduct request.bin) request
    (predictedBy order merchantId rows request)
  sources ≠ [] ∧ ∀ source ∈ sources, source = dims.key

/-- An override is the price of the requests that its cluster prices, and of no request that
another cluster prices. -/
structure OverridePrecedence (order : AssemblyOrder) (merchantId : String) (rows : ServingRows)
    (overlays : Overlays) (binProduct : BinProductMap) (request : LookupRequest) : Prop where
  wins : ∀ dims cost, PricedFrom order merchantId rows binProduct request dims →
    (byCluster overlays.clusterOverrides).lookup dims.key = some cost →
      ∃ rung, servedPrice (buildModel order merchantId rows overlays) binProduct request =
        some (rung, cost, cost.effectiveCostBps request.amount)
  keeps : ∀ served dims cost, PricedFrom order merchantId rows binProduct request served →
    dims.key ≠ served.key →
      servedPrice (buildModel order merchantId rows (overlays.withCluster dims cost)) binProduct
          request =
        servedPrice (buildModel order merchantId rows overlays) binProduct request

section Served

variable {order : AssemblyOrder} {merchantId : String} {rows : ServingRows}
  {overrides addons : List (String × ServingCost)}
  {clusterOverrides otherOverrides : List (ClusterDims × ServingCost)}
  {binProduct : BinProductMap} {request : LookupRequest} {cluster : PredictedCluster}

variable {cost : ServingCost}

/-- An override is looked up under the predicted cluster. -/
theorem servedPrice_of_override
    (predicted : predictedBy order merchantId rows request = some cluster)
    (overridden : (byCluster clusterOverrides).lookup cluster.key = some cost) :
    servedPrice (buildModel order merchantId rows ⟨overrides, clusterOverrides, addons⟩) binProduct
      request = some (.clusterOverride, cost, cost.effectiveCostBps request.amount) := by
  have isPredicted : predictCluster
      (buildModel order merchantId rows ⟨overrides, clusterOverrides, addons⟩) request =
        some cluster := predicted
  rw [servedPrice_eq, isPredicted, chooseRung_of_override overridden]
  rfl

/-- Overrides that are the same for the predicted cluster give the same price. -/
theorem servedPrice_congr
    (same : ∀ cluster, predictedBy order merchantId rows request = some cluster →
      (byCluster clusterOverrides).lookup cluster.key =
        (byCluster otherOverrides).lookup cluster.key) :
    servedPrice (buildModel order merchantId rows ⟨overrides, clusterOverrides, addons⟩) binProduct
        request =
      servedPrice (buildModel order merchantId rows ⟨overrides, otherOverrides, addons⟩) binProduct
        request := by
  have ofCluster : ∀ costs : List (ClusterDims × ServingCost),
      predictCluster (buildModel order merchantId rows ⟨overrides, costs, addons⟩) request =
        predictedBy order merchantId rows request := fun _ => rfl
  rw [servedPrice_eq_iff, ofCluster, ofCluster, chooseRung_eq, chooseRung_eq]
  cases predicted : predictedBy order merchantId rows request with
  | none => rfl
  | some cluster =>
      exact congrArg₂ Option.or (congrArg (Option.map _) (same cluster predicted)) rfl

theorem exists_dims (predicted : predictedBy order merchantId rows request = some cluster) :
    ∃ dims : ClusterDims, dims.key = cluster.key := by
  have assembled : (buildModel order merchantId rows Overlays.none).predictor =
      predictorTables order (countedRows merchantId rows.predictor) := rfl
  rcases mayPredict_of_predictCluster assembled predicted with ⟨category, -, rfl⟩
  exact ⟨request.dims category, rfl⟩

omit [LetterCase] [Rounding] in
/-- Some cost is not the one of a price. -/
theorem exists_otherCost (price : Option (Rung × ServingCost × ℚ)) :
    ∃ cost : ServingCost, ∀ rung rate, price ≠ some (rung, cost, rate) := by
  cases price with
  | none => exact ⟨⟨0, 0⟩, fun rung rate same => by cases same⟩
  | some served =>
      rcases served with ⟨servedRung, served, servedRate⟩
      refine ⟨⟨served.pctBps + 1, 0⟩, fun rung rate same => ?_⟩
      rw [Option.some.injEq, Prod.mk.injEq, Prod.mk.injEq] at same
      have sameRate : served.pctBps = served.pctBps + 1 := congrArg ServingCost.pctBps same.2.1
      linarith

variable {clusters : List ClusterDims} {dims : ClusterDims}

omit [LetterCase] [Rounding] in
theorem map_fst_same (clusters : List ClusterDims) (cost : ServingCost) :
    (clusters.map fun dims => (dims, cost)).map Prod.fst = clusters := by
  rw [List.map_map]
  exact List.map_id clusters

/-- The cluster that prices a request of no predicted cluster has no override that precedes. -/
theorem not_mem_of_precedes
    (precedes : ∀ clusterOverrides : List (ClusterDims × ServingCost),
      clusterOverrides.map Prod.fst = clusters →
        OverridePrecedence order merchantId rows ⟨overrides, clusterOverrides, addons⟩ binProduct
          request)
    (priced : PricedFrom order merchantId rows binProduct request dims)
    (unpredicted : predictedBy order merchantId rows request = none) :
    dims.key ∉ clusters.map ClusterDims.key := by
  intro listed
  rcases exists_otherCost (servedPrice
    (buildModel order merchantId rows ⟨overrides, [], addons⟩) binProduct request) with
      ⟨cost, isOther⟩
  rcases (precedes _ (map_fst_same clusters cost)).wins dims cost priced
    (lookup_byCluster_same listed cost) with ⟨rung, isCost⟩
  have unused : ∀ cluster, predictedBy order merchantId rows request = some cluster →
      (byCluster []).lookup cluster.key =
        (byCluster (clusters.map fun dims => (dims, cost))).lookup cluster.key := by
    intro cluster predicted
    rw [unpredicted] at predicted
    cases predicted
  rw [servedPrice_congr unused] at isOther
  exact isOther _ _ isCost

variable {overlays : Overlays}

/-- A request is predicted to be of the cluster that prices it if overrides precede. -/
theorem key_eq_of_keeps
    (keeps : OverridePrecedence order merchantId rows overlays binProduct request)
    (priced : PricedFrom order merchantId rows binProduct request dims)
    (predicted : predictedBy order merchantId rows request = some cluster) :
    cluster.key = dims.key := by
  by_contra differ
  rcases exists_dims predicted with ⟨predictedDims, isKey⟩
  rcases exists_otherCost (servedPrice (buildModel order merchantId rows overlays) binProduct
    request) with ⟨cost, isOther⟩
  have found : (byCluster (overlays.withCluster predictedDims cost).clusterOverrides).lookup
      cluster.key = some cost := by
    rw [Overlays.withCluster, lookup_byCluster_concat, if_pos isKey.symm]
  have unchanged := keeps.keeps dims predictedDims cost priced (isKey ▸ differ)
  have overridden : servedPrice
      (buildModel order merchantId rows (overlays.withCluster predictedDims cost)) binProduct
        request = some (.clusterOverride, cost, cost.effectiveCostBps request.amount) :=
    servedPrice_of_override predicted found
  exact isOther _ _ (unchanged.symm.trans overridden)

theorem wins_of_predicted
    (agrees : (predictedBy order merchantId rows request).map PredictedCluster.key = some dims.key ∨
      (predictedBy order merchantId rows request = none ∧
        dims.key ∉ (clusterOverrides.map Prod.fst).map ClusterDims.key))
    (overridden : (byCluster clusterOverrides).lookup dims.key = some cost) :
    servedPrice (buildModel order merchantId rows ⟨overrides, clusterOverrides, addons⟩) binProduct
      request = some (.clusterOverride, cost, cost.effectiveCostBps request.amount) := by
  rcases agrees with isKey | ⟨-, absent⟩
  · rcases Option.map_eq_some_iff.mp isKey with ⟨cluster, predicted, sameKey⟩
    rw [← sameKey] at overridden
    exact servedPrice_of_override predicted overridden
  · rw [lookup_byCluster_eq_none absent] at overridden
    cases overridden

/-- An override of a cluster that a request is not predicted to be of does not change its
price. -/
theorem servedPrice_withCluster (cost : ServingCost)
    (other : (predictedBy order merchantId rows request).map PredictedCluster.key ≠ some dims.key) :
    servedPrice (buildModel order merchantId rows (overlays.withCluster dims cost)) binProduct
        request =
      servedPrice (buildModel order merchantId rows overlays) binProduct request := by
  apply servedPrice_congr
  intro cluster predicted
  rw [predicted, Option.map_some, Ne, Option.some.injEq] at other
  rw [lookup_byCluster_concat, if_neg other]

end Served

/-- The overrides of some clusters have precedence, whatever they are, exactly when a request
that one cluster prices is predicted to be of it, or of none while it has no override. -/
theorem overridePrecedence_iff (order : AssemblyOrder) (merchantId : String) (rows : ServingRows)
    (overrides addons : List (String × ServingCost)) (clusters : List ClusterDims)
    (binProduct : BinProductMap) (request : LookupRequest) :
    (∀ clusterOverrides : List (ClusterDims × ServingCost),
        clusterOverrides.map Prod.fst = clusters →
          OverridePrecedence order merchantId rows ⟨overrides, clusterOverrides, addons⟩
            binProduct request) ↔
      ∀ dims, PricedFrom order merchantId rows binProduct request dims →
        (predictedBy order merchantId rows request).map PredictedCluster.key = some dims.key ∨
          (predictedBy order merchantId rows request = none ∧
            dims.key ∉ clusters.map ClusterDims.key) := by
  constructor
  · intro precedes dims priced
    cases predicted : predictedBy order merchantId rows request with
    | none => exact Or.inr ⟨rfl, not_mem_of_precedes precedes priced predicted⟩
    | some cluster =>
        left
        rw [Option.map_some,
          key_eq_of_keeps (precedes _ (map_fst_same clusters ⟨0, 0⟩)) priced predicted]
  · rintro agrees clusterOverrides rfl
    constructor
    · intro dims cost priced overridden
      exact ⟨_, wins_of_predicted (agrees dims priced) overridden⟩
    · intro served dims cost priced differ
      apply servedPrice_withCluster
      rcases agrees served priced with isKey | ⟨unpredicted, -⟩
      · rw [isKey]
        exact fun same => differ (Option.some.inj same).symm
      · rw [unpredicted, Option.map_none]
        exact (Option.some_ne_none _).symm

end Precedence

/-! ## A variant that is spelled in another way -/

section Respelled

local instance respelledCase : LetterCase := .ascii

local instance respelledRounding : Rounding := .decimal

def respelledCluster : ClusterKey :=
  ⟨"visa", "visadebit", "debit", "us", "usd", "regulated", ""⟩

def respelledRows : ServingRows where
  cost := [⟨"acme", "adyen", respelledCluster, some 2000, some 0, 100⟩]
  predictor := [⟨"acme", "visa", "visadebit", "debit", "us", 10, "ecom", "regulated", 20⟩]
  segments := []

/-- The variant of the request is reconstructed as `visastandarddebit`. -/
def respelledRequest : LookupRequest :=
  ⟨"adyen", "visa", "debit", "standard", "usd", "us", "us", "ecom", "", "", 10⟩

def respelledDims : ClusterDims :=
  ⟨"adyen", "visa", "visadebit", "debit", "us", "usd", "regulated"⟩

def respelledPrediction : PredictedCluster :=
  predictedCluster respelledRequest "regulated"

theorem predictedBy_respelled :
    predictedBy .stored "acme" respelledRows respelledRequest = some respelledPrediction := by
  decide +kernel

theorem withoutVariant_respelled : withoutVariant respelledPrediction.key =
    some (fineKey "adyen" "visa" "" "debit" "us" "usd" "regulated") := by
  decide +kernel

theorem pricedFrom_respelled :
    PricedFrom .stored "acme" respelledRows (fun _ => none) respelledRequest respelledDims := by
  have sources : learnedSources "acme" respelledRows
      (resolveBinProduct (fun _ => none) respelledRequest.bin) respelledRequest
        (some respelledPrediction) = [respelledDims.key] := by
    rw [learnedSources, Option.elim_some, clusterSources, withoutVariant_respelled]
    decide +kernel
  rw [PricedFrom, predictedBy_respelled, sources]
  exact ⟨List.cons_ne_nil _ _, fun source listed => List.mem_singleton.mp listed⟩

/-- The cluster has an override of 5 basis points, and its learned 20 are served. -/
theorem overridePrecedence_counterexample :
    ¬ OverridePrecedence .stored "acme" respelledRows ⟨[], [(respelledDims, ⟨5, 0⟩)], []⟩
      (fun _ => none) respelledRequest := by
  intro precedes
  rcases precedes.wins respelledDims ⟨5, 0⟩ pricedFrom_respelled (by decide +kernel) with
    ⟨rung, isOverride⟩
  have isPredicted : predictCluster (buildModel .stored "acme" respelledRows
      ⟨[], [(respelledDims, ⟨5, 0⟩)], []⟩) respelledRequest = some respelledPrediction :=
    predictedBy_respelled
  have learned : (chooseRung (buildModel .stored "acme" respelledRows
      ⟨[], [(respelledDims, ⟨5, 0⟩)], []⟩) (resolveBinProduct (fun _ => none)
        respelledRequest.bin) respelledRequest (some respelledPrediction)).map
          (fun served => served.2.pctBps) = some 20 := by
    rw [chooseRung_eq, learnedRung, Option.bind_some, Option.bind_some, clusterRungs_eq,
      withoutVariant_respelled]
    decide +kernel
  rw [servedPrice_eq, isPredicted] at isOverride
  rcases Option.map_eq_some_iff.mp isOverride with ⟨served, isServed, sameCost⟩
  have samePct : served.2.pctBps = 5 := congrArg (fun price => price.2.1.pctBps) sameCost
  rw [isServed, Option.map_some, samePct] at learned
  exact absurd learned (by decide)

end Respelled

end DecisionEngine.CostIngestion
