import DecisionEngine.Scoring.LearnedCosts

/-!
# The gateways of a scenario that is served

A solved scenario has the gateways of its lowest observation.  It prices all that are in both
of the observations that it was solved from; one that is asked for but is not in the lowest one
is not priced, and the answer does not say so.
-/

namespace DecisionEngine.Scoring

open Map Search Transition

/-- The scenarios after some calls. -/
def recordAll (maxSize : ℕ) (calls : List RecordCall) : CostCache :=
  calls.foldl CostCache.record (.new maxSize)

theorem recordAll_concat (maxSize : ℕ) (calls : List RecordCall) (call : RecordCall) :
    recordAll maxSize (calls ++ [call]) = (recordAll maxSize calls).record call := by
  rw [recordAll, List.foldl_append, List.foldl_cons, List.foldl_nil]
  rfl

/-- Where three observations or more are retained, the lowest one has the gateways that the
scenario is asked for. -/
def RecordCall.lowestListsAsked (key : String) (asked : List Gateway) (cache : CostCache)
    (call : RecordCall) : Bool :=
  call.key ≠ key ||
    match cache.retained call with
    | none => true
    | some obs =>
        obs.length < 3 || (lowest obs).all fun lo => asked.all fun gw => (lo.2.lookup gw).isSome

/-- The models are those of two observations that were retained at one of the calls, and price
every gateway that is in both. -/
def PricesBoth (maxSize : ℕ) (calls : List RecordCall) (key : String)
    (models : HashMap Gateway FeeModel) : Prop :=
  ∃ before call obs lo hi, before ++ [call] <+: calls ∧ call.key = key ∧
    (recordAll maxSize before).retained call = some obs ∧ lowest obs = some lo ∧
    highest obs = some hi ∧ ∀ gw, gw ∈ lo.2 → gw ∈ hi.2 → gw ∈ models

theorem PricesBoth.later {maxSize : ℕ} {calls more : List RecordCall} {key : String}
    {models : HashMap Gateway FeeModel} (prices : PricesBoth maxSize calls key models)
    (isPrefix : calls <+: more) : PricesBoth maxSize more key models := by
  rcases prices with ⟨before, call, obs, lo, hi, isBefore, rest⟩
  exact ⟨before, call, obs, lo, hi, isBefore.trans isPrefix, rest⟩

/-- What a scenario that is served from its models never does. -/
structure NeverDrops (maxSize : ℕ) (calls : List RecordCall) (key : String)
    (asked : List Gateway) : Prop where
  priced : ∀ models storedAt,
    (recordAll maxSize calls).data.lookup key = some (.solved models, storedAt) →
    PricesBoth maxSize calls key models
  missed : ∀ amount ttl now contended costs,
    (recordAll maxSize calls).get key amount ttl now contended = some costs →
    ∀ gw ∈ asked, gw ∈ costs

section Served

variable {maxSize : ℕ} {calls : List RecordCall} {key : String} {asked : List Gateway}
  {cache : CostCache}

/-- The models price what is asked for exactly if the lowest observation has it. -/
theorem asked_subset_iff {obs : List (ℚ × Observation)} {lo hi : ℚ × Observation}
    {models : HashMap Gateway FeeModel} (isLowest : lowest obs = some lo)
    (solves : Solves lo.1 lo.2 hi.1 hi.2 models) :
    (∀ gw ∈ asked, gw ∈ models) ↔
      (lowest obs).all (fun lo => asked.all fun gw => (lo.2.lookup gw).isSome) = true := by
  rw [isLowest, Option.all_some, List.all_eq_true]
  exact forall₂_congr fun gw _ => (solves.mem_iff gw).trans AList.lookup_isSome.symm

theorem mem_costs_of_get {amount : ℚ} {ttl now : ℕ} {contended : Bool}
    {costs : HashMap Gateway (PspCost ℚ)}
    (served : cache.get key amount ttl now contended = some costs) :
    ∃ models storedAt, cache.data.lookup key = some (.solved models, storedAt) ∧
      ∀ gw, gw ∈ costs ↔ gw ∈ models := by
  unfold CostCache.get at served
  split at served
  · cases served
  · split at served
    · rename_i models storedAt found
      cases served
      exact ⟨models, storedAt, (Option.filter_eq_some_iff.mp found).1,
        fun gw => mem_mapEntries⟩
    · cases served

/-- As long as the lowest observations have what is asked for, it is priced. -/
theorem neverDrops_of_lowestListsAsked (maxSize : ℕ) (calls : List RecordCall) (key : String)
    (asked : List Gateway)
    (listed : AllowedActions CostCache.record
      (fun cache call => call.lowestListsAsked key asked cache = true) (.new maxSize) calls) :
    NeverDrops maxSize calls key asked := by
  have invariant := (run_foldl listed).invariant
    (fun trace cache => cache = recordAll maxSize trace ∧
      ∀ other entry, cache.data.lookup other = some entry → other = key →
        ∀ models, entry.1 = .solved models →
          PricesBoth maxSize trace key models ∧ ∀ gw ∈ asked, gw ∈ models)
    ⟨rfl, fun _ _ found => by cases found⟩ (by
      intro trace cache call next holds step
      rcases holds with ⟨isRun, holds⟩
      rw [step.1, recordAll_concat, isRun]
      refine ⟨rfl, ?_⟩
      rw [isRun] at holds
      have isPrefix : trace <+: trace ++ [call] := List.prefix_append _ _
      apply forall_record (fun other scenario => other = key →
        ∀ models, scenario = .solved models →
          PricesBoth maxSize (trace ++ [call]) key models ∧ ∀ gw ∈ asked, gw ∈ models)
      · intro other entry found isKey models isSolved
        have earlier := holds other entry found isKey models isSolved
        exact ⟨earlier.1.later isPrefix, earlier.2⟩
      · intro _ models isSolved
        cases isSolved
      · intro obs retained storedAt isKey models isSolved
        rcases solves_of_probed isSolved with ⟨several, lo, hi, isLowest, isHighest, solves⟩
        constructor
        · exact ⟨trace, call, obs, lo, hi, List.prefix_refl _, isKey, retained, isLowest,
            isHighest, fun gw inLowest _ => (solves.mem_iff gw).mpr inLowest⟩
        · have lists := step.2
          rw [isRun] at lists
          rw [asked_subset_iff isLowest solves]
          simpa [RecordCall.lowestListsAsked, isKey, retained, not_lt.mpr several] using lists)
  constructor
  · intro models storedAt isSolved
    exact (invariant.2 key _ isSolved rfl models rfl).1
  · intro amount ttl now contended costs served gw isAsked
    rcases mem_costs_of_get served with ⟨models, storedAt, isSolved, same⟩
    exact (same gw).mpr ((invariant.2 key _ isSolved rfl models rfl).2 gw isAsked)

end Served

/-! ## A gateway without a cost at a small amount -/

/-- The costs of some gateways at an amount, as they are recorded. -/
def gatewaysCall (gateways : List Gateway) (amount : ℚ) : RecordCall where
  key := "merchant"
  amount
  rows := collect (gateways.map fun gw => (gw, true, stripeFee.costAt amount))
  ttl := 3600 * 10 ^ 9
  now := 0
  contended := false
  order := .stored
  cacheOrder := .stored

/-- At the smallest amount one of the gateways has no cost. -/
def missingAtSmall : List RecordCall :=
  [gatewaysCall ["adyen", "stripe"] 768, gatewaysCall ["adyen", "stripe"] 374,
    gatewaysCall ["stripe"] 120]

theorem not_missed_missingAtSmall :
    ¬ ∀ (maxSize : ℕ) (calls : List RecordCall) (key : String) (asked : List Gateway),
      (∀ gw ∈ asked, ∃ call ∈ calls, call.key = key ∧ gw ∈ call.rows) →
      NeverDrops maxSize calls key asked := by
  intro neverDrops
  have observed : ∀ gw ∈ ["adyen", "stripe"],
      ∃ call ∈ missingAtSmall, call.key = "merchant" ∧ gw ∈ call.rows := by
    intro gw isAsked
    refine ⟨gatewaysCall ["adyen", "stripe"] 768, List.mem_cons_self, rfl, ?_⟩
    rw [gatewaysCall, mem_collect, List.map_map]
    simpa using isAsked
  have served : ((recordAll 10000 missingAtSmall).get "merchant" 500 (3600 * 10 ^ 9) 1
      false).map (fun costs => (costs.lookup "adyen").isSome) = some false := by
    decide +kernel
  rcases Option.map_eq_some_iff.mp served with ⟨costs, isServed, absent⟩
  have priced := (neverDrops 10000 missingAtSmall "merchant" ["adyen", "stripe"] observed).missed
    _ _ _ _ costs isServed "adyen" List.mem_cons_self
  rw [← AList.lookup_isSome, absent] at priced
  cases priced

theorem neverDrops_threeAmounts :
    NeverDrops 10000 ([768, 374, 120].map (gatewaysCall ["adyen", "stripe"])) "merchant"
      ["adyen", "stripe"] :=
  neverDrops_of_lowestListsAsked 10000 _ "merchant" ["adyen", "stripe"]
    ⟨by decide +kernel, by decide +kernel, by decide +kernel, trivial⟩

end DecisionEngine.Scoring
