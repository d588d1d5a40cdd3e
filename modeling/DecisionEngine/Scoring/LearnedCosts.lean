import DecisionEngine.Scoring.CostCache
import DecisionEngine.Transition.Run

/-!
# What the learned models say

The models of a scenario are those of the upstream if each cost is stored with the amount that
it was observed at.  An observation that replaces the costs at a nearby amount leaves that
amount as it is, and breaks the pair.  A model has the gateways of the lowest observation only,
and it answers for a scenario whichever gateways are asked for.
-/

namespace DecisionEngine.Scoring

open Map Search Transition

/-! ## Solving -/

section Solving

variable {order : IterationOrder Gateway (Bool × ℚ)} {a1 a2 : ℚ} {obs1 obs2 : Observation}
  {models : HashMap Gateway FeeModel} {obs : List (ℚ × Observation)}
  {observed lo hi : ℚ × Observation}

theorem mem_of_lowest (isLowest : lowest obs = some lo) : lo ∈ obs :=
  (firstBest_eq_some_iff.mp isLowest).mem

theorem mem_of_highest (isHighest : highest obs = some hi) : hi ∈ obs :=
  (mem_of_lastBest isHighest).1

/-- What it takes to solve the models of two observations. -/
structure Solves (a1 : ℚ) (obs1 : Observation) (a2 : ℚ) (obs2 : Observation)
    (models : HashMap Gateway FeeModel) : Prop where
  firstPositive : 0 < a1
  secondPositive : 0 < a2
  different : 1 / a1 - 1 / a2 ≠ 0
  mem_iff : ∀ gw, gw ∈ models ↔ gw ∈ obs1
  isModel : ∀ gw model, models.lookup gw = some model →
    gatewayModel a1 obs1 a2 obs2 gw = .ok model

theorem solves_of_solveFeeModels (solved : solveFeeModels order a1 obs1 a2 obs2 = some models) :
    Solves a1 obs1 a2 obs2 models := by
  rw [solveFeeModels] at solved
  by_cases positive : a1 ≤ 0 ∨ a2 ≤ 0
  · rw [if_pos positive] at solved
    cases solved
  by_cases near : |a1 - a2| / max a1 a2 < 1 / 100
  · rw [if_neg positive, if_pos near] at solved
    cases solved
  by_cases same : 1 / a1 - 1 / a2 = 0
  · rw [if_neg positive, if_neg near, if_pos same] at solved
    cases solved
  rw [if_neg positive, if_neg near, if_neg same] at solved
  rw [not_or, not_le, not_le] at positive
  cases inserted : insertKeysM ∅ (gatewayModel a1 obs1 a2 obs2) (order.keys obs1) with
  | error failure =>
      rw [inserted] at solved
      cases solved
  | ok filled =>
      rw [inserted] at solved
      cases solved
      have keys : ∀ gw, gw ∈ models ↔ gw ∈ obs1 := by
        intro gw
        rw [mem_insertKeysM inserted, IterationOrder.mem_keys]
        exact or_iff_left (AList.notMem_empty gw)
      refine ⟨positive.1, positive.2, same, keys, ?_⟩
      intro gw model found
      have listed : gw ∈ order.keys obs1 := by
        rw [IterationOrder.mem_keys, ← keys, ← AList.lookup_isSome, found]
        rfl
      rcases ok_of_insertKeysM inserted gw listed with ⟨content, isContent⟩
      rw [lookup_insertKeysM inserted listed isContent] at found
      rw [isContent, Option.some.inj found]

/-- A fit is solved from the lowest and the highest observation. -/
theorem solves_of_fitFromObservations (fitted : fitFromObservations order obs = some models) :
    3 ≤ obs.length ∧ ∃ lo hi, lowest obs = some lo ∧ highest obs = some hi ∧
      Solves lo.1 lo.2 hi.1 hi.2 models := by
  rw [fitFromObservations] at fitted
  by_cases few : obs.length < 3
  · rw [if_pos few] at fitted
    cases fitted
  · rw [if_neg few] at fitted
    simp only [Option.bind_eq_bind, Option.bind_eq_some_iff] at fitted
    rcases fitted with ⟨lo, isLowest, hi, isHighest, solvedModels, solved, accepted⟩
    split at accepted
    · cases accepted
      exact ⟨not_lt.mp few, lo, hi, isLowest, isHighest, solves_of_solveFeeModels solved⟩
    · cases accepted

/-- The gateway is available in both observations, and has the model of its two costs. -/
theorem exists_costs_of_gatewayModel {gw : Gateway} {model : FeeModel}
    (isModel : gatewayModel a1 obs1 a2 obs2 gw = .ok model) :
    ∃ c1 c2, obs1.lookup gw = some (true, c1) ∧ obs2.lookup gw = some (true, c2) ∧
      model = ⟨true, withoutNoise (c1 - (c1 - c2) / (1 / a1 - 1 / a2) / a1),
        withoutNoise ((c1 - c2) / (1 / a1 - 1 / a2) / 10000)⟩ := by
  unfold gatewayModel at isModel
  split at isModel
  · rename_i avail1 c1 avail2 c2 found1 found2
    cases avail1 with
    | false => cases isModel
    | true =>
        cases avail2 with
        | false => cases isModel
        | true =>
            simp only [Bool.not_true, Bool.or_self, Bool.false_eq_true, if_false] at isModel
            split at isModel
            · exact ⟨c1, c2, found1, found2, (Except.ok.inj isModel).symm⟩
            · cases isModel
  · cases isModel

end Solving

/-! ## Charges -/

/-- A percentage and a fixed fee within the bounds of plausibility. -/
structure Fee where
  pctBps : ℚ
  fixed : ℚ
  pctBps_plausible : 0 ≤ pctBps ∧ pctBps ≤ 6500
  fixed_plausible : 0 ≤ fixed ∧ fixed ≤ 2

def Fee.costAt (fee : Fee) (amount : ℚ) : ℚ :=
  fee.pctBps + fee.fixed / amount * 10000

/-- The model is that of the fee. -/
structure FeeModel.HasFee (model : FeeModel) (fee : Fee) : Prop where
  pctBps : model.pctBps = fee.pctBps
  fixed : model.fixed = fee.fixed

theorem withoutNoise_of_nonneg {x : ℚ} (nonneg : 0 ≤ x) : withoutNoise x = x :=
  if_neg fun noise => absurd noise.2 (not_lt.mpr nonneg)

/-- The costs of one fee at two amounts give the fee. -/
theorem hasFee_of_costs (fee : Fee) {a1 a2 : ℚ} (firstPositive : 0 < a1)
    (secondPositive : 0 < a2) (different : 1 / a1 - 1 / a2 ≠ 0) :
    FeeModel.HasFee
      ⟨true,
        withoutNoise (fee.costAt a1 - (fee.costAt a1 - fee.costAt a2) / (1 / a1 - 1 / a2) / a1),
        withoutNoise ((fee.costAt a1 - fee.costAt a2) / (1 / a1 - 1 / a2) / 10000)⟩ fee := by
  have scaled : (fee.costAt a1 - fee.costAt a2) / (1 / a1 - 1 / a2) = fee.fixed * 10000 := by
    rw [div_eq_iff different, Fee.costAt, Fee.costAt]
    field_simp
    ring
  have pct : fee.costAt a1 - fee.fixed * 10000 / a1 = fee.pctBps := by
    rw [Fee.costAt]
    ring
  rw [scaled, pct, mul_div_cancel_right₀ _ (by norm_num),
    withoutNoise_of_nonneg fee.pctBps_plausible.1, withoutNoise_of_nonneg fee.fixed_plausible.1]
  exact ⟨rfl, rfl⟩

/-! ## Steps of the cache -/

section Steps

variable {cache : CostCache} {call : RecordCall} {obs : List (ℚ × Observation)}
  {observed : ℚ × Observation}

/-- An observation is kept, is the new one, or has the new costs at the amount of the first one
that is near. -/
theorem mem_upsertObservation {amount : ℚ} {rows : Observation}
    (listed : observed ∈ upsertObservation obs amount rows) :
    observed ∈ obs ∨ observed = (amount, rows) ∨
      ∃ slot, obs.find? (fun slot => isNear amount slot.1) = some slot ∧
        observed = (slot.1, rows) := by
  have replacing : ∀ replaced, replaceNear amount rows obs = some replaced →
      observed ∈ replaced → observed ∈ obs ∨
        ∃ slot, obs.find? (fun slot => isNear amount slot.1) = some slot ∧
          observed = (slot.1, rows) := by
    clear listed
    induction obs with
    | nil => exact nofun
    | cons slot rest ih =>
        intro replaced isReplaced listed
        rw [replaceNear] at isReplaced
        by_cases near : isNear amount slot.1 = true
        · rw [if_pos near] at isReplaced
          cases isReplaced
          rw [List.find?_cons_of_pos (p := fun slot : ℚ × Observation => isNear amount slot.1) near]
          rcases List.mem_cons.mp listed with isSlot | inRest
          · exact Or.inr ⟨slot, rfl, isSlot⟩
          · exact Or.inl (List.mem_cons_of_mem _ inRest)
        · rw [if_neg near] at isReplaced
          rcases Option.map_eq_some_iff.mp isReplaced with ⟨others, othersReplaced, rfl⟩
          rw [List.find?_cons_of_neg (p := fun slot : ℚ × Observation => isNear amount slot.1) near]
          rcases List.mem_cons.mp listed with isSlot | inOthers
          · exact Or.inl (isSlot ▸ List.mem_cons_self)
          · exact (ih others othersReplaced inOthers).imp_left (List.mem_cons_of_mem _)
  rw [upsertObservation] at listed
  cases isReplaced : replaceNear amount rows obs with
  | some replaced =>
      rw [isReplaced] at listed
      exact (replacing replaced isReplaced listed).imp_right Or.inr
  | none =>
      rw [isReplaced] at listed
      have pushed : observed ∈ obs ++ [(amount, rows)] := by
        dsimp only at listed
        split at listed
        · exact List.mem_of_mem_tail listed
        · exact listed
      rcases List.mem_append.mp pushed with old | new
      · exact Or.inl old
      · exact Or.inr (Or.inl (List.mem_singleton.mp new))

/-- What is stored after an eviction was stored before. -/
theorem lookup_of_evictIfFull {key : String} {entry : ScenarioCost × ℕ}
    (found : (cache.evictIfFull call).data.lookup key = some entry) :
    cache.data.lookup key = some entry := by
  unfold CostCache.evictIfFull at found
  split at found
  · exact found
  · dsimp only at found
    split at found
    · exact found
    · rename_i evicted _
      by_cases isEvicted : key = evicted
      · rw [isEvicted, AList.lookup_erase] at found
        cases found
      · rwa [AList.lookup_erase_ne isEvicted] at found

/-- The observations that are retained once the call is recorded, if its scenario is probed. -/
def CostCache.retained (cache : CostCache) (call : RecordCall) :
    Option (List (ℚ × Observation)) :=
  if call.contended then none
  else
    match cache.unexpired call.key call.ttl call.now with
    | some (.probing obs, _) => some (upsertObservation obs call.amount call.rows)
    | _ => none

/-- A property of the scenarios is kept if fresh and fitted ones have it. -/
theorem forall_record (property : String → ScenarioCost → Prop)
    (holds : ∀ key entry, cache.data.lookup key = some entry → property key entry.1)
    (fresh : property call.key (.probing [(call.amount, call.rows)]))
    (more : ∀ obs, cache.retained call = some obs →
      ∀ storedAt, property call.key (CostCache.probed call storedAt obs).1) :
    ∀ key entry, (cache.record call).data.lookup key = some entry → property key entry.1 := by
  have inserted : ∀ (data : HashMap String (ScenarioCost × ℕ)) (scenario : ScenarioCost × ℕ),
      (∀ key entry, data.lookup key = some entry → cache.data.lookup key = some entry) →
      property call.key scenario.1 →
      ∀ key entry, (data.insert call.key scenario).lookup key = some entry →
        property key entry.1 := by
    intro data scenario kept new key entry found
    by_cases isKey : key = call.key
    · rw [isKey, AList.lookup_insert] at found
      cases found
      exact isKey ▸ new
    · rw [AList.lookup_insert_ne isKey] at found
      exact holds key entry (kept key entry found)
  rw [CostCache.record]
  cases contended : call.contended with
  | true => exact holds
  | false =>
      rw [if_neg Bool.false_ne_true]
      cases found : cache.unexpired call.key call.ttl call.now with
      | none => exact inserted _ _ (fun _ _ => lookup_of_evictIfFull) fresh
      | some entry =>
          cases entry with
          | mk scenario storedAt =>
              cases scenario with
              | solved models => exact holds
              | probing obs =>
                  refine inserted _ _ (fun _ _ same => same) (more _ ?_ storedAt)
                  rw [CostCache.retained, contended, if_neg Bool.false_ne_true, found]

/-- A scenario that is fitted is solved from the retained observations. -/
theorem solves_of_probed {storedAt : ℕ} {models : HashMap Gateway FeeModel}
    (isSolved : (CostCache.probed call storedAt obs).1 = .solved models) :
    3 ≤ obs.length ∧ ∃ lo hi, lowest obs = some lo ∧ highest obs = some hi ∧
      Solves lo.1 lo.2 hi.1 hi.2 models := by
  unfold CostCache.probed at isSolved
  split at isSolved
  · rename_i fitted
    cases isSolved
    exact solves_of_fitFromObservations fitted
  · cases isSolved

theorem probed_of_probing {storedAt : ℕ} {others : List (ℚ × Observation)}
    (isProbing : (CostCache.probed call storedAt obs).1 = .probing others) : others = obs := by
  unfold CostCache.probed at isProbing
  split at isProbing
  · cases isProbing
  · cases isProbing
    rfl

end Steps

/-! ## Models of the upstream -/

section Upstream

/-- The costs of the available gateways are those that the upstream charges at the amount. -/
def ObservedExactly (charges : Gateway → Fee) (observed : ℚ × Observation) : Prop :=
  0 < observed.1 → ∀ gw cost, observed.2.lookup gw = some (true, cost) →
    cost = (charges gw).costAt observed.1

def ScenarioCost.Exact (charges : Gateway → Fee) : ScenarioCost → Prop
  | .probing obs => ∀ observed ∈ obs, ObservedExactly charges observed
  | .solved models => ∀ gw model, models.lookup gw = some model → model.HasFee (charges gw)

/-- A call that meets stored costs at a nearby amount has the same amount. -/
def RecordCall.refreshesSameAmount (cache : CostCache) (call : RecordCall) : Bool :=
  call.contended ||
    match cache.unexpired call.key call.ttl call.now with
    | some (.probing obs, _) =>
        (obs.find? fun slot => isNear call.amount slot.1).all fun slot => slot.1 = call.amount
    | _ => true

theorem exact_of_fit {charges : Gateway → Fee} {obs : List (ℚ × Observation)}
    {lo hi : ℚ × Observation} {models : HashMap Gateway FeeModel}
    (exact : ∀ observed ∈ obs, ObservedExactly charges observed)
    (isLowest : lowest obs = some lo) (isHighest : highest obs = some hi)
    (solves : Solves lo.1 lo.2 hi.1 hi.2 models) :
    (ScenarioCost.solved models).Exact charges := by
  intro gw model found
  rcases exists_costs_of_gatewayModel (solves.isModel gw model found) with
    ⟨c1, c2, found1, found2, rfl⟩
  rw [exact lo (mem_of_lowest isLowest) solves.firstPositive gw c1 found1,
    exact hi (mem_of_highest isHighest) solves.secondPositive gw c2 found2]
  exact hasFee_of_costs (charges gw) solves.firstPositive solves.secondPositive solves.different

theorem exact_record {upstream : String → Gateway → Fee} {cache : CostCache} {call : RecordCall}
    (exact : ∀ key entry, cache.data.lookup key = some entry → entry.1.Exact (upstream key))
    (observed : ObservedExactly (upstream call.key) (call.amount, call.rows))
    (sameAmount : call.refreshesSameAmount cache = true) :
    ∀ key entry, (cache.record call).data.lookup key = some entry →
      entry.1.Exact (upstream key) := by
  refine forall_record (fun key scenario => scenario.Exact (upstream key)) exact ?_ ?_
  · intro other listed
    rw [List.mem_singleton.mp listed]
    exact observed
  · intro obs retained storedAt
    have obsExact : ∀ other ∈ obs, ObservedExactly (upstream call.key) other := by
      unfold CostCache.retained at retained
      split at retained
      · cases retained
      · rename_i free
        split at retained
        · rename_i old _ found
          cases retained
          intro other listed
          rcases mem_upsertObservation listed with kept | isNew | ⟨slot, isSlot, isReplaced⟩
          · have stored := (Option.filter_eq_some_iff.mp found).1
            exact exact call.key _ stored other kept
          · rw [isNew]
            exact observed
          · have same : slot.1 = call.amount := by
              simp only [RecordCall.refreshesSameAmount, found, isSlot] at sameAmount
              simpa [free] using sameAmount
            rw [isReplaced, same]
            exact observed
        · cases retained
    cases isScenario : (CostCache.probed call storedAt obs).1 with
    | probing others =>
        rw [probed_of_probing isScenario]
        exact obsExact
    | solved models =>
        rcases solves_of_probed isScenario with ⟨-, lo, hi, isLowest, isHighest, solves⟩
        exact exact_of_fit obsExact isLowest isHighest solves

/-- Every model that is ever solved is the one of the upstream, as long as costs are replaced at
their own amount only. -/
theorem solved_hasFee (upstream : String → Gateway → Fee) (maxSize : ℕ) (calls : List RecordCall)
    (observed : ∀ call ∈ calls, ObservedExactly (upstream call.key) (call.amount, call.rows))
    (sameAmounts : AllowedActions CostCache.record
      (fun cache call => call.refreshesSameAmount cache = true) (.new maxSize) calls)
    (key : String) (models : HashMap Gateway FeeModel) (storedAt : ℕ)
    (isSolved : (calls.foldl CostCache.record (.new maxSize)).data.lookup key =
      some (.solved models, storedAt)) (gw : Gateway) (model : FeeModel)
    (found : models.lookup gw = some model) : model.HasFee (upstream key gw) := by
  have exact := (run_foldl sameAmounts).invariant
    (fun trace cache =>
      (∀ call ∈ trace, ObservedExactly (upstream call.key) (call.amount, call.rows)) →
        ∀ key entry, cache.data.lookup key = some entry → entry.1.Exact (upstream key))
    (fun _ key entry found => by cases found) (by
      intro trace cache call next holds step allObserved
      rw [step.1]
      refine exact_record (holds fun other listed => ?_) (allObserved call ?_) step.2
      · exact allObserved other (List.mem_append_left _ listed)
      · exact List.mem_append_right _ List.mem_cons_self)
  exact exact observed key _ isSolved gw model found

/-! ## A payment next to another one -/

/-- The model of a gateway that a scenario is served from. -/
def CostCache.modelOf (cache : CostCache) (key : String) (gw : Gateway) : Option FeeModel :=
  match cache.data.lookup key with
  | some (.solved models, _) => models.lookup gw
  | _ => none

theorem exists_solved_of_modelOf {cache : CostCache} {key : String} {gw : Gateway}
    {model : FeeModel} (found : cache.modelOf key gw = some model) :
    ∃ models storedAt, cache.data.lookup key = some (.solved models, storedAt) ∧
      models.lookup gw = some model := by
  unfold CostCache.modelOf at found
  split at found
  · rename_i models storedAt isSolved
    exact ⟨models, storedAt, isSolved, found⟩
  · cases found

/-- A percentage and a fixed fee of fifteen cents. -/
def stripeFee : Fee :=
  ⟨287, 3 / 20, by norm_num, by norm_num⟩

/-- The cost of a payment as it is recorded. -/
def stripeCall (amount : ℚ) : RecordCall where
  key := "merchant"
  amount
  rows := collect [("stripe", true, stripeFee.costAt amount)]
  ttl := 3600 * 10 ^ 9
  now := 0
  contended := false
  order := .stored
  cacheOrder := .stored

theorem observedExactly_stripeCall (amounts : List ℚ) :
    ∀ call ∈ amounts.map stripeCall,
      ObservedExactly (fun _ => stripeFee) (call.amount, call.rows) := by
  intro call called
  rcases List.mem_map.mp called with ⟨amount, -, rfl⟩
  intro _ gw cost found
  have isStripe : gw = "stripe" := by
    have listed : gw ∈ (stripeCall amount).rows := by
      rw [← AList.lookup_isSome, found]
      rfl
    simpa [stripeCall] using mem_collect.mp listed
  subst isStripe
  have stored : (stripeCall amount).rows.lookup "stripe" =
      some (true, stripeFee.costAt amount) := by
    rw [stripeCall, collect]
    exact AList.lookup_insert _
  rw [stored] at found
  cases found
  rfl

theorem not_hasFee_nearbyPayment :
    ¬ ∀ (upstream : String → Gateway → Fee) (maxSize : ℕ) (calls : List RecordCall),
      (∀ call ∈ calls, ObservedExactly (upstream call.key) (call.amount, call.rows)) →
      ∀ key models storedAt,
        (calls.foldl CostCache.record (.new maxSize)).data.lookup key =
          some (.solved models, storedAt) →
        ∀ gw model, models.lookup gw = some model → model.HasFee (upstream key gw) := by
  intro exact
  let calls := [100, 201 / 2, 200, 400].map stripeCall
  have solved : (calls.foldl CostCache.record (.new 10000)).modelOf "merchant" "stripe" =
      some ⟨true, 57692 / 201, 599 / 4020⟩ := by
    decide +kernel
  rcases exists_solved_of_modelOf solved with ⟨models, storedAt, isSolved, found⟩
  have hasFee := exact (fun _ _ => stripeFee) 10000 calls (observedExactly_stripeCall _) "merchant"
    models storedAt
    isSolved "stripe" _ found
  exact absurd hasFee.fixed (by decide +kernel)

theorem solved_hasFee_threePayments :
    ∃ model, (([100, 200, 400].map stripeCall).foldl CostCache.record (.new 10000)).modelOf
      "merchant" "stripe" = some model ∧ model.HasFee stripeFee := by
  let calls := [100, 200, 400].map stripeCall
  have solved : (calls.foldl CostCache.record (.new 10000)).modelOf "merchant" "stripe" =
      some ⟨true, 287, 3 / 20⟩ := by
    decide +kernel
  rcases exists_solved_of_modelOf solved with ⟨models, storedAt, isSolved, found⟩
  exact ⟨_, solved, solved_hasFee (fun _ _ => stripeFee) 10000 calls (observedExactly_stripeCall _)
    ⟨by decide +kernel, by decide +kernel, by decide +kernel, trivial⟩ "merchant" models storedAt
    isSolved "stripe" _ found⟩

end Upstream

end DecisionEngine.Scoring
