import DecisionEngine.Scoring.MultiObjective
import DecisionEngine.Search.FirstBest

/-!
# The cache of learned costs

The cost of a gateway is a percentage and a fixed fee, which are solved from observations of
live costs at different amounts.  A scenario is probed until a model reproduces all of its
observations; from then on the model answers for every amount.
-/

namespace DecisionEngine.Scoring

open Map Search

/-! ## Models -/

structure FeeModel where
  available : Bool
  pctBps : ℚ
  fixed : ℚ
  deriving DecidableEq

def FeeModel.effectiveCostBps (model : FeeModel) (amount : ℚ) : ℚ :=
  if 0 < amount then model.pctBps + model.fixed / amount * 10000 else model.pctBps

/-- The availability and the cost of each gateway at one amount. -/
abbrev Observation := HashMap Gateway (Bool × ℚ)

/-- Negative values next to zero are noise. -/
def withoutNoise (x : ℚ) : ℚ :=
  if -(1 / 1000000) ≤ x ∧ x < 0 then 0 else x

/-- The model of a gateway that is available in both observations, if it is plausible. -/
def gatewayModel (a1 : ℚ) (obs1 : Observation) (a2 : ℚ) (obs2 : Observation) (gw : Gateway) :
    Except Unit FeeModel :=
  match obs1.lookup gw, obs2.lookup gw with
  | some (avail1, c1), some (avail2, c2) =>
      if !avail1 || !avail2 then .error ()
      else
        let fixedScaled := (c1 - c2) / (1 / a1 - 1 / a2)
        let fixed := withoutNoise (fixedScaled / 10000)
        let pctBps := withoutNoise (c1 - fixedScaled / a1)
        if (0 ≤ fixed ∧ fixed ≤ 2) ∧ 0 ≤ pctBps ∧ pctBps ≤ 6500 then .ok ⟨true, pctBps, fixed⟩
        else .error ()
  | _, _ => .error ()

variable (order : IterationOrder Gateway (Bool × ℚ))

/-- The models of the gateways of the first observation, if all of them have one. -/
def solveFeeModels (a1 : ℚ) (obs1 : Observation) (a2 : ℚ) (obs2 : Observation) :
    Option (HashMap Gateway FeeModel) :=
  if a1 ≤ 0 ∨ a2 ≤ 0 then none
  else if |a1 - a2| / max a1 a2 < 1 / 100 then none
  else if 1 / a1 - 1 / a2 = 0 then none
  else (insertKeysM ∅ (gatewayModel a1 obs1 a2 obs2) (order.keys obs1)).toOption

/-- The observation has every gateway of the models, at about the cost that they say. -/
def reproduces (models : HashMap Gateway FeeModel) (observed : ℚ × Observation) : Bool :=
  models.entries.all fun entry =>
    match observed.2.lookup entry.1 with
    | none => false
    | some (avail, actual) => avail && |entry.2.effectiveCostBps observed.1 - actual| ≤ 1

/-- The first observation at the smallest amount. -/
def lowest (obs : List (ℚ × Observation)) : Option (ℚ × Observation) :=
  firstBest (fun observed => -observed.1) obs

/-- The last observation at the largest amount. -/
def highest (obs : List (ℚ × Observation)) : Option (ℚ × Observation) :=
  lastBest Prod.fst obs

/-- Three observations are needed for a model, which the lowest and the highest one give. -/
def fitFromObservations (obs : List (ℚ × Observation)) : Option (HashMap Gateway FeeModel) :=
  if obs.length < 3 then none
  else do
    let lo ← lowest obs
    let hi ← highest obs
    let models ← solveFeeModels order lo.1 lo.2 hi.1 hi.2
    if obs.all (reproduces models) then some models else none

/-! ## Observations -/

def isNear (amount stored : ℚ) : Bool :=
  |stored - amount| / max (max stored amount) 1 < 1 / 100

/-- The costs at the first amount that is near are replaced, and the amount stays. -/
def replaceNear (amount : ℚ) (rows : Observation) :
    List (ℚ × Observation) → Option (List (ℚ × Observation))
  | [] => none
  | slot :: rest =>
      if isNear amount slot.1 then some ((slot.1, rows) :: rest)
      else (replaceNear amount rows rest).map (slot :: ·)

/-- At most six observations are kept, the most recent ones. -/
def upsertObservation (obs : List (ℚ × Observation)) (amount : ℚ) (rows : Observation) :
    List (ℚ × Observation) :=
  match replaceNear amount rows obs with
  | some replaced => replaced
  | none =>
      let pushed := obs ++ [(amount, rows)]
      if 6 < pushed.length then pushed.tail else pushed

/-! ## The cache -/

inductive ScenarioCost where
  | probing (obs : List (ℚ × Observation))
  | solved (models : HashMap Gateway FeeModel)

/-- The scenarios by their keys, with the time of each in nanoseconds. -/
structure CostCache where
  data : HashMap String (ScenarioCost × ℕ)
  maxSize : ℕ

/-- A call to record an observation, with what it meets: the time, whether the lock is held by
another one, and the orders of iteration. -/
structure RecordCall where
  key : String
  amount : ℚ
  rows : Observation
  ttl : ℕ
  now : ℕ
  contended : Bool
  order : IterationOrder Gateway (Bool × ℚ)
  cacheOrder : IterationOrder String (ScenarioCost × ℕ)

namespace CostCache

def new (maxSize : ℕ) : CostCache :=
  ⟨∅, maxSize⟩

def evictionAge : ℕ :=
  3600 * 10 ^ 9

variable (cache : CostCache)

/-- A full cache gives up a scenario that is old, or else any. -/
def evictIfFull (call : RecordCall) : CostCache :=
  if cache.data.keys.length < cache.maxSize ∨ call.key ∈ cache.data then cache
  else
    let entries := call.cacheOrder.entries cache.data
    let evictKey :=
      ((entries.find? fun entry => evictionAge ≤ call.now - entry.2.2).map Prod.fst).or
        (entries.head?.map Prod.fst)
    match evictKey with
    | none => cache
    | some key => { cache with data := cache.data.erase key }

/-- A scenario that was stored within its time to live. -/
def unexpired (key : String) (ttl now : ℕ) : Option (ScenarioCost × ℕ) :=
  (cache.data.lookup key).filter fun entry => now - entry.2 < ttl

/-- The scenario after its observations have changed. -/
def probed (call : RecordCall) (storedAt : ℕ) (obs : List (ℚ × Observation)) :
    ScenarioCost × ℕ :=
  match fitFromObservations call.order obs with
  | some models => (.solved models, call.now)
  | none => (.probing obs, storedAt)

def record (call : RecordCall) : CostCache :=
  if call.contended then cache
  else
    match cache.unexpired call.key call.ttl call.now with
    | some (.solved _, _) => cache
    | some (.probing obs, storedAt) =>
        { cache with
          data := cache.data.insert call.key
            (probed call storedAt (upsertObservation obs call.amount call.rows)) }
    | none =>
        let evicted := cache.evictIfFull call
        { evicted with
          data := evicted.data.insert call.key
            (.probing [(call.amount, call.rows)], call.now) }

/-- The costs by a model that is solved and not expired; `none` is a miss. -/
def get (key : String) (amount : ℚ) (ttl now : ℕ) (contended : Bool) :
    Option (HashMap Gateway (PspCost ℚ)) :=
  if contended then none
  else
    match cache.unexpired key ttl now with
    | some (.solved models, _) =>
        some (mapEntries models fun _ model =>
          { available := model.available
            effectiveCostBps := model.effectiveCostBps amount
            source := .hypersense
            costModel := some ⟨none, none, none, none, none, some model.pctBps,
              some model.fixed⟩ })
    | _ => none

end CostCache

end DecisionEngine.Scoring
