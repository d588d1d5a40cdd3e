import DecisionEngine.Cache.Aside
import DecisionEngine.Routing.CacheCoherence

/-!
# Convergence of the routing-algorithm cache

An activation writes the mapping and then the cache entry, and an evaluation that
misses the entry reads the database and then fills the entry.  Between the two
steps the mapping can change, and nothing corrects an outdated entry that is
written last.

The entry ends up with the algorithm of the merchant's mapping when every outdated
write is made while another request has still to write the right one.
-/

namespace DecisionEngine.Routing

open Cache Euclid Transition RoutingState

/-! ## Requests of one merchant -/

/-- What a request does next. -/
inductive RequestState where
  | activate (routingAlgorithmId : String)
  | evaluate
  | fetch
  | fill (algorithm : RoutingAlgorithm)
  | finished

inductive RequestEvent where
  | mapped
  | hit
  | missed
  | fetched
  | filled
  | failed
  deriving DecidableEq

/-- The database step and the cache steps of a request, each of them atomic. -/
def requestProcess (merchantId : String) : Process RoutingState RequestState RequestEvent
  | .activate routingAlgorithmId, state =>
      match state.activateMapping merchantId routingAlgorithmId with
      | .error _ => some (.failed, .finished, state)
      | .ok (algorithm, next) => some (.mapped, .fill algorithm, next)
  | .evaluate, state =>
      match state.cache (routingAlgoCacheKey merchantId) with
      | some _ => some (.hit, .finished, state)
      | none => some (.missed, .fetch, state)
  | .fetch, state =>
      match state.fetchAlgorithmFromDb merchantId with
      | .error _ => some (.failed, .finished, state)
      | .ok algorithm => some (.fetched, .fill algorithm, state)
  | .fill algorithm, state =>
      some (.filled, .finished, state.cacheRoutingAlgorithm merchantId algorithm)
  | .finished, _ => none

inductive CacheRequest where
  | activate (routingAlgorithmId : String)
  | evaluate

def CacheRequest.start : CacheRequest → RequestState
  | .activate routingAlgorithmId => .activate routingAlgorithmId
  | .evaluate => .evaluate

/-- The requests before their first step. -/
def startRequests {ι : Type} (state : RoutingState) (requests : ι → CacheRequest) :
    Config RoutingState ι RequestState :=
  ⟨state, fun index => (requests index).start⟩

/-- The seven ways in which a request makes a step. -/
inductive RequestStep (merchantId : String) :
    RequestState → RoutingState → RequestEvent → RequestState → RoutingState → Prop
  | refused {routingAlgorithmId : String} {shared : RoutingState} {error : EuclidErrors}
      (result : shared.activateMapping merchantId routingAlgorithmId = .error error) :
      RequestStep merchantId (.activate routingAlgorithmId) shared .failed .finished shared
  | mapped {routingAlgorithmId : String} {shared next : RoutingState}
      {algorithm : RoutingAlgorithm}
      (result : shared.activateMapping merchantId routingAlgorithmId = .ok (algorithm, next)) :
      RequestStep merchantId (.activate routingAlgorithmId) shared .mapped (.fill algorithm)
        next
  | hit {shared : RoutingState} {cached : CachedRoutingAlgorithm}
      (found : shared.cache (routingAlgoCacheKey merchantId) = some cached) :
      RequestStep merchantId .evaluate shared .hit .finished shared
  | missed {shared : RoutingState}
      (found : shared.cache (routingAlgoCacheKey merchantId) = none) :
      RequestStep merchantId .evaluate shared .missed .fetch shared
  | failed {shared : RoutingState} {error : EuclidErrors}
      (result : shared.fetchAlgorithmFromDb merchantId = .error error) :
      RequestStep merchantId .fetch shared .failed .finished shared
  | fetched {shared : RoutingState} {algorithm : RoutingAlgorithm}
      (result : shared.fetchAlgorithmFromDb merchantId = .ok algorithm) :
      RequestStep merchantId .fetch shared .fetched (.fill algorithm) shared
  | filled {shared : RoutingState} (algorithm : RoutingAlgorithm) :
      RequestStep merchantId (.fill algorithm) shared .filled .finished
        (shared.cacheRoutingAlgorithm merchantId algorithm)

variable {merchantId : String} {event : RequestEvent}

theorem requestStep_of_requestProcess {state nextState : RequestState} {shared next : RoutingState}
    (steps : requestProcess merchantId state shared = some (event, nextState, next)) :
    RequestStep merchantId state shared event nextState next := by
  cases state with
  | activate routingAlgorithmId =>
      cases result : shared.activateMapping merchantId routingAlgorithmId with
      | error error =>
          simp only [requestProcess, result, Option.some.injEq, Prod.mk.injEq] at steps
          rcases steps with ⟨rfl, rfl, rfl⟩
          exact .refused result
      | ok found =>
          simp only [requestProcess, result, Option.some.injEq, Prod.mk.injEq] at steps
          rcases steps with ⟨rfl, rfl, rfl⟩
          exact .mapped result
  | evaluate =>
      cases found : shared.cache (routingAlgoCacheKey merchantId) with
      | some cached =>
          simp only [requestProcess, found, Option.some.injEq, Prod.mk.injEq] at steps
          rcases steps with ⟨rfl, rfl, rfl⟩
          exact .hit found
      | none =>
          simp only [requestProcess, found, Option.some.injEq, Prod.mk.injEq] at steps
          rcases steps with ⟨rfl, rfl, rfl⟩
          exact .missed found
  | fetch =>
      cases result : shared.fetchAlgorithmFromDb merchantId with
      | error error =>
          simp only [requestProcess, result, Option.some.injEq, Prod.mk.injEq] at steps
          rcases steps with ⟨rfl, rfl, rfl⟩
          exact .failed result
      | ok algorithm =>
          simp only [requestProcess, result, Option.some.injEq, Prod.mk.injEq] at steps
          rcases steps with ⟨rfl, rfl, rfl⟩
          exact .fetched result
  | fill algorithm =>
      simp only [requestProcess, Option.some.injEq, Prod.mk.injEq] at steps
      rcases steps with ⟨rfl, rfl, rfl⟩
      exact .filled algorithm
  | finished => cases steps

/-! ## The cache beside the tables -/

/-- What the entry of the merchant should be. -/
def currentEntry (merchantId : String) (state : RoutingState) :
    Option CachedRoutingAlgorithm :=
  (state.fetchAlgorithmFromDb merchantId).toOption.map RoutingAlgorithm.cached

def entry (merchantId : String) (state : RoutingState) : Option CachedRoutingAlgorithm :=
  state.cache (routingAlgoCacheKey merchantId)

/-- What a request has still to write. -/
def pendingEntry : RequestState → Option (Option CachedRoutingAlgorithm)
  | .fill algorithm => some (some algorithm.cached)
  | _ => none

/-- The step does not mix kinds, and an outdated entry is only written while
another request has still to write the right one. -/
structure InPace {ι : Type} (merchantId : String) (config : Config RoutingState ι RequestState)
    (index : ι) : Prop where
  separate : ∀ routingAlgorithmId, config.locals index = .activate routingAlgorithmId →
    Separate config.shared (.handled (.activate merchantId routingAlgorithmId))
  covered : Covered (currentEntry merchantId) pendingEntry config index

variable {state : RoutingState} {algorithm : RoutingAlgorithm}

theorem currentEntry_of_fetchAlgorithmFromDb
    (fetched : state.fetchAlgorithmFromDb merchantId = .ok algorithm) :
    currentEntry merchantId state = some algorithm.cached := by
  rw [currentEntry, fetched]
  rfl

theorem fetchAlgorithmFromDb_of_currentEntry {cached : CachedRoutingAlgorithm}
    (current : currentEntry merchantId state = some cached) :
    ∃ algorithm, state.fetchAlgorithmFromDb merchantId = .ok algorithm ∧
      algorithm.cached = cached := by
  rw [currentEntry] at current
  cases fetched : state.fetchAlgorithmFromDb merchantId with
  | error error =>
      rw [fetched] at current
      cases current
  | ok algorithm =>
      rw [fetched] at current
      exact ⟨algorithm, rfl, Option.some.inj current⟩

/-- After the mapper write the activated algorithm is the current one. -/
theorem currentEntry_of_activated {routingAlgorithmId : String} {next : RoutingState}
    (singleKind : next.SingleKind merchantId)
    (activated : state.Activated merchantId routingAlgorithmId algorithm next) :
    currentEntry merchantId next = some algorithm.cached := by
  rcases singleKind.fetchAlgorithmFromDb activated.serves with ⟨selected, fetched, same, _⟩
  rw [currentEntry_of_fetchAlgorithmFromDb fetched, same]

/-- Every step of a request is a step beside the tables, and keeps the merchant
with one kind. -/
theorem RequestStep.asideStep {merchantId : String} {state nextState : RequestState}
    {shared next : RoutingState} {event : RequestEvent}
    (step : RequestStep merchantId state shared event nextState next)
    (singleKind : shared.SingleKind merchantId)
    (separate : ∀ routingAlgorithmId, state = .activate routingAlgorithmId →
      Separate shared (.handled (.activate merchantId routingAlgorithmId))) :
    AsideStep (currentEntry merchantId) (entry merchantId) pendingEntry state shared
      nextState next ∧ next.SingleKind merchantId := by
  cases step with
  | mapped result =>
      have activated := activated_of_activateMapping result
      have nextKind : next.SingleKind merchantId := SingleKind.activated
        (separate _ rfl _ activated.found.1 activated.found.2) activated
      have sameEntry : entry merchantId next = entry merchantId shared :=
        congrFun activated.cache _
      have right := (currentEntry_of_activated nextKind activated).symm
      exact ⟨.fetches sameEntry rfl (Or.inr right), nextKind⟩
  | fetched result =>
      have right := (currentEntry_of_fetchAlgorithmFromDb result).symm
      exact ⟨.fetches rfl rfl (Or.inr right), singleKind⟩
  | filled algorithm =>
      have written : entry merchantId (shared.cacheRoutingAlgorithm merchantId algorithm) =
          some algorithm.cached := Function.update_self _ _ _
      exact ⟨.writes rfl rfl written, singleKind⟩
  | refused _ => exact ⟨.passes rfl rfl rfl, singleKind⟩
  | hit _ => exact ⟨.passes rfl rfl rfl, singleKind⟩
  | missed _ => exact ⟨.passes rfl rfl rfl, singleKind⟩
  | failed _ => exact ⟨.passes rfl rfl rfl, singleKind⟩

/-! ## Interleavings -/

section Interleavings

variable {ι : Type} [DecidableEq ι] {merchantId : String}

/-- The steps of a run in which no outdated entry is left to itself. -/
abbrev PacedRun (merchantId : String) :
    Config RoutingState ι RequestState → List (ι × RequestEvent) →
      Config RoutingState ι RequestState → Prop :=
  Run fun config label next =>
    Moves (requestProcess merchantId) config label next ∧ InPace merchantId config label.1

variable {start : Config RoutingState ι RequestState} {trace : List (ι × RequestEvent)}
  {final : Config RoutingState ι RequestState}

/-- The merchant keeps one kind, and the entry is right or will be. -/
theorem converging_of_pacedRun (singleKind : start.shared.SingleKind merchantId)
    (settled : Settled (currentEntry merchantId start.shared) (entry merchantId start.shared))
    (run : PacedRun merchantId start trace final) :
    final.shared.SingleKind merchantId ∧
      Converging (currentEntry merchantId) (entry merchantId) pendingEntry final := by
  apply run.invariant_of_allowed fun _ config => config.shared.SingleKind merchantId ∧
    Converging (currentEntry merchantId) (entry merchantId) pendingEntry config
  · exact ⟨singleKind, Or.inl settled⟩
  · rintro trace config label next ⟨singleKind, converging⟩ inPace ⟨steps⟩
    rcases (requestStep_of_requestProcess steps).asideStep singleKind inPace.separate with
      ⟨asideStep, nextKind⟩
    exact ⟨nextKind, converging.step inPace.covered asideStep⟩

/-- The request has an algorithm to work with. -/
def Finds (event : RequestEvent) : Prop :=
  event = .hit ∨ event = .mapped ∨ event = .fetched

/-- There is an entry, or a request will write one. -/
def EntryComing (merchantId : String) (config : Config RoutingState ι RequestState) : Prop :=
  (entry merchantId config.shared).isSome ∨
    ∃ index algorithm, config.locals index = .fill algorithm

variable {event : RequestEvent}

omit [DecidableEq ι] in
/-- No step removes the entry, and only the one that writes it is done with it. -/
theorem RequestStep.entry_cases {state nextState : RequestState} {shared next : RoutingState}
    (step : RequestStep merchantId state shared event nextState next) :
    (entry merchantId next).isSome ∨
      (entry merchantId next = entry merchantId shared ∧
        (∀ algorithm, state ≠ .fill algorithm) ∧
        (Finds event → ∃ algorithm, nextState = .fill algorithm)) := by
  cases step with
  | mapped result =>
      right
      have activated := activated_of_activateMapping result
      exact ⟨congrFun activated.cache _, fun _ same => (by cases same), fun _ => ⟨_, rfl⟩⟩
  | fetched result => exact Or.inr ⟨rfl, fun _ same => (by cases same), fun _ => ⟨_, rfl⟩⟩
  | filled algorithm =>
      left
      simp [entry, cacheRoutingAlgorithm]
  | hit found =>
      left
      rw [entry, found]
      rfl
  | refused _ => exact Or.inr ⟨rfl, fun _ same => (by cases same), by simp [Finds]⟩
  | missed _ => exact Or.inr ⟨rfl, fun _ same => (by cases same), by simp [Finds]⟩
  | failed _ => exact Or.inr ⟨rfl, fun _ same => (by cases same), by simp [Finds]⟩

/-- Once a request has found an algorithm there is an entry or one is coming. -/
theorem entryComing_step {config next : Config RoutingState ι RequestState} {index : ι}
    (found : EntryComing merchantId config ∨ Finds event)
    (moves : Moves (requestProcess merchantId) config (index, event) next) :
    EntryComing merchantId next := by
  rcases moves with ⟨steps⟩
  rcases (requestStep_of_requestProcess steps).entry_cases with present | ⟨same, notFill, finds⟩
  · exact Or.inl present
  · rcases found with (present | ⟨other, algorithm, isFill⟩) | found
    · left
      rw [same]
      exact present
    · right
      refine ⟨other, algorithm, ?_⟩
      dsimp only
      rw [Function.update_of_ne]
      · exact isFill
      · rintro rfl
        exact notFill algorithm isFill
    · right
      rcases finds found with ⟨algorithm, isFill⟩
      refine ⟨index, algorithm, ?_⟩
      dsimp only
      rw [Function.update_self]
      exact isFill

theorem entryComing_of_interleaving
    (run : Interleaving (requestProcess merchantId) start trace final)
    (found : ∃ label ∈ trace, Finds label.2) : EntryComing merchantId final := by
  have holds : (∃ label ∈ trace, Finds label.2) → EntryComing merchantId final := by
    apply run.invariant fun trace config =>
      (∃ label ∈ trace, Finds label.2) → EntryComing merchantId config
    · rintro ⟨_, labelMem, _⟩
      cases labelMem
    · rintro trace config label next coming moves ⟨other, otherMem, finds⟩
      apply entryComing_step _ moves
      rcases List.mem_append.mp otherMem with otherMem | otherMem
      · exact Or.inl (coming ⟨other, otherMem, finds⟩)
      · rw [List.mem_singleton.mp otherMem] at finds
        exact Or.inr finds
  exact holds found

omit [DecidableEq ι] in
theorem locals_of_done {config : Config RoutingState ι RequestState}
    (done : config.Done (requestProcess merchantId)) (index : ι) :
    config.locals index = .finished := by
  have stuck := done index
  cases state : config.locals index with
  | finished => rfl
  | activate routingAlgorithmId =>
      rw [state] at stuck
      simp only [requestProcess] at stuck
      split at stuck <;> cases stuck
  | evaluate =>
      rw [state] at stuck
      simp only [requestProcess] at stuck
      split at stuck <;> cases stuck
  | fetch =>
      rw [state] at stuck
      simp only [requestProcess] at stuck
      split at stuck <;> cases stuck
  | fill algorithm =>
      rw [state] at stuck
      cases stuck

/-- When every request is done and no outdated entry was left to itself, an entry
is of the algorithm of the merchant's mapping, which the database selects; and
there is an entry when any request found an algorithm. -/
theorem cache_converges {state : RoutingState} {requests : ι → CacheRequest}
    (singleKind : state.SingleKind merchantId)
    (settled : Settled (currentEntry merchantId state) (entry merchantId state))
    {trace : List (ι × RequestEvent)} {final : Config RoutingState ι RequestState}
    (run : PacedRun merchantId (startRequests state requests) trace final)
    (done : final.Done (requestProcess merchantId)) :
    (∀ cached, final.shared.cache (routingAlgoCacheKey merchantId) = some cached →
      ∃ mapping ∈ final.shared.mapper, mapping.createdBy = merchantId ∧
        (∀ other ∈ final.shared.mapper, other.createdBy = merchantId → other = mapping) ∧
        ∃ algorithm, final.shared.findAlgorithm mapping.routingAlgorithmId = some algorithm ∧
          final.shared.fetchAlgorithmFromDb merchantId = .ok algorithm ∧
          cached.id = algorithm.id ∧ cached.algorithmData = algorithm.algorithmData) ∧
    ((∃ label ∈ trace, Finds label.2) →
      final.shared.cache (routingAlgoCacheKey merchantId) ≠ none) := by
  rcases converging_of_pacedRun singleKind settled run with ⟨finalKind, converging⟩
  have nothingLeft : ∀ index, pendingEntry (final.locals index) = none := by
    intro index
    rw [locals_of_done done index]
    rfl
  constructor
  · intro cached hit
    rcases converging.settled nothingLeft with noEntry | isCurrent
    · rw [entry, hit] at noEntry
      cases noEntry
    · rw [entry, hit] at isCurrent
      rcases fetchAlgorithmFromDb_of_currentEntry isCurrent.symm with
        ⟨algorithm, fetched, rfl⟩
      rcases mapping_of_fetchAlgorithmFromDb fetched with
        ⟨mapping, mappingMem, isMapping, foundAlgorithm⟩
      have unique : ∀ other ∈ final.shared.mapper, other.createdBy = merchantId →
          other = mapping := fun other otherMem isOther =>
        finalKind.mapping_unique otherMem mappingMem isOther isMapping
      exact ⟨mapping, mappingMem, isMapping, unique, algorithm, foundAlgorithm, fetched, rfl,
        rfl⟩
  · intro found
    have interleaving : Interleaving (requestProcess merchantId) (startRequests state requests)
        trace final := run.mono fun _ _ _ step => step.1
    rcases entryComing_of_interleaving interleaving found with present | ⟨index, _, isFill⟩
    · exact Option.isSome_iff_ne_none.mp present
    · rw [locals_of_done done index] at isFill
      cases isFill

end Interleavings

/-- A second payment algorithm. -/
def otherAlgorithm : RoutingAlgorithm :=
  { paymentAlgorithm with id := "routing_c", name := "c" }

/-- The owner has one of two payment algorithms active, and its entry has expired. -/
def expiredState : RoutingState :=
  (handleAll .empty [.create paymentAlgorithm, .create otherAlgorithm,
    .activate "owner" "routing_a"]).invalidateRoutingAlgorithmCache "owner"

/-- One request activates the other algorithm and one evaluates. -/
def activateAndEvaluate (second : Bool) : CacheRequest :=
  if second then .evaluate else .activate "routing_c"

/-- The evaluation writes the old algorithm, but the activation has still to
write the new one. -/
def coveredFinal : Config RoutingState Bool RequestState :=
  runSchedule (requestProcess "owner") (startRequests expiredState activateAndEvaluate)
    [true, true, false, true, false]

theorem cache_converges_covered :
    ∃ trace, PacedRun "owner" (startRequests expiredState activateAndEvaluate) trace
        coveredFinal ∧
      (∀ cached, coveredFinal.shared.cache (routingAlgoCacheKey "owner") = some cached →
        ∃ mapping ∈ coveredFinal.shared.mapper, mapping.createdBy = "owner" ∧
          (∀ other ∈ coveredFinal.shared.mapper, other.createdBy = "owner" →
            other = mapping) ∧
          ∃ algorithm,
            coveredFinal.shared.findAlgorithm mapping.routingAlgorithmId = some algorithm ∧
            coveredFinal.shared.fetchAlgorithmFromDb "owner" = .ok algorithm ∧
            cached.id = algorithm.id ∧ cached.algorithmData = algorithm.algorithmData) ∧
      ((∃ label ∈ trace, Finds label.2) →
        coveredFinal.shared.cache (routingAlgoCacheKey "owner") ≠ none) := by
  have singleKind : expiredState.SingleKind "owner" := by
    show ∀ first ∈ expiredState.mapper.rows, ∀ second ∈ expiredState.mapper.rows,
      first.createdBy = "owner" → second.createdBy = "owner" →
        first.algorithmFor = second.algorithmFor
    decide
  have paced : AllowedSchedule (requestProcess "owner") (InPace "owner")
      (startRequests expiredState activateAndEvaluate) [true, true, false, true, false] := by
    refine ⟨⟨nofun, nofun⟩, ⟨nofun, nofun⟩, ⟨?_, nofun⟩, ⟨nofun, ?_⟩, ⟨nofun, ?_⟩, trivial⟩
    · rintro routingAlgorithmId isActivate
      cases isActivate
      show ∀ algorithm ∈ expiredState.algorithms.rows, algorithm.id = "routing_c" →
        ∀ mapping ∈ expiredState.mapper.rows, mapping.createdBy = "owner" →
          mapping.algorithmFor = algorithm.algorithmFor
      decide
    · intro value _
      exact Or.inr ⟨false, some otherAlgorithm.cached, nofun, rfl, Or.inr rfl⟩
    · intro value written
      cases written
      exact Or.inl (Or.inr rfl)
  rcases run_runSchedule (requestProcess "owner") paced with ⟨trace, run⟩
  have done : coveredFinal.Done (requestProcess "owner") := by
    intro index
    cases index <;> rfl
  exact ⟨trace, run, cache_converges singleKind (Or.inl rfl) run done⟩

/-- Two activations of different algorithms. -/
def activateBoth (second : Bool) : CacheRequest :=
  if second then .activate "routing_a" else .activate "routing_c"

/-- An evaluation that has read the old algorithm fills the entry after the
activation has, and of two activations the one that wrote the mapping first
writes the entry last. -/
theorem cache_converges_counterexample :
    (∃ trace final cached mapping, Interleaving (requestProcess "owner")
        (startRequests expiredState activateAndEvaluate) trace final ∧
      final.Done (requestProcess "owner") ∧
      final.shared.cache (routingAlgoCacheKey "owner") = some cached ∧
      final.shared.mapper.rows = [mapping] ∧ mapping.createdBy = "owner" ∧
      cached.id ≠ mapping.routingAlgorithmId) ∧
    ∃ trace final cached mapping, Interleaving (requestProcess "owner")
        (startRequests expiredState activateBoth) trace final ∧
      final.Done (requestProcess "owner") ∧
      final.shared.cache (routingAlgoCacheKey "owner") = some cached ∧
      final.shared.mapper.rows = [mapping] ∧ mapping.createdBy = "owner" ∧
      cached.id ≠ mapping.routingAlgorithmId := by
  constructor
  · rcases interleaving_runSchedule (requestProcess "owner")
      (startRequests expiredState activateAndEvaluate) [true, true, false, false, true] with
      ⟨trace, run⟩
    refine ⟨trace, _, paymentAlgorithm.cached, ⟨0, "owner", "routing_c", "payment"⟩, run, ?_,
      by decide, by decide, by decide, by decide⟩
    intro index
    cases index <;> rfl
  · rcases interleaving_runSchedule (requestProcess "owner")
      (startRequests expiredState activateBoth) [false, true, true, false] with ⟨trace, run⟩
    refine ⟨trace, _, otherAlgorithm.cached, ⟨0, "owner", "routing_a", "payment"⟩, run, ?_,
      by decide, by decide, by decide, by decide⟩
    intro index
    cases index <;> rfl

end DecisionEngine.Routing
