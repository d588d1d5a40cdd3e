import DecisionEngine.Cache.Aside
import DecisionEngine.Config.ServiceConfiguration

/-!
# Convergence of the configuration caches

A write of the table is followed by a write of the caches, and a find that misses the
caches reads the table and then fills them.  Between the two steps the table can
change, and nothing corrects an outdated text that is written last.

The caches end up with the text of the table when every outdated text is written while
another request has still to write the right one.
-/

namespace DecisionEngine.Config

open Cache Redis Text Transition

/-! ## Requests of one name -/

/-- What a request does next. -/
inductive RequestState where
  | insert (value : Option String)
  | update (value : Option String)
  | delete
  | find
  | look
  | copy (text : String)
  | fetch
  | fill (value : Option String)
  | store (value : Option String)
  | finished

/-- The table step and the cache steps of a request, each of them atomic. -/
def requestProcess (app : TenantAppState) (name : String) :
    Process ConfigState RequestState Unit
  | .insert value, state => some ((), .store value, state.insertRow name value)
  | .update value, state =>
      match state.updateRows name value with
      | .error _ => some ((), .finished, state)
      | .ok updated => some ((), .store value, updated)
  | .delete, state =>
      match state.deleteRows name with
      | .error _ => some ((), .finished, state)
      | .ok deleted => some ((), .store none, deleted)
  | .store value, state => some ((), .finished, state.cacheValue app name value)
  | .find, state =>
      match state.getFromMemoryCache (app.cacheConfig.addPrefix name) with
      | some _ => some ((), .finished, state)
      | none => some ((), .look, state)
  | .look, state =>
      match state.getFromRedisCache app (app.cacheConfig.addPrefix name) with
      | some text => some ((), .copy text, state)
      | none => some ((), .fetch, state)
  | .copy text, state =>
      some ((), .finished, state.setToMemoryCache (app.cacheConfig.addPrefix name) text)
  | .fetch, state => some ((), .fill (state.valueOf name), state)
  | .fill (some text), state =>
      some ((), .finished, state.writeThroughServiceConfig app name text)
  | .fill none, state =>
      some ((), .finished, state.setToMemoryCache (app.cacheConfig.addPrefix name) "")
  | .finished, _ => none

inductive ConfigRequest where
  | insert (value : Option String)
  | update (value : Option String)
  | delete
  | find

def ConfigRequest.start : ConfigRequest → RequestState
  | .insert value => .insert value
  | .update value => .update value
  | .delete => .delete
  | .find => .find

/-- The requests before their first step. -/
def startRequests {ι : Type} (state : ConfigState) (requests : ι → ConfigRequest) :
    Config ConfigState ι RequestState :=
  ⟨state, fun index => (requests index).start⟩

/-- The ways in which a request makes a step. -/
inductive RequestStep (app : TenantAppState) (name : String) :
    RequestState → ConfigState → RequestState → ConfigState → Prop
  | inserted (value : Option String) (shared : ConfigState) :
      RequestStep app name (.insert value) shared (.store value) (shared.insertRow name value)
  | updated {value : Option String} {shared next : ConfigState}
      (result : shared.updateRows name value = .ok next) :
      RequestStep app name (.update value) shared (.store value) next
  | deleted {shared next : ConfigState} (result : shared.deleteRows name = .ok next) :
      RequestStep app name .delete shared (.store none) next
  | stored (value : Option String) (shared : ConfigState) :
      RequestStep app name (.store value) shared .finished (shared.cacheValue app name value)
  | read {state nextState : RequestState} {shared : ConfigState}
      (reads : state = .find ∨ state = .look ∨ (∃ value, state = .update value) ∨
        state = .delete)
      (kept : (nextState = .finished ∨ nextState = .look ∨ nextState = .fetch) ∨
        ∃ text, nextState = .copy text) :
      RequestStep app name state shared nextState shared
  | copied (text : String) (shared : ConfigState) :
      RequestStep app name (.copy text) shared .finished
        (shared.setToMemoryCache (app.cacheConfig.addPrefix name) text)
  | fetched (shared : ConfigState) :
      RequestStep app name .fetch shared (.fill (shared.valueOf name)) shared
  | filled (text : String) (shared : ConfigState) :
      RequestStep app name (.fill (some text)) shared .finished
        (shared.writeThroughServiceConfig app name text)
  | filledNone (shared : ConfigState) :
      RequestStep app name (.fill none) shared .finished
        (shared.setToMemoryCache (app.cacheConfig.addPrefix name) "")

variable {app : TenantAppState} {name : String}

variable {state : RequestState} {shared next : ConfigState}

theorem requestStep_of_requestProcess {nextState : RequestState} {event : Unit}
    (steps : requestProcess app name state shared = some (event, nextState, next)) :
    RequestStep app name state shared nextState next := by
  cases state with
  | insert value =>
      cases steps
      exact .inserted value shared
  | update value =>
      cases updated : shared.updateRows name value with
      | error error =>
          simp only [requestProcess, updated, Option.some.injEq, Prod.mk.injEq] at steps
          rcases steps with ⟨-, rfl, rfl⟩
          exact .read (Or.inr (Or.inr (Or.inl ⟨value, rfl⟩))) (Or.inl (Or.inl rfl))
      | ok updatedState =>
          simp only [requestProcess, updated, Option.some.injEq, Prod.mk.injEq] at steps
          rcases steps with ⟨-, rfl, rfl⟩
          exact .updated updated
  | delete =>
      cases deleted : shared.deleteRows name with
      | error error =>
          simp only [requestProcess, deleted, Option.some.injEq, Prod.mk.injEq] at steps
          rcases steps with ⟨-, rfl, rfl⟩
          exact .read (Or.inr (Or.inr (Or.inr rfl))) (Or.inl (Or.inl rfl))
      | ok deletedState =>
          simp only [requestProcess, deleted, Option.some.injEq, Prod.mk.injEq] at steps
          rcases steps with ⟨-, rfl, rfl⟩
          exact .deleted deleted
  | store value =>
      cases steps
      exact .stored value shared
  | find =>
      cases inMemory : shared.getFromMemoryCache (app.cacheConfig.addPrefix name) with
      | some text =>
          simp only [requestProcess, inMemory, Option.some.injEq, Prod.mk.injEq] at steps
          rcases steps with ⟨-, rfl, rfl⟩
          exact .read (Or.inl rfl) (Or.inl (Or.inl rfl))
      | none =>
          simp only [requestProcess, inMemory, Option.some.injEq, Prod.mk.injEq] at steps
          rcases steps with ⟨-, rfl, rfl⟩
          exact .read (Or.inl rfl) (Or.inl (Or.inr (Or.inl rfl)))
  | look =>
      cases inRedis : shared.getFromRedisCache app (app.cacheConfig.addPrefix name) with
      | some text =>
          simp only [requestProcess, inRedis, Option.some.injEq, Prod.mk.injEq] at steps
          rcases steps with ⟨-, rfl, rfl⟩
          exact .read (Or.inr (Or.inl rfl)) (Or.inr ⟨text, rfl⟩)
      | none =>
          simp only [requestProcess, inRedis, Option.some.injEq, Prod.mk.injEq] at steps
          rcases steps with ⟨-, rfl, rfl⟩
          exact .read (Or.inr (Or.inl rfl)) (Or.inl (Or.inr (Or.inr rfl)))
  | copy text =>
      cases steps
      exact .copied text shared
  | fetch =>
      cases steps
      exact .fetched shared
  | fill value =>
      cases value with
      | some text =>
          cases steps
          exact .filled text shared
      | none =>
          cases steps
          exact .filledNone shared
  | finished => cases steps

/-! ## The caches beside the table -/

/-- What the memory should hold; the empty text stands for no configuration. -/
def currentText (name : String) (state : ConfigState) : Option String :=
  some ((state.valueOf name).getD "")

def currentBytes (name : String) (state : ConfigState) : Option Bytes :=
  (currentText name state).map encodeUtf8

def memoryEntry (app : TenantAppState) (name : String) (state : ConfigState) : Option String :=
  state.memory (app.cacheConfig.addPrefix name)

def redisEntry (app : TenantAppState) (name : String) (state : ConfigState) : Option Bytes :=
  state.redis (app.cacheConfig.addPrefix name)

/-- What a request has still to write to the memory. -/
def pendingText : RequestState → Option (Option String)
  | .store value => some (some (value.getD ""))
  | .fill value => some (some (value.getD ""))
  | .copy text => some (some text)
  | _ => none

/-- What a request has still to write to Redis; of a name without a configuration a find
writes nothing there. -/
def pendingBytes : RequestState → Option (Option Bytes)
  | .store value => some (some (encodeUtf8 (value.getD "")))
  | .fill (some text) => some (some (encodeUtf8 text))
  | _ => none

/-- An insert is made where the table has no other text under the name, and an outdated text
is only written to a cache while another request has still to write the right one there. -/
structure InPace {ι : Type} (app : TenantAppState) (name : String)
    (config : Config ConfigState ι RequestState) (index : ι) : Prop where
  free : ∀ value, config.locals index = .insert value →
    ∀ row, config.shared.findConfigByName name = some row → row.value = value
  memory : Covered (currentText name) pendingText config index
  redis : Covered (currentBytes name) pendingBytes config index

/-- The table and a cache after a step: a step beside the table, or one that takes up a text
for the cache without looking at the table. -/
def Moved {V : Type} (current cached : ConfigState → Option V)
    (pending : RequestState → Option (Option V)) (state : RequestState) (shared : ConfigState)
    (nextState : RequestState) (next : ConfigState) : Prop :=
  AsideStep current cached pending state shared nextState next ∨
    (pending state = none ∧ current next = current shared ∧ cached next = cached shared)

variable {value : Option String}

theorem currentText_of_tableWritten {state : ConfigState}
    (written : state.TableWritten name value next) :
    currentText name next = some (value.getD "") := by
  rw [currentText, written.value]

theorem currentBytes_of_tableWritten {state : ConfigState}
    (written : state.TableWritten name value next) :
    currentBytes name next = some (encodeUtf8 (value.getD "")) := by
  rw [currentBytes, currentText_of_tableWritten written]
  rfl

/-- After a write of the table the request carries the right texts for both caches. -/
theorem moved_of_tableWritten (written : shared.TableWritten name value next) :
    Moved (currentText name) (memoryEntry app name) pendingText state shared (.store value)
        next ∧
      Moved (currentBytes name) (redisEntry app name) pendingBytes state shared (.store value)
        next := by
  constructor
  · left
    have entry : memoryEntry app name next = memoryEntry app name shared := by
      rw [memoryEntry, memoryEntry, written.memory]
    exact .fetches entry rfl (Or.inr (currentText_of_tableWritten written).symm)
  · left
    have entry : redisEntry app name next = redisEntry app name shared := by
      rw [redisEntry, redisEntry, written.redis]
    exact .fetches entry rfl (Or.inr (currentBytes_of_tableWritten written).symm)

/-- A request writes both caches with the text that it carries. -/
theorem moved_writeThrough (shared : ConfigState) {text : String}
    (carriesText : pendingText state = some (some text))
    (carriesBytes : pendingBytes state = some (some (encodeUtf8 text))) :
    Moved (currentText name) (memoryEntry app name) pendingText state shared .finished
        (shared.writeThroughServiceConfig app name text) ∧
      Moved (currentBytes name) (redisEntry app name) pendingBytes state shared .finished
        (shared.writeThroughServiceConfig app name text) :=
  ⟨Or.inl (.writes rfl carriesText ConfigState.writeThrough_memory_self),
    Or.inl (.writes rfl carriesBytes ConfigState.writeThrough_redis_self)⟩

theorem RequestStep.moved {state nextState : RequestState} {shared next : ConfigState}
    (step : RequestStep app name state shared nextState next)
    (free : ∀ value, state = .insert value →
      ∀ row, shared.findConfigByName name = some row → row.value = value) :
    Moved (currentText name) (memoryEntry app name) pendingText state shared nextState next ∧
      Moved (currentBytes name) (redisEntry app name) pendingBytes state shared nextState
        next := by
  cases step with
  | inserted value =>
      exact moved_of_tableWritten (ConfigState.tableWritten_insertRow (free value rfl))
  | updated result => exact moved_of_tableWritten (ConfigState.tableWritten_updateRows result)
  | deleted result => exact moved_of_tableWritten (ConfigState.tableWritten_deleteRows result)
  | stored value =>
      rw [ConfigState.cacheValue_eq]
      exact moved_writeThrough shared rfl rfl
  | filled text => exact moved_writeThrough shared rfl rfl
  | read reads kept =>
      rcases reads with rfl | rfl | ⟨value, rfl⟩ | rfl <;>
        exact ⟨Or.inr ⟨rfl, rfl, rfl⟩, Or.inr ⟨rfl, rfl, rfl⟩⟩
  | copied text =>
      exact ⟨Or.inl (.writes rfl rfl ConfigState.setToMemoryCache_memory_self),
        Or.inr ⟨rfl, rfl, rfl⟩⟩
  | filledNone =>
      exact ⟨Or.inl (.writes rfl rfl ConfigState.setToMemoryCache_memory_self),
        Or.inr ⟨rfl, rfl, rfl⟩⟩
  | fetched =>
      refine ⟨Or.inl (.fetches rfl rfl (Or.inr rfl)), ?_⟩
      cases value : shared.valueOf name with
      | none => exact Or.inr ⟨rfl, rfl, rfl⟩
      | some text =>
          have right : some (encodeUtf8 text) = currentBytes name shared := by
            rw [currentBytes, currentText, value]
            rfl
          exact Or.inl (.fetches rfl rfl (Or.inr right))

/-! ## Interleavings -/

section Interleavings

variable {ι : Type} [DecidableEq ι]

theorem Moved.converging {V : Type} {current cached : ConfigState → Option V}
    {pending : RequestState → Option (Option V)} {config : Config ConfigState ι RequestState}
    {index : ι} {nextState : RequestState} {next : ConfigState}
    (moved : Moved current cached pending (config.locals index) config.shared nextState next)
    (converging : Converging current cached pending config)
    (covered : Covered current pending config index) :
    Converging current cached pending
      ⟨next, Function.update config.locals index nextState⟩ := by
  rcases moved with aside | ⟨idle, source, entry⟩
  · exact converging.step covered aside
  · exact converging.carries idle source entry

/-- The steps of a run in which no outdated text is left to itself. -/
abbrev PacedRun (app : TenantAppState) (name : String) :
    Config ConfigState ι RequestState → List (ι × Unit) →
      Config ConfigState ι RequestState → Prop :=
  Run fun config label next =>
    Moves (requestProcess app name) config label next ∧ InPace app name config label.1

/-- Both caches have the text of the table, or a request will write it. -/
structure BothConverging (app : TenantAppState) (name : String)
    (config : Config ConfigState ι RequestState) : Prop where
  memory : Converging (currentText name) (memoryEntry app name) pendingText config
  redis : Converging (currentBytes name) (redisEntry app name) pendingBytes config

theorem bothConverging_of_pacedRun {start : Config ConfigState ι RequestState}
    (converging : BothConverging app name start) {trace : List (ι × Unit)}
    {final : Config ConfigState ι RequestState} (run : PacedRun app name start trace final) :
    BothConverging app name final := by
  apply run.invariant_of_allowed (fun _ config => BothConverging app name config) converging
  rintro trace config label next converging inPace ⟨steps⟩
  have moved := (requestStep_of_requestProcess steps).moved inPace.free
  exact ⟨moved.1.converging converging.memory inPace.memory,
    moved.2.converging converging.redis inPace.redis⟩

omit [DecidableEq ι] in
/-- Requests that are done have nothing left to write. -/
theorem locals_of_done {config : Config ConfigState ι RequestState}
    (done : config.Done (requestProcess app name)) (index : ι) :
    config.locals index = .finished := by
  have stuck := done index
  cases state : config.locals index with
  | finished => rfl
  | fill value =>
      rw [state] at stuck
      cases value <;> cases stuck
  | _ =>
      rw [state] at stuck
      simp only [requestProcess] at stuck
      first
        | cases stuck
        | (split at stuck <;> cases stuck)

/-- When all requests are done and no outdated text was left to itself, an entry of either
cache is the text of the table, or the empty text if there is none. -/
theorem caches_converge {state : ConfigState} {requests : ι → ConfigRequest}
    (settledMemory : Settled (currentText name state) (memoryEntry app name state))
    (settledRedis : Settled (currentBytes name state) (redisEntry app name state))
    {trace : List (ι × Unit)} {final : Config ConfigState ι RequestState}
    (run : PacedRun app name (startRequests state requests) trace final)
    (done : final.Done (requestProcess app name)) :
    (∀ text, final.shared.memory (app.cacheConfig.addPrefix name) = some text →
      text = (final.shared.valueOf name).getD "") ∧
    ∀ bytes, final.shared.redis (app.cacheConfig.addPrefix name) = some bytes →
      bytes = encodeUtf8 ((final.shared.valueOf name).getD "") := by
  have settled : BothConverging app name (startRequests state requests) :=
    ⟨Or.inl settledMemory, Or.inl settledRedis⟩
  have converging := bothConverging_of_pacedRun settled run
  constructor
  · intro text isEntry
    have nothingLeft : ∀ index, pendingText (final.locals index) = none := by
      intro index
      rw [locals_of_done done index]
      rfl
    rcases converging.memory.settled nothingLeft with noEntry | isCurrent
    · cases isEntry.symm.trans noEntry
    · rw [memoryEntry, isEntry, currentText] at isCurrent
      exact Option.some.inj isCurrent
  · intro bytes isEntry
    have nothingLeft : ∀ index, pendingBytes (final.locals index) = none := by
      intro index
      rw [locals_of_done done index]
      rfl
    rcases converging.redis.settled nothingLeft with noEntry | isCurrent
    · cases isEntry.symm.trans noEntry
    · rw [redisEntry, isEntry, currentBytes, currentText, Option.map_some] at isCurrent
      exact Option.some.inj isCurrent

end Interleavings

/-- A stored limit with nothing cached. -/
def limitState : ConfigState :=
  (Tracked.start [⟨"LIMIT", some "1"⟩]).state

/-- One request finds the limit and one changes it. -/
def findAndUpdate (second : Bool) : ConfigRequest :=
  if second then .update (some "2") else .find

/-- The find fills the caches with the old text, but the update has still to write the new
one. -/
def coveredFinal : Config ConfigState Bool RequestState :=
  runSchedule (requestProcess plainApp "LIMIT") (startRequests limitState findAndUpdate)
    [false, false, false, true, false, true]

theorem caches_converge_covered :
    ∃ trace, PacedRun plainApp "LIMIT" (startRequests limitState findAndUpdate) trace
        coveredFinal ∧
      (∀ text, coveredFinal.shared.memory (plainApp.cacheConfig.addPrefix "LIMIT") = some text →
        text = (coveredFinal.shared.valueOf "LIMIT").getD "") ∧
      ∀ bytes, coveredFinal.shared.redis (plainApp.cacheConfig.addPrefix "LIMIT") = some bytes →
        bytes = encodeUtf8 ((coveredFinal.shared.valueOf "LIMIT").getD "") := by
  have paced : AllowedSchedule (requestProcess plainApp "LIMIT") (InPace plainApp "LIMIT")
      (startRequests limitState findAndUpdate) [false, false, false, true, false, true] := by
    refine ⟨⟨nofun, nofun, nofun⟩, ⟨nofun, nofun, nofun⟩, ⟨nofun, nofun, nofun⟩,
      ⟨nofun, nofun, nofun⟩, ⟨nofun, ?_, ?_⟩, ⟨nofun, ?_, ?_⟩, trivial⟩
    · intro value _
      exact Or.inr ⟨true, some "2", nofun, rfl, Or.inr rfl⟩
    · intro value _
      exact Or.inr ⟨true, some (encodeUtf8 "2"), nofun, rfl, Or.inr rfl⟩
    · intro value written
      cases written
      exact Or.inl (Or.inr rfl)
    · intro value written
      cases written
      exact Or.inl (Or.inr rfl)
  rcases run_runSchedule (requestProcess plainApp "LIMIT") paced with ⟨trace, run⟩
  have done : coveredFinal.Done (requestProcess plainApp "LIMIT") := by
    intro index
    cases index <;> rfl
  exact ⟨trace, run, caches_converge (Or.inl rfl) (Or.inl rfl) run done⟩

/-- A find that has read the old text fills the caches after the update has. -/
theorem caches_converge_counterexample :
    ∃ trace final, Interleaving (requestProcess plainApp "LIMIT")
        (startRequests limitState findAndUpdate) trace final ∧
      final.Done (requestProcess plainApp "LIMIT") ∧
      final.shared.memory (plainApp.cacheConfig.addPrefix "LIMIT") = some "1" ∧
      final.shared.redis (plainApp.cacheConfig.addPrefix "LIMIT") = some (encodeUtf8 "1") ∧
      final.shared.valueOf "LIMIT" = some "2" := by
  rcases interleaving_runSchedule (requestProcess plainApp "LIMIT")
    (startRequests limitState findAndUpdate) [false, false, false, true, true, false] with
    ⟨trace, run⟩
  refine ⟨trace, _, run, ?_, by decide +kernel, by decide +kernel, by decide +kernel⟩
  intro index
  cases index <;> rfl

end DecisionEngine.Config
