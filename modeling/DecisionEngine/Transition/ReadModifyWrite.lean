import DecisionEngine.Transition.Interleaving
import Mathlib.Data.List.Nodup

/-!
# Updates that read, compute and write back

Each update reads the shared state in one step, and in a later one writes what it
computed from the value it read, whatever the state has become.  An update that fails
writes nothing.

The updates have the effect of a serial execution when no write is made over a state
that differs from the one that was read, up to what the updates do not depend on.
-/

namespace DecisionEngine.Transition

universe u v w x

variable {σ : Type u} {Update : Type v} {ω : Type w} {ι : Type x}

inductive UpdateState (σ : Type u) (Update : Type v) where
  | pending (update : Update)
  | loaded (update : Update) (value : σ)
  | finished

inductive UpdateEvent where
  | read
  | wrote
  deriving DecidableEq

variable (effect : Update → σ → Option σ)

/-- The shared state after the write of an update that read `value`. -/
def writeBack (update : Update) (value shared : σ) : σ :=
  (effect update value).getD shared

def updateProcess : Process σ (UpdateState σ Update) UpdateEvent
  | .pending update, shared => some (.read, .loaded update shared, shared)
  | .loaded update value, shared =>
      some (.wrote, .finished, writeBack effect update value shared)
  | .finished, _ => none

/-- The updates one after the other. -/
def serially (updates : List Update) (start : σ) : σ :=
  updates.foldl (fun shared update => writeBack effect update shared shared) start

theorem serially_concat (updates : List Update) (update : Update) (start : σ) :
    serially effect (updates ++ [update]) start =
      writeBack effect update (serially effect updates start) (serially effect updates start) := by
  rw [serially, List.foldl_append]
  rfl

/-- The processes in the order of their writes. -/
def writers (trace : List (ι × UpdateEvent)) : List ι :=
  (trace.filter fun label => label.2 = .wrote).map Prod.fst

theorem writers_concat (trace : List (ι × UpdateEvent)) (label : ι × UpdateEvent) :
    writers (trace ++ [label]) =
      writers trace ++ if label.2 = .wrote then [label.1] else [] := by
  rw [writers, List.filter_append, List.map_append, writers]
  by_cases wrote : label.2 = .wrote
  · simp [wrote]
  · simp [wrote]

/-- The updates before their first step. -/
def startUpdates (start : σ) (updates : ι → Update) : Config σ ι (UpdateState σ Update) :=
  ⟨start, fun index => .pending (updates index)⟩

/-- A write is made where the state looks as it did to the read. -/
def WritesFresh (observe : σ → ω) (config : Config σ ι (UpdateState σ Update)) (index : ι) :
    Prop :=
  ∀ update value, config.locals index = .loaded update value →
    observe config.shared = observe value

/-- What an update writes depends on what it observes alone, as far as it is observed. -/
def Respects (observe : σ → ω) : Prop :=
  ∀ update first second, observe first = observe second →
    (effect update first).map observe = (effect update second).map observe

/-- The finished updates have had the effect of a serial execution in this order. -/
structure SerialisedAs (observe : σ → ω) (start : σ) (updates : ι → Update)
    (config : Config σ ι (UpdateState σ Update)) (order : List ι) : Prop where
  nodup : order.Nodup
  finished : ∀ index, index ∈ order ↔ config.locals index = .finished
  observed : observe config.shared = observe (serially effect (order.map updates) start)

/-- The update that a process has still to make is the one it started with. -/
def CarriesUpdate (update : Update) : UpdateState σ Update → Prop
  | .pending own => own = update
  | .loaded own _ => own = update
  | .finished => True

variable {effect}

theorem observe_writeBack {observe : σ → ω} (respects : Respects effect observe)
    {update : Update} {value shared serial : σ} (sameRead : observe value = observe serial)
    (same : observe shared = observe serial) :
    observe (writeBack effect update value shared) =
      observe (writeBack effect update serial serial) := by
  have written := respects update value serial sameRead
  rw [writeBack, writeBack]
  cases first : effect update value with
  | none =>
      rw [first, Option.map_none, eq_comm, Option.map_eq_none_iff] at written
      rw [written]
      exact same
  | some result =>
      rw [first, Option.map_some, eq_comm] at written
      rcases Option.map_eq_some_iff.mp written with ⟨other, isOther, sameResult⟩
      rw [isOther]
      exact sameResult.symm

variable [DecidableEq ι] {updates : ι → Update} {start : σ}

theorem carriesUpdate_move {config next : Config σ ι (UpdateState σ Update)}
    {label : ι × UpdateEvent}
    (carries : ∀ index, CarriesUpdate (updates index) (config.locals index))
    (moves : Moves (updateProcess effect) config label next) :
    ∀ index, CarriesUpdate (updates index) (next.locals index) := by
  rcases moves with ⟨steps⟩
  rename_i index event nextLocal shared
  apply (Function.forall_update_iff config.locals fun other => CarriesUpdate (updates other)).mpr
  apply And.intro _ fun other _ => carries other
  have own := carries index
  cases isLocal : config.locals index with
  | pending update =>
      simp only [isLocal, updateProcess, Option.some.injEq, Prod.mk.injEq] at steps
      rw [isLocal] at own
      rcases steps with ⟨-, rfl, -⟩
      exact own
  | loaded update value =>
      simp only [isLocal, updateProcess, Option.some.injEq, Prod.mk.injEq] at steps
      rcases steps with ⟨-, rfl, -⟩
      trivial
  | finished =>
      rw [isLocal, updateProcess] at steps
      cases steps

/-- One step keeps the serial order or, with a fresh write, adds the writer to it. -/
theorem serialisedAs_move {observe : σ → ω} (respects : Respects effect observe)
    {config next : Config σ ι (UpdateState σ Update)} {label : ι × UpdateEvent} {order : List ι}
    (serialised : SerialisedAs effect observe start updates config order)
    (carries : ∀ index, CarriesUpdate (updates index) (config.locals index))
    (fresh : WritesFresh observe config label.1)
    (moves : Moves (updateProcess effect) config label next) :
    SerialisedAs effect observe start updates next
      (order ++ if label.2 = .wrote then [label.1] else []) := by
  rcases moves with ⟨steps⟩
  rename_i index event nextLocal shared
  have unfinished : config.locals index ≠ .finished → index ∉ order := by
    intro notFinished listed
    exact notFinished ((serialised.finished index).mp listed)
  cases isLocal : config.locals index with
  | pending update =>
      simp only [isLocal, updateProcess, Option.some.injEq, Prod.mk.injEq] at steps
      rcases steps with ⟨rfl, rfl, rfl⟩
      have new := unfinished (by simp [isLocal])
      rw [if_neg UpdateEvent.noConfusion, List.append_nil]
      refine ⟨serialised.nodup, ?_, serialised.observed⟩
      apply (Function.forall_update_iff config.locals fun other local' =>
        other ∈ order ↔ local' = .finished).mpr
      exact ⟨iff_of_false new (by simp), fun other _ => serialised.finished other⟩
  | loaded update value =>
      simp only [isLocal, updateProcess, Option.some.injEq, Prod.mk.injEq] at steps
      rcases steps with ⟨rfl, rfl, rfl⟩
      have new := unfinished (by simp [isLocal])
      rw [if_pos rfl]
      have isUpdate : update = updates index := by
        have own := carries index
        rwa [isLocal] at own
      refine ⟨?_, ?_, ?_⟩
      · rw [← List.concat_eq_append, List.nodup_concat]
        exact ⟨new, serialised.nodup⟩
      · apply (Function.forall_update_iff config.locals fun other local' =>
          other ∈ order ++ [index] ↔ local' = .finished).mpr
        constructor
        · simp
        · intro other different
          rw [List.mem_append, List.mem_singleton, or_iff_left different]
          exact serialised.finished other
      · rw [List.map_append, List.map_singleton, serially_concat, ← isUpdate]
        have sameRead := (fresh update value isLocal).symm.trans serialised.observed
        exact observe_writeBack respects sameRead serialised.observed
  | finished =>
      rw [isLocal, updateProcess] at steps
      cases steps

/-- In a run whose writes are all fresh, the finished updates have at every moment had
the effect of their serial execution in the order of the writes. -/
theorem serialisedAs_writers {observe : σ → ω} (respects : Respects effect observe)
    {trace : List (ι × UpdateEvent)} {config : Config σ ι (UpdateState σ Update)}
    (run : Run (fun config label next => Moves (updateProcess effect) config label next ∧
      WritesFresh observe config label.1) (startUpdates start updates) trace config) :
    SerialisedAs effect observe start updates config (writers trace) := by
  have invariant : (∀ index, CarriesUpdate (updates index) (config.locals index)) ∧
      SerialisedAs effect observe start updates config (writers trace) := by
    apply run.invariant_of_allowed (fun trace config =>
      (∀ index, CarriesUpdate (updates index) (config.locals index)) ∧
        SerialisedAs effect observe start updates config (writers trace))
    · apply And.intro fun _ => rfl
      refine ⟨List.nodup_nil, fun index => ?_, rfl⟩
      exact iff_of_false List.not_mem_nil (fun found => by cases found)
    · rintro trace middle label target ⟨carries, serialised⟩ fresh moves
      rw [writers_concat]
      exact ⟨carriesUpdate_move carries moves,
        serialisedAs_move respects serialised carries fresh moves⟩
  exact invariant.2

end DecisionEngine.Transition
