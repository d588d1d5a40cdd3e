import DecisionEngine.Transition.Interleaving
import Mathlib.Data.Set.Function

/-!
# Caches beside a source

Processes share a source and one cache entry.  A database step of a process, a
read or a write, leaves it with a value that it writes to the entry later; the
two steps are not atomic together, so the value may be outdated by then.

The entry ends up right when no process writes an outdated value last: whenever
one does, another one that has still to write carries a value that is right.
-/

namespace DecisionEngine.Cache

open Transition

universe u v w x y z

section Aside

variable {σ : Type u} {Local : Type v} {Event : Type w} {ι : Type x} {V : Type y}

/-- An entry that may stay: there is none, or it is what the source has. -/
def Settled (current cached : Option V) : Prop :=
  cached = none ∨ cached = current

/-- What one step of a process does to the source, to the entry, and to what the
process has still to write there (`some none` when it will remove the entry). -/
inductive AsideStep (current cached : σ → Option V) (pending : Local → Option (Option V))
    (state : Local) (shared : σ) (nextState : Local) (next : σ) : Prop
  | passes (source : current next = current shared) (entry : cached next = cached shared)
      (writes : pending nextState = pending state)
  | fetches {value : Option V} (entry : cached next = cached shared)
      (writes : pending nextState = some value) (right : Settled (current next) value)
  | writes {value : Option V} (source : current next = current shared)
      (carried : pending state = some value) (entry : cached next = value)

/-- A process other than the given one will write a value that is right. -/
def Repairing (current : σ → Option V) (pending : Local → Option (Option V))
    (config : Config σ ι Local) (index : ι) : Prop :=
  ∃ other value, other ≠ index ∧ pending (config.locals other) = some value ∧
    Settled (current config.shared) value

/-- What the process is about to write is right, or another one will repair it. -/
def Covered (current : σ → Option V) (pending : Local → Option (Option V))
    (config : Config σ ι Local) (index : ι) : Prop :=
  ∀ value, pending (config.locals index) = some value →
    Settled (current config.shared) value ∨ Repairing current pending config index

/-- The entry is right, or some process will write a value that is. -/
def Converging (current cached : σ → Option V) (pending : Local → Option (Option V))
    (config : Config σ ι Local) : Prop :=
  Settled (current config.shared) (cached config.shared) ∨
    ∃ index value, pending (config.locals index) = some value ∧
      Settled (current config.shared) value

variable {current cached : σ → Option V} {pending : Local → Option (Option V)}

variable {config : Config σ ι Local} {index : ι}

theorem covered_of_idle (idle : pending (config.locals index) = none) :
    Covered current pending config index := by
  intro value carried
  rw [idle] at carried
  cases carried

variable {nextState : Local}

/-- A covered step keeps the entry converging. -/
theorem Converging.step [DecidableEq ι] {next : σ}
    (converging : Converging current cached pending config)
    (covered : Covered current pending config index)
    (step : AsideStep current cached pending (config.locals index) config.shared nextState next) :
    Converging current cached pending
      ⟨next, Function.update config.locals index nextState⟩ := by
  cases step with
  | passes source entry writes =>
      rcases converging with settled | ⟨other, value, carried, right⟩
      · left
        rw [source, entry]
        exact settled
      · right
        refine ⟨other, value, ?_, source ▸ right⟩
        dsimp only
        by_cases same : other = index
        · rw [same] at carried ⊢
          rw [Function.update_self, writes]
          exact carried
        · rw [Function.update_of_ne same]
          exact carried
  | fetches entry writes right =>
      right
      refine ⟨index, _, ?_, right⟩
      dsimp only
      rw [Function.update_self]
      exact writes
  | writes source carried entry =>
      rcases covered _ carried with right | ⟨other, value, different, carries, right⟩
      · left
        rw [source, entry]
        exact right
      · right
        refine ⟨other, value, ?_, source ▸ right⟩
        dsimp only
        rw [Function.update_of_ne different]
        exact carries

/-- A process that had nothing to write may take up a value that is not right. -/
theorem Converging.carries [DecidableEq ι] {next : σ}
    (converging : Converging current cached pending config)
    (idle : pending (config.locals index) = none) (source : current next = current config.shared)
    (entry : cached next = cached config.shared) :
    Converging current cached pending
      ⟨next, Function.update config.locals index nextState⟩ := by
  rcases converging with settled | ⟨other, value, carried, right⟩
  · left
    rw [source, entry]
    exact settled
  · right
    refine ⟨other, value, ?_, source ▸ right⟩
    dsimp only
    rw [Function.update_of_ne]
    · exact carried
    · rintro rfl
      rw [idle] at carried
      cases carried

/-- With nothing left to write the entry is right. -/
theorem Converging.settled (converging : Converging current cached pending config)
    (nothingLeft : ∀ index, pending (config.locals index) = none) :
    Settled (current config.shared) (cached config.shared) := by
  rcases converging with settled | ⟨index, value, carried, _⟩
  · exact settled
  · rw [nothingLeft index] at carried
    cases carried

end Aside

/-! ## Refreshes of a cache

A refresh reads a source step by step and later publishes to a cache entry what it made
of its reads.  A slow refresh publishes what the source no longer has.

What a refresh under way will publish is known if nothing else changes the source.  The
entry ends up right when no refresh publishes an outdated value last: whenever one does,
another one is under way that will publish the right one.
-/

section Refresh

variable {σ : Type u} {Local : Type v} {Event : Type w} {ι : Type x} {V : Type y} {τ : Type z}

/-- A process other than the given one is going to publish the right value. -/
def Repaired (source : σ → τ) (current : τ → V) (outcome : Local → τ → Option V)
    (config : Config σ ι Local) (index : ι) : Prop :=
  ∃ other, other ≠ index ∧ outcome (config.locals other) (source config.shared) =
    some (current (source config.shared))

/-- The value that the process would publish is right, or another one repairs it. -/
def Sound (source : σ → τ) (current : τ → V) (outcome : Local → τ → Option V)
    (config : Config σ ι Local) (index : ι) : Prop :=
  ∀ value, outcome (config.locals index) (source config.shared) = some value →
    value = current (source config.shared) ∨ Repaired source current outcome config index

/-- The entry is right, or some process is going to publish the right value. -/
def Refreshing (source : σ → τ) (cached : σ → V) (current : τ → V)
    (outcome : Local → τ → Option V) (config : Config σ ι Local) : Prop :=
  cached config.shared = current (source config.shared) ∨
    ∃ index, outcome (config.locals index) (source config.shared) =
      some (current (source config.shared))

variable {source : σ → τ} {cached : σ → V} {current : τ → V} {outcome : Local → τ → Option V}

/-- Reading keeps the entry refreshing. -/
theorem Refreshing.reads [DecidableEq ι] {config : Config σ ι Local} {index : ι}
    {nextState : Local} {next : σ} (refreshing : Refreshing source cached current outcome config)
    (same : source next = source config.shared) (entry : cached next = cached config.shared)
    (kept : outcome nextState (source config.shared) =
      outcome (config.locals index) (source config.shared)) :
    Refreshing source cached current outcome
      ⟨next, Function.update config.locals index nextState⟩ := by
  rcases refreshing with right | ⟨other, promised⟩
  · left
    dsimp only
    rw [same, entry]
    exact right
  · right
    refine ⟨other, ?_⟩
    dsimp only
    rw [same]
    by_cases isIndex : other = index
    · rw [isIndex, Function.update_self, kept, ← isIndex]
      exact promised
    · rw [Function.update_of_ne isIndex]
      exact promised

/-- Publishing what is sound keeps the entry refreshing. -/
theorem Refreshing.publishes [DecidableEq ι] {config : Config σ ι Local} {index : ι}
    {nextState : Local} {next : σ} {value : V}
    (sound : Sound source current outcome config index)
    (same : source next = source config.shared)
    (carried : outcome (config.locals index) (source config.shared) = some value)
    (entry : cached next = value) :
    Refreshing source cached current outcome
      ⟨next, Function.update config.locals index nextState⟩ := by
  rcases sound value carried with right | ⟨other, different, promised⟩
  · left
    dsimp only
    rw [same, entry]
    exact right
  · right
    refine ⟨other, ?_⟩
    dsimp only
    rw [same, Function.update_of_ne different]
    exact promised

/-- When no process has anything left to publish the entry is right. -/
theorem Refreshing.settled {config : Config σ ι Local}
    (refreshing : Refreshing source cached current outcome config)
    (nothingLeft : ∀ index, outcome (config.locals index) (source config.shared) = none) :
    cached config.shared = current (source config.shared) := by
  rcases refreshing with right | ⟨index, promised⟩
  · exact right
  · rw [nothingLeft index] at promised
    cases promised

end Refresh

/-! ## Memoised answers

The answer to a query is kept in an entry under a key of the query, and any entry may be
dropped at any time.  What is served from an entry was computed for a query of the same key,
so every query is served its own answers just when the keys tell the queries apart.
-/

section Memo

variable {Q : Type u} {K : Type v} {V : Type w}

inductive MemoEvent (Q : Type u) (V : Type w) where
  | computed (query : Q) (answer : V)
  | served (query : Q) (answer : V)
  | dropped

/-- The query that the event answers, with the answer. -/
def MemoEvent.answered : MemoEvent Q V → Option (Q × V)
  | .computed query answer => some (query, answer)
  | .served query answer => some (query, answer)
  | .dropped => none

/-- The event answers no other queries than these. -/
def MemoEvent.AsksIn (queries : Set Q) (event : MemoEvent Q V) : Prop :=
  ∀ query answer, event.answered = some (query, answer) → query ∈ queries

section Steps

variable [DecidableEq K]

/-- One query is answered, or entries are dropped. -/
inductive MemoStep (key : Q → K) (compute : Q → V) :
    (K → Option V) → MemoEvent Q V → (K → Option V) → Prop
  | computes {entries : K → Option V} {query : Q} (missing : entries (key query) = none) :
      MemoStep key compute entries (.computed query (compute query))
        (Function.update entries (key query) (some (compute query)))
  | serves {entries : K → Option V} {query : Q} {answer : V}
      (found : entries (key query) = some answer) :
      MemoStep key compute entries (.served query answer) entries
  | drops {entries kept : K → Option V}
      (fewer : ∀ key, kept key = none ∨ kept key = entries key) :
      MemoStep key compute entries .dropped kept

/-- The step answers one of the queries, if any. -/
def MemoStepIn (key : Q → K) (compute : Q → V) (queries : Set Q) (entries : K → Option V)
    (event : MemoEvent Q V) (next : K → Option V) : Prop :=
  MemoStep key compute entries event next ∧ event.AsksIn queries

/-- Whatever was served had been computed for the same query before. -/
def OwnAnswers (trace : List (MemoEvent Q V)) : Prop :=
  ∀ before query answer after, trace = before ++ .served query answer :: after →
    .computed query answer ∈ before

variable {key : Q → K} {compute : Q → V} {queries : Set Q} {trace : List (MemoEvent Q V)}
  {entries : K → Option V}

/-- An entry was computed for a query of its key. -/
theorem exists_computed_of_entry
    (run : Run (MemoStepIn key compute queries) (fun _ => none) trace entries) :
    ∀ place answer, entries place = some answer →
      ∃ query ∈ queries, key query = place ∧ .computed query answer ∈ trace := by
  induction run with
  | refl => exact nofun
  | snoc run last ih =>
      rcases last with ⟨step, asked⟩
      intro place answer found
      cases step with
      | @computes query missing =>
          rw [Function.update_apply] at found
          split at found
          · next isPlace =>
              cases found
              exact ⟨query, asked _ _ rfl, isPlace.symm, by simp⟩
          · rcases ih place answer found with ⟨other, listed, isPlace, computed⟩
            exact ⟨other, listed, isPlace, List.mem_append_left _ computed⟩
      | serves isEntry =>
          rcases ih place answer found with ⟨other, listed, isPlace, computed⟩
          exact ⟨other, listed, isPlace, List.mem_append_left _ computed⟩
      | drops fewer =>
          rcases fewer place with isNone | same
          · rw [isNone] at found
            cases found
          · rcases ih place answer (same ▸ found) with ⟨other, listed, isPlace, computed⟩
            exact ⟨other, listed, isPlace, List.mem_append_left _ computed⟩

theorem ownAnswers_concat {event : MemoEvent Q V} (own : OwnAnswers trace)
    (last : ∀ query answer, event = .served query answer → .computed query answer ∈ trace) :
    OwnAnswers (trace ++ [event]) := by
  intro before query answer after isTrace
  rcases List.eq_nil_or_concat after with rfl | ⟨rest, final, rfl⟩
  · rcases List.append_singleton_inj.mp isTrace with ⟨rfl, isServed⟩
    exact last query answer isServed
  · rw [List.concat_eq_append, ← List.cons_append, ← List.append_assoc] at isTrace
    exact own before query answer rest (List.append_singleton_inj.mp isTrace).1

/-- Keys that tell the queries apart serve each query its own answers. -/
theorem ownAnswers_of_injOn (apart : Set.InjOn key queries)
    (run : Run (MemoStepIn key compute queries) (fun _ => none) trace entries) :
    OwnAnswers trace := by
  induction run with
  | refl => exact fun before _ _ after isTrace => absurd isTrace (by simp)
  | snoc run last ih =>
      refine ownAnswers_concat ih ?_
      rintro query answer rfl
      rcases last with ⟨step, asked⟩
      cases step with
      | serves found =>
          rcases exists_computed_of_entry run _ answer found with
            ⟨other, listed, sameKey, computed⟩
          have same := apart listed (asked query answer rfl) sameKey
          exact same ▸ computed

theorem eq_compute_of_computed
    (run : Run (MemoStepIn key compute queries) (fun _ => none) trace entries) {query : Q}
    {answer : V} (happened : .computed query answer ∈ trace) :
    query ∈ queries ∧ answer = compute query := by
  induction run with
  | refl => cases happened
  | snoc run last ih =>
      rcases List.mem_append.mp happened with earlier | isLast
      · exact ih earlier
      · rcases last with ⟨step, asked⟩
        cases List.mem_singleton.mp isLast
        cases step with
        | computes missing => exact ⟨asked query _ rfl, rfl⟩

/-- Where every query is served its own answers, all answers are what is computed. -/
theorem OwnAnswers.eq_compute (own : OwnAnswers trace)
    (run : Run (MemoStepIn key compute queries) (fun _ => none) trace entries)
    {event : MemoEvent Q V} (happened : event ∈ trace) {query : Q} {answer : V}
    (answers : event.answered = some (query, answer)) :
    query ∈ queries ∧ answer = compute query := by
  cases event with
  | computed other value =>
      cases answers
      exact eq_compute_of_computed run happened
  | served other value =>
      cases answers
      rcases List.append_of_mem happened with ⟨before, after, isTrace⟩
      have computed := own before query answer after isTrace
      exact eq_compute_of_computed run (isTrace ▸ List.mem_append_left _ computed)
  | dropped => cases answers

/-- A query is computed from no entries. -/
theorem run_computed (query : Q) (listed : query ∈ queries) :
    Run (MemoStepIn key compute queries) (fun _ => none) [.computed query (compute query)]
      (Function.update (fun _ => none) (key query) (some (compute query))) := by
  refine .single ⟨.computes rfl, ?_⟩
  rintro other answer ⟨⟩
  exact listed

/-- A second query of the same key is served the answer to the first. -/
theorem run_served (first second : Q) (firstListed : first ∈ queries)
    (secondListed : second ∈ queries) (sameKey : key first = key second) :
    Run (MemoStepIn key compute queries) (fun _ => none)
      ([.computed first (compute first)] ++ [.served second (compute first)])
      (Function.update (fun _ => none) (key first) (some (compute first))) := by
  refine .snoc (run_computed first firstListed) ⟨.serves ?_, ?_⟩
  · rw [← sameKey, Function.update_self]
  · rintro other answer ⟨⟩
    exact secondListed

/-- Every query is served its own answers just when the keys tell the queries apart. -/
theorem ownAnswers_iff :
    (∀ trace entries, Run (MemoStepIn key compute queries) (fun _ => none) trace entries →
      OwnAnswers trace) ↔ Set.InjOn key queries := by
  constructor
  · intro own first firstListed second secondListed sameKey
    have computed := own _ _ (run_served first second firstListed secondListed sameKey)
      [.computed first (compute first)] second (compute first) [] rfl
    cases List.mem_singleton.mp computed
    rfl
  · exact fun apart trace entries run => ownAnswers_of_injOn apart run

end Steps

end Memo

end DecisionEngine.Cache
