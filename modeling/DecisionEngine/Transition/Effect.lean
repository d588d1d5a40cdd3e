import Mathlib.Data.Option.Basic

/-!
# Computations over a state that may end early

A computation changes a state and returns a value or ends with an error; what it has
changed before an error stays changed.  What a computation ensures is computed from its
end to its beginning, by one rule for each kind of step.
-/

namespace DecisionEngine.Transition

universe u v

section Effect

variable {σ ε α β : Type u}

/-- A computation over states `σ` that returns an `α` or ends with an `ε`. -/
abbrev Effect (σ ε α : Type u) :=
  ExceptT ε (StateM σ) α

namespace Effect

variable (program : Effect σ ε α)

/-- The result and the state at the end. -/
def outcome (state : σ) : Except ε α × σ :=
  program state

/-- The state at the end. -/
def final (state : σ) : σ :=
  (program.outcome state).2

/-! ## Steps -/

/-- End with an error unless a condition holds. -/
def require (condition : Bool) (error : ε) : Effect σ ε PUnit :=
  fun state => (if condition then .ok .unit else .error error, state)

/-- The value, or end with an error. -/
def orError (value : Option α) (error : ε) : Effect σ ε α :=
  fun state => (value.elim (.error error) .ok, state)

/-- Read the state, unless the read fails. -/
def query (fails : Bool) (error : ε) (read : σ → α) : Effect σ ε α :=
  fun state => (if fails then .error error else .ok (read state), state)

/-- Change the state, unless the change fails or is refused. -/
def change (fails : Bool) (error : ε) (write : σ → Option σ) : Effect σ ε PUnit :=
  fun state =>
    if fails then (.error error, state)
    else match write state with
      | none => (.error error, state)
      | some next => (.ok .unit, next)

/-- Change the state. -/
def modify (write : σ → σ) : Effect σ ε PUnit :=
  fun state => (.ok .unit, write state)

/-- Change the state when a computation ends with an error. -/
def onError (cleanup : σ → σ) : Effect σ ε α :=
  fun state =>
    match program.outcome state with
    | (.ok value, next) => (.ok value, next)
    | (.error error, next) => (.error error, cleanup next)

/-- One computation after the other. -/
theorem outcome_bind (first : Effect σ ε β) (second : β → Effect σ ε α) (state : σ) :
    (first >>= second).outcome state =
      match first.outcome state with
      | (.ok value, next) => (second value).outcome next
      | (.error error, next) => (.error error, next) := by
  change ExceptT.bindCont second (first state).1 (first state).2 = _
  rw [outcome]
  rcases first state with ⟨result, next⟩
  cases result <;> rfl

/-! ## What a computation ensures -/

/-- The result and the state at the end satisfy a postcondition. -/
def Ensures (state : σ) (post : Except ε α → σ → Prop) : Prop :=
  post (program.outcome state).1 (program.outcome state).2

/-- What is ensured of the state at the end alone. -/
theorem Ensures.final {program : Effect σ ε α} {state : σ} {post : σ → Prop}
    (ensures : Ensures program state fun _ next => post next) : post (program.final state) :=
  ensures

section Rules

variable {state : σ} {post : Except ε α → σ → Prop}

theorem ensures_pure {value : α} :
    Ensures (pure value : Effect σ ε α) state post ↔ post (.ok value) state :=
  Iff.rfl

theorem ensures_bind {first : Effect σ ε β} {second : β → Effect σ ε α} :
    Ensures (first >>= second) state post ↔
      Ensures first state fun result next =>
        match result with
        | .ok value => Ensures (second value) next post
        | .error error => post (.error error) next := by
  rw [Ensures, Ensures, outcome_bind]
  rcases first.outcome state with ⟨result, next⟩
  cases result <;> rfl

theorem ensures_require {condition : Bool} {error : ε} {post : Except ε PUnit → σ → Prop} :
    Ensures (require condition error) state post ↔
      (condition = false → post (.error error) state) ∧
        (condition = true → post (.ok .unit) state) := by
  cases condition <;> simp [Ensures, outcome, require]

theorem ensures_orError {value : Option α} {error : ε} :
    Ensures (orError value error) state post ↔
      (value = none → post (.error error) state) ∧
        ∀ present, value = some present → post (.ok present) state := by
  cases value <;> simp [Ensures, outcome, orError]

theorem ensures_query {fails : Bool} {error : ε} {read : σ → α} :
    Ensures (query fails error read) state post ↔
      (fails = true → post (.error error) state) ∧
        (fails = false → post (.ok (read state)) state) := by
  cases fails <;> simp [Ensures, outcome, query]

theorem ensures_change {fails : Bool} {error : ε} {write : σ → Option σ}
    {post : Except ε PUnit → σ → Prop} :
    Ensures (change fails error write) state post ↔
      ((fails = true ∨ write state = none) → post (.error error) state) ∧
        ∀ next, fails = false → write state = some next → post (.ok .unit) next := by
  cases fails with
  | true => simp [Ensures, outcome, change]
  | false => cases written : write state <;> simp [Ensures, outcome, change, written]

theorem ensures_modify {write : σ → σ} {post : Except ε PUnit → σ → Prop} :
    Ensures (modify write) state post ↔ post (.ok .unit) (write state) :=
  Iff.rfl

theorem ensures_onError {program : Effect σ ε α} {cleanup : σ → σ} :
    Ensures (program.onError cleanup) state post ↔
      Ensures program state fun result next =>
        match result with
        | .ok value => post (.ok value) next
        | .error error => post (.error error) (cleanup next) := by
  have unfolded : (program.onError cleanup).outcome state =
      match program.outcome state with
      | (.ok value, next) => (.ok value, next)
      | (.error error, next) => (.error error, cleanup next) :=
    rfl
  rw [Ensures, Ensures, unfolded]
  rcases program.outcome state with ⟨result, next⟩
  cases result <;> rfl

end Rules

/-! ## Steps followed by the rest of a computation -/

section Sequences

variable {state : σ} {post : Except ε α → σ → Prop}

variable {error : ε} {rest : PUnit → Effect σ ε α}

theorem ensures_require_bind {condition : Bool}
    (fails : condition = false → post (.error error) state)
    (goes : condition = true → Ensures (rest .unit) state post) :
    Ensures (require condition error >>= rest) state post :=
  ensures_bind.mpr (ensures_require.mpr ⟨fails, goes⟩)

theorem ensures_orError_bind {value : Option β} {rest : β → Effect σ ε α}
    (fails : value = none → post (.error error) state)
    (goes : ∀ present, value = some present → Ensures (rest present) state post) :
    Ensures (orError value error >>= rest) state post :=
  ensures_bind.mpr (ensures_orError.mpr ⟨fails, goes⟩)

theorem ensures_query_bind {fails : Bool} {read : σ → β} {rest : β → Effect σ ε α}
    (stops : fails = true → post (.error error) state)
    (goes : fails = false → Ensures (rest (read state)) state post) :
    Ensures (query fails error read >>= rest) state post :=
  ensures_bind.mpr (ensures_query.mpr ⟨stops, goes⟩)

theorem ensures_change_bind {fails : Bool} {write : σ → Option σ}
    (stops : fails = true ∨ write state = none → post (.error error) state)
    (goes : ∀ next, fails = false → write state = some next → Ensures (rest .unit) next post) :
    Ensures (change fails error write >>= rest) state post :=
  ensures_bind.mpr (ensures_change.mpr ⟨stops, goes⟩)

theorem ensures_modify_bind {write : σ → σ} (goes : Ensures (rest .unit) (write state) post) :
    Ensures (modify write >>= rest) state post :=
  ensures_bind.mpr (ensures_modify.mpr goes)

end Sequences

end Effect

end Effect

/-! ## Steps that may fail

A sequence of steps is stopped by its first failure.
-/

section Fallible

variable {ε : Type u} {α β : Type v}

/-- A sequence returns when its first part returns and its second part returns on the
result. -/
theorem bind_eq_ok {first : Except ε α} {second : α → Except ε β} {result : β} :
    (first >>= second) = .ok result ↔
      ∃ value, first = .ok value ∧ second value = .ok result := by
  cases first with
  | error failure =>
      constructor
      · intro returned
        cases returned
      · intro parts
        rcases parts with ⟨value, returned, -⟩
        cases returned
  | ok value =>
      constructor
      · intro returned
        exact ⟨value, rfl, returned⟩
      · intro parts
        rcases parts with ⟨_, returned, rest⟩
        cases returned
        exact rest

theorem map_eq_ok {step : Except ε α} {change : α → β} {result : β} :
    step.map change = .ok result ↔ ∃ value, step = .ok value ∧ change value = result := by
  cases step with
  | error failure =>
      constructor
      · intro returned
        cases returned
      · rintro ⟨value, returned, -⟩
        cases returned
  | ok value =>
      constructor
      · intro returned
        cases returned
        exact ⟨value, rfl, rfl⟩
      · rintro ⟨_, returned, changed⟩
        cases returned
        exact congrArg Except.ok changed

/-- A step that returns is not changed by what is made of its failures. -/
theorem mapError_eq_ok {ε' : Type u} {step : Except ε α} {translate : ε → ε'} {value : α} :
    step.mapError translate = .ok value ↔ step = .ok value := by
  cases step with
  | error failure =>
      constructor
      · intro returned
        cases returned
      · intro returned
        cases returned
  | ok returned => simp only [Except.mapError, Except.ok.injEq]

end Fallible

end DecisionEngine.Transition
