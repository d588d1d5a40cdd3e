import DecisionEngine.Transition.Effect

/-!
# What a computation depends on and what it changes

States agree for a party.  A computation is confined at a state when it has the same result at
every state that agrees with it, and leads to states that agree.  It is unnoticed when it
leads to a state that agrees with whatever the state before agreed with.

A computation for the party itself is to be confined, and one for another party unnoticed.
One rule for each kind of step gives this of a whole computation.
-/

namespace DecisionEngine.Transition

universe u

namespace Effect

variable {σ ε ω α β : Type u}

/-- The same result at states that agree, and states that agree at the end. -/
def ConfinedAt (agree : σ → σ → Prop) (program : Effect σ ε α) (first : σ) : Prop :=
  ∀ second, agree first second →
    (program.outcome first).1 = (program.outcome second).1 ∧
      agree (program.outcome first).2 (program.outcome second).2

/-- What agreed with the state before agrees with the state at the end. -/
def UnnoticedAt (agree : σ → σ → Prop) (program : Effect σ ε α) (first : σ) : Prop :=
  ∀ second, agree first second → agree (program.outcome first).2 second

/-! ## Steps -/

/-- The value of a computation, or none if it ends with an error. -/
def attempt (program : Effect σ ε α) : Effect σ ω (Option α) :=
  fun state =>
    match program.outcome state with
    | (.ok value, next) => (.ok (some value), next)
    | (.error _, next) => (.ok none, next)

/-- The values of a computation for each item of a list. -/
def each (items : List β) (program : β → Effect σ ε α) : Effect σ ε (List α) :=
  match items with
  | [] => pure []
  | item :: rest => do
      let value ← program item
      let values ← each rest program
      return value :: values

section Rules

variable {agree : σ → σ → Prop} {state : σ}

/-! ### Confined computations -/

theorem ConfinedAt.bind {first : Effect σ ε β} {second : β → Effect σ ε α}
    (confined : ConfinedAt agree first state)
    (rest : ∀ value, (first.outcome state).1 = .ok value →
      ConfinedAt agree (second value) (first.outcome state).2) :
    ConfinedAt agree (first >>= second) state := by
  intro other agrees
  rcases confined other agrees with ⟨sameResult, nextAgrees⟩
  rw [outcome_bind, outcome_bind]
  generalize first.outcome state = result at rest sameResult nextAgrees ⊢
  generalize first.outcome other = otherResult at sameResult nextAgrees ⊢
  rcases result with ⟨value | value, next⟩
  · rcases otherResult with ⟨otherValue, otherNext⟩
    cases sameResult
    exact ⟨rfl, nextAgrees⟩
  · rcases otherResult with ⟨otherValue, otherNext⟩
    cases sameResult
    exact rest value rfl otherNext nextAgrees

/-! ### Unnoticed computations -/

variable {program : Effect σ ε α}

theorem unnoticedAt_of_same (same : (program.outcome state).2 = state) :
    UnnoticedAt agree program state := by
  intro second agrees
  rw [same]
  exact agrees

theorem unnoticedAt_pure (value : α) : UnnoticedAt agree (pure value : Effect σ ε α) state :=
  unnoticedAt_of_same rfl

theorem UnnoticedAt.bind {first : Effect σ ε β} {second : β → Effect σ ε α}
    (unnoticed : UnnoticedAt agree first state)
    (rest : ∀ value, (first.outcome state).1 = .ok value →
      UnnoticedAt agree (second value) (first.outcome state).2) :
    UnnoticedAt agree (first >>= second) state := by
  intro other agrees
  have nextAgrees := unnoticed other agrees
  rw [outcome_bind]
  generalize first.outcome state = result at rest nextAgrees ⊢
  rcases result with ⟨value | value, next⟩
  · exact nextAgrees
  · exact rest value rfl other nextAgrees

theorem ConfinedAt.attempt (confined : ConfinedAt agree program state) :
    ConfinedAt agree (program.attempt : Effect σ ω (Option α)) state := by
  intro other agrees
  rcases confined other agrees with ⟨sameResult, nextAgrees⟩
  simp only [outcome, Effect.attempt] at sameResult nextAgrees ⊢
  generalize program state = result at sameResult nextAgrees ⊢
  generalize program other = otherResult at sameResult nextAgrees ⊢
  rcases result with ⟨value | value, next⟩ <;> rcases otherResult with ⟨otherValue, otherNext⟩ <;>
    cases sameResult <;> exact ⟨rfl, nextAgrees⟩

theorem UnnoticedAt.attempt (unnoticed : UnnoticedAt agree program state) :
    UnnoticedAt agree (program.attempt : Effect σ ω (Option α)) state := by
  intro other agrees
  have nextAgrees := unnoticed other agrees
  simp only [outcome, Effect.attempt] at nextAgrees ⊢
  generalize program state = result at nextAgrees ⊢
  rcases result with ⟨value | value, next⟩ <;> exact nextAgrees

/-! ### Computations for a party or for others -/

/-- A computation for the party itself is confined, and one for another is unnoticed. -/
structure ApartAt (agree : σ → σ → Prop) (own : Prop) (program : Effect σ ε α) (state : σ) :
    Prop where
  confined : own → ConfinedAt agree program state
  unnoticed : ¬own → UnnoticedAt agree program state

variable {own : Prop}

/-- A computation with one result that leaves every state as it is. -/
theorem apartAt_of_result {result : Except ε α}
    (same : ∀ state, program.outcome state = (result, state)) :
    ApartAt agree own program state where
  confined _ other agrees := by
    rw [same, same]
    exact ⟨rfl, agrees⟩
  unnoticed _ := unnoticedAt_of_same (congrArg Prod.snd (same state))

theorem apartAt_pure (value : α) : ApartAt agree own (pure value : Effect σ ε α) state :=
  apartAt_of_result fun _ => rfl

theorem apartAt_require (condition : Bool) (error : ε) :
    ApartAt agree own (require condition error : Effect σ ε PUnit) state :=
  apartAt_of_result fun _ => rfl

theorem apartAt_orError (value : Option α) (error : ε) :
    ApartAt agree own (orError value error : Effect σ ε α) state :=
  apartAt_of_result fun _ => rfl

theorem ApartAt.bind {first : Effect σ ε β} {second : β → Effect σ ε α}
    (apart : ApartAt agree own first state)
    (rest : ∀ value, (first.outcome state).1 = .ok value →
      ApartAt agree own (second value) (first.outcome state).2) :
    ApartAt agree own (first >>= second) state :=
  ⟨fun isOwn => (apart.confined isOwn).bind fun value found => (rest value found).confined isOwn,
    fun other =>
      (apart.unnoticed other).bind fun value found => (rest value found).unnoticed other⟩

theorem ApartAt.attempt (apart : ApartAt agree own program state) :
    ApartAt agree own (program.attempt : Effect σ ω (Option α)) state :=
  ⟨fun isOwn => (apart.confined isOwn).attempt, fun other => (apart.unnoticed other).attempt⟩

/-- Computations that are apart at every state are so one after the other. -/
theorem apartAt_each {items : List β} {program : β → Effect σ ε α}
    (apart : ∀ item ∈ items, ∀ state, ApartAt agree own (program item) state) (state : σ) :
    ApartAt agree own (each items program) state := by
  induction items generalizing state with
  | nil => exact apartAt_pure []
  | cons item rest ih =>
      rw [each]
      apply (apart item List.mem_cons_self state).bind
      intro value _
      apply (ih (fun other listed => apart other (List.mem_cons_of_mem item listed)) _).bind
      intro values _
      exact apartAt_pure (value :: values)

end Rules

end Effect

end DecisionEngine.Transition
