import Mathlib.Data.List.Basic

/-!
# Finite runs of a labelled transition relation

A run carries the labels of its steps in the order in which they were taken, so
an invariant may speak about the history as well as about the state.
-/

namespace DecisionEngine.Transition

universe u v

variable {σ : Type u} {α : Type v}

/-- The steps lead from `source` to `target` with the given labels. -/
inductive Run (step : σ → α → σ → Prop) (source : σ) : List α → σ → Prop
  | refl : Run step source [] source
  | snoc {trace : List α} {middle target : σ} {label : α}
      (run : Run step source trace middle) (last : step middle label target) :
      Run step source (trace ++ [label]) target

namespace Run

variable {step : σ → α → σ → Prop} {source : σ}

theorem single {target : σ} {label : α} (first : step source label target) :
    Run step source [label] target :=
  snoc refl first

theorem append {middle target : σ} {first second : List α}
    (run : Run step source first middle) (rest : Run step middle second target) :
    Run step source (first ++ second) target := by
  induction rest with
  | refl => rwa [List.append_nil]
  | snoc rest last ih =>
      rw [← List.append_assoc]
      exact snoc ih last

/-- A run of fewer steps is a run. -/
theorem mono {other : σ → α → σ → Prop} {target : σ} {trace : List α}
    (weaker : ∀ middle label next, step middle label next → other middle label next)
    (run : Run step source trace target) : Run other source trace target := by
  induction run with
  | refl => exact .refl
  | snoc run last ih => exact .snoc ih (weaker _ _ _ last)

/-- What holds at the source with an empty history and is kept by every step
holds at the end of every run. -/
theorem invariant (property : List α → σ → Prop) (initially : property [] source)
    (keeps : ∀ trace middle label target, property trace middle →
      step middle label target → property (trace ++ [label]) target)
    {trace : List α} {target : σ} (run : Run step source trace target) :
    property trace target := by
  induction run with
  | refl => exact initially
  | snoc run last ih => exact keeps _ _ _ _ ih last

/-- The same for steps whose labels meet a condition at the state before. -/
theorem invariant_of_allowed (property : List α → σ → Prop) {allowed : σ → α → Prop}
    (initially : property [] source)
    (keeps : ∀ trace middle label target, property trace middle → allowed middle label →
      step middle label target → property (trace ++ [label]) target)
    {trace : List α} {target : σ}
    (run : Run (fun middle label next => step middle label next ∧ allowed middle label) source
      trace target) :
    property trace target :=
  run.invariant property initially fun trace middle label target holds last =>
    keeps trace middle label target holds last.2 last.1

end Run

/-- Every action of a list meets a condition at the state where it is taken. -/
def AllowedActions (apply : σ → α → σ) (allowed : σ → α → Prop) : σ → List α → Prop
  | _, [] => True
  | state, action :: rest =>
      allowed state action ∧ AllowedActions apply allowed (apply state action) rest

theorem allowedActions_of_forall {apply : σ → α → σ} {allowed : σ → α → Prop}
    (always : ∀ state action, allowed state action) (state : σ) (actions : List α) :
    AllowedActions apply allowed state actions := by
  induction actions generalizing state with
  | nil => trivial
  | cons action rest ih => exact ⟨always state action, ih _⟩

/-- A list of allowed actions is a run. -/
theorem run_foldl {apply : σ → α → σ} {allowed : σ → α → Prop} {state : σ} {actions : List α}
    (allowedActions : AllowedActions apply allowed state actions) :
    Run (fun state action next => next = apply state action ∧ allowed state action) state actions
      (actions.foldl apply state) := by
  induction actions generalizing state with
  | nil => exact .refl
  | cons action rest ih =>
      rcases allowedActions with ⟨first, others⟩
      exact (Run.single ⟨rfl, first⟩).append (ih others)

end DecisionEngine.Transition
