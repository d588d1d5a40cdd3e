import DecisionEngine.Transition.Run

/-!
# Interleavings of sequential processes

Processes share one state.  Each has a local state that says what it does next;
one step of one process is atomic, and any process that is not done may be the
next to move.
-/

namespace DecisionEngine.Transition

universe u v w x y

section Interleaving

/-- One atomic step of a process; `none` when the process is done.  A step may
leave an event in the history. -/
abbrev Process (σ : Type u) (Local : Type v) (Event : Type w) :=
  Local → σ → Option (Event × Local × σ)

/-- The shared state and the local state of every process. -/
structure Config (σ : Type u) (ι : Type x) (Local : Type v) where
  shared : σ
  locals : ι → Local

variable {σ : Type u} {Local : Type v} {Event : Type w} {ι : Type x} [DecidableEq ι]

/-- Process `index` makes its next step. -/
inductive Moves (process : Process σ Local Event) :
    Config σ ι Local → ι × Event → Config σ ι Local → Prop
  | move {config : Config σ ι Local} {index : ι} {event : Event} {next : Local} {shared : σ}
      (steps : process (config.locals index) config.shared = some (event, next, shared)) :
      Moves process config (index, event)
        ⟨shared, Function.update config.locals index next⟩

/-- A run of the processes in some order. -/
abbrev Interleaving (process : Process σ Local Event) :
    Config σ ι Local → List (ι × Event) → Config σ ι Local → Prop :=
  Run (Moves process)

variable (process : Process σ Local Event)

/-- No process can move. -/
def Config.Done (config : Config σ ι Local) : Prop :=
  ∀ index, process (config.locals index) config.shared = none

/-- What holds of every process holds after one of them has moved. -/
theorem forall_update {locals : ι → Local} {index : ι} {next : Local} (property : Local → Prop)
    (moved : property next) (others : ∀ other, property (locals other)) :
    ∀ other, property (Function.update locals index next other) :=
  (Function.forall_update_iff locals fun _ => property).mpr
    ⟨moved, fun other _ => others other⟩

/-- Let the processes move in the order of a schedule; a process that is done
is passed over. -/
def runSchedule (process : Process σ Local Event) :
    Config σ ι Local → List ι → Config σ ι Local
  | config, [] => config
  | config, index :: rest =>
      match process (config.locals index) config.shared with
      | none => runSchedule process config rest
      | some (_, next, shared) =>
          runSchedule process ⟨shared, Function.update config.locals index next⟩ rest

/-- The events of a schedule. -/
def scheduleTrace (process : Process σ Local Event) :
    Config σ ι Local → List ι → List (ι × Event)
  | _, [] => []
  | config, index :: rest =>
      match process (config.locals index) config.shared with
      | none => scheduleTrace process config rest
      | some (event, next, shared) =>
          (index, event) ::
            scheduleTrace process ⟨shared, Function.update config.locals index next⟩ rest

/-- Every move of a schedule is allowed where it is made. -/
def AllowedSchedule (process : Process σ Local Event) (allowed : Config σ ι Local → ι → Prop) :
    Config σ ι Local → List ι → Prop
  | _, [] => True
  | config, index :: rest =>
      allowed config index ∧
        match process (config.locals index) config.shared with
        | none => AllowedSchedule process allowed config rest
        | some (_, next, shared) =>
            AllowedSchedule process allowed
              ⟨shared, Function.update config.locals index next⟩ rest

theorem AllowedSchedule.cons {process : Process σ Local Event}
    {allowed : Config σ ι Local → ι → Prop} {config : Config σ ι Local} {index : ι}
    {rest : List ι} {event : Event} {next : Local} {shared : σ} (first : allowed config index)
    (steps : process (config.locals index) config.shared = some (event, next, shared))
    (others : AllowedSchedule process allowed
      ⟨shared, Function.update config.locals index next⟩ rest) :
    AllowedSchedule process allowed config (index :: rest) := by
  rw [AllowedSchedule, steps]
  exact ⟨first, others⟩

variable {allowed : Config σ ι Local → ι → Prop} {config : Config σ ι Local}

/-- A schedule of allowed moves is an interleaving of allowed moves. -/
theorem run_scheduleTrace {schedule : List ι}
    (allowedSchedule : AllowedSchedule process allowed config schedule) :
    Run (fun config label next => Moves process config label next ∧ allowed config label.1)
      config (scheduleTrace process config schedule) (runSchedule process config schedule) := by
  induction schedule generalizing config with
  | nil => exact .refl
  | cons index rest ih =>
      rw [AllowedSchedule] at allowedSchedule
      rcases allowedSchedule with ⟨first, others⟩
      rw [runSchedule, scheduleTrace]
      cases steps : process (config.locals index) config.shared with
      | none =>
          rw [steps] at others
          exact ih others
      | some result =>
          rcases result with ⟨event, next, shared⟩
          rw [steps] at others
          exact (Run.single ⟨.move steps, first⟩).append (ih others)

theorem run_runSchedule {schedule : List ι}
    (allowedSchedule : AllowedSchedule process allowed config schedule) :
    ∃ trace, Run (fun config label next => Moves process config label next ∧
      allowed config label.1) config trace (runSchedule process config schedule) :=
  ⟨_, run_scheduleTrace process allowedSchedule⟩

theorem allowedSchedule_of_forall (always : ∀ config index, allowed config index)
    (config : Config σ ι Local) (schedule : List ι) :
    AllowedSchedule process allowed config schedule := by
  induction schedule generalizing config with
  | nil => trivial
  | cons index rest ih =>
      rw [AllowedSchedule]
      constructor
      · exact always config index
      · split <;> exact ih _

/-- Every schedule is an interleaving. -/
theorem interleaving_scheduleTrace (config : Config σ ι Local) (schedule : List ι) :
    Interleaving process config (scheduleTrace process config schedule)
      (runSchedule process config schedule) := by
  have allowed : AllowedSchedule process (fun _ _ => True) config schedule :=
    allowedSchedule_of_forall process (fun _ _ => trivial) config schedule
  exact (run_scheduleTrace process allowed).mono fun _ _ _ step => step.1

theorem interleaving_runSchedule (config : Config σ ι Local) (schedule : List ι) :
    ∃ trace, Interleaving process config trace (runSchedule process config schedule) :=
  ⟨_, interleaving_scheduleTrace process config schedule⟩

end Interleaving

/-! ## Interleavings with choices

Each step of a process is made with a choice that the process has no influence on, such as
whether a statement of it fails.
-/

section Choice

variable {σ : Type u} {Local : Type v} {Event : Type w} {ι : Type x} {Choice : Type y}
  [DecidableEq ι]

/-- A step of a process, with the choice that it is made with. -/
structure ChoiceLabel (ι : Type x) (Choice : Type y) (Event : Type w) where
  index : ι
  choice : Choice
  event : Event

/-- A process makes its next step with some choice. -/
inductive ChoiceMoves (process : Choice → Process σ Local Event) :
    Config σ ι Local → ChoiceLabel ι Choice Event → Config σ ι Local → Prop
  | move {config : Config σ ι Local} {index : ι} {choice : Choice} {event : Event}
      {next : Local} {shared : σ}
      (steps : process choice (config.locals index) config.shared = some (event, next, shared)) :
      ChoiceMoves process config ⟨index, choice, event⟩
        ⟨shared, Function.update config.locals index next⟩

/-- Let the processes move in the order of a schedule, with its choices. -/
def runChoices (process : Choice → Process σ Local Event) :
    Config σ ι Local → List (ι × Choice) → Config σ ι Local
  | config, [] => config
  | config, (index, choice) :: rest =>
      match process choice (config.locals index) config.shared with
      | none => runChoices process config rest
      | some (_, next, shared) =>
          runChoices process ⟨shared, Function.update config.locals index next⟩ rest

/-- The steps of a schedule. -/
def choicesTrace (process : Choice → Process σ Local Event) :
    Config σ ι Local → List (ι × Choice) → List (ChoiceLabel ι Choice Event)
  | _, [] => []
  | config, (index, choice) :: rest =>
      match process choice (config.locals index) config.shared with
      | none => choicesTrace process config rest
      | some (event, next, shared) =>
          ⟨index, choice, event⟩ ::
            choicesTrace process ⟨shared, Function.update config.locals index next⟩ rest

/-- Every step of a schedule is allowed where it is made. -/
def AllowedChoices (process : Choice → Process σ Local Event)
    (allowed : Config σ ι Local → ChoiceLabel ι Choice Event → Prop) :
    Config σ ι Local → List (ι × Choice) → Prop
  | _, [] => True
  | config, (index, choice) :: rest =>
      match process choice (config.locals index) config.shared with
      | none => AllowedChoices process allowed config rest
      | some (event, next, shared) =>
          allowed config ⟨index, choice, event⟩ ∧
            AllowedChoices process allowed
              ⟨shared, Function.update config.locals index next⟩ rest

instance decidableAllowedChoices (process : Choice → Process σ Local Event)
    (allowed : Config σ ι Local → ChoiceLabel ι Choice Event → Prop)
    [∀ config label, Decidable (allowed config label)] :
    ∀ config schedule, Decidable (AllowedChoices process allowed config schedule)
  | _, [] => .isTrue trivial
  | config, (index, choice) :: rest =>
      match steps : process choice (config.locals index) config.shared with
      | none =>
          have := decidableAllowedChoices process allowed config rest
          decidable_of_iff (AllowedChoices process allowed config rest)
            (by rw [AllowedChoices, steps])
      | some (event, next, shared) =>
          have := decidableAllowedChoices process allowed
            ⟨shared, Function.update config.locals index next⟩ rest
          decidable_of_iff (allowed config ⟨index, choice, event⟩ ∧ AllowedChoices process allowed
            ⟨shared, Function.update config.locals index next⟩ rest)
            (by rw [AllowedChoices, steps])

variable (process : Choice → Process σ Local Event)

/-- A schedule of allowed steps is a run of allowed steps. -/
theorem run_choicesTrace {allowed : Config σ ι Local → ChoiceLabel ι Choice Event → Prop}
    {config : Config σ ι Local} {schedule : List (ι × Choice)}
    (allowedSchedule : AllowedChoices process allowed config schedule) :
    Run (fun config label next => ChoiceMoves process config label next ∧ allowed config label)
      config (choicesTrace process config schedule) (runChoices process config schedule) := by
  induction schedule generalizing config with
  | nil => exact .refl
  | cons entry rest ih =>
      rcases entry with ⟨index, choice⟩
      rw [AllowedChoices] at allowedSchedule
      rw [runChoices, choicesTrace]
      cases steps : process choice (config.locals index) config.shared with
      | none =>
          rw [steps] at allowedSchedule
          exact ih allowedSchedule
      | some result =>
          rcases result with ⟨event, next, shared⟩
          rw [steps] at allowedSchedule
          rcases allowedSchedule with ⟨first, others⟩
          exact (Run.single ⟨.move steps, first⟩).append (ih others)

/-- Every schedule is a run. -/
theorem run_choices (config : Config σ ι Local) (schedule : List (ι × Choice)) :
    Run (ChoiceMoves process) config (choicesTrace process config schedule)
      (runChoices process config schedule) := by
  induction schedule generalizing config with
  | nil => exact .refl
  | cons entry rest ih =>
      rcases entry with ⟨index, choice⟩
      rw [runChoices, choicesTrace]
      cases steps : process choice (config.locals index) config.shared with
      | none => exact ih config
      | some result =>
          rcases result with ⟨event, next, shared⟩
          exact (Run.single (.move steps)).append (ih _)

end Choice

end DecisionEngine.Transition
