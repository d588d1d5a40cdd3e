import DecisionEngine.Transition.Interleaving
import Mathlib.Algebra.BigOperators.Group.Finset.Piecewise
import Mathlib.Data.Fintype.Basic

/-!
# Routines that make calls

A routine makes calls and goes on with what they reply.  Each call is one atomic step on a
state that all routines share, and is made with a choice that no routine has influence on,
so any number of routines may interleave between two calls of one of them.

What a routine has done is the list of the calls that it has made.  It is known from the
routine alone, whatever the others do.
-/

namespace DecisionEngine.Transition

universe u v w x y z

/-- A routine returns a value, or makes a call and goes on with the reply. -/
inductive Routine (Call : Type u) (Reply : Call → Type v) (α : Type w)
  | done (value : α)
  | call (made : Call) (rest : Reply made → Routine Call Reply α)

/-- A call and its reply. -/
abbrev Made {Call : Type u} (Reply : Call → Type v) :=
  (made : Call) × Reply made

namespace Routine

variable {Call : Type u} {Reply : Call → Type v} {α β : Type w}

/-- One routine after the other. -/
def andThen : Routine Call Reply α → (α → Routine Call Reply β) → Routine Call Reply β
  | done value, next => next value
  | call made rest, next => call made fun reply => (rest reply).andThen next

instance : Monad (Routine Call Reply) where
  pure := done
  bind := andThen

/-! ## The calls of a routine -/

/-- The routine is left with `rest` when it has made the calls. -/
inductive Follows (routine : Routine Call Reply α) :
    List (Made Reply) → Routine Call Reply α → Prop
  | refl : Follows routine [] routine
  | snoc {history : List (Made Reply)} {made : Call}
      {rest : Reply made → Routine Call Reply α}
      (before : Follows routine history (call made rest)) (reply : Reply made) :
      Follows routine (history ++ [⟨made, reply⟩]) (rest reply)

/-- Whatever is replied, the calls that the routine has made when it is done and the value
that it returns satisfy a postcondition. -/
def Ensures : Routine Call Reply α → (List (Made Reply) → α → Prop) → Prop
  | done value, post => post [] value
  | call made rest, post => ∀ reply, (rest reply).Ensures fun history value =>
      post (⟨made, reply⟩ :: history) value

variable {post : List (Made Reply) → α → Prop}

theorem Ensures.mono {routine : Routine Call Reply α} {weaker : List (Made Reply) → α → Prop}
    (ensures : routine.Ensures post)
    (implies : ∀ history value, post history value → weaker history value) :
    routine.Ensures weaker := by
  induction routine generalizing post weaker with
  | done value => exact implies [] value ensures
  | call made rest ih => exact fun reply => ih reply (ensures reply) fun _ _ => implies _ _

theorem ensures_of_forall {routine : Routine Call Reply α}
    (always : ∀ history value, post history value) : routine.Ensures post := by
  induction routine generalizing post with
  | done value => exact always [] value
  | call made rest ih => exact fun reply => ih reply fun _ _ => always _ _

variable {first : Routine Call Reply α} {next : α → Routine Call Reply β}

theorem ensures_andThen {post : List (Made Reply) → β → Prop} :
    (first.andThen next).Ensures post ↔ first.Ensures fun history value =>
      (next value).Ensures fun later => post (history ++ later) := by
  induction first generalizing post with
  | done value => rfl
  | call made rest ih => exact forall_congr' fun reply => ih reply

variable {history : List (Made Reply)}

/-- What a routine ensures, its rest ensures together with the calls made so far. -/
theorem Ensures.rest {routine rest : Routine Call Reply α} (ensures : routine.Ensures post)
    (follows : routine.Follows history rest) :
    rest.Ensures fun later => post (history ++ later) := by
  induction follows with
  | refl => exact ensures
  | snoc before reply ih =>
      apply (ih reply).mono
      intro later value holds
      rw [List.append_assoc]
      exact holds

theorem Ensures.of_done {routine : Routine Call Reply α} {value : α}
    (ensures : routine.Ensures post) (follows : routine.Follows history (done value)) :
    post history value := by
  have atEnd : post (history ++ []) value := ensures.rest follows
  rwa [List.append_nil] at atEnd

/-- Every routine can be brought to its end. -/
theorem exists_of_ensures [∀ made, Inhabited (Reply made)] {routine : Routine Call Reply α}
    (ensures : routine.Ensures post) :
    ∃ history value, post history value := by
  induction routine generalizing post with
  | done value => exact ⟨[], value, ensures⟩
  | call made rest ih =>
      rcases ih default (ensures default) with ⟨history, value, holds⟩
      exact ⟨_, value, holds⟩

/-- What is ensured of all calls, and is inherited by the calls made before, holds of the
calls made so far. -/
theorem Ensures.so_far [∀ made, Inhabited (Reply made)] {routine rest : Routine Call Reply α}
    {holds : List (Made Reply) → Prop} (ensures : routine.Ensures fun history _ => holds history)
    (follows : routine.Follows history rest)
    (inherited : ∀ later, holds (history ++ later) → holds history) : holds history := by
  rcases exists_of_ensures (ensures.rest follows) with ⟨later, _, holdsLater⟩
  exact inherited later holdsLater

/-- Every call that the routine makes is allowed, with any reply. -/
def Makes (routine : Routine Call Reply α) (allowed : Call → Prop) : Prop :=
  routine.Ensures fun history _ => ∀ entry ∈ history, allowed entry.1

theorem Makes.allowed [∀ made, Inhabited (Reply made)] {routine rest : Routine Call Reply α}
    {allowed : Call → Prop} {history : List (Made Reply)} (makes : routine.Makes allowed)
    (follows : routine.Follows history rest) : ∀ entry ∈ history, allowed entry.1 :=
  Ensures.so_far makes follows fun _ holds entry isEntry =>
    holds entry (List.mem_append_left _ isEntry)

theorem makes_done {value : α} {allowed : Call → Prop} :
    (done value : Routine Call Reply α).Makes allowed :=
  fun _ isEntry => nomatch isEntry

theorem Makes.call {made : Call} {rest : Reply made → Routine Call Reply α}
    {allowed : Call → Prop} (isAllowed : allowed made)
    (others : ∀ reply, (rest reply).Makes allowed) : (Routine.call made rest).Makes allowed :=
  fun reply => Ensures.mono (others reply) fun _ _ holds =>
    List.forall_mem_cons.mpr ⟨isAllowed, holds⟩

theorem Makes.andThen {allowed : Call → Prop} (makes : first.Makes allowed)
    (others : ∀ value, (next value).Makes allowed) : (first.andThen next).Makes allowed :=
  ensures_andThen.mpr (Ensures.mono makes fun _ value earlier =>
    Ensures.mono (others value) fun _ _ later =>
      List.forall_mem_append.mpr ⟨earlier, later⟩)

theorem Makes.mono {routine : Routine Call Reply α} {allowed weaker : Call → Prop}
    (makes : routine.Makes allowed) (implies : ∀ made, allowed made → weaker made) :
    routine.Makes weaker :=
  Ensures.mono makes fun _ _ holds entry isEntry => implies _ (holds entry isEntry)

/-- The routine makes at most so many calls of a kind. -/
def MakesAtMost (routine : Routine Call Reply α) (counted : Call → Bool) (limit : ℕ) : Prop :=
  routine.Ensures fun history _ => history.countP (fun entry => counted entry.1) ≤ limit

theorem MakesAtMost.countP_le [∀ made, Inhabited (Reply made)]
    {routine rest : Routine Call Reply α} {counted : Call → Bool} {limit : ℕ}
    {history : List (Made Reply)} (makes : routine.MakesAtMost counted limit)
    (follows : routine.Follows history rest) :
    history.countP (fun entry => counted entry.1) ≤ limit := by
  apply Ensures.so_far makes follows
  intro later holds
  rw [List.countP_append] at holds
  omega

variable {counted : Call → Bool}

theorem Makes.makesAtMost {routine : Routine Call Reply α}
    (makes : routine.Makes fun made => ¬counted made = true) : routine.MakesAtMost counted 0 :=
  Ensures.mono makes fun _ _ holds => Nat.le_of_eq (List.countP_eq_zero.mpr holds)

theorem MakesAtMost.andThen {limit other : ℕ} (makes : first.MakesAtMost counted limit)
    (others : ∀ value, (next value).MakesAtMost counted other) :
    (first.andThen next).MakesAtMost counted (limit + other) :=
  ensures_andThen.mpr (Ensures.mono makes fun _ value earlier =>
    Ensures.mono (others value) fun _ _ later => by
      rw [List.countP_append]
      exact Nat.add_le_add earlier later)

end Routine

/-! ## Routines that may end early -/

section Handling

variable {Call : Type u} {Value : Call → Type v} {ε α β : Type w}

/-- A routine that may end with an error; a call that fails has no reply. -/
abbrev Handling (Call : Type u) (Value : Call → Type v) (ε α : Type w) :=
  ExceptT ε (Routine Call fun made => Option (Value made)) α

namespace Handling

/-- The routine that a handling stands for. -/
def routine (handling : Handling Call Value ε α) :
    Routine Call (fun made => Option (Value made)) (Except ε α) :=
  handling

/-- End with an error unless a condition holds. -/
def require (condition : Bool) (error : ε) : Handling Call Value ε PUnit :=
  ExceptT.mk (.done (if condition then .ok .unit else .error error))

/-- The value, or end with an error. -/
def orError (value : Option α) (error : ε) : Handling Call Value ε α :=
  ExceptT.mk (.done (value.elim (.error error) .ok))

/-- Go on with the reply to a call, or end with an error when it fails. -/
def ask {Value : Call → Type w} (made : Call) (error : ε) : Handling Call Value ε (Value made) :=
  ExceptT.mk (.call made fun reply => .done (reply.elim (.error error) .ok))

/-- Make a call and go on, also when it fails. -/
def attempt (made : Call) : Handling Call Value ε PUnit :=
  ExceptT.mk (.call made fun _ => .done (.ok .unit))

variable (handling : Handling Call Value ε α)

/-- Go on with other calls before an error is returned. -/
def onError (cleanup : Handling Call Value ε PUnit) :
    Handling Call Value ε α :=
  ExceptT.mk (handling.routine.andThen fun result =>
    match result with
    | .ok value => .done (.ok value)
    | .error error => cleanup.routine.andThen fun _ => .done (.error error))

/-- The calls of a handling that returns a value, and the value, satisfy a postcondition. -/
def Succeeds (post : List (Made fun made => Option (Value made)) → α → Prop) : Prop :=
  handling.routine.Ensures fun history result => ∀ value, result = .ok value → post history value

/-- Every call of a handling is allowed. -/
def Makes (allowed : Call → Prop) : Prop :=
  handling.routine.Makes allowed

/-- A handling makes at most so many calls of a kind. -/
def MakesAtMost (counted : Call → Bool) (limit : ℕ) : Prop :=
  handling.routine.MakesAtMost counted limit

section Rules

variable {post : List (Made fun made => Option (Value made)) → α → Prop}

theorem Succeeds.mono {weaker : List (Made fun made => Option (Value made)) → α → Prop}
    {handling : Handling Call Value ε α} (succeeds : handling.Succeeds post)
    (implies : ∀ history value, post history value → weaker history value) :
    handling.Succeeds weaker :=
  Routine.Ensures.mono succeeds fun _ _ holds value isValue => implies _ _ (holds value isValue)

variable {handling : Handling Call Value ε α}

theorem succeeds_of_forall (always : ∀ history value, post history value) :
    handling.Succeeds post :=
  Routine.ensures_of_forall fun _ _ _ _ => always _ _

variable {value : α}

/-- What holds of the calls of a handling that has returned a value. -/
theorem Succeeds.of_done {history : List (Made fun made => Option (Value made))}
    (succeeds : handling.Succeeds post)
    (follows : handling.routine.Follows history (.done (.ok value))) : post history value :=
  Routine.Ensures.of_done succeeds follows value rfl

theorem succeeds_pure :
    (pure value : Handling Call Value ε α).Succeeds post ↔ post [] value := by
  constructor
  · intro succeeds
    exact succeeds value rfl
  · rintro holds _ ⟨⟩
    exact holds

variable {first : Handling Call Value ε β} {next : β → Handling Call Value ε α}

theorem succeeds_bind :
    (first >>= next).Succeeds post ↔ first.Succeeds fun history value =>
      (next value).Succeeds fun later => post (history ++ later) := by
  have unfolded : (first >>= next).routine =
      first.routine.andThen fun result => ExceptT.bindCont next result :=
    rfl
  rw [Succeeds, unfolded, Routine.ensures_andThen, Succeeds]
  constructor
  · intro ensures
    apply ensures.mono
    rintro history _ holds value rfl
    exact holds
  · intro ensures
    apply ensures.mono
    intro history result holds
    cases result with
    | ok value => exact holds value rfl
    | error error => exact nofun

variable {condition : Bool} {error : ε}

theorem succeeds_require {post : List (Made fun made => Option (Value made)) → PUnit → Prop} :
    (require condition error : Handling Call Value ε PUnit).Succeeds post ↔
      (condition = true → post [] .unit) := by
  cases condition with
  | false => exact ⟨fun _ => nofun, fun _ => nofun⟩
  | true => exact ⟨fun succeeds _ => succeeds .unit rfl, fun holds _ _ => holds rfl⟩

theorem succeeds_orError {value : Option α} :
    (orError value error : Handling Call Value ε α).Succeeds post ↔
      ∀ present, value = some present → post [] present := by
  cases value with
  | none => exact ⟨fun _ => nofun, fun _ => nofun⟩
  | some value =>
      constructor
      · rintro succeeds _ ⟨⟩
        exact succeeds value rfl
      · rintro holds _ ⟨⟩
        exact holds value rfl

variable {cleanup : Handling Call Value ε PUnit}

theorem succeeds_onError :
    (handling.onError cleanup).Succeeds post ↔ handling.Succeeds post := by
  rw [Succeeds, onError, routine, ExceptT.mk, Routine.ensures_andThen, Succeeds]
  constructor
  · intro ensures
    apply ensures.mono
    rintro history _ holds value rfl
    have atEnd : post (history ++ []) value := holds value rfl
    rwa [List.append_nil] at atEnd
  · intro ensures
    apply ensures.mono
    intro history result holds
    cases result with
    | ok value =>
        rintro _ ⟨⟩
        rw [List.append_nil]
        exact holds value rfl
    | error error =>
        rw [Routine.ensures_andThen]
        exact Routine.ensures_of_forall fun _ _ => nofun

theorem makes_pure {allowed : Call → Prop} :
    (pure value : Handling Call Value ε α).Makes allowed :=
  Routine.makes_done

theorem Makes.bind {allowed : Call → Prop} (makes : first.Makes allowed)
    (others : ∀ value, (next value).Makes allowed) : (first >>= next).Makes allowed := by
  apply Routine.Makes.andThen makes
  intro result
  cases result with
  | ok value => exact others value
  | error error => exact Routine.makes_done

theorem makes_require {allowed : Call → Prop} :
    (require condition error : Handling Call Value ε PUnit).Makes allowed :=
  Routine.makes_done

theorem makes_orError {value : Option α} {allowed : Call → Prop} :
    (orError value error : Handling Call Value ε α).Makes allowed :=
  Routine.makes_done

theorem Makes.onError {allowed : Call → Prop} (makes : handling.Makes allowed)
    (cleans : cleanup.Makes allowed) :
    (handling.onError cleanup).Makes allowed := by
  apply Routine.Makes.andThen makes
  intro result
  cases result with
  | ok value => exact Routine.makes_done
  | error error => exact Routine.Makes.andThen cleans fun _ => Routine.makes_done

theorem succeeds_attempt {made : Call}
    {post : List (Made fun made => Option (Value made)) → PUnit → Prop} :
    (attempt made : Handling Call Value ε PUnit).Succeeds post ↔
      ∀ reply, post [⟨made, reply⟩] .unit := by
  constructor
  · intro succeeds reply
    exact succeeds reply .unit rfl
  · intro holds reply _ _
    exact holds reply

theorem makes_attempt {made : Call} {allowed : Call → Prop} (isAllowed : allowed made) :
    (attempt made : Handling Call Value ε PUnit).Makes allowed :=
  Routine.Makes.call isAllowed fun _ => Routine.makes_done

variable {counted : Call → Bool}

theorem Makes.makesAtMost (makes : handling.Makes fun made => ¬counted made = true) :
    handling.MakesAtMost counted 0 :=
  Routine.Makes.makesAtMost makes

variable {limit : ℕ}

theorem MakesAtMost.mono {other : ℕ} (makes : handling.MakesAtMost counted limit)
    (le : limit ≤ other) :
    handling.MakesAtMost counted other :=
  Routine.Ensures.mono makes fun _ _ holds => Nat.le_trans holds le

theorem MakesAtMost.bind {other : ℕ} (makes : first.MakesAtMost counted limit)
    (others : ∀ value, (next value).MakesAtMost counted other) :
    (first >>= next).MakesAtMost counted (limit + other) := by
  apply Routine.MakesAtMost.andThen makes
  intro result
  cases result with
  | ok value => exact others value
  | error error => exact Nat.zero_le other

/-- The first part makes no such call. -/
theorem Makes.bind_atMost (makes : first.Makes fun made => ¬counted made = true)
    (others : ∀ value, (next value).MakesAtMost counted limit) :
    (first >>= next).MakesAtMost counted limit :=
  (makes.makesAtMost.bind others).mono (Nat.le_of_eq (Nat.zero_add limit))

/-- The rest makes no such call. -/
theorem MakesAtMost.bind_makes (makes : first.MakesAtMost counted limit)
    (others : ∀ value, (next value).Makes fun made => ¬counted made = true) :
    (first >>= next).MakesAtMost counted limit :=
  makes.bind fun value => (others value).makesAtMost

end Rules

section Calls

variable {Value : Call → Type w}

variable {made : Call} {error : ε}

theorem succeeds_ask {post : List (Made fun made => Option (Value made)) → Value made → Prop} :
    (ask made error : Handling Call Value ε _).Succeeds post ↔
      ∀ value, post [⟨made, some value⟩] value := by
  constructor
  · intro succeeds value
    exact succeeds (some value) value rfl
  · intro holds reply value isValue
    cases reply with
    | none => cases isValue
    | some reply =>
        rw [← Except.ok.inj isValue]
        exact holds reply

theorem makes_ask {allowed : Call → Prop} (isAllowed : allowed made) :
    (ask made error : Handling Call Value ε _).Makes allowed :=
  Routine.Makes.call isAllowed fun _ => Routine.makes_done

theorem makesAtMost_ask {counted : Call → Bool} :
    (ask made error : Handling Call Value ε _).MakesAtMost counted 1 :=
  fun _ => List.countP_le_length

end Calls

end Handling

end Handling

/-! ## Routines that share a state -/

section Sharing

variable {σ : Type x} {ι : Type y} {Choice : Type z} [DecidableEq ι] {Call : Type u}
  {Reply : Call → Type v} {α : Type w}
  (perform : Choice → (made : Call) → σ → Reply made × σ)

/-- A routine makes its next call. -/
def Routine.process (choice : Choice) : Process σ (Routine Call Reply α) (Made Reply)
  | .done _, _ => none
  | .call made rest, state =>
      let (reply, next) := perform choice made state
      some (⟨made, reply⟩, rest reply, next)

/-- A routine that makes its calls one after the other, without others between them. -/
def Routine.alone (perform : (made : Call) → σ → Reply made × σ) :
    Routine Call Reply α → σ → α × σ
  | .done value, state => (value, state)
  | .call made rest, state =>
      let (reply, next) := perform made state
      (rest reply).alone perform next

/-- The calls that one of the routines has made. -/
def callsOf (index : ι) (trace : List (ChoiceLabel ι Choice (Made Reply))) : List (Made Reply) :=
  (trace.filter fun label => label.index = index).map ChoiceLabel.event

theorem callsOf_concat (index : ι) (trace : List (ChoiceLabel ι Choice (Made Reply)))
    (label : ChoiceLabel ι Choice (Made Reply)) :
    callsOf index (trace ++ [label]) =
      callsOf index trace ++ if label.index = index then [label.event] else [] := by
  by_cases own : label.index = index <;> simp [callsOf, own]

variable {trace : List (ChoiceLabel ι Choice (Made Reply))}

theorem mem_callsOf {index : ι} {entry : Made Reply} :
    entry ∈ callsOf index trace ↔ ∃ label ∈ trace, label.index = index ∧ label.event = entry := by
  simp [callsOf, and_assoc]

variable {perform}

/-- A step changes the state as the call does, and gives the routine the reply. -/
theorem changes_of_moves {config next : Config σ ι (Routine Call Reply α)}
    {label : ChoiceLabel ι Choice (Made Reply)}
    (moves : ChoiceMoves (Routine.process perform) config label next) :
    perform label.choice label.event.1 config.shared = (label.event.2, next.shared) := by
  cases moves with
  | @move index choice event _ shared steps =>
      cases isRoutine : config.locals index with
      | done value =>
          rw [isRoutine] at steps
          cases steps
      | call made rest =>
          rw [isRoutine] at steps
          cases steps
          rfl

/-- Each routine has been brought by its own calls to where it is. -/
theorem follows_callsOf {shared : σ} {routines : ι → Routine Call Reply α}
    {final : Config σ ι (Routine Call Reply α)}
    (run : Run (ChoiceMoves (Routine.process perform)) ⟨shared, routines⟩ trace final) (index : ι) :
    (routines index).Follows (callsOf index trace) (final.locals index) := by
  induction run with
  | refl => exact .refl
  | @snoc trace middle target label run last ih =>
      rw [callsOf_concat]
      cases last with
      | @move mover choice event _ shared' steps =>
          by_cases own : mover = index
          · subst own
            rw [if_pos rfl]
            dsimp only
            rw [Function.update_self]
            cases isRoutine : middle.locals mover with
            | done value =>
                rw [isRoutine] at steps
                cases steps
            | call made rest =>
                rw [isRoutine] at ih steps
                cases steps
                exact .snoc ih _
          · rw [if_neg own, List.append_nil]
            dsimp only
            rw [Function.update_of_ne (Ne.symm own)]
            exact ih

/-- One of the routines can be brought to its end, without the others. -/
theorem exists_run_alone (choice : Choice) (config : Config σ ι (Routine Call Reply α))
    (index : ι) : ∃ trace,
      Run (ChoiceMoves (Routine.process perform)) config trace
        ⟨((config.locals index).alone (perform choice) config.shared).2,
          Function.update config.locals index
            (.done ((config.locals index).alone (perform choice) config.shared).1)⟩ := by
  have ends (routine : Routine Call Reply α) (config : Config σ ι (Routine Call Reply α))
      (isRoutine : config.locals index = routine) : ∃ trace,
        Run (ChoiceMoves (Routine.process perform)) config trace
          ⟨(routine.alone (perform choice) config.shared).2,
            Function.update config.locals index
              (.done (routine.alone (perform choice) config.shared).1)⟩ := by
    induction routine generalizing config with
    | done value =>
        have unchanged : Function.update config.locals index (.done value) = config.locals := by
          rw [← isRoutine]
          exact Function.update_eq_self index config.locals
        refine ⟨[], ?_⟩
        rw [Routine.alone, unchanged]
        exact .refl
    | call made rest ih =>
        have moves : ChoiceMoves (Routine.process perform) config
            ⟨index, choice, ⟨made, (perform choice made config.shared).1⟩⟩
            ⟨(perform choice made config.shared).2, Function.update config.locals index
              (rest (perform choice made config.shared).1)⟩ :=
          .move (by rw [isRoutine]; rfl)
        rcases ih (perform choice made config.shared).1 ⟨(perform choice made config.shared).2,
          Function.update config.locals index (rest (perform choice made config.shared).1)⟩
          (Function.update_self _ _ _) with ⟨trace, run⟩
        rw [Function.update_idem] at run
        exact ⟨_, (Run.single moves).append run⟩
  exact ends _ config rfl

/-- Every routine is at its end. -/
def Complete (config : Config σ ι (Routine Call Reply α)) : Prop :=
  ∀ index, ∃ value, config.locals index = .done value

/-- Finitely many routines can all be brought to their ends. -/
theorem exists_run_complete [Fintype ι] (choice : Choice)
    (config : Config σ ι (Routine Call Reply α)) : ∃ trace final,
      Run (ChoiceMoves (Routine.process perform)) config trace final ∧ Complete final := by
  have ends (indices : List ι) : ∃ trace final,
      Run (ChoiceMoves (Routine.process perform)) config trace final ∧
        ∀ index ∈ indices, ∃ value, final.locals index = .done value := by
    induction indices with
    | nil => exact ⟨[], config, .refl, nofun⟩
    | cons first others ih =>
        rcases ih with ⟨trace, middle, run, othersDone⟩
        rcases exists_run_alone choice middle first with ⟨rest, lastRun⟩
        refine ⟨_, _, run.append lastRun, ?_⟩
        intro index isIndex
        by_cases same : index = first
        · subst same
          exact ⟨_, Function.update_self _ _ _⟩
        · rcases othersDone index ((List.mem_cons.mp isIndex).resolve_left same) with
            ⟨value, isDone⟩
          exact ⟨value, (Function.update_of_ne same _ _).trans isDone⟩
  rcases ends Finset.univ.toList with ⟨trace, final, run, allDone⟩
  exact ⟨trace, final, run, fun index => allDone index (Finset.mem_toList.mpr (Finset.mem_univ _))⟩

/-- The calls of a kind are counted routine by routine. -/
theorem countP_eq_sum [Fintype ι] (counted : Made Reply → Bool)
    (trace : List (ChoiceLabel ι Choice (Made Reply))) :
    trace.countP (fun label => counted label.event) =
      ∑ index, (callsOf index trace).countP counted := by
  induction trace using List.reverseRecOn with
  | nil => simp [callsOf]
  | append_singleton trace label ih =>
      have last (index : ι) : (if label.index = index then [label.event] else []).countP counted =
          if label.index = index then (if counted label.event then 1 else 0) else 0 := by
        split
        · exact List.countP_singleton
        · rfl
      simp only [List.countP_append, List.countP_singleton, callsOf_concat, last]
      rw [Finset.sum_add_distrib, ← ih, Finset.sum_ite_eq, if_pos (Finset.mem_univ _)]

/-- A kind of call that only one of the routines makes is counted in its calls. -/
theorem countP_eq_of_only (counted : Made Reply → Bool) {index : ι}
    (only : ∀ label ∈ trace, counted label.event = true → label.index = index) :
    trace.countP (fun label => counted label.event) = (callsOf index trace).countP counted := by
  induction trace using List.reverseRecOn with
  | nil => rfl
  | append_singleton trace label ih =>
      have onlyBefore := ih fun other isOther => only other (List.mem_append_left _ isOther)
      have onlyLast := only label (List.mem_append_right _ (List.mem_singleton_self _))
      rw [callsOf_concat, List.countP_append, List.countP_append, onlyBefore]
      by_cases own : label.index = index
      · rw [if_pos own]
        rfl
      · have notCounted : ¬counted label.event = true := fun isCounted => own (onlyLast isCounted)
        rw [if_neg own, List.countP_singleton, if_neg notCounted]
        rfl

/-- Calls of two routines are two calls. -/
theorem two_le_countP (counted : Made Reply → Bool) {first second : ι} (differ : first ≠ second)
    {made other : Made Reply} (isMade : made ∈ callsOf first trace)
    (isCounted : counted made = true) (isOther : other ∈ callsOf second trace)
    (otherCounted : counted other = true) :
    2 ≤ trace.countP fun label => counted label.event := by
  rcases mem_callsOf.mp isMade with ⟨firstLabel, firstMem, rfl, rfl⟩
  rcases mem_callsOf.mp isOther with ⟨secondLabel, secondMem, rfl, rfl⟩
  have apart : firstLabel ≠ secondLabel := fun same => differ (congrArg ChoiceLabel.index same)
  have both : [firstLabel, secondLabel].Subperm
      (trace.filter fun label => counted label.event) := by
    apply List.subperm_of_subset (by simpa using apart)
    intro label isLabel
    rcases List.mem_pair.mp isLabel with rfl | rfl
    · exact List.mem_filter.mpr ⟨firstMem, isCounted⟩
    · exact List.mem_filter.mpr ⟨secondMem, otherCounted⟩
  rw [List.countP_eq_length_filter]
  exact both.length_le

end Sharing

end DecisionEngine.Transition
