import DecisionEngine.Transition.Interleaving

/-!
# Outcomes of A/B-tested payments

A payment in flight has a record, which routing stores and then enriches with costs, and
which feedback reads, marks or deletes when it emits an outcome event.  Every call reads
the record in one step and writes or deletes it in a later one.

One outcome is the first of the payment, and no enrichment is lost, when a call that has
read no mark writes while there is none, no call creates a record after a success has
deleted it, and no call writes costs that are older than the last enrichment.
-/

namespace DecisionEngine.AbTest

open Transition

/-- The record of a payment in flight; the numbers of the costs are of any type. -/
structure InflightContext (F : Type) where
  experimentId : String
  variantArm : String
  gateway : Option String
  isStaticArm : Bool
  costSavedBps : Option F
  chosenCostBps : Option F
  margin : Option F
  amount : Option F
  firstOutcomeEmitted : Bool

/-- The fields that an enrichment fills in. -/
structure Costs (F : Type) where
  costSavedBps : Option F
  chosenCostBps : Option F
  margin : Option F
  deriving DecidableEq

/-- What routing stores. -/
structure RoutedArm (F : Type) where
  experimentId : String
  variantArm : String
  gateway : Option String
  isStaticArm : Bool
  amount : Option F

/-- What routing adds for an arm with success-rate routing. -/
structure CostOutcome (F : Type) where
  experimentId : String
  variantArm : String
  gateway : Option String
  costs : Costs F
  amount : Option F

/-- The event of an attempt, with the fields of the record that was read. -/
structure OutcomeEvent (F : Type) where
  experimentId : String
  variantArm : String
  gateway : Option String
  status : String
  costs : Costs F
  amount : Option F
  firstAttempt : Bool

variable {F : Type}

def InflightContext.costs (ctx : InflightContext F) : Costs F :=
  ⟨ctx.costSavedBps, ctx.chosenCostBps, ctx.margin⟩

/-- Whether the record is marked; a missing one is not. -/
def existingFirstOutcomeEmitted (read : Option (InflightContext F)) : Bool :=
  (read.map InflightContext.firstOutcomeEmitted).getD false

def storedContext (arm : RoutedArm F) (firstOutcomeEmitted : Bool) : InflightContext F where
  experimentId := arm.experimentId
  variantArm := arm.variantArm
  gateway := arm.gateway
  isStaticArm := arm.isStaticArm
  costSavedBps := none
  chosenCostBps := none
  margin := none
  amount := arm.amount
  firstOutcomeEmitted := firstOutcomeEmitted

def enrichedContext (outcome : CostOutcome F) (firstOutcomeEmitted : Bool) :
    InflightContext F where
  experimentId := outcome.experimentId
  variantArm := outcome.variantArm
  gateway := outcome.gateway
  isStaticArm := false
  costSavedBps := outcome.costs.costSavedBps
  chosenCostBps := outcome.costs.chosenCostBps
  margin := outcome.costs.margin
  amount := outcome.amount
  firstOutcomeEmitted := firstOutcomeEmitted

def InflightContext.marked (ctx : InflightContext F) : InflightContext F :=
  { ctx with firstOutcomeEmitted := true }

def outcomeEvent (ctx : InflightContext F) (isSuccess : Bool) : OutcomeEvent F where
  experimentId := ctx.experimentId
  variantArm := ctx.variantArm
  gateway := ctx.gateway
  status := if isSuccess then "success" else "failure"
  costs := ctx.costs
  amount := ctx.amount
  firstAttempt := !ctx.firstOutcomeEmitted

/-- The record, and two facts about its past that no call reads: whether a success has
deleted it, and the last enrichment, until routing stores a record over it that it has read. -/
structure InflightState (F : Type) where
  record : Option (InflightContext F)
  resolved : Bool
  enrichment : Option (Costs F)

/-! ## Calls for one payment -/

/-- What a call does next. -/
inductive CallState (F : Type) where
  | storeInflight (arm : RoutedArm F)
  | store (arm : RoutedArm F) (read : Option (InflightContext F))
  | recordCostOutcome (outcome : CostOutcome F)
  | enrich (outcome : CostOutcome F) (read : Option (InflightContext F))
  | emitIfInFlight (isSuccess : Bool)
  | settle (isSuccess : Bool) (ctx : InflightContext F)
  | finished

inductive CallEvent (F : Type) where
  | read
  | written
  | notInFlight
  | emitted (outcome : OutcomeEvent F)

section Calls

variable [DecidableEq F]

/-- The enrichment that routing has still to keep after it has stored a record. -/
def enrichmentAfterStore (enrichment : Option (Costs F)) (read : Option (InflightContext F)) :
    Option (Costs F) :=
  enrichment.filter fun costs => read.map InflightContext.costs ≠ some costs

/-- The steps of a call.  A read that fails finds no record, and a write or a deletion that
fails changes nothing.  The event of an outcome is recorded with the last step. -/
def callProcess (succeeds : Bool) :
    Process (InflightState F) (CallState F) (CallEvent F)
  | .storeInflight arm, state =>
      some (.read, .store arm (state.record.filter fun _ => succeeds), state)
  | .store arm read, state =>
      some (.written, .finished, if succeeds then
        { state with
          record := some (storedContext arm (existingFirstOutcomeEmitted read))
          enrichment := enrichmentAfterStore state.enrichment read } else state)
  | .recordCostOutcome outcome, state =>
      some (.read, .enrich outcome (state.record.filter fun _ => succeeds), state)
  | .enrich outcome read, state =>
      some (.written, .finished, if succeeds then
        { state with
          record := some (enrichedContext outcome (existingFirstOutcomeEmitted read))
          enrichment := some outcome.costs } else state)
  | .emitIfInFlight isSuccess, state =>
      match state.record.filter fun _ => succeeds with
      | none => some (.notInFlight, .finished, state)
      | some ctx => some (.read, .settle isSuccess ctx, state)
  | .settle true ctx, state =>
      some (.emitted (outcomeEvent ctx true), .finished,
        if succeeds then ⟨none, true, none⟩ else state)
  | .settle false ctx, state =>
      some (.emitted (outcomeEvent ctx false), .finished,
        if succeeds then { state with record := some ctx.marked } else state)
  | .finished, _ => none

end Calls

inductive Call (F : Type) where
  | storeInflight (arm : RoutedArm F)
  | recordCostOutcome (outcome : CostOutcome F)
  | emitIfInFlight (isSuccess : Bool)

def Call.start : Call F → CallState F
  | .storeInflight arm => .storeInflight arm
  | .recordCostOutcome outcome => .recordCostOutcome outcome
  | .emitIfInFlight isSuccess => .emitIfInFlight isSuccess

/-- The calls before their first step. -/
def startCalls {ι : Type} (record : Option (InflightContext F)) (calls : ι → Call F) :
    Config (InflightState F) ι (CallState F) :=
  ⟨⟨record, false, none⟩, fun index => (calls index).start⟩

/-! ## First outcomes and enrichments -/

/-- The event says that it is of the first attempt. -/
def CallEvent.isFirst : CallEvent F → Bool
  | .emitted outcome => outcome.firstAttempt
  | .read | .written | .notInFlight => false

/-- How many events of the history are of the first attempt. -/
def firstOutcomes {ι : Type} (trace : List (ChoiceLabel ι Bool (CallEvent F))) : Nat :=
  trace.countP fun label => label.event.isFirst

/-- No outcome has left a mark: neither on the record nor by deleting it. -/
def Unmarked (state : InflightState F) : Prop :=
  match state.record with
  | some ctx => ctx.firstOutcomeEmitted = false
  | none => state.resolved = false

/-- A write over the state has read what it must not undo: whoever has read no mark writes
where there is none, and whoever writes costs has read the last enrichment; the write that
marks the first outcome does not fail. -/
def Informed (state : InflightState F) : CallState F → Bool → Prop
  | .store _ read, true =>
      (existingFirstOutcomeEmitted read = false → Unmarked state) ∧
        ∀ costs, state.enrichment = some costs → read.map InflightContext.costs = some costs
  | .enrich _ read, true => existingFirstOutcomeEmitted read = false → Unmarked state
  | .settle isSuccess ctx, true =>
      (ctx.firstOutcomeEmitted = false →
        ∃ current, state.record = some current ∧ current.firstOutcomeEmitted = false) ∧
      (isSuccess = false → ∀ costs, state.enrichment = some costs → ctx.costs = costs)
  | .settle _ ctx, false => ctx.firstOutcomeEmitted = true
  | _, _ => True

/-- The history has one first outcome at most, a first outcome has left a mark, and the last
enrichment is in the record. -/
structure Accounted {ι : Type} (trace : List (ChoiceLabel ι Bool (CallEvent F)))
    (state : InflightState F) : Prop where
  once : firstOutcomes trace ≤ 1
  marked : firstOutcomes trace ≠ 0 → ¬Unmarked state
  kept : ∀ costs, state.enrichment = some costs →
    ∀ ctx, state.record = some ctx → ctx.costs = costs

section Steps

variable {ι : Type} {trace : List (ChoiceLabel ι Bool (CallEvent F))}
  {state next : InflightState F} {label : ChoiceLabel ι Bool (CallEvent F)}

theorem firstOutcomes_concat :
    firstOutcomes (trace ++ [label]) =
      firstOutcomes trace + if label.event.isFirst then 1 else 0 := by
  rw [firstOutcomes, List.countP_append, List.countP_singleton]
  rfl

/-- A step that is no first outcome keeps the account when it keeps the marks and the
enrichment. -/
theorem Accounted.other (accounted : Accounted trace state)
    (notFirst : label.event.isFirst = false) (marks : ¬Unmarked state → ¬Unmarked next)
    (kept : ∀ costs, next.enrichment = some costs →
      ∀ ctx, next.record = some ctx → ctx.costs = costs) :
    Accounted (trace ++ [label]) next := by
  have sameCount : firstOutcomes (trace ++ [label]) = firstOutcomes trace := by
    rw [firstOutcomes_concat, notFirst]
    rfl
  constructor
  · rw [sameCount]
    exact accounted.once
  · rw [sameCount]
    exact fun some => marks (accounted.marked some)
  · exact kept

/-- A first outcome keeps the account where there is no mark, when it leaves one. -/
theorem Accounted.first (accounted : Accounted trace state) (unmarked : Unmarked state)
    (marks : ¬Unmarked next)
    (kept : ∀ costs, next.enrichment = some costs →
      ∀ ctx, next.record = some ctx → ctx.costs = costs) :
    Accounted (trace ++ [label]) next := by
  have none : firstOutcomes trace = 0 := by
    by_contra some
    exact accounted.marked some unmarked
  constructor
  · rw [firstOutcomes_concat, none]
    split <;> omega
  · exact fun _ => marks
  · exact kept

/-- An outcome is settled on the record as it was read. -/
theorem Accounted.settles (accounted : Accounted trace state) {ctx : InflightContext F}
    {isSuccess : Bool} (isOutcome : label.event = .emitted (outcomeEvent ctx isSuccess))
    (unmarked : ctx.firstOutcomeEmitted = false →
      ∃ current, state.record = some current ∧ current.firstOutcomeEmitted = false)
    (marks : ¬Unmarked next)
    (kept : ∀ costs, next.enrichment = some costs →
      ∀ ctx, next.record = some ctx → ctx.costs = costs) :
    Accounted (trace ++ [label]) next := by
  cases isMarked : ctx.firstOutcomeEmitted with
  | true =>
      have notFirst : label.event.isFirst = false := by
        rw [isOutcome, CallEvent.isFirst, outcomeEvent, isMarked]
        rfl
      exact accounted.other notFirst (fun _ => marks) kept
  | false =>
      rcases unmarked isMarked with ⟨current, isCurrent, notMarked⟩
      apply accounted.first _ marks kept
      rw [Unmarked, isCurrent]
      exact notMarked

theorem Accounted.step [DecidableEq F] (accounted : Accounted trace state)
    {call nextCall : CallState F} (informed : Informed state call label.choice)
    (steps : callProcess label.choice call state = some (label.event, nextCall, next)) :
    Accounted (trace ++ [label]) next := by
  rcases label with ⟨index, succeeds, event⟩
  dsimp only at informed steps
  cases call with
  | storeInflight arm =>
      cases steps
      exact accounted.other rfl id accounted.kept
  | recordCostOutcome outcome =>
      cases steps
      exact accounted.other rfl id accounted.kept
  | emitIfInFlight isSuccess =>
      simp only [callProcess] at steps
      split at steps <;> cases steps <;> exact accounted.other rfl id accounted.kept
  | store arm read =>
      cases succeeds with
      | false =>
          cases steps
          exact accounted.other rfl id accounted.kept
      | true =>
          cases steps
          apply accounted.other rfl
          · intro marked unmarked
            exact marked (informed.1 unmarked)
          · intro costs isKept
            rcases Option.filter_eq_some_iff.mp isKept with ⟨isLast, unread⟩
            have read := informed.2 costs isLast
            simp [read] at unread
  | enrich outcome read =>
      cases succeeds with
      | false =>
          cases steps
          exact accounted.other rfl id accounted.kept
      | true =>
          cases steps
          apply accounted.other rfl
          · intro marked unmarked
            exact marked (informed unmarked)
          · intro costs isLast ctx isRecord
            cases isLast
            cases isRecord
            rfl
  | settle isSuccess ctx =>
      cases succeeds with
      | false =>
          have notFirst : (outcomeEvent ctx isSuccess).firstAttempt = false := by
            rw [outcomeEvent, show ctx.firstOutcomeEmitted = true from informed]
            rfl
          cases isSuccess <;> cases steps <;>
            exact accounted.other notFirst id accounted.kept
      | true =>
          cases isSuccess with
          | true =>
              cases steps
              apply accounted.settles rfl informed.1
              · intro unmarked
                cases unmarked
              · nofun
          | false =>
              cases steps
              apply accounted.settles rfl informed.1
              · intro unmarked
                cases unmarked
              · intro costs isLast current isRecord
                cases isRecord
                exact informed.2 rfl costs isLast
  | finished => cases steps

end Steps

/-! ## Runs -/

section Runs

variable {ι : Type} [DecidableEq ι] [DecidableEq F]

/-- The steps of a run whose writes undo nothing they have not read. -/
abbrev InformedRun : Config (InflightState F) ι (CallState F) →
    List (ChoiceLabel ι Bool (CallEvent F)) → Config (InflightState F) ι (CallState F) → Prop :=
  Run fun config label next =>
    ChoiceMoves callProcess config label next ∧
      Informed config.shared (config.locals label.index) label.choice

/-- At most one event is of the first attempt, and a record has the costs of the last
enrichment until routing that has read them stores another record. -/
theorem outcomes_accounted {record : Option (InflightContext F)} {calls : ι → Call F}
    {trace : List (ChoiceLabel ι Bool (CallEvent F))}
    {final : Config (InflightState F) ι (CallState F)}
    (run : InformedRun (startCalls record calls) trace final) :
    firstOutcomes trace ≤ 1 ∧
      ∀ costs, final.shared.enrichment = some costs →
        ∀ ctx, final.shared.record = some ctx → ctx.costs = costs := by
  have accounted : Accounted trace final.shared := by
    apply run.invariant_of_allowed fun trace config => Accounted trace config.shared
    · exact ⟨Nat.zero_le 1, nofun, nofun⟩
    · rintro trace config label next accounted informed ⟨steps⟩
      exact accounted.step informed steps
  exact ⟨accounted.once, accounted.kept⟩

end Runs

/-! ## Calls that overtake each other -/

private def plainArm : RoutedArm Nat := ⟨"exp_1", "control", some "STRIPE", false, some 900⟩

private def plainOutcome : CostOutcome Nat :=
  ⟨"exp_1", "control", some "STRIPE", ⟨some 12, some 180, some 3⟩, some 900⟩

private def stored : InflightContext Nat := storedContext plainArm false

/-- A payment is routed and enriched, and fails twice. -/
private def routedPayment (index : Fin 4) : Call Nat :=
  if index = 0 then .storeInflight plainArm
  else if index = 1 then .recordCostOutcome plainOutcome
  else .emitIfInFlight false

/-- Each call makes its two steps before the next one starts. -/
private def inSequence : List (Fin 4 × Bool) :=
  [(0, true), (0, true), (1, true), (1, true), (2, true), (2, true), (3, true), (3, true)]

theorem outcomes_accounted_in_sequence :
    ∃ trace final, InformedRun (startCalls none routedPayment) trace final ∧
      firstOutcomes trace = 1 ∧ final.shared.enrichment = some plainOutcome.costs ∧
      firstOutcomes trace ≤ 1 ∧
      ∀ costs, final.shared.enrichment = some costs →
        ∀ ctx, final.shared.record = some ctx → ctx.costs = costs := by
  have informed : AllowedChoices callProcess
      (fun config label => Informed config.shared (config.locals label.index) label.choice)
      (startCalls none routedPayment) inSequence := by
    refine ⟨trivial, ⟨fun _ => rfl, nofun⟩, trivial, fun _ => rfl, trivial, ⟨?_, ?_⟩,
      trivial, ⟨nofun, ?_⟩, trivial⟩
    · intro _
      exact ⟨_, rfl, rfl⟩
    · intro _ costs isLast
      cases isLast
      rfl
    · intro _ costs isLast
      cases isLast
      rfl
  have run : InformedRun _ _ _ := run_choicesTrace callProcess informed
  exact ⟨_, _, run, rfl, rfl, outcomes_accounted run⟩

/-- A failure that is reported twice. -/
private def failedTwice (index : Fin 3) : Call Nat :=
  if index = 0 then .recordCostOutcome plainOutcome else .emitIfInFlight false

/-- A payment that is routed again after a success. -/
private def routedAgain (index : Fin 3) : Call Nat :=
  if index = 1 then .storeInflight plainArm else .emitIfInFlight (index = 0)

/-- Two reports read the record before one marks it, an enrichment is undone by a report
that has read the record before it, and a payment is routed again after a success. -/
theorem outcomes_accounted_counterexample :
    (∃ trace final, Run (ChoiceMoves callProcess) (startCalls (some stored) failedTwice)
        trace final ∧ firstOutcomes trace = 2) ∧
      (∃ trace final, Run (ChoiceMoves callProcess) (startCalls (some stored) failedTwice)
        trace final ∧ final.shared.enrichment = some plainOutcome.costs ∧
        final.shared.record = some stored.marked ∧
        stored.marked.costs ≠ plainOutcome.costs) ∧
      ∃ trace final, Run (ChoiceMoves callProcess) (startCalls (some stored) routedAgain)
        trace final ∧ firstOutcomes trace = 2 := by
  constructor
  · have run := run_choices callProcess (startCalls (some stored) failedTwice)
      [(1, true), (2, true), (1, true), (2, true)]
    exact ⟨_, _, run, rfl⟩
  · constructor
    · have run := run_choices callProcess (startCalls (some stored) failedTwice)
        [(1, true), (0, true), (0, true), (1, true)]
      exact ⟨_, _, run, rfl, rfl, by decide⟩
    · have run := run_choices callProcess (startCalls (some stored) routedAgain)
        [(0, true), (0, true), (1, true), (1, true), (2, true), (2, true)]
      exact ⟨_, _, run, rfl⟩

end DecisionEngine.AbTest
