import DecisionEngine.Feedback.MovingWindow
import DecisionEngine.Transition.Interleaving
import Mathlib.Data.List.Induction

/-!
# Concurrent feedbacks on one window

A feedback checks the two keys one after the other, makes the window when one of
them is missing, and then pushes its outcome.  The making and the push are one
transaction each; everything between them can be interleaved with other
feedbacks.

As long as no window is made after an outcome has been pushed, the list is the
newest part of all outcomes in the order of their pushes.  The stored success
count is written by the making only, so it says nothing about the list.
-/

namespace DecisionEngine.Feedback

open Redis Transition

/-! ## The feedback process -/

structure Request where
  scoringType : GatewayScoringType
  bucketSize : Int

/-- What a feedback does next. -/
inductive FeedbackState where
  | checkQueue (request : Request)
  | checkScore (request : Request) (queueExists : Bool)
  | create (request : Request)
  | push (request : Request)
  | finished

inductive FeedbackEvent where
  | checked
  | created (bucketSize : Int)
  | pushed (scoringType : GatewayScoringType) (bucketSize : Int)

/-- The Redis commands of a feedback, one atomic step each. -/
def feedbackProcess (key : String) : Process Store FeedbackState FeedbackEvent
  | .checkQueue request, store =>
      some (.checked, .checkScore request (store.existsKey (queueKey key)), store)
  | .checkScore request queueExists, store =>
      some (.checked,
        if queueExists && store.existsKey (scoreKey key) then .push request
        else .create request,
        store)
  | .create request, store =>
      some (.created request.bucketSize, .push request,
        createMovingWindowAndScore store (queueKey key) (scoreKey key)
          (max request.bucketSize 1)
          (List.replicate (windowSize request.bucketSize) "1"))
  | .push request, store =>
      some (.pushed request.scoringType request.bucketSize, .finished,
        updateQueue store (queueKey key) (outcomeValue request.scoringType)
          request.bucketSize)
  | .finished, _ => none

/-- The four ways in which a feedback makes a step. -/
inductive FeedbackStep (key : String) (store : Store) :
    FeedbackState → FeedbackEvent → FeedbackState → Store → Prop
  | checkedQueue (request : Request) :
      FeedbackStep key store (.checkQueue request) .checked
        (.checkScore request (store.existsKey (queueKey key))) store
  | checkedScore (request : Request) (queueExists : Bool) :
      FeedbackStep key store (.checkScore request queueExists) .checked
        (if queueExists && store.existsKey (scoreKey key) then .push request
        else .create request) store
  | created (request : Request) :
      FeedbackStep key store (.create request) (.created request.bucketSize) (.push request)
        (createMovingWindowAndScore store (queueKey key) (scoreKey key)
          (max request.bucketSize 1) (List.replicate (windowSize request.bucketSize) "1"))
  | pushed (request : Request) :
      FeedbackStep key store (.push request) (.pushed request.scoringType request.bucketSize)
        .finished
        (updateQueue store (queueKey key) (outcomeValue request.scoringType)
          request.bucketSize)

theorem feedbackStep_of_feedbackProcess {key : String} {store after : Store}
    {state next : FeedbackState} {event : FeedbackEvent}
    (steps : feedbackProcess key state store = some (event, next, after)) :
    FeedbackStep key store state event next after := by
  cases state with
  | checkQueue request =>
      cases steps
      exact .checkedQueue request
  | checkScore request queueExists =>
      cases steps
      exact .checkedScore request queueExists
  | create request =>
      cases steps
      exact .created request
  | push request =>
      cases steps
      exact .pushed request
  | finished => cases steps

/-- The requests before their first step. -/
def startConfig {ι : Type} (store : Store) (requests : ι → Request) :
    Config Store ι FeedbackState :=
  ⟨store, fun index => .checkQueue (requests index)⟩

/-! ## History -/

section History

variable {ι : Type}

/-- The feedback that an event records. -/
def recordedBy : FeedbackEvent → Option WindowOp
  | .pushed scoringType bucketSize => some (.feedback scoringType bucketSize)
  | _ => none

/-- The recorded feedbacks, in the order of their pushes. -/
def pushes (trace : List (ι × FeedbackEvent)) : List WindowOp :=
  trace.filterMap fun label => recordedBy label.2

def IsCreation : FeedbackEvent → Prop
  | .created _ => True
  | _ => False

/-- No window is made after an outcome has been pushed. -/
def CreatesFirst (trace : List (ι × FeedbackEvent)) : Prop :=
  trace.Pairwise fun earlier later => recordedBy earlier.2 ≠ none → ¬IsCreation later.2

theorem pushes_append (first second : List (ι × FeedbackEvent)) :
    pushes (first ++ second) = pushes first ++ pushes second :=
  List.filterMap_append

theorem CreatesFirst.prefix {trace : List (ι × FeedbackEvent)} {label : ι × FeedbackEvent}
    (createsFirst : CreatesFirst (trace ++ [label])) : CreatesFirst trace :=
  (List.pairwise_append.mp createsFirst).1

theorem CreatesFirst.pushes_eq_nil {trace : List (ι × FeedbackEvent)} {index : ι}
    {event : FeedbackEvent} (createsFirst : CreatesFirst (trace ++ [(index, event)]))
    (isCreation : IsCreation event) : pushes trace = [] := by
  rw [pushes, List.filterMap_eq_nil_iff]
  intro label labelMem
  by_contra recorded
  exact (List.pairwise_append.mp createsFirst).2.2 label labelMem _ List.mem_cons_self
    recorded isCreation

theorem recorded_append (first second : List WindowOp) :
    recorded (first ++ second) = recorded second ++ recorded first := by
  simp [recorded]

theorem lengthAfter_append (initial : Nat) (first second : List WindowOp) :
    lengthAfter initial (first ++ second) = lengthAfter (lengthAfter initial first) second :=
  List.foldl_append

end History

/-! ## The invariant -/

section Invariant

variable {ι : Type} {key : String} {store : Store}

/-- The window holds the newest part of the pushed outcomes and of the entries
it was made with. -/
def HoldsPushes (key : String) (trace : List (ι × FeedbackEvent)) (filled : List String)
    (shared : Store) : Prop :=
  HoldsWindow shared key ((recorded (pushes trace) ++ filled).take
    (lengthAfter filled.length (pushes trace)))

/-- Nothing has been made or pushed, and no feedback has seen both keys. -/
structure Unopened (key : String) (store : Store) (trace : List (ι × FeedbackEvent))
    (config : Config Store ι FeedbackState) : Prop where
  missing : HasNoWindow store key
  shared : config.shared = store
  pushes : pushes trace = []
  notSeen : ∀ index request, config.locals index = .checkScore request true →
    store.existsKey (queueKey key) = true
  notPassed : ∀ index request, config.locals index ≠ .push request

/-- Entries a window can start with: outcomes that were there, or successes. -/
def Fills (initial filled : List String) : Prop :=
  filled = initial ∨ ∀ entry ∈ filled, entry = "1"

def WindowInvariant (key : String) (store : Store) (initial : List String)
    (trace : List (ι × FeedbackEvent)) (config : Config Store ι FeedbackState) : Prop :=
  (∃ filled, Fills initial filled ∧ HoldsPushes key trace filled config.shared) ∨
    Unopened key store trace config

variable {trace : List (ι × FeedbackEvent)}

variable {filled : List String}

theorem holdsPushes_of_unrecorded {index : ι} {event : FeedbackEvent} {shared : Store}
    (unrecorded : recordedBy event = none) (holds : HoldsPushes key trace filled shared) :
    HoldsPushes key (trace ++ [(index, event)]) filled shared := by
  have same : pushes (trace ++ [(index, event)]) = pushes trace := by
    rw [pushes_append]
    simp [pushes, unrecorded]
  unfold HoldsPushes at holds ⊢
  rwa [same]

theorem holdsPushes_push {shared : Store} (index : ι) (request : Request)
    (holds : HoldsPushes key trace filled shared) :
    HoldsPushes key
      (trace ++ [(index, .pushed request.scoringType request.bucketSize)]) filled
      (updateQueue shared (queueKey key) (outcomeValue request.scoringType)
        request.bucketSize) := by
  have pushed := holdsWindow_updateQueue_take holds (outcomeValue request.scoringType)
    request.bucketSize
  have same : pushes (trace ++ [(index, .pushed request.scoringType request.bucketSize)]) =
      pushes trace ++ [.feedback request.scoringType request.bucketSize] := by
    rw [pushes_append]
    rfl
  unfold HoldsPushes
  rw [same, recorded_append, lengthAfter_append]
  exact pushed

theorem holdsPushes_create (shared : Store) (index : ι) (bucketSize : Int)
    (noPushes : pushes trace = []) :
    HoldsPushes key (trace ++ [(index, .created bucketSize)])
      (List.replicate (windowSize bucketSize) "1")
      (createMovingWindowAndScore shared (queueKey key) (scoreKey key) (max bucketSize 1)
        (List.replicate (windowSize bucketSize) "1")) := by
  have notEmpty : List.replicate (windowSize bucketSize) "1" ≠ [] := by
    have positive := windowSize_pos bucketSize
    simp
    omega
  have created := holdsWindow_createMovingWindowAndScore shared key (max bucketSize 1) notEmpty
  have same : pushes (trace ++ [(index, .created bucketSize)]) = [] := by
    rw [pushes_append, noPushes]
    rfl
  rw [List.reverse_replicate] at created
  unfold HoldsPushes
  rw [same]
  simpa [recorded, lengthAfter] using created

variable [DecidableEq ι]

/-- A check leaves an unopened window alone. -/
theorem Unopened.check {config : Config Store ι FeedbackState}
    (unopened : Unopened key store trace config) (index : ι) {state : FeedbackState}
    (notSeen : ∀ request, state = .checkScore request true → store.existsKey (queueKey key) = true)
    (notPassed : ∀ request, state ≠ .push request) :
    Unopened key store (trace ++ [(index, .checked)])
      ⟨config.shared, Function.update config.locals index state⟩ := by
  constructor
  · exact unopened.missing
  · exact unopened.shared
  · rw [pushes_append, unopened.pushes]
    rfl
  · exact forall_update (fun state : FeedbackState => ∀ request, state = .checkScore request true →
      store.existsKey (queueKey key) = true) notSeen unopened.notSeen
  · exact forall_update (fun state : FeedbackState => ∀ request, state ≠ .push request) notPassed
      unopened.notPassed

variable {initial : List String}

/-- One step keeps the invariant, unless it makes a window after a push. -/
theorem windowInvariant_step {trace : List (ι × FeedbackEvent)}
    {config next : Config Store ι FeedbackState} {label : ι × FeedbackEvent}
    (holds : WindowInvariant key store initial trace config)
    (createsFirst : CreatesFirst (trace ++ [label]))
    (moves : Moves (feedbackProcess key) config label next) :
    WindowInvariant key store initial (trace ++ [label]) next := by
  rcases moves with ⟨steps⟩
  rename_i index event after shared
  have step := feedbackStep_of_feedbackProcess steps
  generalize state : config.locals index = before at step
  cases step with
  | created request =>
      have noPushes := createsFirst.pushes_eq_nil (by trivial)
      exact Or.inl ⟨_, Or.inr fun entry => List.eq_of_mem_replicate,
        holdsPushes_create config.shared index request.bucketSize noPushes⟩
  | pushed request =>
      rcases holds with ⟨filled, fills, holds⟩ | unopened
      · exact Or.inl ⟨filled, fills, holdsPushes_push index request holds⟩
      · exact absurd state (unopened.notPassed index request)
  | checkedQueue request =>
      rcases holds with ⟨filled, fills, holds⟩ | unopened
      · exact Or.inl ⟨filled, fills, holdsPushes_of_unrecorded rfl holds⟩
      · right
        apply unopened.check index
        · intro other equal
          rw [FeedbackState.checkScore.injEq] at equal
          rw [← unopened.shared]
          exact equal.2
        · simp
  | checkedScore request queueExists =>
      rcases holds with ⟨filled, fills, holds⟩ | unopened
      · exact Or.inl ⟨filled, fills, holdsPushes_of_unrecorded rfl holds⟩
      · have incomplete : (queueExists && config.shared.existsKey (scoreKey key)) = false := by
          rw [unopened.shared]
          cases queueExists with
          | false => rfl
          | true =>
              have queueThere := unopened.notSeen index request state
              rcases unopened.missing with noQueue | noScore
              · rw [noQueue] at queueThere
                simp at queueThere
              · simpa using noScore
        rw [incomplete, if_neg (by simp)]
        exact Or.inr (unopened.check index (by simp) (by simp))

variable {requests : ι → Request}

variable {final : Config Store ι FeedbackState}

theorem windowInvariant_of_interleaving
    (opening : HasNoWindow store key ∨ HoldsWindow store key initial)
    {trace : List (ι × FeedbackEvent)}
    (run : Interleaving (feedbackProcess key) (startConfig store requests) trace final)
    (createsFirst : CreatesFirst trace) :
    WindowInvariant key store initial trace final := by
  have start : WindowInvariant key store initial [] (startConfig store requests) := by
    rcases opening with missing | holds
    · refine Or.inr ⟨missing, rfl, rfl, ?_, ?_⟩
      · intro index request equal
        simp [startConfig] at equal
      · intro index request
        simp [startConfig]
    · refine Or.inl ⟨initial, Or.inl rfl, ?_⟩
      simpa [HoldsPushes, pushes, recorded, lengthAfter, startConfig] using holds
  have kept := run.invariant
    (fun trace config => CreatesFirst trace → WindowInvariant key store initial trace config)
    (fun _ => start)
    (fun trace config label next holds moves createsFirst =>
      windowInvariant_step (holds createsFirst.prefix) createsFirst moves)
  exact kept createsFirst

/-- Feedbacks on an existing window never make a new one. -/
theorem not_isCreation_of_holdsWindow (opening : HoldsWindow store key initial)
    {trace : List (ι × FeedbackEvent)}
    (run : Interleaving (feedbackProcess key) (startConfig store requests) trace final) :
    ∀ label ∈ trace, ¬IsCreation label.2 := by
  have kept := run.invariant (fun trace config =>
    (∃ entries, HoldsWindow config.shared key entries) ∧
      (∀ index request, config.locals index ≠ .checkScore request false) ∧
      (∀ index request, config.locals index ≠ .create request) ∧
      ∀ label ∈ trace, ¬IsCreation label.2) ?_ ?_
  · exact kept.2.2.2
  · exact ⟨⟨initial, opening⟩, by simp [startConfig], by simp [startConfig], by simp⟩
  rintro trace config ⟨mover, event⟩ next ⟨⟨entries, holds⟩, seen, noCreate, old⟩ ⟨steps⟩
  rename_i after shared
  have bothExist : config.shared.existsKey (queueKey key) = true ∧
      config.shared.existsKey (scoreKey key) = true := by
    rcases holds with ⟨queue, count, score⟩
    simp [Store.existsKey, queue, score]
  -- what the step leaves behind, by the state of the process that moves
  have stepped : (∃ entries, HoldsWindow shared key entries) ∧
      (∀ request, after ≠ .checkScore request false) ∧ (∀ request, after ≠ .create request) ∧
      ¬IsCreation event := by
    have step := feedbackStep_of_feedbackProcess steps
    generalize state : config.locals mover = before at step
    cases step with
    | created request => exact absurd state (noCreate mover request)
    | checkedQueue request =>
        exact ⟨⟨entries, holds⟩, by simp [bothExist.1], by simp, id⟩
    | checkedScore request queueExists =>
        cases queueExists with
        | false => exact absurd state (seen mover request)
        | true => exact ⟨⟨entries, holds⟩, by simp [bothExist.2], by simp [bothExist.2], id⟩
    | pushed request =>
        exact ⟨⟨_, holdsWindow_updateQueue holds _ _⟩, by simp, by simp, id⟩
  refine ⟨stepped.1, ?_, ?_, ?_⟩
  · exact forall_update (fun state : FeedbackState => ∀ request, state ≠ .checkScore request false)
      stepped.2.1 seen
  · exact forall_update (fun state : FeedbackState => ∀ request, state ≠ .create request)
      stepped.2.2.1 noCreate
  · intro label labelMem
    rcases List.mem_append.mp labelMem with labelMem | labelMem
    · exact old label labelMem
    · rw [List.mem_singleton.mp labelMem]
      exact stepped.2.2.2

theorem createsFirst_of_holdsWindow (opening : HoldsWindow store key initial)
    {trace : List (ι × FeedbackEvent)}
    (run : Interleaving (feedbackProcess key) (startConfig store requests) trace final) :
    CreatesFirst trace :=
  List.pairwise_of_forall_mem_list
    fun _ _ later laterMem _ => not_isCreation_of_holdsWindow opening run later laterMem

end Invariant

/-! ## Every outcome is recorded once -/

section Recording

variable {ι : Type} [DecidableEq ι] {key : String}

variable (trace : List (ι × FeedbackEvent))

/-- The part of the history that one request wrote. -/
def pushesOf (index : ι) : List WindowOp :=
  pushes (trace.filter fun label => label.1 = index)

/-- What a request has recorded, and what it still carries. -/
def Progress (request : Request) (pushed : List WindowOp) : FeedbackState → Prop
  | .checkQueue carried => carried = request ∧ pushed = []
  | .checkScore carried _ => carried = request ∧ pushed = []
  | .create carried => carried = request ∧ pushed = []
  | .push carried => carried = request ∧ pushed = []
  | .finished => pushed = [.feedback request.scoringType request.bucketSize]

theorem pushesOf_append_self (index : ι) (event : FeedbackEvent) :
    pushesOf (trace ++ [(index, event)]) index =
      pushesOf trace index ++ (recordedBy event).toList := by
  unfold pushesOf
  rw [List.filter_append, pushes_append]
  cases recorded : recordedBy event <;> simp [pushes, recorded]

theorem pushesOf_append_of_ne {index other : ι} (event : FeedbackEvent) (differ : index ≠ other) :
    pushesOf (trace ++ [(index, event)]) other = pushesOf trace other := by
  unfold pushesOf
  rw [List.filter_append, pushes_append]
  simp [pushes, differ]

theorem progress_step {request : Request} {pushed : List WindowOp}
    {state next : FeedbackState} {event : FeedbackEvent} {shared sharedAfter : Store}
    (progress : Progress request pushed state)
    (steps : feedbackProcess key state shared = some (event, next, sharedAfter)) :
    Progress request (pushed ++ (recordedBy event).toList) next := by
  cases feedbackStep_of_feedbackProcess steps with
  | checkedQueue carried | created carried =>
      exact ⟨progress.1, by simp [progress.2, recordedBy]⟩
  | checkedScore carried queueExists =>
      split
      · exact ⟨progress.1, by simp [progress.2, recordedBy]⟩
      · exact ⟨progress.1, by simp [progress.2, recordedBy]⟩
  | pushed carried =>
      rcases progress with ⟨rfl, rfl⟩
      rfl

theorem progress_of_interleaving {store : Store} {requests : ι → Request}
    {trace : List (ι × FeedbackEvent)} {final : Config Store ι FeedbackState}
    (run : Interleaving (feedbackProcess key) (startConfig store requests) trace final)
    (index : ι) :
    Progress (requests index) (pushesOf trace index) (final.locals index) := by
  apply run.invariant fun trace config =>
    Progress (requests index) (pushesOf trace index) (config.locals index)
  · exact ⟨rfl, rfl⟩
  · rintro trace config ⟨mover, event⟩ next progress ⟨steps⟩
    dsimp only
    by_cases same : mover = index
    · rw [same] at steps ⊢
      rw [Function.update_self, pushesOf_append_self]
      exact progress_step progress steps
    · rw [Function.update_of_ne (Ne.symm same), pushesOf_append_of_ne trace event same]
      exact progress

omit [DecidableEq ι] in
/-- A request that cannot move has finished. -/
theorem finished_of_done {config : Config Store ι FeedbackState}
    (done : config.Done (feedbackProcess key)) (index : ι) :
    config.locals index = .finished := by
  have stuck := done index
  cases state : config.locals index with
  | finished => rfl
  | _ => simp [state, feedbackProcess] at stuck

theorem mem_pushesOf_of_mem_pushes {trace : List (ι × FeedbackEvent)}
    {operation : WindowOp} (operationMem : operation ∈ pushes trace) :
    ∃ index, operation ∈ pushesOf trace index := by
  rcases List.mem_filterMap.mp operationMem with ⟨⟨index, event⟩, labelMem, recordedEq⟩
  refine ⟨index, List.mem_filterMap.mpr ⟨(index, event), ?_, recordedEq⟩⟩
  exact List.mem_filter.mpr ⟨labelMem, by simp⟩

theorem mem_pushes_of_mem_pushesOf {trace : List (ι × FeedbackEvent)} {index : ι}
    {operation : WindowOp} (operationMem : operation ∈ pushesOf trace index) :
    operation ∈ pushes trace := by
  rcases List.mem_filterMap.mp operationMem with ⟨label, labelMem, recordedEq⟩
  exact List.mem_filterMap.mpr ⟨label, List.mem_of_mem_filter labelMem, recordedEq⟩

/-- A request that is done has recorded its outcome once. -/
theorem pushesOf_of_done {store : Store} {requests : ι → Request}
    {trace : List (ι × FeedbackEvent)} {final : Config Store ι FeedbackState}
    (run : Interleaving (feedbackProcess key) (startConfig store requests) trace final)
    (done : final.Done (feedbackProcess key)) (index : ι) :
    pushesOf trace index =
      [.feedback (requests index).scoringType (requests index).bucketSize] := by
  have progress := progress_of_interleaving run index
  rw [finished_of_done done index] at progress
  exact progress

theorem le_windowSize_of_mem_pushes {requests : ι → Request} {trace : List (ι × FeedbackEvent)}
    (recordedOnce : ∀ index, pushesOf trace index =
      [.feedback (requests index).scoringType (requests index).bucketSize])
    {size : Nat} (large : ∀ index, size ≤ windowSize (requests index).bucketSize) :
    ∀ operation ∈ pushes trace, size ≤ windowSize operation.bucketSize := by
  intro operation operationMem
  rcases mem_pushesOf_of_mem_pushes operationMem with ⟨index, operationMem⟩
  rw [recordedOnce index, List.mem_singleton] at operationMem
  rw [operationMem]
  exact large index

end Recording

/-! ## No outcome is lost -/

variable {operations : List WindowOp}

theorem recorded_ne_nil {scoringType : GatewayScoringType} {bucketSize : Int}
    (operationMem : .feedback scoringType bucketSize ∈ operations) :
    recorded operations ≠ [] := by
  intro isEmpty
  have entryMem : outcomeValue scoringType ∈ recorded operations := by
    rw [recorded, List.mem_reverse, List.mem_flatMap]
    exact ⟨_, operationMem, List.mem_cons_self⟩
  rw [isEmpty] at entryMem
  simp at entryMem

/-- The cuts leave at least as many entries as every bucket size asks for. -/
theorem le_lengthAfter {size : Nat} (initial : Nat) {operations : List WindowOp}
    (large : ∀ operation ∈ operations, size ≤ windowSize operation.bucketSize) :
    min size (recorded operations).length ≤ lengthAfter initial operations := by
  induction operations using List.reverseRecOn with
  | nil => simp [recorded]
  | append_singleton operations operation ih =>
      have bound := ih fun other otherMem => large other (List.mem_append_left _ otherMem)
      have sizeBound := large operation (List.mem_append_right _ List.mem_cons_self)
      rw [lengthAfter_append, recorded_append]
      cases operation with
      | create bucketSize => simpa [recorded, WindowOp.outcome, lengthAfter, WindowOp.length]
          using bound
      | feedback scoringType bucketSize =>
          simp only [lengthAfter, recorded, WindowOp.length, WindowOp.bucketSize,
            List.foldl_cons, List.foldl_nil, List.flatMap_cons, List.flatMap_nil,
            WindowOp.outcome, List.append_nil, List.reverse_singleton, List.length_append,
            List.length_singleton] at bound sizeBound ⊢
          omega

theorem take_recorded_isPrefix {size : Nat} {operations : List WindowOp} (initial : Nat)
    (filled : List String)
    (large : ∀ operation ∈ operations, size ≤ windowSize operation.bucketSize) :
    (recorded operations).take size <+:
      (recorded operations ++ filled).take (lengthAfter initial operations) := by
  have bound := le_lengthAfter initial large
  have shorter : (recorded operations).take size =
      ((recorded operations ++ filled).take (lengthAfter initial operations)).take
        (min size (recorded operations).length) := by
    rw [List.take_take, min_eq_left bound, List.take_append_of_le_length (min_le_right _ _)]
    rcases le_total size (recorded operations).length with short | long
    · rw [min_eq_left short]
    · rw [min_eq_right long, List.take_of_length_le long, List.take_length]
  rw [shorter]
  exact List.take_prefix _ _

section Outcomes

variable {ι : Type} [DecidableEq ι] {key : String} {parse : String → Option ℚ}

theorem isOutcome_of_fills {initial filled : List String}
    (outcomes : ∀ entry ∈ initial, IsOutcome entry) (fills : Fills initial filled) :
    ∀ entry ∈ filled, IsOutcome entry := by
  rcases fills with rfl | successes
  · exact outcomes
  · exact fun entry entryMem => Or.inr (successes entry entryMem)

/-- Only outcomes are in a window that was made with outcomes. -/
theorem isOutcome_of_mem_window {filled : List String} {operations : List WindowOp}
    {size : Nat} (outcomes : ∀ entry ∈ filled, IsOutcome entry) :
    ∀ entry ∈ (recorded operations ++ filled).take size, IsOutcome entry := by
  intro entry entryMem
  rcases List.mem_append.mp (List.mem_of_mem_take entryMem) with isRecorded | isFilled
  · exact isOutcome_of_mem_recorded isRecorded
  · exact outcomes entry isFilled

/-- A window with room for one entry is not empty once an outcome is recorded. -/
theorem window_ne_nil (filled : List String) {operations : List WindowOp}
    (large : ∀ operation ∈ operations, 1 ≤ windowSize operation.bucketSize)
    (someRecorded : recorded operations ≠ []) :
    (recorded operations ++ filled).take (lengthAfter filled.length operations) ≠ [] := by
  intro isEmpty
  have newest := take_recorded_isPrefix filled.length filled large
  rw [isEmpty, List.prefix_nil, List.take_eq_nil_iff] at newest
  rcases newest with impossible | noOutcome
  · exact absurd impossible (by decide)
  · exact someRecorded noOutcome

/-- When all feedbacks have finished and no window was made after a push, each of
them is recorded exactly once, the list is the newest part of the outcomes in the
order of their pushes and of what the window was filled with, none of the newest
outcomes is missing from it, and the score is read from it. -/
theorem interleaved_feedback [Nonempty ι] (reads : ReadsOutcomes parse) {store : Store}
    {initial : List String} {requests : ι → Request}
    (opening : HasNoWindow store key ∨ HoldsWindow store key initial)
    (outcomes : ∀ entry ∈ initial, IsOutcome entry)
    {trace : List (ι × FeedbackEvent)} {final : Config Store ι FeedbackState}
    (run : Interleaving (feedbackProcess key) (startConfig store requests) trace final)
    (done : final.Done (feedbackProcess key)) (createsFirst : CreatesFirst trace) :
    (∀ index, pushesOf trace index =
      [.feedback (requests index).scoringType (requests index).bucketSize]) ∧
    ∃ filled entries, Fills initial filled ∧
      final.shared (queueKey key) = some (.list entries) ∧
      entries = (recorded (pushes trace) ++ filled).take
        (lengthAfter filled.length (pushes trace)) ∧
      (∀ size, (∀ index, size ≤ windowSize (requests index).bucketSize) →
        (recorded (pushes trace)).take size <+: entries) ∧
      ∀ bucketSize, getScoreFromRedis parse final.shared key bucketSize =
        (entries.take (windowSize bucketSize)).count "1" /
          (min (windowSize bucketSize) entries.length : Nat) := by
  have recordedOnce := pushesOf_of_done run done
  have pushed : ∀ index, WindowOp.feedback (requests index).scoringType
      (requests index).bucketSize ∈ pushes trace := by
    intro index
    apply mem_pushes_of_mem_pushesOf
    rw [recordedOnce index]
    exact List.mem_cons_self
  have someIndex : Nonempty ι := inferInstance
  rcases someIndex with ⟨index⟩
  rcases windowInvariant_of_interleaving opening run createsFirst with
    ⟨filled, fills, holds⟩ | unopened
  · have notEmpty := window_ne_nil filled
      (le_windowSize_of_mem_pushes recordedOnce fun _ => windowSize_pos _)
      (recorded_ne_nil (pushed index))
    exact ⟨recordedOnce, filled, _, fills, holds.1, rfl,
      fun size large => take_recorded_isPrefix _ filled
        (le_windowSize_of_mem_pushes recordedOnce large),
      getScoreFromRedis_of_holdsWindow reads holds notEmpty
        (isOutcome_of_mem_window (isOutcome_of_fills outcomes fills))⟩
  · have noPush := pushed index
    rw [unopened.pushes] at noPush
    simp at noPush

end Outcomes

/-- A fresh window of two entries. -/
def pairStore : Store :=
  createKeysIfNotExist (fun _ => none) (queueKey "gw") (scoreKey "gw") 2

/-- A failure and a success with different bucket sizes. -/
def pairRequests (second : Bool) : Request :=
  if second then ⟨.reward, 3⟩ else ⟨.penaliseSrv3, 2⟩

theorem interleaved_feedback_pair :
    ∃ trace final, Interleaving (feedbackProcess "gw") (startConfig pairStore pairRequests)
        trace final ∧
      (∀ index, pushesOf trace index =
        [.feedback (pairRequests index).scoringType (pairRequests index).bucketSize]) ∧
      ∃ filled entries, Fills (List.replicate (windowSize 2) "1") filled ∧
        final.shared (queueKey "gw") = some (.list entries) ∧
        entries = (recorded (pushes trace) ++ filled).take
          (lengthAfter filled.length (pushes trace)) ∧
        (∀ size, (∀ index, size ≤ windowSize (pairRequests index).bucketSize) →
          (recorded (pushes trace)).take size <+: entries) ∧
        ∀ bucketSize, getScoreFromRedis parseOutcome final.shared "gw" bucketSize =
          (entries.take (windowSize bucketSize)).count "1" /
            (min (windowSize bucketSize) entries.length : Nat) := by
  have opening : HoldsWindow pairStore "gw" (List.replicate (windowSize 2) "1") :=
    holdsWindow_createKeysIfNotExist (Or.inl rfl) 2
  have outcomes : ∀ entry ∈ List.replicate (windowSize 2) "1", IsOutcome entry :=
    fun entry entryMem => Or.inr (List.eq_of_mem_replicate entryMem)
  rcases interleaving_runSchedule (feedbackProcess "gw") (startConfig pairStore pairRequests)
    [false, true, true, false, true, false] with ⟨trace, run⟩
  have done : (runSchedule (feedbackProcess "gw") (startConfig pairStore pairRequests)
      [false, true, true, false, true, false]).Done (feedbackProcess "gw") := by
    intro index
    cases index <;> rfl
  exact ⟨trace, _, run, interleaved_feedback parseOutcome_readsOutcomes (Or.inr opening)
    outcomes run done (createsFirst_of_holdsWindow opening run)⟩

/-- The stored count does not follow the list: after one failure it still says
one success.  And two feedbacks that both find no window can wipe an outcome: the
second one makes the window again after the first has pushed its failure. -/
theorem interleaved_feedback_counterexample :
    (∃ trace final, Interleaving (feedbackProcess "gw")
        (startConfig (fun _ => none) fun _ : Unit => ⟨.penaliseSrv3, 1⟩) trace final ∧
      final.Done (feedbackProcess "gw") ∧
      final.shared (queueKey "gw") = some (.list ["0"]) ∧
      final.shared (scoreKey "gw") = some (.text "1")) ∧
    ∃ trace final, Interleaving (feedbackProcess "gw")
        (startConfig (fun _ => none) fun second : Bool =>
          if second then ⟨.reward, 5⟩ else ⟨.penaliseSrv3, 5⟩) trace final ∧
      final.Done (feedbackProcess "gw") ∧
      final.shared (queueKey "gw") = some (.list ["1", "1", "1", "1", "1"]) := by
  constructor
  · rcases interleaving_runSchedule (feedbackProcess "gw")
      (startConfig (fun _ => none) fun _ : Unit => ⟨.penaliseSrv3, 1⟩)
      [(), (), (), ()] with ⟨trace, run⟩
    exact ⟨trace, _, run, fun index => rfl, by decide, by decide⟩
  · rcases interleaving_runSchedule (feedbackProcess "gw")
      (startConfig (fun _ => none) fun second : Bool =>
        if second then ⟨.reward, 5⟩ else ⟨.penaliseSrv3, 5⟩)
      [false, false, true, true, false, false, true, true] with ⟨trace, run⟩
    refine ⟨trace, _, run, ?_, by decide⟩
    intro index
    cases index <;> rfl

end DecisionEngine.Feedback
