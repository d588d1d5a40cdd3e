import DecisionEngine.Feedback.PaymentHistory
import DecisionEngine.Transition.Calls
import Mathlib.Algebra.Order.BigOperators.Group.Finset

/-!
# The lock of the score update

A delivery of feedback takes the lock of its payment, gateway and scoring type, and updates the
scores if it has got it.  Any number of deliveries interleave; no lock expires between them.

Each key is taken once.  So each outcome is applied once exactly when no two outcomes that are
delivered have one key, which is a text that the payment and the gateway run together in.
-/

namespace DecisionEngine.Feedback

open Number Scoring Text Transition

variable {F : Type}

/-! ## Deliveries -/

/-- What the lock is for. -/
structure ScoredOutcome where
  paymentId : String
  gateway : String
  gatewayScoringType : GatewayScoringType
  deriving DecidableEq

def ScoredOutcome.lockKey (outcome : ScoredOutcome) : String :=
  updateGatewayScoreLock outcome.gatewayScoringType outcome.paymentId outcome.gateway

/-- The pieces of the tag of a scoring type. -/
def tagPieces : GatewayScoringType → List String
  | .penalise => ["PENALISE"]
  | .penaliseSrv3 => ["PENALISE", "SRV3"]
  | .reward => ["REWARD"]

theorem split_lockKey (outcome : ScoredOutcome) :
    split '_' outcome.lockKey =
      ["gateway", "scores", "lock"] ++ tagPieces outcome.gatewayScoringType ++
        (split '_' outcome.paymentId ++ split '_' outcome.gateway) := by
  obtain ⟨paymentId, gateway, gatewayScoringType⟩ := outcome
  have tagged (tag : String)
      (isTag : split '_' tag = ["gateway", "scores", "lock"] ++ tagPieces gatewayScoringType) :
      split '_' (tag ++ "_" ++ paymentId ++ "_" ++ gateway) =
        ["gateway", "scores", "lock"] ++ tagPieces gatewayScoringType ++
          (split '_' paymentId ++ split '_' gateway) := by
    have joined : tag ++ "_" ++ paymentId ++ "_" ++ gateway =
        join (String.singleton '_') [tag, paymentId, gateway] := by
      rw [join_cons _ _ (List.cons_ne_nil _ _), join_cons _ _ (List.cons_ne_nil _ _),
        join_singleton]
      simp [String.append_assoc]
    rw [joined, split_join (List.cons_ne_nil _ _), ← isTag]
    simp
  cases gatewayScoringType with
  | penalise => exact tagged "gateway_scores_lock_PENALISE" (by decide +kernel)
  | penaliseSrv3 => exact tagged "gateway_scores_lock_PENALISE_SRV3" (by decide +kernel)
  | reward => exact tagged "gateway_scores_lock_REWARD" (by decide +kernel)

/-- Without underscores in payment ids and names of gateways, a lock is for one outcome. -/
theorem lockKey_eq_iff {first second : ScoredOutcome}
    (plain : ∀ text ∈ [first.paymentId, first.gateway, second.paymentId, second.gateway],
      '_' ∉ text.toList) :
    first.lockKey = second.lockKey ↔ first = second := by
  refine ⟨fun same => ?_, congrArg _⟩
  have pieces := congrArg (split '_') same
  simp only [List.forall_mem_cons] at plain
  rw [split_lockKey, split_lockKey, split_of_notMem plain.1, split_of_notMem plain.2.1,
    split_of_notMem plain.2.2.1, split_of_notMem plain.2.2.2.1] at pieces
  obtain ⟨paymentId, gateway, gatewayScoringType⟩ := first
  obtain ⟨otherId, otherGateway, otherType⟩ := second
  cases gatewayScoringType <;> cases otherType <;> simp_all [tagPieces]

/-- The steps of a delivery: the `NX` set of the lock and the update of the scores. -/
inductive ScoreCall (F : Type) where
  | setLock (merchantId lockKey : String)
  | updateScore (request : UpdateRequest F) (gatewayScoringType : GatewayScoringType)
      (txn : FeedbackTxn)

abbrev ScoreCall.Reply : ScoreCall F → Type
  | .setLock _ _ => Bool
  | .updateScore _ _ _ => Unit

/-- A step with its reply. -/
abbrev ScoreEntry (F : Type) :=
  Made (ScoreCall.Reply : ScoreCall F → Type)

def performScore [MachineNumber F] (configs : ServiceConfigs) (_ : Unit) :
    (call : ScoreCall F) → PaymentStore F → call.Reply × PaymentStore F
  | .setLock merchantId lockKey, store =>
      store.checkAndSendShouldUpdateGatewayScore merchantId lockKey
  | .updateScore request gatewayScoringType txn, store =>
      ((), request.updateGatewayScore configs gatewayScoringType txn store)

/-- The update of the scores, one step at a time. -/
def UpdateRequest.deliver (request : UpdateRequest F) (txn : FeedbackTxn)
    (enforceFailure : Bool) : Routine (ScoreCall F) ScoreCall.Reply UpdateResult :=
  let gatewayScoringType := request.getGatewayScoringType txn enforceFailure
  .call (.setLock request.payload.merchantId (request.lockKey txn enforceFailure))
    fun (shouldComputeGwScore : Bool) =>
      if request.reads.updateScoreLockEnabled && !shouldComputeGwScore then .done .success
      else if request.reads.merchantFound then
        .call (.updateScore request gatewayScoringType txn) fun _ => .done .success
      else .done .merchantAccountNotFound

/-- A delivery to a merchant that is known and has the lock. -/
structure Delivery (F : Type) (merchantId : String) where
  request : UpdateRequest F
  txn : FeedbackTxn
  enforceFailure : Bool
  ofMerchant : request.payload.merchantId = merchantId
  lockEnabled : request.reads.updateScoreLockEnabled = true
  merchantFound : request.reads.merchantFound = true

namespace Delivery

variable {merchantId : String} (delivery : Delivery F merchantId)

def outcome : ScoredOutcome where
  paymentId := delivery.request.payload.paymentId
  gateway := delivery.request.payload.gateway
  gatewayScoringType := delivery.request.getGatewayScoringType delivery.txn delivery.enforceFailure

def lockKey : String :=
  delivery.outcome.lockKey

def routine : Routine (ScoreCall F) ScoreCall.Reply UpdateResult :=
  delivery.request.deliver delivery.txn delivery.enforceFailure

/-- The step that tries the lock. -/
def tries : ScoreCall F :=
  .setLock merchantId delivery.lockKey

/-- The step that applies the outcome. -/
def applies : ScoreCall F :=
  .updateScore delivery.request delivery.outcome.gatewayScoringType delivery.txn

/-- A delivery gets the lock and applies its outcome, or does not get it. -/
theorem ensures_routine : delivery.routine.Ensures fun history _ =>
    history = [⟨delivery.tries, true⟩, ⟨delivery.applies, ()⟩] ∨
      history = [⟨delivery.tries, false⟩] := by
  intro gotLock
  have sameTry : (⟨.setLock delivery.request.payload.merchantId
      (delivery.request.lockKey delivery.txn delivery.enforceFailure), gotLock⟩ : ScoreEntry F) =
        ⟨delivery.tries, gotLock⟩ := by
    rw [delivery.ofMerchant]
    rfl
  rw [sameTry, delivery.lockEnabled, delivery.merchantFound]
  cases gotLock with
  | true => exact fun _ => .inl rfl
  | false => exact .inr rfl

end Delivery

/-! ## Calls that are counted -/

/-- The step has got the lock. -/
def gets (lockKey : String) : ScoreEntry F → Bool
  | ⟨.setLock _ other, gotLock⟩ => gotLock && other = lockKey
  | _ => false

/-- The step applies the outcome to the scores. -/
def appliesOutcome (outcome : ScoredOutcome) : ScoreEntry F → Bool
  | ⟨.updateScore request gatewayScoringType _, _⟩ =>
      (⟨request.payload.paymentId, request.payload.gateway, gatewayScoringType⟩ : ScoredOutcome) =
        outcome
  | _ => false

section Counts

variable {merchantId : String} (delivery : Delivery F merchantId)

/-- A delivery that has got its lock has got no other. -/
theorem countP_gets_applied (lockKey : String) :
    [(⟨delivery.tries, true⟩ : ScoreEntry F), ⟨delivery.applies, ()⟩].countP (gets lockKey) =
      if delivery.lockKey = lockKey then 1 else 0 := by
  by_cases same : delivery.lockKey = lockKey <;>
    simp [gets, Delivery.tries, Delivery.applies, same]

/-- It applies its own outcome. -/
theorem countP_appliesOutcome_applied (outcome : ScoredOutcome) :
    [(⟨delivery.tries, true⟩ : ScoreEntry F), ⟨delivery.applies, ()⟩].countP
        (appliesOutcome outcome) =
      if delivery.outcome = outcome then 1 else 0 := by
  have tries : appliesOutcome outcome (⟨delivery.tries, true⟩ : ScoreEntry F) = false := rfl
  have applies : appliesOutcome outcome (⟨delivery.applies, ()⟩ : ScoreEntry F) =
      decide (delivery.outcome = outcome) := rfl
  by_cases same : delivery.outcome = outcome <;> simp [tries, applies, same]

/-- A delivery without the lock has got none. -/
theorem countP_gets_refused (lockKey : String) :
    [(⟨delivery.tries, false⟩ : ScoreEntry F)].countP (gets lockKey) = 0 :=
  rfl

theorem countP_appliesOutcome_refused (outcome : ScoredOutcome) :
    [(⟨delivery.tries, false⟩ : ScoreEntry F)].countP (appliesOutcome outcome) = 0 :=
  rfl

end Counts

/-! ## Locks over a run -/

/-- One if the lock is taken. -/
def PaymentStore.lockHeld (store : PaymentStore F) (lockKey : String) : ℕ :=
  if (store.locks lockKey).isSome then 1 else 0

variable [MachineNumber F] {configs : ServiceConfigs}

/-- A lock that is got was free and is taken then; a step that does not get it leaves it. -/
theorem lockHeld_of_perform {entry : ScoreEntry F} {store next : PaymentStore F}
    (performed : performScore configs () entry.1 store = (entry.2, next)) (lockKey : String) :
    (if gets lockKey entry then 1 else 0) + store.lockHeld lockKey = next.lockHeld lockKey := by
  rcases entry with ⟨call, reply⟩
  cases call with
  | updateScore request gatewayScoringType txn =>
      cases performed
      exact Nat.zero_add _
  | setLock merchantId other =>
      rw [performScore, PaymentStore.checkAndSendShouldUpdateGatewayScore] at performed
      cases isLock : store.locks other with
      | some owner =>
          rw [isLock] at performed
          cases performed
          exact Nat.zero_add _
      | none =>
          rw [isLock] at performed
          cases performed
          by_cases same : other = lockKey
          · subst same
            simp [gets, PaymentStore.lockHeld, isLock]
          · simp [gets, PaymentStore.lockHeld, same, Ne.symm same]

/-- A lock that has been tried is taken. -/
theorem lockHeld_of_setLock {merchantId lockKey : String} {store next : PaymentStore F}
    {reply : Bool}
    (performed : performScore configs () (.setLock merchantId lockKey) store = (reply, next)) :
    next.lockHeld lockKey = 1 := by
  rw [performScore, PaymentStore.checkAndSendShouldUpdateGatewayScore] at performed
  cases isLock : store.locks lockKey with
  | some owner =>
      rw [isLock] at performed
      cases performed
      simp [PaymentStore.lockHeld, isLock]
  | none =>
      rw [isLock] at performed
      cases performed
      simp [PaymentStore.lockHeld]

omit [MachineNumber F] in
theorem lockHeld_le_one (store : PaymentStore F) (lockKey : String) :
    store.lockHeld lockKey ≤ 1 := by
  rw [PaymentStore.lockHeld]
  split <;> decide

/-- Any number of deliveries, each at some point of its routine, over the store. -/
abbrev Deliveries (F ι : Type) :=
  Config (PaymentStore F) ι (Routine (ScoreCall F) ScoreCall.Reply UpdateResult)

abbrev ScoreLabel (F ι : Type) :=
  ChoiceLabel ι Unit (ScoreEntry F)

/-- One step of one of the deliveries. -/
abbrev ScoreStep {ι : Type} [DecidableEq ι] (configs : ServiceConfigs) :
    Deliveries F ι → ScoreLabel F ι → Deliveries F ι → Prop :=
  ChoiceMoves (Routine.process (performScore configs))

section Runs

variable {ι : Type} [DecidableEq ι] {source final : Deliveries F ι} {trace : List (ScoreLabel F ι)}

/-- A lock is got as often as it comes to be taken. -/
theorem countP_gets (run : Run (ScoreStep configs) source trace final) (lockKey : String) :
    trace.countP (fun label => gets lockKey label.event) + source.shared.lockHeld lockKey =
      final.shared.lockHeld lockKey := by
  induction run with
  | refl => exact Nat.zero_add _
  | @snoc trace middle target label run last ih =>
      have performed := lockHeld_of_perform (changes_of_moves last) lockKey
      rw [List.countP_append, List.countP_singleton]
      omega

/-- Once a lock has been tried it stays taken. -/
theorem lockHeld_of_tried (run : Run (ScoreStep configs) source trace final)
    {merchantId lockKey : String} (tried : ∃ label ∈ trace, label.event.1 =
      (.setLock merchantId lockKey : ScoreCall F)) : final.shared.lockHeld lockKey = 1 := by
  induction run with
  | refl =>
      rcases tried with ⟨_, isLabel, _⟩
      exact nomatch isLabel
  | @snoc trace middle target label run last ih =>
      have performed := changes_of_moves last
      rcases tried with ⟨other, isOther, isTry⟩
      rcases List.mem_append.mp isOther with before | isLast
      · have kept := lockHeld_of_perform performed lockKey
        rw [ih ⟨other, before, isTry⟩] at kept
        have atMost := lockHeld_le_one target.shared lockKey
        omega
      · rw [List.mem_singleton.mp isLast] at isTry
        rcases label with ⟨index, choice, call, reply⟩
        cases isTry
        exact lockHeld_of_setLock performed

end Runs

/-! ## Deliveries that are under way -/

instance (call : ScoreCall F) : Inhabited call.Reply :=
  match call with
  | .setLock _ _ => ⟨false⟩
  | .updateScore _ _ _ => ⟨()⟩

section Started

variable {merchantId : String} {ι : Type} [DecidableEq ι]

/-- No delivery has made a step yet. -/
def startDeliveries (deliveries : ι → Delivery F merchantId) (store : PaymentStore F) :
    Deliveries F ι :=
  ⟨store, fun index => (deliveries index).routine⟩

variable {deliveries : ι → Delivery F merchantId} {store : PaymentStore F}
  {final : Deliveries F ι} {trace : List (ScoreLabel F ι)}

/-- What a delivery has done so far. -/
theorem isPrefix_callsOf
    (run : Run (ScoreStep configs) (startDeliveries deliveries store) trace final) (index : ι) :
    callsOf index trace <+:
        [⟨(deliveries index).tries, true⟩, ⟨(deliveries index).applies, ()⟩] ∨
      callsOf index trace <+: [⟨(deliveries index).tries, false⟩] := by
  have ensures : (deliveries index).routine.Ensures fun history _ =>
      history <+: [⟨(deliveries index).tries, true⟩, ⟨(deliveries index).applies, ()⟩] ∨
        history <+: [⟨(deliveries index).tries, false⟩] := by
    apply (deliveries index).ensures_routine.mono
    intro history _ calls
    rcases calls with rfl | rfl
    · exact .inl (List.prefix_refl _)
    · exact .inr (List.prefix_refl _)
  apply ensures.so_far (follows_callsOf run index)
  intro later holds
  exact holds.imp (List.prefix_append _ _).trans (List.prefix_append _ _).trans

/-- A delivery that has applied an outcome has got the lock for it. -/
theorem countP_appliesOutcome_le_gets
    (run : Run (ScoreStep configs) (startDeliveries deliveries store) trace final) (index : ι)
    (outcome : ScoredOutcome) :
    (callsOf index trace).countP (appliesOutcome outcome) ≤
      (callsOf index trace).countP (gets outcome.lockKey) := by
  have triesNothing (gotLock : Bool) :
      appliesOutcome outcome (⟨(deliveries index).tries, gotLock⟩ : ScoreEntry F) = false :=
    rfl
  rcases isPrefix_callsOf run index with isStarted | isRefused
  · rcases List.prefix_cons_iff.mp isStarted with none_yet | ⟨rest, tried, isRest⟩
    · rw [none_yet]
      exact Nat.le_refl 0
    · rcases List.prefix_cons_iff.mp isRest with not_yet | ⟨_, applied, isLast⟩
      · rw [tried, not_yet, List.countP_singleton, triesNothing]
        exact Nat.zero_le _
      · rw [tried, applied, List.prefix_nil.mp isLast, countP_gets_applied,
          countP_appliesOutcome_applied]
        split
        · rename_i sameOutcome
          have sameKey : (deliveries index).lockKey = outcome.lockKey :=
            congrArg ScoredOutcome.lockKey sameOutcome
          rw [if_pos sameKey]
        · exact Nat.zero_le _
  · rcases List.prefix_cons_iff.mp isRefused with none_yet | ⟨rest, tried, isRest⟩
    · rw [none_yet]
      exact Nat.le_refl 0
    · rw [tried, List.prefix_nil.mp isRest, List.countP_singleton, triesNothing]
      exact Nat.zero_le _

/-- Duplicates are never applied twice, wherever the deliveries are. -/
theorem countP_appliesOutcome_le_one [Fintype ι]
    (run : Run (ScoreStep configs) (startDeliveries deliveries store) trace final)
    (outcome : ScoredOutcome) :
    trace.countP (fun label => appliesOutcome outcome label.event) ≤ 1 := by
  have got := countP_gets run outcome.lockKey
  have atMost := lockHeld_le_one final.shared outcome.lockKey
  have applied : trace.countP (fun label => appliesOutcome outcome label.event) ≤
      trace.countP (fun label => gets outcome.lockKey label.event) := by
    rw [countP_eq_sum, countP_eq_sum]
    exact Finset.sum_le_sum fun index _ => countP_appliesOutcome_le_gets run index outcome
  omega

end Started

/-! ## Complete runs -/

section Complete

variable {merchantId : String} {ι : Type} [DecidableEq ι]
  {deliveries : ι → Delivery F merchantId} {store : PaymentStore F}
  {final : Deliveries F ι} {trace : List (ScoreLabel F ι)}

section Ended

variable (run : Run (ScoreStep configs) (startDeliveries deliveries store) trace final)
  (complete : Complete final)

include run complete

/-- What each delivery has done in the end. -/
theorem callsOf_of_complete (index : ι) :
    callsOf index trace =
        [⟨(deliveries index).tries, true⟩, ⟨(deliveries index).applies, ()⟩] ∨
      callsOf index trace = [⟨(deliveries index).tries, false⟩] := by
  rcases complete index with ⟨value, isDone⟩
  have follows := follows_callsOf run index
  rw [isDone] at follows
  exact (deliveries index).ensures_routine.of_done follows

/-- In the end the lock of each delivery is taken. -/
theorem lockHeld_of_complete (index : ι) :
    final.shared.lockHeld (deliveries index).lockKey = 1 := by
  have tried : ∃ reply, (⟨(deliveries index).tries, reply⟩ : ScoreEntry F) ∈
      callsOf index trace := by
    rcases callsOf_of_complete run complete index with got | refused
    · exact ⟨true, by rw [got]; exact List.mem_cons_self⟩
    · exact ⟨false, by rw [refused]; exact List.mem_cons_self⟩
  rcases tried with ⟨reply, isTried⟩
  rcases mem_callsOf.mp isTried with ⟨label, isLabel, _, isEvent⟩
  exact lockHeld_of_tried run ⟨label, isLabel, by rw [isEvent]; rfl⟩

/-- The lock of a delivery is got once. -/
theorem countP_gets_of_complete {index : ι}
    (free : store.locks (deliveries index).lockKey = none) :
    trace.countP (fun label => gets (deliveries index).lockKey label.event) = 1 := by
  have got := countP_gets run (deliveries index).lockKey
  have notHeld : store.lockHeld (deliveries index).lockKey = 0 := by
    rw [PaymentStore.lockHeld, free]
    rfl
  have sameStore : (startDeliveries deliveries store).shared = store := rfl
  rw [sameStore, notHeld, lockHeld_of_complete run complete index] at got
  exact got

/-- Some delivery gets each lock. -/
theorem exists_gets_of_complete {index : ι}
    (free : store.locks (deliveries index).lockKey = none) :
    ∃ other, (deliveries other).lockKey = (deliveries index).lockKey ∧
      (⟨(deliveries other).tries, true⟩ : ScoreEntry F) ∈ callsOf other trace := by
  have once := countP_gets_of_complete run complete free
  have isGot : 0 < trace.countP fun label => gets (deliveries index).lockKey label.event := by
    rw [once]
    exact Nat.one_pos
  rcases List.countP_pos_iff.mp isGot with ⟨label, isLabel, gotLock⟩
  have isCall : label.event ∈ callsOf label.index trace :=
    mem_callsOf.mpr ⟨label, isLabel, rfl, rfl⟩
  have counted : 0 < (callsOf label.index trace).countP (gets (deliveries index).lockKey) :=
    List.countP_pos_iff.mpr ⟨_, isCall, gotLock⟩
  rcases callsOf_of_complete run complete label.index with got | refused
  · rw [got, countP_gets_applied] at counted
    split at counted
    · rename_i sameKey
      exact ⟨label.index, sameKey, by rw [got]; exact List.mem_cons_self⟩
    · exact absurd counted (Nat.lt_irrefl 0)
  · rw [refused, countP_gets_refused] at counted
    exact absurd counted (Nat.lt_irrefl 0)

variable [Fintype ι]

/-- Where the deliveries with one key have one outcome, it is applied as often as the lock is
got. -/
theorem countP_appliesOutcome_eq {index : ι}
    (apart : ∀ other, (deliveries other).lockKey = (deliveries index).lockKey →
      (deliveries other).outcome = (deliveries index).outcome) :
    trace.countP (fun label => appliesOutcome (deliveries index).outcome label.event) =
      trace.countP (fun label => gets (deliveries index).lockKey label.event) := by
  rw [countP_eq_sum, countP_eq_sum]
  apply Finset.sum_congr rfl
  intro other _
  have same : (deliveries other).outcome = (deliveries index).outcome ↔
      (deliveries other).lockKey = (deliveries index).lockKey :=
    ⟨fun sameOutcome => congrArg ScoredOutcome.lockKey sameOutcome, apart other⟩
  rcases callsOf_of_complete run complete other with got | refused
  · rw [got, countP_gets_applied, countP_appliesOutcome_applied]
    simp only [same]
  · rw [refused, countP_gets_refused, countP_appliesOutcome_refused]

/-- Two outcomes with one key are applied at most as often as the lock is got. -/
theorem countP_appliesOutcome_add_le {first second : ι}
    (sameKey : (deliveries first).lockKey = (deliveries second).lockKey)
    (differ : (deliveries first).outcome ≠ (deliveries second).outcome) :
    trace.countP (fun label => appliesOutcome (deliveries first).outcome label.event) +
        trace.countP (fun label => appliesOutcome (deliveries second).outcome label.event) ≤
      trace.countP (fun label => gets (deliveries first).lockKey label.event) := by
  rw [countP_eq_sum, countP_eq_sum, countP_eq_sum, ← Finset.sum_add_distrib]
  apply Finset.sum_le_sum
  intro other _
  rcases callsOf_of_complete run complete other with got | refused
  · rw [got, countP_gets_applied, countP_appliesOutcome_applied, countP_appliesOutcome_applied]
    by_cases isFirst : (deliveries other).outcome = (deliveries first).outcome
    · have isKey : (deliveries other).lockKey = (deliveries first).lockKey :=
        congrArg ScoredOutcome.lockKey isFirst
      have notSecond : (deliveries other).outcome ≠ (deliveries second).outcome :=
        fun isSecond => differ (isFirst.symm.trans isSecond)
      rw [if_pos isFirst, if_neg notSecond, if_pos isKey]
    · rw [if_neg isFirst, Nat.zero_add]
      by_cases isSecond : (deliveries other).outcome = (deliveries second).outcome
      · have isKey : (deliveries other).lockKey = (deliveries first).lockKey :=
          (congrArg ScoredOutcome.lockKey isSecond).trans sameKey.symm
        rw [if_pos isSecond, if_pos isKey]
      · rw [if_neg isSecond]
        exact Nat.zero_le _
  · rw [refused, countP_gets_refused, countP_appliesOutcome_refused,
      countP_appliesOutcome_refused]

end Ended

variable [Fintype ι]

/-- At the end of every run that begins with free locks, each outcome that is delivered has been
applied once, and a delivery that has not got the lock has lost it to one of its own outcome. -/
def LockExact (configs : ServiceConfigs) (deliveries : ι → Delivery F merchantId) : Prop :=
  ∀ store : PaymentStore F, (∀ index, store.locks (deliveries index).lockKey = none) →
    ∀ trace final, Run (ScoreStep configs) (startDeliveries deliveries store) trace final →
      Complete final → ∀ index,
        trace.countP (fun label => appliesOutcome (deliveries index).outcome label.event) = 1 ∧
          ((⟨(deliveries index).tries, false⟩ : ScoreEntry F) ∈ callsOf index trace →
            ∃ other, (deliveries other).outcome = (deliveries index).outcome ∧
              (⟨(deliveries other).tries, true⟩ : ScoreEntry F) ∈ callsOf other trace)

/-- Two outcomes with one key are not both applied. -/
theorem not_lockExact_of_sameKey {first second : ι}
    (sameKey : (deliveries first).lockKey = (deliveries second).lockKey)
    (differ : (deliveries first).outcome ≠ (deliveries second).outcome) :
    ¬LockExact configs deliveries := by
  intro lockExact
  let store : PaymentStore F :=
    ⟨fun _ => none, fun _ => none, fun _ => none, fun _ => none, fun _ => none, []⟩
  rcases exists_run_complete () (startDeliveries deliveries store) with
    ⟨trace, final, run, complete⟩
  have applied := lockExact store (fun _ => rfl) trace final run complete
  have atMost := countP_appliesOutcome_add_le run complete sameKey differ
  rw [(applied first).1, (applied second).1,
    countP_gets_of_complete run complete rfl] at atMost
  omega

theorem lockExact_of_apart
    (apart : ∀ first second, (deliveries first).lockKey = (deliveries second).lockKey →
      (deliveries first).outcome = (deliveries second).outcome) :
    LockExact configs deliveries := by
  intro store free trace final run complete index
  constructor
  · rw [countP_appliesOutcome_eq run complete fun other => apart other index]
    exact countP_gets_of_complete run complete (free index)
  · intro _
    rcases exists_gets_of_complete run complete (free index) with ⟨other, sameKey, gotLock⟩
    exact ⟨other, apart other index sameKey, gotLock⟩

/-- The lock is exact if and only if no two outcomes that are delivered have one key. -/
theorem lockExact_iff (configs : ServiceConfigs) (deliveries : ι → Delivery F merchantId) :
    LockExact configs deliveries ↔ ∀ first second,
      (deliveries first).lockKey = (deliveries second).lockKey →
        (deliveries first).outcome = (deliveries second).outcome := by
  constructor
  · intro lockExact first second sameKey
    by_contra differ
    exact not_lockExact_of_sameKey sameKey differ lockExact
  · exact lockExact_of_apart

end Complete

/-! ## A payment that is named like a kind of outcome -/

def collidingDeliveries : Bool → Delivery ℚ "m"
  | false =>
      { request :=
          { promptFeedback "m" "SRV3_x" .started with
            reads.latencyThreshold := fun _ => 60000 }
        txn := ⟨visaPayment, 0, "SR_SELECTION_V3_ROUTING"⟩
        enforceFailure := false
        ofMerchant := rfl
        lockEnabled := rfl
        merchantFound := rfl }
  | true =>
      { request := promptFeedback "m" "x" .authorizationFailed
        txn := ⟨visaPayment, 0, "SR_SELECTION_V3_ROUTING"⟩
        enforceFailure := false
        ofMerchant := rfl
        lockEnabled := rfl
        merchantFound := rfl }

/-- No outcome of the two deliveries is applied twice in a run of both. -/
theorem countP_appliesOutcome_le_one_colliding :
    ∃ trace final, Run (ScoreStep noServiceConfigs)
        (startDeliveries collidingDeliveries
          ⟨fun _ => none, fun _ => none, fun _ => none, fun _ => none, fun _ => none, []⟩)
        trace final ∧ Complete final ∧
      ∀ outcome, trace.countP (fun label => appliesOutcome outcome label.event) ≤ 1 := by
  rcases exists_run_complete () (startDeliveries collidingDeliveries
      ⟨fun _ => none, fun _ => none, fun _ => none, fun _ => none, fun _ => none, []⟩) with
    ⟨trace, final, run, complete⟩
  exact ⟨trace, final, run, complete, countP_appliesOutcome_le_one run⟩

/-- The pending payment `SRV3_x` and the failed payment `x` have one lock. -/
theorem lockExact_counterexample : ¬LockExact noServiceConfigs collidingDeliveries := by
  have sameKey : (collidingDeliveries false).lockKey = (collidingDeliveries true).lockKey := by
    decide +kernel
  have differ : (collidingDeliveries false).outcome ≠ (collidingDeliveries true).outcome := by
    decide +kernel
  exact not_lockExact_of_sameKey sameKey differ

end DecisionEngine.Feedback
