import DecisionEngine.Redis.Store
import Mathlib.Algebra.BigOperators.Group.List.Basic
import Mathlib.Algebra.Order.Field.Basic
import Mathlib.Tactic.Linarith

/-!
# Moving window of outcomes

The outcomes of a gateway are kept in a Redis list, newest first, that starts
filled with successes.  Each feedback pushes one outcome and trims the list to
the bucket size configured at that moment; the decider reads the newest entries
and takes the share of successes among them as the score.

A second key holds a success count that is written when the window is made and
is read only when the list is missing.  Counts and shares are exact numbers
here.
-/

namespace DecisionEngine.Feedback

open Redis

/-! ## Writing -/

def queueKey (key : String) : String :=
  key ++ "_\x7dqueue"

def scoreKey (key : String) : String :=
  key ++ "_\x7dscore"

/-- One transaction: the list is replaced and the success count is set. -/
def createMovingWindowAndScore (store : Store) (queueKey scoreKey : String) (score : Int)
    (scoreList : List String) : Store :=
  ((store.del queueKey).lpush queueKey scoreList).set scoreKey (toString score)

/-- A fresh window is full of successes. -/
def createKeysIfNotExist (store : Store) (queueKey scoreKey : String) (bucketSize : Int) :
    Store :=
  if store.existsKey queueKey && store.existsKey scoreKey then
    store
  else
    let merchantBucketSize := max bucketSize 1
    createMovingWindowAndScore store queueKey scoreKey merchantBucketSize
      (List.replicate merchantBucketSize.toNat "1")

/-- One transaction: push the outcome and keep the newest entries. -/
def updateQueue (store : Store) (queueKey value : String) (bucketSize : Int) : Store :=
  (store.lpush queueKey [value]).ltrim queueKey 0 (max bucketSize 1 - 1)

inductive GatewayScoringType where
  | penalise
  | penaliseSrv3
  | reward
  deriving DecidableEq

/-- The entry that is pushed for an outcome. -/
def outcomeValue : GatewayScoringType → String
  | .penaliseSrv3 => "0"
  | .reward => "1"
  | _ => "0"

def updateScoreAndQueue (store : Store) (key : String) (scoringType : GatewayScoringType)
    (bucketSize : Int) : Store :=
  updateQueue (createKeysIfNotExist store (queueKey key) (scoreKey key) bucketSize)
    (queueKey key) (outcomeValue scoringType) bucketSize

/-- The decider replaces the window of a gateway whose score it resets. -/
def resetGatewayForSrV3 (store : Store) (scoreResetValue : Int) (scoreList : List String)
    (key : String) : Store :=
  createMovingWindowAndScore store (queueKey key) (scoreKey key) scoreResetValue scoreList

/-! ## Reading -/

def clamp (score : ℚ) : ℚ :=
  max 0 (min 1 score)

/-- The stored success count over the bucket size. -/
def storedScore (store : Store) (key : String) (bucketSize : Int) : ℚ :=
  clamp ((((store.get (scoreKey key)).bind String.toInt?).getD bucketSize : Int) / bucketSize)

/-- The share of successes among the newest entries.  Entries that `parse` does
not read as numbers are left out; without any entry the stored count is used. -/
def getScoreFromRedis (parse : String → Option ℚ) (store : Store) (key : String)
    (bucketSize : Int) : ℚ :=
  let bucketSize := max bucketSize 1
  match (store.lrange (queueKey key) 0 (bucketSize - 1)).filter (!·.isEmpty) with
  | none => storedScore store key bucketSize
  | some values =>
      let parsedScores := values.filterMap parse
      if parsedScores.isEmpty then
        storedScore store key bucketSize
      else
        clamp (parsedScores.sum / parsedScores.length)

/-! ## The window over a sequence of feedbacks

The list under the queue key is a prefix of the outcomes recorded since the
window was made, newest first, followed by the successes it was made with.  Its
length is the bucket size of the making; every feedback adds one to it and cuts
it to its own bucket size.  A window that was cut does not get its old entries
back when the bucket size grows again.
-/

section WindowInvariant

/-! ## Single operations -/

/-- The number of entries that a bucket size asks for. -/
def windowSize (bucketSize : Int) : Nat :=
  (max bucketSize 1).toNat

theorem windowSize_pos (bucketSize : Int) : 0 < windowSize bucketSize := by
  unfold windowSize
  omega

/-- Both keys of the window exist, and the list has the given entries. -/
def HoldsWindow (store : Store) (key : String) (entries : List String) : Prop :=
  store (queueKey key) = some (.list entries) ∧ ∃ count, store (scoreKey key) = some (.text count)

def HasNoWindow (store : Store) (key : String) : Prop :=
  store.existsKey (queueKey key) = false ∨ store.existsKey (scoreKey key) = false

theorem queueKey_ne_scoreKey (key : String) : queueKey key ≠ scoreKey key := by
  unfold queueKey scoreKey
  intro equal
  have suffixes := congrArg String.toList equal
  simp only [String.toList_append, List.append_cancel_left_eq] at suffixes
  exact absurd suffixes (by decide)

section Operations

variable {store : Store} {key : String} {entries : List String}

theorem createKeysIfNotExist_of_holdsWindow (holds : HoldsWindow store key entries)
    (bucketSize : Int) :
    createKeysIfNotExist store (queueKey key) (scoreKey key) bucketSize = store := by
  rcases holds with ⟨queue, count, score⟩
  simp [createKeysIfNotExist, Store.existsKey, queue, score]

theorem holdsWindow_createMovingWindowAndScore (store : Store) (key : String) (score : Int)
    {scoreList : List String} (notEmpty : scoreList ≠ []) :
    HoldsWindow (createMovingWindowAndScore store (queueKey key) (scoreKey key) score scoreList)
      key scoreList.reverse := by
  have differ := queueKey_ne_scoreKey key
  unfold createMovingWindowAndScore
  constructor
  · rw [Store.set_of_ne differ, Store.lpush_of_listAt (Store.listAt_del store (queueKey key)),
      List.append_nil, Store.putList_self (by simpa using notEmpty)]
  · exact ⟨toString score, Store.set_self _ _ _⟩

theorem createKeysIfNotExist_of_hasNoWindow (missing : HasNoWindow store key)
    (bucketSize : Int) :
    createKeysIfNotExist store (queueKey key) (scoreKey key) bucketSize =
      createMovingWindowAndScore store (queueKey key) (scoreKey key) (max bucketSize 1)
        (List.replicate (windowSize bucketSize) "1") := by
  have notBoth : (store.existsKey (queueKey key) && store.existsKey (scoreKey key)) = false := by
    rcases missing with absent | absent <;> simp [absent]
  rw [createKeysIfNotExist, notBoth, if_neg (by simp)]
  rfl

theorem holdsWindow_createKeysIfNotExist (missing : HasNoWindow store key)
    (bucketSize : Int) :
    HoldsWindow (createKeysIfNotExist store (queueKey key) (scoreKey key) bucketSize) key
      (List.replicate (windowSize bucketSize) "1") := by
  have notEmpty : List.replicate (windowSize bucketSize) "1" ≠ [] := by
    have positive := windowSize_pos bucketSize
    simp
    omega
  have created := holdsWindow_createMovingWindowAndScore store key (max bucketSize 1) notEmpty
  rw [List.reverse_replicate] at created
  rwa [createKeysIfNotExist_of_hasNoWindow missing]

theorem holdsWindow_updateQueue (holds : HoldsWindow store key entries) (value : String)
    (bucketSize : Int) :
    HoldsWindow (updateQueue store (queueKey key) value bucketSize) key
      ((value :: entries).take (windowSize bucketSize)) := by
  rcases holds with ⟨queue, count, score⟩
  have differ := (queueKey_ne_scoreKey key).symm
  have pushed := Store.lpush_of_listAt (Store.listAt_eq_of_eq_list queue) [value]
  have positive : 0 < max bucketSize 1 := by omega
  have notEmpty : (value :: entries).take (windowSize bucketSize) ≠ [] := by
    have sizePositive := windowSize_pos bucketSize
    simp [List.take_eq_nil_iff]
    omega
  unfold updateQueue
  constructor
  · rw [pushed, Store.ltrim_of_listAt (Store.listAt_putList _ _ _), range_zero_pred _ positive]
    exact Store.putList_self notEmpty
  · rw [Store.ltrim_of_ne differ, Store.lpush_of_ne differ]
    exact ⟨count, score⟩

end Operations

/-! ## Sequences of operations -/

inductive WindowOp where
  | create (bucketSize : Int)
  | feedback (scoringType : GatewayScoringType) (bucketSize : Int)

namespace WindowOp

def bucketSize : WindowOp → Int
  | create bucketSize => bucketSize
  | feedback _ bucketSize => bucketSize

def outcome : WindowOp → List String
  | create _ => []
  | feedback scoringType _ => [outcomeValue scoringType]

/-- The length of a window after the operation. -/
def length (operation : WindowOp) (before : Nat) : Nat :=
  match operation with
  | create _ => before
  | feedback _ bucketSize => min (windowSize bucketSize) (before + 1)

end WindowOp

def applyOp (key : String) (store : Store) : WindowOp → Store
  | .create bucketSize =>
      createKeysIfNotExist store (queueKey key) (scoreKey key) bucketSize
  | .feedback scoringType bucketSize => updateScoreAndQueue store key scoringType bucketSize

def runOps (key : String) (store : Store) (operations : List WindowOp) : Store :=
  operations.foldl (applyOp key) store

/-- The recorded outcomes, newest first. -/
def recorded (operations : List WindowOp) : List String :=
  (operations.flatMap WindowOp.outcome).reverse

/-- The length of the window after operations on a window of a given length. -/
def lengthAfter (initial : Nat) (operations : List WindowOp) : Nat :=
  operations.foldl (fun before operation => operation.length before) initial

variable {store : Store} {key : String} {history : List String} {length : Nat}

/-- A push onto a window whose list is the newest part of a history. -/
theorem holdsWindow_updateQueue_take (holds : HoldsWindow store key (history.take length))
    (value : String) (bucketSize : Int) :
    HoldsWindow (updateQueue store (queueKey key) value bucketSize) key
      ((value :: history).take (min (windowSize bucketSize) (length + 1))) := by
  have updated := holdsWindow_updateQueue holds value bucketSize
  rwa [← List.take_succ_cons, List.take_take] at updated

/-- An operation on a window whose list is the newest part of a history. -/
theorem holdsWindow_applyOp (holds : HoldsWindow store key (history.take length))
    (operation : WindowOp) :
    HoldsWindow (applyOp key store operation) key
      ((operation.outcome ++ history).take (operation.length length)) := by
  cases operation with
  | create bucketSize =>
      rw [applyOp, createKeysIfNotExist_of_holdsWindow holds]
      exact holds
  | feedback scoringType bucketSize =>
      rw [applyOp, updateScoreAndQueue, createKeysIfNotExist_of_holdsWindow holds]
      exact holdsWindow_updateQueue_take holds (outcomeValue scoringType) bucketSize

theorem holdsWindow_runOps (holds : HoldsWindow store key (history.take length))
    (operations : List WindowOp) :
    HoldsWindow (runOps key store operations) key
      ((recorded operations ++ history).take (lengthAfter length operations)) := by
  induction operations generalizing store history length with
  | nil => exact holds
  | cons operation rest ih =>
      have next := ih (holdsWindow_applyOp holds operation)
      have history_eq : recorded rest ++ (operation.outcome ++ history) =
          recorded (operation :: rest) ++ history := by
        cases operation <;> simp [recorded, WindowOp.outcome]
      rw [history_eq] at next
      exact next

/-- The first operation makes the window. -/
theorem holdsWindow_applyOp_of_hasNoWindow {store : Store} {key : String}
    (missing : HasNoWindow store key) (operation : WindowOp) :
    HoldsWindow (applyOp key store operation) key
      ((operation.outcome ++ List.replicate (windowSize operation.bucketSize) "1").take
        (operation.length (windowSize operation.bucketSize))) := by
  have created := holdsWindow_createKeysIfNotExist missing operation.bucketSize
  cases operation with
  | create bucketSize =>
      simpa [applyOp, WindowOp.outcome, WindowOp.length, WindowOp.bucketSize] using created
  | feedback scoringType bucketSize =>
      have updated := holdsWindow_updateQueue created (outcomeValue scoringType) bucketSize
      have uncut : min (windowSize bucketSize) (windowSize bucketSize + 1) =
          windowSize bucketSize := by omega
      simpa [applyOp, updateScoreAndQueue, WindowOp.outcome, WindowOp.length,
        WindowOp.bucketSize, uncut] using updated

theorem holdsWindow_runOps_of_hasNoWindow (missing : HasNoWindow store key) (first : WindowOp)
    (rest : List WindowOp) :
    HoldsWindow (runOps key store (first :: rest)) key
      ((recorded (first :: rest) ++ List.replicate (windowSize first.bucketSize) "1").take
        (lengthAfter (windowSize first.bucketSize) (first :: rest))) := by
  have afterFirst := holdsWindow_applyOp_of_hasNoWindow missing first
  have afterRest := holdsWindow_runOps afterFirst rest
  have history_eq : recorded rest ++
      (first.outcome ++ List.replicate (windowSize first.bucketSize) "1") =
        recorded (first :: rest) ++ List.replicate (windowSize first.bucketSize) "1" := by
    cases first <;> simp [recorded, WindowOp.outcome]
  rw [history_eq] at afterRest
  exact afterRest

theorem WindowOp.length_pos (operation : WindowOp) {before : Nat} (positive : 0 < before) :
    0 < operation.length before := by
  cases operation with
  | create bucketSize => exact positive
  | feedback scoringType bucketSize =>
      have sizePositive := windowSize_pos bucketSize
      simp only [WindowOp.length]
      omega

theorem lengthAfter_pos {initial : Nat} (positive : 0 < initial)
    (operations : List WindowOp) : 0 < lengthAfter initial operations := by
  induction operations generalizing initial with
  | nil => exact positive
  | cons operation rest ih => exact ih (operation.length_pos positive)

/-- The window is never longer than what was recorded and filled in. -/
theorem lengthAfter_le (initial : Nat) (operations : List WindowOp) :
    lengthAfter initial operations ≤ (recorded operations).length + initial := by
  induction operations generalizing initial with
  | nil => simp [lengthAfter]
  | cons operation rest ih =>
      have bound := ih (operation.length initial)
      cases operation with
      | create bucketSize =>
          simpa [lengthAfter, recorded, WindowOp.length, WindowOp.outcome] using bound
      | feedback scoringType bucketSize =>
          simp only [lengthAfter, recorded, List.foldl_cons, WindowOp.length, List.flatMap_cons,
            WindowOp.outcome, List.reverse_append, List.length_append, List.reverse_singleton,
            List.length_singleton, List.length_reverse] at bound ⊢
          omega

/-! ## The score -/

/-- The entries of a window are the two outcomes. -/
def IsOutcome (entry : String) : Prop :=
  entry = "0" ∨ entry = "1"

theorem isOutcome_outcomeValue (scoringType : GatewayScoringType) :
    IsOutcome (outcomeValue scoringType) := by
  cases scoringType
  · exact Or.inl rfl
  · exact Or.inl rfl
  · exact Or.inr rfl

theorem isOutcome_of_mem_recorded {operations : List WindowOp} {entry : String}
    (entryMem : entry ∈ recorded operations) : IsOutcome entry := by
  rw [recorded, List.mem_reverse, List.mem_flatMap] at entryMem
  rcases entryMem with ⟨operation, -, entryMem⟩
  cases operation with
  | create bucketSize => simp [WindowOp.outcome] at entryMem
  | feedback scoringType bucketSize =>
      rw [List.mem_singleton.mp entryMem]
      exact isOutcome_outcomeValue scoringType

/-- Reading the two outcomes as numbers. -/
structure ReadsOutcomes (parse : String → Option ℚ) : Prop where
  failure : parse "0" = some 0
  success : parse "1" = some 1

variable {parse : String → Option ℚ}

variable {entries : List String}

theorem filterMap_parse (reads : ReadsOutcomes parse)
    (outcomes : ∀ entry ∈ entries, IsOutcome entry) :
    (entries.filterMap parse).length = entries.length ∧
      (entries.filterMap parse).sum = entries.count "1" := by
  induction entries with
  | nil => simp
  | cons entry rest ih =>
      rcases ih fun other otherMem => outcomes other (List.mem_cons_of_mem _ otherMem) with
        ⟨length_eq, sum_eq⟩
      rcases outcomes entry List.mem_cons_self with rfl | rfl
      · rw [List.filterMap_cons_some reads.failure]
        simp [length_eq, sum_eq]
      · rw [List.filterMap_cons_some reads.success]
        simp [length_eq, sum_eq, add_comm]

theorem clamp_of_fraction {count total : Nat} (bounded : count ≤ total) :
    clamp (count / total : ℚ) = count / total := by
  have lower : (0 : ℚ) ≤ count / total := by positivity
  have upper : (count / total : ℚ) ≤ 1 := by
    apply div_le_one_of_le₀
    · exact_mod_cast bounded
    · positivity
  rw [clamp, min_eq_right upper, max_eq_right lower]

/-- The decider reads the share of successes among the newest entries. -/
theorem getScoreFromRedis_of_holdsWindow (reads : ReadsOutcomes parse)
    (holds : HoldsWindow store key entries) (notEmpty : entries ≠ [])
    (outcomes : ∀ entry ∈ entries, IsOutcome entry) (bucketSize : Int) :
    getScoreFromRedis parse store key bucketSize =
      (entries.take (windowSize bucketSize)).count "1" /
        (min (windowSize bucketSize) entries.length : Nat) := by
  have positive : 0 < max bucketSize 1 := by omega
  have sizePositive := windowSize_pos bucketSize
  have entriesPositive := List.length_pos_iff.mpr notEmpty
  have window : store.lrange (queueKey key) 0 (max bucketSize 1 - 1) =
      some (entries.take (windowSize bucketSize)) := by
    rw [Store.lrange, Store.listAt_eq_of_eq_list holds.1, Option.map_some,
      range_zero_pred _ positive, windowSize]
  have windowLength : (entries.take (windowSize bucketSize)).length =
      min (windowSize bucketSize) entries.length := List.length_take
  have windowOutcomes : ∀ entry ∈ entries.take (windowSize bucketSize), IsOutcome entry :=
    fun entry entryMem => outcomes entry (List.mem_of_mem_take entryMem)
  rcases filterMap_parse reads windowOutcomes with ⟨parsedLength, parsedSum⟩
  generalize entries.take (windowSize bucketSize) = values at *
  have valuesNotEmpty : values.isEmpty = false := by
    rw [Bool.eq_false_iff, ne_eq, List.isEmpty_iff_length_eq_zero]
    omega
  have parsedNotEmpty : (values.filterMap parse).isEmpty = false := by
    rw [Bool.eq_false_iff, ne_eq, List.isEmpty_iff_length_eq_zero]
    omega
  simp only [getScoreFromRedis, window, Option.filter_some, valuesNotEmpty, Bool.not_false,
    if_true, parsedNotEmpty, Bool.false_eq_true, if_false, parsedLength, parsedSum,
    ← windowLength]
  exact clamp_of_fraction List.count_le_length

/-- After any operations on a key without a window, the list is the newest part
of the recorded outcomes and the initial successes, as long as the cuts leave
it, and every read gives the share of successes among the newest entries. -/
theorem window_runOps (reads : ReadsOutcomes parse) {store : Store} {key : String}
    (missing : HasNoWindow store key) (first : WindowOp) (rest : List WindowOp) :
    ∃ entries, runOps key store (first :: rest) (queueKey key) = some (.list entries) ∧
      entries = (recorded (first :: rest) ++
        List.replicate (windowSize first.bucketSize) "1").take
          (lengthAfter (windowSize first.bucketSize) (first :: rest)) ∧
      entries.length = lengthAfter (windowSize first.bucketSize) (first :: rest) ∧
      ∀ bucketSize, getScoreFromRedis parse (runOps key store (first :: rest)) key bucketSize =
        (entries.take (windowSize bucketSize)).count "1" /
          (min (windowSize bucketSize) entries.length : Nat) := by
  have holds := holdsWindow_runOps_of_hasNoWindow missing first rest
  have bound := lengthAfter_le (windowSize first.bucketSize) (first :: rest)
  have positive := lengthAfter_pos (windowSize_pos first.bucketSize) (first :: rest)
  have history : ∀ entry ∈ recorded (first :: rest) ++
      List.replicate (windowSize first.bucketSize) "1", IsOutcome entry := by
    intro entry entryMem
    rcases List.mem_append.mp entryMem with entryMem | entryMem
    · exact isOutcome_of_mem_recorded entryMem
    · exact Or.inr (List.eq_of_mem_replicate entryMem)
  generalize lengthAfter (windowSize first.bucketSize) (first :: rest) = length at *
  have length_eq : ((recorded (first :: rest) ++
      List.replicate (windowSize first.bucketSize) "1").take length).length = length := by
    rw [List.length_take, List.length_append, List.length_replicate]
    omega
  refine ⟨_, holds.1, rfl, length_eq, ?_⟩
  intro bucketSize
  apply getScoreFromRedis_of_holdsWindow reads holds
  · rw [← List.length_pos_iff, length_eq]
    exact positive
  · intro entry entryMem
    exact history entry (List.mem_of_mem_take entryMem)

/-- Reads the two outcomes and nothing else. -/
def parseOutcome (text : String) : Option ℚ :=
  if text = "0" then some 0 else if text = "1" then some 1 else none

theorem parseOutcome_readsOutcomes : ReadsOutcomes parseOutcome :=
  ⟨rfl, rfl⟩

theorem window_runOps_shrink :
    ∃ entries, runOps "gw" (fun _ => none)
        [.create 5, .feedback .penaliseSrv3 5, .feedback .reward 2] (queueKey "gw") =
          some (.list entries) ∧
      entries = (recorded [.create 5, .feedback .penaliseSrv3 5, .feedback .reward 2] ++
        List.replicate (windowSize 5) "1").take
          (lengthAfter (windowSize 5)
            [.create 5, .feedback .penaliseSrv3 5, .feedback .reward 2]) ∧
      entries.length = lengthAfter (windowSize 5)
        [.create 5, .feedback .penaliseSrv3 5, .feedback .reward 2] ∧
      ∀ bucketSize, getScoreFromRedis parseOutcome
          (runOps "gw" (fun _ => none)
            [.create 5, .feedback .penaliseSrv3 5, .feedback .reward 2]) "gw" bucketSize =
        (entries.take (windowSize bucketSize)).count "1" /
          (min (windowSize bucketSize) entries.length : Nat) :=
  window_runOps parseOutcome_readsOutcomes (Or.inl rfl) (.create 5)
    [.feedback .penaliseSrv3 5, .feedback .reward 2]

/-- After a smaller bucket size in between, the window is shorter than the last
bucket size although older entries were there. -/
theorem window_runOps_shrink_grow :
    runOps "gw" (fun _ => none)
        [.create 5, .feedback .penaliseSrv3 5, .feedback .reward 2, .feedback .reward 5]
        (queueKey "gw") ≠
      some (.list ((recorded
        [.create 5, .feedback .penaliseSrv3 5, .feedback .reward 2, .feedback .reward 5] ++
          List.replicate (windowSize 5) "1").take (windowSize 5))) := by
  decide

end WindowInvariant

end DecisionEngine.Feedback
