import DecisionEngine.CostIngestion.Types
import DecisionEngine.Transition.Interleaving
import Mathlib.Data.List.Sort

/-!
# Lifecycle of ingestion jobs

Workers claim pending jobs, one guarded update for each, and then process them in sequence.
The guard gives a job to one worker only.  A failure in the middle of a claim, or a panic in
the middle of a batch, ends the cycle and leaves the jobs claimed so far in processing.
-/

namespace DecisionEngine.CostIngestion

open Transition

inductive JobStatus where
  | pending
  | processing
  | completed
  | failed
  deriving DecidableEq

/-- A row of `cost_ingestion`. -/
structure Job where
  id : String
  account : Account
  createdAt : Int
  status : JobStatus
  deriving DecidableEq

/-- How a statement or the processing of a job ends.  A failed statement may have been
applied all the same. -/
inductive Luck where
  | ok
  | error (applied : Bool)
  | panic

namespace Luck

/-- The statement is applied. -/
def applies : Luck → Bool
  | .ok => true
  | .error applied => applied
  | .panic => false

end Luck

/-! ## Statements -/

/-- Oldest first, at most as many as the limit. -/
def pendingJobs (limit : ℕ) (jobs : List Job) : List Job :=
  ((jobs.filter fun job => job.status = .pending).insertionSort fun first second =>
    first.createdAt ≤ second.createdAt).take limit

def isPending (jobs : List Job) (id : String) : Bool :=
  jobs.any fun job => job.id = id ∧ job.status = .pending

/-- Update the status of a job, if it is pending. -/
def claimJob (jobs : List Job) (id : String) : List Job :=
  jobs.map fun job =>
    if job.id = id ∧ job.status = .pending then { job with status := .processing } else job

def setStatus (jobs : List Job) (id : String) (status : JobStatus) : List Job :=
  jobs.map fun job => if job.id = id then { job with status } else job

/-- A new job has an identifier of its own. -/
def enqueueJob (jobs : List Job) (job : Job) : List Job :=
  if job.id ∈ jobs.map Job.id then jobs else jobs ++ [{ job with status := .pending }]

/-! ## Workers -/

/-- What a worker does next; other requests enqueue jobs. -/
inductive WorkerState where
  | enqueue (jobs : List Job)
  | idle
  | claiming (rest claimed : List Job)
  | running (jobs : List Job)
  | marking (job : Job) (succeeded : Bool) (rest : List Job)
  | refreshing (rest : List Job)
  deriving DecidableEq

/-- The loop over the claimed jobs. -/
def runNext (jobs : List Job) : WorkerState :=
  if jobs.isEmpty then .idle else .running jobs

/-- The loop over the selected jobs. -/
def claimNext (rest claimed : List Job) : WorkerState :=
  if rest.isEmpty then runNext claimed else .claiming rest claimed

def afterMark (succeeded : Bool) (rest : List Job) : WorkerState :=
  if succeeded then .refreshing rest else runNext rest

def finalStatus (succeeded : Bool) : JobStatus :=
  if succeeded then .completed else .failed

/-- A statement of a worker; the event names the job that it has claimed.  The claim returns
at its first failure, a panic ends the cycle, and other failures are logged. -/
def workerProcess (limit : ℕ) (luck : Luck) :
    Process (List Job) WorkerState (Option String)
  | .enqueue [], _ => none
  | .enqueue (job :: rest), jobs => some (none, .enqueue rest, enqueueJob jobs job)
  | .idle, jobs =>
      match luck with
      | .ok => some (none, claimNext (pendingJobs limit jobs) [], jobs)
      | .error _ | .panic => some (none, .idle, jobs)
  | .claiming [] claimed, jobs => some (none, runNext claimed, jobs)
  | .claiming (row :: rest) claimed, jobs =>
      let won := isPending jobs row.id
      let event := if luck.applies ∧ won then some row.id else none
      let next := if luck.applies then claimJob jobs row.id else jobs
      match luck with
      | .ok => some (event, claimNext rest (if won then claimed ++ [row] else claimed), next)
      | .error _ | .panic => some (event, .idle, next)
  | .running [], jobs => some (none, .idle, jobs)
  | .running (job :: rest), jobs =>
      match luck with
      | .ok => some (none, .marking job true rest, jobs)
      | .error _ => some (none, .marking job false rest, jobs)
      | .panic => some (none, .idle, jobs)
  | .marking job succeeded rest, jobs =>
      let next := if luck.applies then setStatus jobs job.id (finalStatus succeeded) else jobs
      match luck with
      | .ok | .error _ => some (none, afterMark succeeded rest, next)
      | .panic => some (none, .idle, next)
  | .refreshing rest, jobs =>
      match luck with
      | .ok | .error _ => some (none, runNext rest, jobs)
      | .panic => some (none, .idle, jobs)

/-- The jobs that a worker is working on. -/
def WorkerState.held : WorkerState → List String
  | .enqueue _ | .idle => []
  | .claiming _ claimed => claimed.map Job.id
  | .running jobs => jobs.map Job.id
  | .marking job _ rest => job.id :: rest.map Job.id
  | .refreshing rest => rest.map Job.id

/-- The job is completed or failed. -/
def Finished (jobs : List Job) (id : String) : Prop :=
  ∀ job ∈ jobs, job.id = id → job.status = .completed ∨ job.status = .failed

variable {ι : Type}

/-- A claim fails before it has claimed a job, the processing of a job does not panic, the
final status is stored, and a refresh panics after the last job only. -/
def KeepsJobs (config : Config (List Job) ι WorkerState)
    (label : ChoiceLabel ι Luck (Option String)) : Prop :=
  match config.locals label.index with
  | .claiming _ claimed => label.choice = .ok ∨ (claimed = [] ∧ label.event = none)
  | .running _ => label.choice ≠ .panic
  | .marking _ _ _ => label.choice = .ok ∨ label.choice = .error true
  | .refreshing rest => label.choice = .panic → rest = []
  | .enqueue _ | .idle => True

/-- The jobs that were claimed, each time they were. -/
def claims (trace : List (ChoiceLabel ι Luck (Option String))) : List String :=
  trace.filterMap ChoiceLabel.event

/-- Every job that a worker has claimed is completed or failed, or the worker is working
on it. -/
def ClaimsKept (trace : List (ChoiceLabel ι Luck (Option String)))
    (config : Config (List Job) ι WorkerState) : Prop :=
  ∀ label ∈ trace, ∀ id, label.event = some id →
    id ∈ (config.locals label.index).held ∨ Finished config.shared id

def InProcessing (jobs : List Job) (id : String) : Prop :=
  ∃ job ∈ jobs, job.id = id ∧ job.status = .processing

/-- No job that was not in processing at the start is so without a worker. -/
def NoneAbandoned (start config : Config (List Job) ι WorkerState) : Prop :=
  ∀ id, InProcessing config.shared id →
    InProcessing start.shared id ∨ ∃ index, id ∈ (config.locals index).held

/-! ## What a statement does to the table -/

inductive TableStep (jobs : List Job) : Option String → List Job → Prop
  | same : TableStep jobs none jobs
  | enqueued (job : Job) : TableStep jobs none (enqueueJob jobs job)
  | claimed {id : String} (won : isPending jobs id = true) :
      TableStep jobs (some id) (claimJob jobs id)
  | marked (id : String) (succeeded : Bool) :
      TableStep jobs none (setStatus jobs id (finalStatus succeeded))

variable {jobs : List Job} {id : String}

theorem isPending_iff :
    isPending jobs id = true ↔ ∃ job ∈ jobs, job.id = id ∧ job.status = .pending := by
  simp only [isPending, List.any_eq_true, decide_eq_true_eq]

theorem mem_enqueueJob {new job : Job} (listed : job ∈ enqueueJob jobs new) :
    job ∈ jobs ∨ (job.id ∉ jobs.map Job.id ∧ job.status = .pending) := by
  rw [enqueueJob] at listed
  split at listed
  · exact Or.inl listed
  · next isNew =>
      rcases List.mem_append.mp listed with old | isLast
      · exact Or.inl old
      · rw [List.mem_singleton] at isLast
        rw [isLast]
        exact Or.inr ⟨isNew, rfl⟩

theorem mem_claimJob {job : Job} (listed : job ∈ claimJob jobs id) :
    ∃ old ∈ jobs, old.id = job.id ∧
      (job.status = .processing ∧ job.id = id ∨
        job.status = old.status ∧ ¬ (job.id = id ∧ job.status = .pending)) := by
  rcases List.mem_map.mp listed with ⟨old, isOld, rfl⟩
  refine ⟨old, isOld, ?_⟩
  by_cases isClaimed : old.id = id ∧ old.status = .pending
  · rw [if_pos isClaimed]
    exact ⟨rfl, Or.inl ⟨rfl, isClaimed.1⟩⟩
  · rw [if_neg isClaimed]
    exact ⟨rfl, Or.inr ⟨rfl, isClaimed⟩⟩

theorem mem_setStatus {status : JobStatus} {job : Job} (listed : job ∈ setStatus jobs id status) :
    ∃ old ∈ jobs, old.id = job.id ∧
      (job.id = id ∧ job.status = status ∨ job.id ≠ id ∧ job.status = old.status) := by
  rcases List.mem_map.mp listed with ⟨old, isOld, rfl⟩
  refine ⟨old, isOld, ?_⟩
  by_cases isMarked : old.id = id
  · rw [if_pos isMarked]
    exact ⟨rfl, Or.inl ⟨isMarked, rfl⟩⟩
  · rw [if_neg isMarked]
    exact ⟨rfl, Or.inr ⟨isMarked, rfl⟩⟩

theorem map_id_claimJob (jobs : List Job) (id : String) :
    (claimJob jobs id).map Job.id = jobs.map Job.id := by
  rw [claimJob, List.map_map]
  apply List.map_congr_left
  intro job _
  dsimp only [Function.comp]
  split <;> rfl

theorem map_id_setStatus (jobs : List Job) (id : String) (status : JobStatus) :
    (setStatus jobs id status).map Job.id = jobs.map Job.id := by
  rw [setStatus, List.map_map]
  apply List.map_congr_left
  intro job _
  dsimp only [Function.comp]
  split <;> rfl

/-- An update of a job that is not pending changes nothing. -/
theorem claimJob_of_lost (lost : ¬ isPending jobs id = true) :
    claimJob jobs id = jobs := by
  rw [isPending_iff] at lost
  rw [claimJob, List.map_congr_left, List.map_id]
  intro job listed
  exact if_neg fun isPending => lost ⟨job, listed, isPending⟩

theorem finalStatus_terminal (succeeded : Bool) :
    finalStatus succeeded = .completed ∨ finalStatus succeeded = .failed := by
  cases succeeded
  · exact Or.inr rfl
  · exact Or.inl rfl

theorem finished_setStatus (jobs : List Job) (id : String) (succeeded : Bool) :
    Finished (setStatus jobs id (finalStatus succeeded)) id := by
  intro job listed isId
  rcases mem_setStatus listed with ⟨-, -, -, ⟨-, isFinal⟩ | ⟨different, -⟩⟩
  · rw [isFinal]
    exact finalStatus_terminal succeeded
  · exact absurd isId different

namespace TableStep

variable {jobs next : List Job} {event : Option String}

/-- Jobs stay in the table. -/
theorem mem_map_id (step : TableStep jobs event next) {id : String}
    (present : id ∈ jobs.map Job.id) : id ∈ next.map Job.id := by
  cases step with
  | same => exact present
  | enqueued job =>
      rw [enqueueJob]
      split
      · exact present
      · rw [List.map_append]
        exact List.mem_append_left _ present
  | claimed won =>
      rw [map_id_claimJob]
      exact present
  | marked id succeeded =>
      rw [map_id_setStatus]
      exact present

/-- A job that is not pending is not pending again. -/
theorem not_pending (step : TableStep jobs event next) {id : String}
    (present : id ∈ jobs.map Job.id)
    (started : ∀ job ∈ jobs, job.id = id → job.status ≠ .pending) :
    ∀ job ∈ next, job.id = id → job.status ≠ .pending := by
  intro job listed isId
  cases step with
  | same => exact started job listed isId
  | enqueued new =>
      rcases mem_enqueueJob listed with old | ⟨isNew, -⟩
      · exact started job old isId
      · rw [isId] at isNew
        exact absurd present isNew
  | claimed won =>
      rcases mem_claimJob listed with ⟨old, isOld, sameId, ⟨isProcessing, -⟩ | ⟨same, -⟩⟩
      · rw [isProcessing]
        exact nofun
      · rw [same]
        exact started old isOld (sameId.trans isId)
  | marked own succeeded =>
      rcases mem_setStatus listed with ⟨old, isOld, sameId, ⟨-, isFinal⟩ | ⟨-, same⟩⟩
      · rw [isFinal]
        rcases finalStatus_terminal succeeded with done | done <;> rw [done] <;> exact nofun
      · rw [same]
        exact started old isOld (sameId.trans isId)

/-- A finished job stays finished. -/
theorem finished (step : TableStep jobs event next) {id : String}
    (present : id ∈ jobs.map Job.id) (isFinished : Finished jobs id) : Finished next id := by
  intro job listed isId
  cases step with
  | same => exact isFinished job listed isId
  | enqueued new =>
      rcases mem_enqueueJob listed with old | ⟨isNew, -⟩
      · exact isFinished job old isId
      · rw [isId] at isNew
        exact absurd present isNew
  | claimed won =>
      rename_i own
      rcases mem_claimJob listed with ⟨old, isOld, sameId, ⟨-, isOwn⟩ | ⟨same, -⟩⟩
      · rcases isPending_iff.mp won with ⟨other, isOther, otherId, isPending⟩
        have done := isFinished other isOther (otherId.trans (isOwn.symm.trans isId))
        rw [isPending] at done
        rcases done with done | done <;> cases done
      · rw [same]
        exact isFinished old isOld (sameId.trans isId)
  | marked own succeeded =>
      rcases mem_setStatus listed with ⟨old, isOld, sameId, ⟨-, isFinal⟩ | ⟨-, same⟩⟩
      · rw [isFinal]
        exact finalStatus_terminal succeeded
      · rw [same]
        exact isFinished old isOld (sameId.trans isId)

/-- A job in processing was so before, or it was just claimed. -/
theorem processing (step : TableStep jobs event next) {id : String}
    (after : InProcessing next id) : event = some id ∨ InProcessing jobs id := by
  rcases after with ⟨job, listed, rfl, isProcessing⟩
  cases step with
  | same => exact Or.inr ⟨job, listed, rfl, isProcessing⟩
  | enqueued new =>
      rcases mem_enqueueJob listed with old | ⟨-, isPending⟩
      · exact Or.inr ⟨job, old, rfl, isProcessing⟩
      · rw [isPending] at isProcessing
        cases isProcessing
  | claimed won =>
      rcases mem_claimJob listed with ⟨old, isOld, sameId, ⟨-, isOwn⟩ | ⟨same, -⟩⟩
      · rw [isOwn]
        exact Or.inl rfl
      · exact Or.inr ⟨old, isOld, sameId, same.symm.trans isProcessing⟩
  | marked own succeeded =>
      rcases mem_setStatus listed with ⟨old, isOld, sameId, ⟨-, isFinal⟩ | ⟨-, same⟩⟩
      · rw [isFinal] at isProcessing
        rcases finalStatus_terminal succeeded with done | done <;>
          rw [done] at isProcessing <;> cases isProcessing
      · exact Or.inr ⟨old, isOld, sameId, same.symm.trans isProcessing⟩

end TableStep

/-! ## Steps of a worker -/

section Worker

variable {limit : ℕ} {luck : Luck} {jobs next : List Job} {event : Option String}
  {nextState : WorkerState}

theorem held_runNext (jobs : List Job) : (runNext jobs).held = jobs.map Job.id := by
  cases jobs <;> rfl

theorem held_claimNext (rest claimed : List Job) :
    (claimNext rest claimed).held = claimed.map Job.id := by
  cases rest with
  | nil => exact held_runNext claimed
  | cons => rfl

theorem held_afterMark (succeeded : Bool) (rest : List Job) :
    (afterMark succeeded rest).held = rest.map Job.id := by
  cases succeeded
  · exact held_runNext rest
  · rfl

/-- The update of a claim, applied or not, won or lost. -/
theorem tableStep_claim (jobs : List Job) (luck : Luck) (id : String) :
    TableStep jobs (if luck.applies ∧ isPending jobs id then some id else none)
      (if luck.applies then claimJob jobs id else jobs) := by
  by_cases applied : luck.applies = true
  · rw [if_pos applied]
    by_cases won : isPending jobs id = true
    · rw [if_pos ⟨applied, won⟩]
      exact .claimed won
    · rw [if_neg fun both => won both.2, claimJob_of_lost won]
      exact .same
  · rw [if_neg applied, if_neg fun both => applied both.1]
    exact .same

theorem tableStep_of_workerProcess {state : WorkerState}
    (steps : workerProcess limit luck state jobs = some (event, nextState, next)) :
    TableStep jobs event next := by
  cases state with
  | enqueue new =>
      cases new with
      | nil => cases steps
      | cons job rest =>
          cases steps
          exact .enqueued job
  | idle =>
      cases luck <;> cases steps <;> exact .same
  | claiming rest claimed =>
      cases rest with
      | nil =>
          cases steps
          exact .same
      | cons row rest =>
          have ofClaim := tableStep_claim jobs luck row.id
          cases luck <;> cases steps <;> exact ofClaim
  | running claimed =>
      cases claimed with
      | nil =>
          cases steps
          exact .same
      | cons job rest => cases luck <;> cases steps <;> exact .same
  | marking job succeeded rest =>
      cases luck with
      | ok =>
          cases steps
          exact .marked job.id succeeded
      | error applied =>
          cases applied <;> cases steps
          · exact .same
          · exact .marked job.id succeeded
      | panic =>
          cases steps
          exact .same
  | refreshing rest => cases luck <;> cases steps <;> exact .same

/-- A worker goes on with the jobs that it holds, or they are finished. -/
theorem held_of_workerProcess {config : Config (List Job) ι WorkerState} {index : ι}
    (keeps : KeepsJobs config ⟨index, luck, event⟩)
    (steps : workerProcess limit luck (config.locals index) config.shared =
      some (event, nextState, next)) {id : String}
    (isHeld : id ∈ (config.locals index).held ∨ event = some id) :
    id ∈ nextState.held ∨ Finished next id := by
  rw [KeepsJobs] at keeps
  cases isLocal : config.locals index with
  | enqueue new =>
      rw [isLocal] at steps isHeld
      cases new with
      | nil => cases steps
      | cons job rest =>
          cases steps
          simp [WorkerState.held] at isHeld
  | idle =>
      rw [isLocal] at steps isHeld
      cases luck <;> cases steps <;> simp [WorkerState.held] at isHeld
  | claiming rest claimed =>
      rw [isLocal] at steps isHeld keeps
      cases rest with
      | nil =>
          cases steps
          left
          rw [held_runNext]
          exact isHeld.resolve_right nofun
      | cons row rest =>
          rcases keeps with isOk | ⟨noneClaimed, noEvent⟩
          · change luck = .ok at isOk
            rw [isOk] at steps
            cases steps
            left
            rw [held_claimNext]
            by_cases won : isPending config.shared row.id = true
            · rw [if_pos won, List.map_append, List.mem_append, List.map_singleton,
                List.mem_singleton]
              rw [if_pos ⟨rfl, won⟩, Option.some.injEq] at isHeld
              exact isHeld.imp_right Eq.symm
            · rw [if_neg won]
              rw [if_neg fun both => won both.2] at isHeld
              exact isHeld.resolve_right nofun
          · change event = none at noEvent
            rw [noneClaimed, noEvent] at isHeld
            rcases isHeld with none | none <;> cases none
  | running claimed =>
      rw [isLocal] at steps isHeld keeps
      cases claimed with
      | nil =>
          cases steps
          rcases isHeld with none | none <;> cases none
      | cons job rest =>
          left
          cases luck with
          | ok | error =>
              cases steps
              exact isHeld.resolve_right nofun
          | panic => exact absurd rfl keeps
  | marking job succeeded rest =>
      rw [isLocal] at steps isHeld keeps
      have split : (event = none ∧ nextState = afterMark succeeded rest) ∧
          next = setStatus config.shared job.id (finalStatus succeeded) := by
        rcases keeps with isOk | isApplied
        · change luck = .ok at isOk
          rw [isOk] at steps
          cases steps
          exact ⟨⟨rfl, rfl⟩, rfl⟩
        · change luck = .error true at isApplied
          rw [isApplied] at steps
          cases steps
          exact ⟨⟨rfl, rfl⟩, rfl⟩
      rcases split with ⟨⟨rfl, rfl⟩, rfl⟩
      rw [held_afterMark]
      rcases List.mem_cons.mp (isHeld.resolve_right nofun) with isJob | later
      · right
        rw [isJob]
        exact finished_setStatus config.shared job.id succeeded
      · exact Or.inl later
  | refreshing rest =>
      rw [isLocal] at steps isHeld keeps
      left
      cases luck with
      | ok | error =>
          cases steps
          rw [held_runNext]
          exact isHeld.resolve_right nofun
      | panic =>
          have noneLeft : rest = [] := keeps rfl
          cases steps
          rw [noneLeft] at isHeld
          rcases isHeld with none | none <;> cases none

end Worker

/-! ## Runs -/

section Run

variable {limit : ℕ} [DecidableEq ι]

/-- Every job is claimed once at most, and what has come into processing was claimed. -/
structure ClaimsOnce (start : List Job) (trace : List (ChoiceLabel ι Luck (Option String)))
    (jobs : List Job) : Prop where
  nodup : (claims trace).Nodup
  present : ∀ id ∈ claims trace, id ∈ jobs.map Job.id
  started : ∀ id ∈ claims trace, ∀ job ∈ jobs, job.id = id → job.status ≠ .pending
  claimed : ∀ id, InProcessing jobs id → InProcessing start id ∨ id ∈ claims trace

section

omit [DecidableEq ι]

theorem claims_snoc (trace : List (ChoiceLabel ι Luck (Option String)))
    (label : ChoiceLabel ι Luck (Option String)) :
    claims (trace ++ [label]) = claims trace ++ label.event.toList := by
  rw [claims, List.filterMap_append]
  cases event : label.event with
  | none => rw [List.filterMap_cons_none event]; rfl
  | some id => rw [List.filterMap_cons_some event]; rfl

theorem ClaimsOnce.step {trace : List (ChoiceLabel ι Luck (Option String))}
    {label : ChoiceLabel ι Luck (Option String)} {start jobs next : List Job}
    (once : ClaimsOnce start trace jobs) (step : TableStep jobs label.event next) :
    ClaimsOnce start (trace ++ [label]) next := by
  have claimedNow : ∀ id, label.event = some id →
      isPending jobs id = true ∧ next = claimJob jobs id := by
    intro id isEvent
    rw [isEvent] at step
    cases step with
    | claimed won => exact ⟨won, rfl⟩
  have isNew : ∀ id, label.event = some id → id ∉ claims trace := by
    intro id isEvent earlier
    rcases isPending_iff.mp (claimedNow id isEvent).1 with ⟨job, listed, isId, isPending⟩
    exact once.started id earlier job listed isId isPending
  refine ⟨?_, ?_, ?_, ?_⟩
  · rw [claims_snoc]
    cases event : label.event with
    | none =>
        rw [Option.toList_none, List.append_nil]
        exact once.nodup
    | some id =>
        rw [Option.toList_some, ← List.concat_eq_append, List.nodup_concat]
        exact ⟨isNew id event, once.nodup⟩
  · intro id listed
    rw [claims_snoc, List.mem_append, Option.mem_toList] at listed
    apply step.mem_map_id
    rcases listed with earlier | now
    · exact once.present id earlier
    · rcases isPending_iff.mp (claimedNow id now).1 with ⟨job, isJob, rfl, -⟩
      exact List.mem_map_of_mem isJob
  · intro id listed
    rw [claims_snoc, List.mem_append, Option.mem_toList] at listed
    rcases listed with earlier | now
    · exact step.not_pending (once.present id earlier) (once.started id earlier)
    · intro job isJob isId
      rw [(claimedNow id now).2] at isJob
      rcases mem_claimJob isJob with ⟨-, -, -, ⟨isProcessing, -⟩ | ⟨-, notPending⟩⟩
      · rw [isProcessing]
        exact nofun
      · exact fun isPending => notPending ⟨isId, isPending⟩
  · intro id after
    rw [claims_snoc, List.mem_append, Option.mem_toList]
    rcases step.processing after with now | before
    · exact Or.inr (Or.inr now)
    · exact (once.claimed id before).imp_right Or.inl

theorem claimsOnce_nil (start : List Job) :
    ClaimsOnce start ([] : List (ChoiceLabel ι Luck (Option String))) start :=
  ⟨List.nodup_nil, nofun, nofun, fun _ => Or.inl⟩

end

/-- The jobs are claimed once in every run, whatever fails. -/
theorem claimsOnce_of_run {start config : Config (List Job) ι WorkerState}
    {trace : List (ChoiceLabel ι Luck (Option String))}
    (run : Run (ChoiceMoves (workerProcess limit)) start trace config) :
    ClaimsOnce start.shared trace config.shared := by
  apply run.invariant fun trace config => ClaimsOnce start.shared trace config.shared
  · exact claimsOnce_nil start.shared
  · intro trace middle label target once moves
    rcases moves with ⟨steps⟩
    exact once.step (tableStep_of_workerProcess steps)

/-- A step that keeps the jobs keeps the claims. -/
theorem claimsKept_step {config next : Config (List Job) ι WorkerState}
    {trace : List (ChoiceLabel ι Luck (Option String))}
    {label : ChoiceLabel ι Luck (Option String)} (kept : ClaimsKept trace config)
    {start : List Job} (once : ClaimsOnce start trace config.shared)
    (keeps : KeepsJobs config label) (moves : ChoiceMoves (workerProcess limit) config label next) :
    ClaimsKept (trace ++ [label]) next := by
  rcases moves with ⟨steps⟩
  rename_i index luck event nextState jobs
  have table := tableStep_of_workerProcess steps
  intro other listed id claimed
  rw [List.mem_append, List.mem_singleton] at listed
  rcases listed with earlier | rfl
  · have wasClaimed : id ∈ claims trace := List.mem_filterMap.mpr ⟨other, earlier, claimed⟩
    rcases kept other earlier id claimed with isHeld | isFinished
    · dsimp only
      by_cases moved : other.index = index
      · rw [moved, Function.update_self]
        rw [moved] at isHeld
        exact held_of_workerProcess keeps steps (Or.inl isHeld)
      · rw [Function.update_of_ne moved]
        exact Or.inl isHeld
    · exact Or.inr (table.finished (once.present id wasClaimed) isFinished)
  · dsimp only
    rw [Function.update_self]
    exact held_of_workerProcess keeps steps (Or.inr claimed)

/-- In a run whose failures keep the jobs, every job is claimed once at most, every claimed
job is completed or failed unless its worker is still working on it, and no job is left in
processing. -/
theorem jobsKept_of_run {start config : Config (List Job) ι WorkerState}
    {trace : List (ChoiceLabel ι Luck (Option String))}
    (run : Run (fun config label next => ChoiceMoves (workerProcess limit) config label next ∧
      KeepsJobs config label) start trace config) :
    (claims trace).Nodup ∧ ClaimsKept trace config ∧ NoneAbandoned start config := by
  have invariant : ClaimsOnce start.shared trace config.shared ∧ ClaimsKept trace config := by
    apply run.invariant_of_allowed fun trace config =>
      ClaimsOnce start.shared trace config.shared ∧ ClaimsKept trace config
    · exact ⟨claimsOnce_nil start.shared, nofun⟩
    · rintro trace middle label target ⟨once, kept⟩ keeps moves
      refine ⟨?_, claimsKept_step kept once keeps moves⟩
      rcases moves with ⟨steps⟩
      exact once.step (tableStep_of_workerProcess steps)
  rcases invariant with ⟨once, kept⟩
  refine ⟨once.nodup, kept, ?_⟩
  intro id inProcessing
  refine (once.claimed id inProcessing).imp_right fun wasClaimed => ?_
  rcases List.mem_filterMap.mp wasClaimed with ⟨label, inTrace, claimed⟩
  rcases kept label inTrace id claimed with isHeld | isFinished
  · exact ⟨label.index, isHeld⟩
  · rcases inProcessing with ⟨job, listed, isId, status⟩
    rcases isFinished job listed isId with done | done <;> rw [status] at done <;> cases done

end Run

/-! ## Failures in the middle of a cycle -/

/-- Two pending jobs. -/
def twoPending : List Job :=
  [⟨"job_a", ⟨"adyen", "acc", "m1"⟩, 1, .pending⟩, ⟨"job_b", ⟨"adyen", "acc", "m1"⟩, 2, .pending⟩]

def oneWorker : Config (List Job) Unit WorkerState :=
  ⟨twoPending, fun _ => .idle⟩

/-- The first job fails, the second one is completed, and the refresh after it panics. -/
def keepingSchedule : List (Unit × Luck) :=
  [((), .ok), ((), .ok), ((), .ok), ((), .error false), ((), .error true), ((), .ok), ((), .ok),
    ((), .panic)]

theorem jobsKept_of_run_keeping :
    (claims (choicesTrace (workerProcess 10) oneWorker keepingSchedule)).Nodup ∧
      ClaimsKept (choicesTrace (workerProcess 10) oneWorker keepingSchedule)
        (runChoices (workerProcess 10) oneWorker keepingSchedule) ∧
      NoneAbandoned oneWorker (runChoices (workerProcess 10) oneWorker keepingSchedule) := by
  apply jobsKept_of_run
  apply run_choicesTrace
  exact ⟨trivial, Or.inl rfl, Or.inl rfl, nofun, Or.inr rfl, nofun, Or.inl rfl, fun _ => rfl,
    trivial⟩

/-- The second update of a claim fails, and the next claim takes the other job. -/
theorem claimsOnce_of_run_failing :
    ClaimsOnce twoPending
      (choicesTrace (workerProcess 10) oneWorker
        [((), .ok), ((), .ok), ((), .error false), ((), .ok), ((), .ok)])
      (runChoices (workerProcess 10) oneWorker
        [((), .ok), ((), .ok), ((), .error false), ((), .ok), ((), .ok)]).shared :=
  claimsOnce_of_run (run_choices (workerProcess 10) oneWorker _)

/-- A job in processing is abandoned when its worker is idle. -/
theorem not_noneAbandoned_of_idle {config : Config (List Job) Unit WorkerState}
    (idle : config.locals () = .idle) (before : ¬ InProcessing twoPending id)
    (after : InProcessing config.shared id) : ¬ NoneAbandoned oneWorker config := by
  intro noneAbandoned
  rcases noneAbandoned id after with atStart | ⟨index, isHeld⟩
  · exact before atStart
  · rw [idle] at isHeld
    cases isHeld

/-- The second update of the claim fails, or the first job panics: the worker is done with
its cycle and jobs are left in processing. -/
theorem jobsKept_of_run_counterexample :
    (∃ trace config, Run (ChoiceMoves (workerProcess 10)) oneWorker trace config ∧
      config.locals () = .idle ∧ config.shared.map Job.status = [.processing, .pending] ∧
      ¬ NoneAbandoned oneWorker config) ∧
    ∃ trace config, Run (ChoiceMoves (workerProcess 10)) oneWorker trace config ∧
      config.locals () = .idle ∧ config.shared.map Job.status = [.processing, .processing] ∧
      ¬ NoneAbandoned oneWorker config := by
  have notBefore : ¬ InProcessing twoPending "job_a" := by
    rintro ⟨job, listed, -, status⟩
    revert job
    decide
  constructor
  · refine ⟨_, _, run_choices (workerProcess 10) oneWorker
      [((), .ok), ((), .ok), ((), .error false)], by decide +kernel, by decide +kernel, ?_⟩
    exact not_noneAbandoned_of_idle rfl notBefore
      ⟨⟨"job_a", ⟨"adyen", "acc", "m1"⟩, 1, .processing⟩, by decide +kernel, rfl, rfl⟩
  · refine ⟨_, _, run_choices (workerProcess 10) oneWorker
      [((), .ok), ((), .ok), ((), .ok), ((), .panic)], by decide +kernel, by decide +kernel, ?_⟩
    exact not_noneAbandoned_of_idle rfl notBefore
      ⟨⟨"job_a", ⟨"adyen", "acc", "m1"⟩, 1, .processing⟩, by decide +kernel, rfl, rfl⟩

end DecisionEngine.CostIngestion
