import DecisionEngine.CostIngestion.Fit
import DecisionEngine.CostIngestion.JobLifecycle

/-!
# Deletion of an ingestion

A deletion checks the status of a job, deletes the buckets of the ingestion, fits again and
deletes the job.  A worker may claim the job after the check and insert its buckets after
they have been deleted.

A deletion leaves no bucket of the ingestion when no worker inserts buckets of an ingestion
whose buckets a deletion has already deleted.
-/

namespace DecisionEngine.CostIngestion

open Map Transition

structure IngestionState where
  jobs : List Job
  tables : CostTables
  /-- The identifiers given to jobs so far, which are given once only. -/
  issued : List (String × Account)

def IngestionState.empty : IngestionState :=
  ⟨[], ⟨⟨[], []⟩, [], []⟩, []⟩

namespace IngestionState

def findJob (state : IngestionState) (id : String) : Option Job :=
  state.jobs.find? fun job => job.id = id

/-- A job of the merchant. -/
def getForMerchant (state : IngestionState) (merchantId id : String) : Option Job :=
  state.jobs.find? fun job => job.id = id ∧ job.account.merchantId = merchantId

def deleteJob (state : IngestionState) (merchantId id : String) : IngestionState :=
  { state with
    jobs := state.jobs.filter fun job => ¬ (job.id = id ∧ job.account.merchantId = merchantId) }

def createJob (state : IngestionState) (job : Job) : IngestionState :=
  if job.id ∈ state.issued.map Prod.fst then state
  else
    { state with
      jobs := state.jobs ++ [job]
      issued := state.issued ++ [(job.id, job.account)] }

/-- The buckets that a deletion deletes. -/
def deleteIngestionRows (state : IngestionState) (account : Account) (id : String) :
    IngestionState :=
  { state with
    tables :=
      { state.tables with
        dailyStats := state.tables.dailyStats.filter fun row =>
          ¬ (row.account = account ∧ row.ingestionId = id) } }

def insertDailyStats (state : IngestionState) (rows : List DailyStat) : IngestionState :=
  { state with
    tables := { state.tables with dailyStats := state.tables.dailyStats ++ rows } }

def insertBinProduct (state : IngestionState) (rows : List BinProductRow) : IngestionState :=
  { state with
    tables := { state.tables with binProduct := state.tables.binProduct ++ rows } }

end IngestionState

/-! ## Processes -/

/-- The report that a worker downloads for a job, and what it is given besides. -/
structure ReportSource where
  report : List SettledFeeRow
  ingestion : Ingestion
  refit : Refit

/-- What a process does next: a job is created, a worker claims and processes one, or an
ingestion is deleted. -/
inductive IngestionStep where
  | create (job : Job)
  | select (id : String) (source : ReportSource)
  | claim (job : Job) (source : ReportSource)
  | aggregate (job : Job) (source : ReportSource)
  /-- The first `inserted` rows are stored. -/
  | insertStats (job : Job) (source : ReportSource) (acc : RollupAccumulator) (inserted : ℕ)
  | insertBins (job : Job) (source : ReportSource) (acc : RollupAccumulator)
  | fit (job : Job) (source : ReportSource)
  | mark (id : String) (succeeded : Bool)
  | check (merchantId id : String) (refit : Refit)
  | deleteStats (job : Job) (refit : Refit)
  | refit (job : Job) (refit : Refit)
  | deleteRow (job : Job)
  | deleted (id : String)
  | finished

/-- The rows of one statement. -/
def insertChunkRows : ℕ := 25000

/-- A step that succeeds or fails.  The progress, the observations of the issuers and the fit
after a deletion may fail without consequence. -/
def ingestionProcess [Rounding] (succeeds : Bool) : Process IngestionState IngestionStep Unit
  | .create job, state => some ((), .finished, if succeeds then state.createJob job else state)
  | .select id source, state =>
      match state.findJob id with
      | some job =>
          if job.status = .pending ∧ succeeds then some ((), .claim job source, state)
          else some ((), .finished, state)
      | none => some ((), .finished, state)
  | .claim job source, state =>
      if succeeds ∧ isPending state.jobs job.id then
        some ((), .aggregate job source, { state with jobs := claimJob state.jobs job.id })
      else some ((), .finished, state)
  | .aggregate job source, state =>
      let binProduct := loadBinProduct source.ingestion.productOrder state.tables.binProduct
      if succeeds then
        some ((), .insertStats job source
          (CostIngestion.aggregate binProduct source.ingestion.date source.report) 0, state)
      else some ((), .mark job.id false, state)
  | .insertStats job source acc inserted, state =>
      let ingestion := { source.ingestion with ingestionId := job.id }
      let rows := (intoRows job.account ingestion acc).drop inserted
      if succeeds then
        some ((),
          if rows.length ≤ insertChunkRows then .insertBins job source acc
          else .insertStats job source acc (inserted + insertChunkRows),
          state.insertDailyStats (rows.take insertChunkRows))
      else some ((), .mark job.id false, state)
  | .insertBins job source acc, state =>
      some ((), .fit job source,
        if succeeds then state.insertBinProduct (binRows source.ingestion acc) else state)
  | .fit job source, state =>
      if succeeds then
        some ((), .mark job.id true,
          { state with tables := fitSnapshot job.account source.refit state.tables })
      else some ((), .mark job.id false, state)
  | .mark id succeeded, state =>
      some ((), .finished,
        if succeeds then
          { state with jobs := setStatus state.jobs id (finalStatus succeeded) }
        else state)
  | .check merchantId id refit, state =>
      match state.getForMerchant merchantId id with
      | some job =>
          if job.status = .processing ∨ ¬ succeeds then some ((), .finished, state)
          else some ((), .deleteStats job refit, state)
      | none => some ((), .finished, state)
  | .deleteStats job refit, state =>
      if succeeds then
        some ((), .refit job refit, state.deleteIngestionRows job.account job.id)
      else some ((), .finished, state)
  | .refit job refit, state =>
      some ((), .deleteRow job,
        if succeeds then { state with tables := fitSnapshot job.account refit state.tables }
        else state)
  | .deleteRow job, state =>
      if succeeds then
        some ((), .deleted job.id, state.deleteJob job.account.merchantId job.id)
      else some ((), .finished, state)
  | .deleted _, _ => none
  | .finished, _ => none

/-- The ingestion whose buckets a deletion has deleted. -/
def IngestionStep.emptied : IngestionStep → Option String
  | .refit job _ | .deleteRow job => some job.id
  | .deleted id => some id
  | _ => none

/-- The job that a process has read. -/
def IngestionStep.job : IngestionStep → Option Job
  | .claim job _ | .aggregate job _ | .insertStats job .. | .insertBins job _ _ | .fit job _
  | .deleteStats job _ | .refit job _ | .deleteRow job => some job
  | _ => none

variable {ι : Type}

/-- Buckets are inserted for ingestions only whose buckets no deletion has deleted. -/
def InsertsBefore (config : Config IngestionState ι IngestionStep)
    (label : ChoiceLabel ι Bool Unit) : Prop :=
  ∀ job source acc inserted, config.locals label.index = .insertStats job source acc inserted →
    label.choice = true → ∀ other, (config.locals other).emptied ≠ some job.id

/-- The job for which the step inserts buckets. -/
def IngestionStep.inserting : IngestionStep → Option Job
  | .insertStats job .. => some job
  | _ => none

theorem insertsBefore_iff {config : Config IngestionState ι IngestionStep}
    {label : ChoiceLabel ι Bool Unit} : InsertsBefore config label ↔
      ∀ job ∈ (config.locals label.index).inserting, label.choice = true →
        ∀ other, (config.locals other).emptied ≠ some job.id := by
  unfold InsertsBefore
  cases config.locals label.index with
  | insertStats job source acc inserted =>
      constructor
      · rintro before _ ⟨⟩
        exact before job source acc inserted rfl
      · rintro before _ _ _ _ ⟨⟩
        exact before job rfl
  | _ => simp [IngestionStep.inserting]

instance {count : ℕ} (config : Config IngestionState (Fin count) IngestionStep)
    (label : ChoiceLabel (Fin count) Bool Unit) : Decidable (InsertsBefore config label) :=
  decidable_of_iff' _ insertsBefore_iff

/-- The requests before their first step, with nothing stored. -/
inductive IngestionRequest where
  | create (job : Job)
  | work (id : String) (source : ReportSource)
  | delete (merchantId id : String) (refit : Refit)

def IngestionRequest.start : IngestionRequest → IngestionStep
  | .create job => .create job
  | .work id source => .select id source
  | .delete merchantId id refit => .check merchantId id refit

def startIngestions (requests : ι → IngestionRequest) :
    Config IngestionState ι IngestionStep :=
  ⟨.empty, fun index => (requests index).start⟩

/-- No bucket of the ingestion is stored. -/
def NoBuckets (state : IngestionState) (id : String) : Prop :=
  ∀ row ∈ state.tables.dailyStats, row.ingestionId ≠ id

/-! ## What a step changes -/

/-- A step creates a job, deletes or inserts buckets, or leaves both tables with the jobs
and the buckets that they have. -/
inductive StateChange (step : IngestionStep) (state : IngestionState) : IngestionState → Prop
  | kept {next : IngestionState} (stats : next.tables.dailyStats = state.tables.dailyStats)
      (issued : next.issued = state.issued)
      (jobs : ∀ job ∈ next.jobs, ∃ old ∈ state.jobs, old.id = job.id ∧
        old.account = job.account) : StateChange step state next
  | created {job : Job} (new : job.id ∉ state.issued.map Prod.fst) :
      StateChange step state
        { state with
          jobs := state.jobs ++ [job]
          issued := state.issued ++ [(job.id, job.account)] }
  | deleted {job : Job} (isJob : step.job = some job) :
      StateChange step state (state.deleteIngestionRows job.account job.id)
  | inserted {job : Job} {source : ReportSource} {acc : RollupAccumulator} {inserted : ℕ}
      (isInsert : step = .insertStats job source acc inserted) {rows : List DailyStat}
      (own : ∀ row ∈ rows, row.account = job.account ∧ row.ingestionId = job.id) :
      StateChange step state (state.insertDailyStats rows)

theorem StateChange.same (step : IngestionStep) (state : IngestionState) :
    StateChange step state state :=
  .kept rfl rfl fun job listed => ⟨job, listed, rfl, rfl⟩

theorem account_claimJob {jobs : List Job} {id : String} {job : Job}
    (listed : job ∈ claimJob jobs id) :
    ∃ old ∈ jobs, old.id = job.id ∧ old.account = job.account := by
  rcases List.mem_map.mp listed with ⟨old, isOld, rfl⟩
  refine ⟨old, isOld, ?_⟩
  split <;> exact ⟨rfl, rfl⟩

theorem account_setStatus {jobs : List Job} {id : String} {status : JobStatus} {job : Job}
    (listed : job ∈ setStatus jobs id status) :
    ∃ old ∈ jobs, old.id = job.id ∧ old.account = job.account := by
  rcases List.mem_map.mp listed with ⟨old, isOld, rfl⟩
  refine ⟨old, isOld, ?_⟩
  split <;> exact ⟨rfl, rfl⟩

theorem mem_intoRows_own {account : Account} {ingestion : Ingestion} {acc : RollupAccumulator}
    {row : DailyStat} (listed : row ∈ intoRows account ingestion acc) :
    row.account = account ∧ row.ingestionId = ingestion.ingestionId := by
  rcases List.mem_map.mp listed with ⟨entry, -, rfl⟩
  exact ⟨rfl, rfl⟩

section Process

variable [Rounding] {succeeds : Bool} {step nextStep : IngestionStep}
  {state next : IngestionState}

section

variable (steps : ingestionProcess succeeds step state = some ((), nextStep, next))

include steps

theorem stateChange_of_process :
    StateChange step state next := by
  cases step with
  | create job =>
      cases steps
      split
      · rw [IngestionState.createJob]
        split
        · exact .same _ state
        · next isNew => exact .created isNew
      · exact .same _ state
  | select id source =>
      rw [ingestionProcess] at steps
      split at steps
      · split at steps <;> cases steps <;> exact .same _ state
      · cases steps
        exact .same _ state
  | claim job source =>
      rw [ingestionProcess] at steps
      split at steps
      · cases steps
        exact .kept rfl rfl fun other listed => account_claimJob listed
      · cases steps
        exact .same _ state
  | aggregate job source => cases succeeds <;> cases steps <;> exact .same _ state
  | insertStats job source acc inserted =>
      cases succeeds <;> cases steps
      · exact .same _ state
      · exact .inserted rfl fun row listed =>
          mem_intoRows_own (List.mem_of_mem_drop (List.mem_of_mem_take listed))
  | insertBins job source acc =>
      cases succeeds <;> cases steps
      · exact .same _ state
      · exact .kept rfl rfl fun other listed => ⟨other, listed, rfl, rfl⟩
  | fit job source =>
      cases succeeds <;> cases steps
      · exact .same _ state
      · exact .kept rfl rfl fun other listed => ⟨other, listed, rfl, rfl⟩
  | mark id succeeded =>
      cases succeeds <;> cases steps
      · exact .same _ state
      · exact .kept rfl rfl fun other listed => account_setStatus listed
  | check merchantId id refit =>
      rw [ingestionProcess] at steps
      split at steps
      · split at steps <;> cases steps <;> exact .same _ state
      · cases steps
        exact .same _ state
  | deleteStats job refit =>
      cases succeeds <;> cases steps
      · exact .same _ state
      · exact .deleted rfl
  | refit job refit =>
      cases succeeds <;> cases steps
      · exact .same _ state
      · exact .kept rfl rfl fun other listed => ⟨other, listed, rfl, rfl⟩
  | deleteRow job =>
      cases succeeds <;> cases steps
      · exact .same _ state
      · exact .kept rfl rfl fun other listed =>
          ⟨other, List.mem_of_mem_filter listed, rfl, rfl⟩
  | deleted id => cases steps
  | finished => cases steps

/-- A process works on the job that it has read, or reads one. -/
theorem job_of_process {job : Job} (isJob : nextStep.job = some job) :
    step.job = some job ∨ job ∈ state.jobs := by
  cases step with
  | select id source =>
      rw [ingestionProcess] at steps
      split at steps
      · next found isFound =>
          split at steps <;> cases steps
          · cases isJob
            exact Or.inr (List.mem_of_find?_eq_some isFound)
          · cases isJob
      · cases steps
        cases isJob
  | check merchantId id refit =>
      rw [ingestionProcess] at steps
      split at steps
      · next found isFound =>
          split at steps <;> cases steps
          · cases isJob
          · cases isJob
            exact Or.inr (List.mem_of_find?_eq_some isFound)
      · cases steps
        cases isJob
  | claim own source =>
      rw [ingestionProcess] at steps
      split at steps <;> cases steps <;> cases isJob
      exact Or.inl rfl
  | insertStats own source acc inserted =>
      cases succeeds <;> cases steps
      · cases isJob
      · split at isJob <;> cases isJob <;> exact Or.inl rfl
  | create | aggregate | insertBins | fit | mark | deleteStats | refit | deleteRow =>
      cases succeeds <;> cases steps <;> cases isJob <;> exact Or.inl rfl
  | deleted id => cases steps
  | finished => cases steps

/-- The buckets of an ingestion were deleted before, or the step deletes them. -/
theorem emptied_of_process {id : String} (isEmptied : nextStep.emptied = some id) :
    step.emptied = some id ∨ ∃ job, step.job = some job ∧ job.id = id ∧
      next = state.deleteIngestionRows job.account job.id := by
  cases step with
  | select own source =>
      rw [ingestionProcess] at steps
      split at steps
      · split at steps <;> cases steps <;> cases isEmptied
      · cases steps
        cases isEmptied
  | check merchantId own refit =>
      rw [ingestionProcess] at steps
      split at steps
      · split at steps <;> cases steps <;> cases isEmptied
      · cases steps
        cases isEmptied
  | claim own source =>
      rw [ingestionProcess] at steps
      split at steps <;> cases steps <;> cases isEmptied
  | deleteStats job refit =>
      cases succeeds <;> cases steps <;> cases isEmptied
      exact Or.inr ⟨job, rfl, rfl, rfl⟩
  | insertStats job source acc inserted =>
      cases succeeds <;> cases steps
      · cases isEmptied
      · split at isEmptied <;> cases isEmptied
  | create | aggregate | insertBins | fit | mark | refit | deleteRow =>
      cases succeeds <;> cases steps <;> cases isEmptied <;> exact Or.inl rfl
  | deleted own => cases steps
  | finished => cases steps

end

end Process

/-! ## Runs -/

/-- Jobs and buckets have the account that the identifier was given for. -/
structure Attributed (state : IngestionState) : Prop where
  issuedOnce : (state.issued.map Prod.fst).Nodup
  jobs : ∀ job ∈ state.jobs, (job.id, job.account) ∈ state.issued
  stats : ∀ row ∈ state.tables.dailyStats, (row.ingestionId, row.account) ∈ state.issued

theorem attributed_empty : Attributed .empty where
  issuedOnce := List.nodup_nil
  jobs _ listed := absurd listed List.not_mem_nil
  stats _ listed := absurd listed List.not_mem_nil

namespace StateChange

variable {step : IngestionStep} {state next : IngestionState}

theorem issued_subset (change : StateChange step state next) : state.issued ⊆ next.issued := by
  cases change with
  | kept stats issued jobs =>
      rw [issued]
      exact fun _ => id
  | created new => exact List.subset_append_left _ _
  | deleted isJob => exact fun _ => id
  | inserted isInsert own => exact fun _ => id

theorem attributed (change : StateChange step state next) (before : Attributed state)
    (own : ∀ job, step.job = some job → (job.id, job.account) ∈ state.issued) :
    Attributed next := by
  cases change with
  | kept stats issued jobs =>
      refine ⟨issued ▸ before.issuedOnce, ?_, ?_⟩
      · intro job listed
        rcases jobs job listed with ⟨old, isOld, sameId, sameAccount⟩
        rw [issued, ← sameId, ← sameAccount]
        exact before.jobs old isOld
      · rw [stats, issued]
        exact before.stats
  | created new =>
      rename_i created
      refine ⟨?_, ?_, ?_⟩
      · rw [List.map_append, List.map_singleton, ← List.concat_eq_append, List.nodup_concat]
        exact ⟨new, before.issuedOnce⟩
      · intro job listed
        rcases List.mem_append.mp listed with old | isNew
        · exact List.mem_append_left _ (before.jobs job old)
        · rw [List.mem_singleton] at isNew
          rw [isNew]
          exact List.mem_append_right _ List.mem_cons_self
      · intro row listed
        exact List.mem_append_left _ (before.stats row listed)
  | deleted isJob =>
      exact ⟨before.issuedOnce, before.jobs,
        fun row listed => before.stats row (List.mem_of_mem_filter listed)⟩
  | inserted isInsert ownRows =>
      refine ⟨before.issuedOnce, before.jobs, ?_⟩
      intro row listed
      rcases List.mem_append.mp listed with old | isNew
      · exact before.stats row old
      · rw [(ownRows row isNew).1, (ownRows row isNew).2]
        rw [isInsert] at own
        exact own _ rfl

/-- No buckets of an ingestion appear unless a worker inserts them. -/
theorem noBuckets (change : StateChange step state next) {id : String}
    (before : NoBuckets state id)
    (other : ∀ job source acc inserted, step = .insertStats job source acc inserted →
      next ≠ state → job.id ≠ id) : NoBuckets next id := by
  by_cases unchanged : next = state
  · rw [unchanged]
    exact before
  · cases change with
    | kept stats issued jobs =>
        rw [NoBuckets, stats]
        exact before
    | created new => exact before
    | deleted isJob => exact fun row listed => before row (List.mem_of_mem_filter listed)
    | inserted isInsert own =>
        intro row listed
        rcases List.mem_append.mp listed with old | isNew
        · exact before row old
        · rw [(own row isNew).2]
          exact other _ _ _ _ isInsert unchanged

end StateChange

/-- Deleting the buckets of a job's account deletes those of the ingestion. -/
theorem noBuckets_deleteIngestionRows {state : IngestionState} (attributed : Attributed state)
    {job : Job} (issued : (job.id, job.account) ∈ state.issued) :
    NoBuckets (state.deleteIngestionRows job.account job.id) job.id := by
  intro row listed isJob
  rw [IngestionState.deleteIngestionRows, List.mem_filter, decide_eq_true_eq] at listed
  have ofRow := attributed.stats row listed.1
  rw [isJob] at ofRow
  have same := List.inj_on_of_nodup_map attributed.issuedOnce ofRow issued rfl
  rw [Prod.mk.injEq] at same
  exact listed.2 ⟨same.2, isJob⟩

section Run

variable [Rounding] [DecidableEq ι]

/-- Everything is attributed, and no buckets are left of an emptied ingestion. -/
structure Emptied (config : Config IngestionState ι IngestionStep) : Prop where
  attributed : Attributed config.shared
  own : ∀ index job, (config.locals index).job = some job →
    (job.id, job.account) ∈ config.shared.issued
  noBuckets : ∀ index id, (config.locals index).emptied = some id → NoBuckets config.shared id

omit [Rounding] [DecidableEq ι] in
theorem emptied_startIngestions (requests : ι → IngestionRequest) :
    Emptied (startIngestions requests) := by
  refine ⟨attributed_empty, ?_, fun _ _ _ _ listed => absurd listed List.not_mem_nil⟩
  intro index job isJob
  have noJob : (requests index).start.job = none := by
    cases requests index <;> rfl
  exact absurd (noJob.symm.trans isJob) nofun

/-- A step that inserts no buckets of an emptied ingestion keeps it empty. -/
theorem Emptied.step {config next : Config IngestionState ι IngestionStep}
    {label : ChoiceLabel ι Bool Unit} (emptied : Emptied config)
    (before : InsertsBefore config label)
    (moves : ChoiceMoves ingestionProcess config label next) : Emptied next := by
  rcases moves with ⟨steps⟩
  rename_i index succeeds event nextStep state
  have change := stateChange_of_process steps
  have ownBefore := emptied.own index
  have notInserted : ∀ other id, (config.locals other).emptied = some id →
      NoBuckets state id := by
    intro other id isEmptied
    apply change.noBuckets (emptied.noBuckets other id isEmptied)
    rintro job source acc inserted isInsert changed rfl
    have applied : succeeds = true := by
      by_contra failed
      rw [Bool.not_eq_true] at failed
      rw [isInsert, failed] at steps
      cases steps
      exact changed rfl
    exact before job source acc inserted isInsert applied other isEmptied
  refine ⟨change.attributed emptied.attributed ownBefore, ?_, ?_⟩
  · intro other job isJob
    dsimp only at isJob ⊢
    apply change.issued_subset
    by_cases moved : other = index
    · rw [moved, Function.update_self] at isJob
      rcases job_of_process steps isJob with had | listed
      · exact ownBefore job had
      · exact emptied.attributed.jobs job listed
    · rw [Function.update_of_ne moved] at isJob
      exact emptied.own other job isJob
  · intro other id isEmptied
    dsimp only at isEmptied ⊢
    by_cases moved : other = index
    · rw [moved, Function.update_self] at isEmptied
      rcases emptied_of_process steps isEmptied with earlier | ⟨job, isJob, rfl, rfl⟩
      · exact notInserted index id earlier
      · exact noBuckets_deleteIngestionRows emptied.attributed (ownBefore job isJob)
    · rw [Function.update_of_ne moved] at isEmptied
      exact notInserted other id isEmptied

/-- In a run that inserts no buckets of an ingestion whose buckets a deletion has deleted, no
bucket is stored of an ingestion whose deletion reported success. -/
theorem noBuckets_of_run {requests : ι → IngestionRequest}
    {config : Config IngestionState ι IngestionStep} {trace : List (ChoiceLabel ι Bool Unit)}
    (run : Run (fun config label next => ChoiceMoves ingestionProcess config label next ∧
      InsertsBefore config label) (startIngestions requests) trace config) {index : ι}
    {id : String} (deleted : config.locals index = .deleted id) :
    NoBuckets config.shared id := by
  have emptied : Emptied config := by
    apply run.invariant_of_allowed fun _ config => Emptied config
    · exact emptied_startIngestions requests
    · intro trace middle label target emptied before moves
      exact emptied.step before moves
  apply emptied.noBuckets index id
  rw [deleted]
  rfl

end Run

/-! ## A worker that inserts late -/

section Late

local instance decimalRounding : Rounding := .decimal

def pendingJob : Job :=
  ⟨"job_a", ⟨"adyen", "acc", "m1"⟩, 1, .pending⟩

/-- A report of one transaction. -/
def smallReport : ReportSource :=
  { report := [⟨"visa", "visacredit", "credit", "DE", "EUR", "consumer", "", some 1, "ecom", 10,
      1 / 10, ""⟩]
    ingestion := ⟨"", 1, .stored, .stored, .stored⟩
    refit := ⟨1, .stored⟩ }

local instance threeIngestions : NeZero (3 : ℕ) :=
  ⟨by decide⟩

/-- A job is created, processed and deleted. -/
def createWorkDelete : Fin 3 → IngestionRequest
  | 0 => .create pendingJob
  | 1 => .work "job_a" smallReport
  | 2 => .delete "m1" "job_a" ⟨2, .stored⟩

/-- The deletion waits until the job is completed. -/
def deletedAfterwards : List (Fin 3 × Bool) :=
  [(0, true), (1, true), (1, true), (1, true), (1, true), (1, true), (1, true), (1, true),
    (2, true), (2, true), (2, true), (2, true)]

theorem noBuckets_of_run_afterwards :
    NoBuckets (runChoices ingestionProcess (startIngestions createWorkDelete)
      deletedAfterwards).shared "job_a" := by
  have allowed : AllowedChoices ingestionProcess InsertsBefore
      (startIngestions createWorkDelete) deletedAfterwards := by
    decide +kernel
  have deleted : (runChoices ingestionProcess (startIngestions createWorkDelete)
      deletedAfterwards).locals 2 = .deleted "job_a" := rfl
  exact noBuckets_of_run (run_choicesTrace ingestionProcess allowed) deleted

/-- The check comes before the claim of the worker, and the buckets are deleted before the
worker inserts them. -/
def insertedLate : List (Fin 3 × Bool) :=
  [(0, true), (2, true), (1, true), (1, true), (1, true), (2, true), (2, true), (2, true),
    (1, true), (1, true), (1, true), (1, true)]

theorem noBuckets_of_run_counterexample :
    ∃ trace config, Run (ChoiceMoves ingestionProcess) (startIngestions createWorkDelete) trace
        config ∧
      config.locals 1 = .finished ∧ config.locals 2 = .deleted "job_a" ∧
      ¬ NoBuckets config.shared "job_a" := by
  refine ⟨_, _, run_choices ingestionProcess (startIngestions createWorkDelete) insertedLate, rfl,
    rfl, ?_⟩
  have stored : "job_a" ∈ (runChoices ingestionProcess (startIngestions createWorkDelete)
      insertedLate).shared.tables.dailyStats.map DailyStat.ingestionId := by decide +kernel
  rcases List.mem_map.mp stored with ⟨row, listed, isJob⟩
  exact fun noBuckets => noBuckets row listed isJob

end Late

end DecisionEngine.CostIngestion
