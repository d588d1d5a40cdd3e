import DecisionEngine.CostIngestion.JobLifecycle

/-!
# Credentials of settlement sources

The credentials of a connector's account are stored under one name, with the merchant that
they belong to.  A webhook and the poller resolve the merchant of a report from them; the
worker downloads the report with the credentials of the account, and ingests it for the
merchant that was resolved.

No request is checked against the merchant of the stored credentials, so that a merchant may
replace or delete those of another one.
-/

namespace DecisionEngine.CostIngestion

open Text Transition

structure StoredCreds where
  merchantId : String
  webhookSecret : String
  downloadAuth : String
  deriving DecidableEq

structure SourceRef where
  connector : String
  account : String
  deriving DecidableEq

/-- A report that is ready, and the merchant that it was resolved to. -/
structure SettlementReport where
  connector : String
  account : String
  merchantId : String
  notificationId : String
  reportRef : String
  deriving DecidableEq

/-- How the connectors of the registry announce their reports. -/
structure SettlementReportSource (Body : Type) where
  isPull : Bool
  /-- The account in a notification that is not verified yet. -/
  peekAccount : Body → Option String
  /-- The identifier and the report of a notification, if the secret has signed it. -/
  verifyAndParse : String → Body → Option (String × String)

/-- The stored configurations of the sources, the reports that are resolved and not enqueued
yet, and the jobs. -/
structure CredsState where
  creds : String → Option StoredCreds
  sources : String → List SourceRef
  pollSources : String → List SourceRef
  resolved : List SettlementReport
  jobs : List (SettlementReport × JobStatus)

def CredsState.empty : CredsState :=
  ⟨fun _ => none, fun _ => [], fun _ => [], [], []⟩

def credsName (connector account : String) : String :=
  join "::" ["cost_ingest_creds", connector, account]

/-! ## Statements -/

namespace CredsState

def get (state : CredsState) (connector account : String) : Option StoredCreds :=
  state.creds (credsName connector account)

def storeCreds (connector account : String) (creds : StoredCreds) (state : CredsState) :
    CredsState :=
  { state with
    creds := Function.update state.creds (credsName connector account) (some creds) }

def deleteCreds (connector account : String) (state : CredsState) : CredsState :=
  { state with creds := Function.update state.creds (credsName connector account) none }

def addSource (merchantId connector account : String) (state : CredsState) : CredsState :=
  let sources := state.sources merchantId
  if ⟨connector, account⟩ ∈ sources then state
  else
    { state with
      sources := Function.update state.sources merchantId (sources ++ [⟨connector, account⟩]) }

def removeSource (merchantId connector account : String) (state : CredsState) : CredsState :=
  { state with
    sources := Function.update state.sources merchantId
      ((state.sources merchantId).filter fun source => source ≠ ⟨connector, account⟩) }

def addPollSource (connector account : String) (state : CredsState) : CredsState :=
  let sources := state.pollSources connector
  if ⟨connector, account⟩ ∈ sources then state
  else
    { state with
      pollSources :=
        Function.update state.pollSources connector (sources ++ [⟨connector, account⟩]) }

/-- A job for a resolved report, unless the connector's notification has one. -/
def enqueuePending (report : SettlementReport) (state : CredsState) : CredsState :=
  let rest := state.resolved.erase report
  if state.jobs.any fun job =>
      job.1.connector = report.connector ∧ job.1.notificationId = report.notificationId then
    { state with resolved := rest }
  else { state with resolved := rest, jobs := state.jobs ++ [(report, .pending)] }

def markJob (report : SettlementReport) (status : JobStatus) (state : CredsState) : CredsState :=
  { state with
    jobs := state.jobs.map fun job => if job.1 = report then (report, status) else job }

end CredsState

/-- The first statements of a request that fails at a later one. -/
def runStatements (reach : ℕ) (statements : List (CredsState → CredsState)) (state : CredsState) :
    CredsState :=
  (statements.take reach).foldl (fun state statement => statement state) state

/-! ## Requests and background jobs -/

/-- The merchant who calls is authenticated; the merchant of the path is not compared with
it.  A request may fail after each of its statements. -/
inductive CredsAction (Body : Type) where
  | put (caller merchantId connector account webhookSecret downloadAuth : String) (reach : ℕ)
  | delete (caller merchantId connector account : String) (reach : ℕ)
  | webhook (connector : String) (body : Body)
  | poll (connector : String) (source : SourceRef) (ready : List (String × String))
  | enqueue (report : SettlementReport)
  | claim (report : SettlementReport)
  | process (report : SettlementReport) (succeeds : Bool)

section Actions

variable {Body : Type} (registry : String → Option (SettlementReportSource Body))

def isPullConnector (connector : String) : Bool :=
  match registry connector with
  | none => false
  | some source => source.isPull

/-- The report of a notification, for the merchant whose secret has signed it. -/
def handleWebhook (connector : String) (body : Body) (state : CredsState) :
    Option SettlementReport := do
  let source ← registry connector
  let account ← source.peekAccount body
  let creds ← state.get connector account
  let note ← source.verifyAndParse creds.webhookSecret body
  return ⟨connector, account, creds.merchantId, note.1, note.2⟩

/-- The reports that are ready for a polled account. -/
def pollSource (connector account : String) (ready : List (String × String))
    (state : CredsState) : List SettlementReport :=
  match state.get connector account with
  | none => []
  | some creds =>
      ready.map fun report => ⟨connector, account, creds.merchantId, report.1, report.2⟩

def applyAction (state : CredsState) : CredsAction Body → CredsState
  | .put _ merchantId connector account webhookSecret downloadAuth reach =>
      runStatements reach
        [.storeCreds connector account ⟨merchantId, webhookSecret, downloadAuth⟩,
          .addSource merchantId connector account,
          if isPullConnector registry connector then .addPollSource connector account else id]
        state
  | .delete _ merchantId connector account reach =>
      if (state.get connector account).isNone then state
      else
        runStatements reach
          [.deleteCreds connector account, .removeSource merchantId connector account] state
  | .webhook connector body =>
      { state with
        resolved := state.resolved ++ (handleWebhook registry connector body state).toList }
  | .poll connector source ready =>
      if isPullConnector registry connector ∧ source ∈ state.pollSources connector then
        { state with
          resolved := state.resolved ++ pollSource connector source.account ready state }
      else state
  | .enqueue report => if report ∈ state.resolved then state.enqueuePending report else state
  | .claim report =>
      if (report, .pending) ∈ state.jobs then state.markJob report .processing else state
  | .process report succeeds =>
      if (report, .processing) ∈ state.jobs then
        state.markJob report
          (finalStatus (succeeds && (state.get report.connector report.account).isSome))
      else state

/-- The credentials that a report is downloaded with, when it is ingested. -/
def downloadCreds (state : CredsState) : CredsAction Body → Option (SettlementReport × StoredCreds)
  | .process report succeeds =>
      if (report, .processing) ∈ state.jobs ∧ succeeds then
        (state.get report.connector report.account).map fun creds => (report, creds)
      else none
  | .put .. | .delete .. | .webhook .. | .poll .. | .enqueue .. | .claim .. => none

/-- The merchant whose request it is. -/
def CredsAction.caller : CredsAction Body → Option String
  | .put caller .. | .delete caller .. => some caller
  | .webhook .. | .poll .. | .enqueue .. | .claim .. | .process .. => none

/-- One request, or one step of the webhook, the poller or the worker. -/
def CredsStep (state : CredsState) (action : CredsAction Body) (next : CredsState) : Prop :=
  next = applyAction registry state action

end Actions

/-! ## Ownership -/

namespace CredsState

/-- The reports that are resolved and whose ingestion has not ended. -/
def onTheWay (state : CredsState) : List SettlementReport :=
  state.resolved ++
    (state.jobs.filter fun job => job.2 = .pending ∨ job.2 = .processing).map Prod.fst

/-- The credentials stored under the name of the pair, if any, belong to the merchant. -/
def OwnedBy (state : CredsState) (connector account merchantId : String) : Prop :=
  ∀ creds, state.get connector account = some creds → creds.merchantId = merchantId

/-- Every report on its way is one of the merchant that the credentials belong to. -/
def ReportsOwned (state : CredsState) : Prop :=
  ∀ report ∈ state.onTheWay, state.OwnedBy report.connector report.account report.merchantId

end CredsState

section Ownership

variable {Body : Type} (registry : String → Option (SettlementReportSource Body))

/-- Requests are about names under which no other merchant's credentials are stored, and
credentials are not stored for an account while reports for another merchant are on their
way from it. -/
def OwnRequest (state : CredsState) : CredsAction Body → Prop
  | .put caller merchantId connector account .. =>
      state.OwnedBy connector account caller ∧
        ∀ report ∈ state.onTheWay,
          credsName report.connector report.account = credsName connector account →
            report.merchantId = merchantId
  | .delete caller _ connector account _ => state.OwnedBy connector account caller
  | .webhook .. | .poll .. | .enqueue .. | .claim .. | .process .. => True

/-- Stored credentials are changed by a request of the merchant that they belong to, and a
report is ingested for the merchant whose credentials it was downloaded with. -/
structure Respects (state : CredsState) (action : CredsAction Body) (next : CredsState) :
    Prop where
  changes : ∀ name creds, state.creds name = some creds → next.creds name ≠ some creds →
    action.caller = some creds.merchantId
  ingests : ∀ report creds, downloadCreds state action = some (report, creds) →
    report.merchantId = creds.merchantId
  /-- New reports are resolved to the merchant that the credentials belong to. -/
  resolves : ∀ report ∈ next.onTheWay, report ∉ state.onTheWay →
    ∃ creds, state.get report.connector report.account = some creds ∧
      report.merchantId = creds.merchantId

end Ownership

/-! ## What the statements leave as it is -/

namespace CredsState

variable (merchantId connector account : String) (state : CredsState)

@[simp]
theorem creds_storeCreds (creds : StoredCreds) :
    (state.storeCreds connector account creds).creds =
      Function.update state.creds (credsName connector account) (some creds) :=
  rfl

@[simp]
theorem creds_deleteCreds :
    (state.deleteCreds connector account).creds =
      Function.update state.creds (credsName connector account) none :=
  rfl

@[simp]
theorem creds_addSource :
    (state.addSource merchantId connector account).creds = state.creds := by
  unfold addSource
  dsimp only
  split <;> rfl

@[simp]
theorem creds_addPollSource : (state.addPollSource connector account).creds = state.creds := by
  unfold addPollSource
  dsimp only
  split <;> rfl

@[simp]
theorem creds_removeSource :
    (state.removeSource merchantId connector account).creds = state.creds :=
  rfl

@[simp]
theorem creds_enqueuePending (report : SettlementReport) :
    (state.enqueuePending report).creds = state.creds := by
  unfold enqueuePending
  dsimp only
  split <;> rfl

@[simp]
theorem onTheWay_storeCreds (creds : StoredCreds) :
    (state.storeCreds connector account creds).onTheWay = state.onTheWay :=
  rfl

@[simp]
theorem onTheWay_deleteCreds : (state.deleteCreds connector account).onTheWay = state.onTheWay :=
  rfl

@[simp]
theorem onTheWay_addSource :
    (state.addSource merchantId connector account).onTheWay = state.onTheWay := by
  unfold addSource
  dsimp only
  split <;> rfl

@[simp]
theorem onTheWay_addPollSource :
    (state.addPollSource connector account).onTheWay = state.onTheWay := by
  unfold addPollSource
  dsimp only
  split <;> rfl

@[simp]
theorem onTheWay_removeSource :
    (state.removeSource merchantId connector account).onTheWay = state.onTheWay :=
  rfl

variable {merchantId connector account state}

theorem mem_onTheWay {report : SettlementReport} :
    report ∈ state.onTheWay ↔
      report ∈ state.resolved ∨
        (report, .pending) ∈ state.jobs ∨ (report, .processing) ∈ state.jobs := by
  simp only [onTheWay, List.mem_append, List.mem_map, List.mem_filter, decide_eq_true_eq]
  apply or_congr_right
  constructor
  · rintro ⟨⟨_, status⟩, ⟨listed, isPending | isProcessing⟩, rfl⟩
    · exact Or.inl (isPending ▸ listed)
    · exact Or.inr (isProcessing ▸ listed)
  · rintro (listed | listed)
    · exact ⟨_, ⟨listed, Or.inl rfl⟩, rfl⟩
    · exact ⟨_, ⟨listed, Or.inr rfl⟩, rfl⟩

/-- A report that was resolved is on its way as a job. -/
theorem mem_of_mem_enqueuePending {report other : SettlementReport}
    (resolved : report ∈ state.resolved)
    (listed : other ∈ (state.enqueuePending report).onTheWay) : other ∈ state.onTheWay := by
  unfold enqueuePending at listed
  dsimp only at listed
  split at listed <;> rw [mem_onTheWay] at listed ⊢
  · exact listed.imp_left List.mem_of_mem_erase
  · simp only [List.mem_append, List.mem_singleton, Prod.mk.injEq] at listed
    rcases listed with isResolved | (job | ⟨rfl, -⟩) | (job | ⟨-, isPending⟩)
    · exact Or.inl (List.mem_of_mem_erase isResolved)
    · exact Or.inr (Or.inl job)
    · exact Or.inl resolved
    · exact Or.inr (Or.inr job)
    · cases isPending

/-- A job that is not finished stays on its way, or it ends. -/
theorem mem_of_mem_markJob {report other : SettlementReport} {status : JobStatus}
    (unfinished : report ∈ state.onTheWay)
    (listed : other ∈ (state.markJob report status).onTheWay) : other ∈ state.onTheWay := by
  have isJob : ∀ next, (other, next) ∈ (state.markJob report status).jobs →
      (other, next) ∈ state.jobs ∨ other = report := by
    intro next marked
    rcases List.mem_map.mp marked with ⟨job, isOld, isMarked⟩
    split at isMarked
    · exact Or.inr (congrArg Prod.fst isMarked).symm
    · rw [← isMarked]
      exact Or.inl isOld
  rw [mem_onTheWay] at listed
  rcases listed with isResolved | marked | marked
  · exact mem_onTheWay.mpr (Or.inl isResolved)
  · rcases isJob _ marked with isOld | rfl
    · exact mem_onTheWay.mpr (Or.inr (Or.inl isOld))
    · exact unfinished
  · rcases isJob _ marked with isOld | rfl
    · exact mem_onTheWay.mpr (Or.inr (Or.inr isOld))
    · exact unfinished

theorem mem_onTheWay_resolve {reports : List SettlementReport} {report : SettlementReport} :
    report ∈ ({ state with resolved := state.resolved ++ reports } : CredsState).onTheWay ↔
      report ∈ state.onTheWay ∨ report ∈ reports := by
  rw [mem_onTheWay, mem_onTheWay, List.mem_append]
  tauto

end CredsState

/-! ## Steps -/

section Steps

variable {Body : Type} {registry : String → Option (SettlementReportSource Body)}
  {state : CredsState}

/-- A request to store credentials changes those of its own name only, and no report. -/
theorem applyAction_put (caller merchantId connector account webhookSecret downloadAuth : String)
    (reach : ℕ) :
    let next := applyAction registry state
      (.put caller merchantId connector account webhookSecret downloadAuth reach)
    next.onTheWay = state.onTheWay ∧
      (next.creds = state.creds ∨
        next.creds = Function.update state.creds (credsName connector account)
          (some ⟨merchantId, webhookSecret, downloadAuth⟩)) := by
  cases isPull : isPullConnector registry connector <;>
    rcases reach with _ | _ | _ | reach <;>
    simp [applyAction, runStatements, isPull]

theorem applyAction_delete (caller merchantId connector account : String) (reach : ℕ) :
    let next := applyAction registry state (.delete caller merchantId connector account reach)
    next.onTheWay = state.onTheWay ∧
      (next.creds = state.creds ∨
        next.creds = Function.update state.creds (credsName connector account) none) := by
  dsimp only [applyAction]
  split
  · exact ⟨rfl, Or.inl rfl⟩
  · rcases reach with _ | _ | reach <;> simp [runStatements]

variable {report : SettlementReport}

theorem merchantId_handleWebhook {connector : String} {body : Body}
    (handled : handleWebhook registry connector body state = some report) :
    ∃ creds, state.get report.connector report.account = some creds ∧
      report.merchantId = creds.merchantId := by
  simp only [handleWebhook, Option.bind_eq_bind, Option.pure_def, Option.bind_eq_some_iff,
    Option.some.injEq] at handled
  rcases handled with ⟨source, -, account, -, creds, found, note, -, rfl⟩
  exact ⟨creds, found, rfl⟩

theorem merchantId_pollSource {connector account : String} {ready : List (String × String)}
    (listed : report ∈ pollSource connector account ready state) :
    ∃ creds, state.get report.connector report.account = some creds ∧
      report.merchantId = creds.merchantId := by
  unfold pollSource at listed
  cases found : state.get connector account with
  | none =>
      rw [found] at listed
      cases listed
  | some creds =>
      rw [found] at listed
      rcases List.mem_map.mp listed with ⟨ready, -, rfl⟩
      exact ⟨creds, found, rfl⟩

/-- A table that is changed at a name by an update is updated at that name. -/
theorem eq_of_update_ne {creds : String → Option StoredCreds} {name updated : String}
    {value : Option StoredCreds} (changed : Function.update creds updated value name ≠ creds name) :
    name = updated := by
  by_contra other
  exact changed (Function.update_of_ne other ..)

variable {action : CredsAction Body}

/-- Only requests change the stored credentials, and only those of one name. -/
theorem creds_applyAction {name : String}
    (changed : (applyAction registry state action).creds name ≠ state.creds name) :
    (∃ caller merchantId connector account webhookSecret downloadAuth reach,
      action = .put caller merchantId connector account webhookSecret downloadAuth reach ∧
        name = credsName connector account ∧
        (applyAction registry state action).creds name =
          some ⟨merchantId, webhookSecret, downloadAuth⟩) ∨
    ∃ caller merchantId connector account reach,
      action = .delete caller merchantId connector account reach ∧
        name = credsName connector account ∧
        (applyAction registry state action).creds name = none := by
  cases action with
  | put caller merchantId connector account webhookSecret downloadAuth reach =>
      rcases applyAction_put caller merchantId connector account webhookSecret downloadAuth reach
        with ⟨-, same | updated⟩
      · exact absurd (congrFun same name) changed
      · rw [updated] at changed ⊢
        cases eq_of_update_ne changed
        exact Or.inl ⟨_, _, _, _, _, _, _, rfl, rfl, Function.update_self ..⟩
  | delete caller merchantId connector account reach =>
      rcases applyAction_delete caller merchantId connector account reach with ⟨-, same | updated⟩
      · exact absurd (congrFun same name) changed
      · rw [updated] at changed ⊢
        cases eq_of_update_ne changed
        exact Or.inr ⟨_, _, _, _, _, rfl, rfl, Function.update_self ..⟩
  | webhook connector body => exact absurd rfl changed
  | poll connector source ready =>
      dsimp only [applyAction] at changed
      split at changed <;> exact absurd rfl changed
  | enqueue report =>
      dsimp only [applyAction] at changed
      split at changed
      · rw [CredsState.creds_enqueuePending] at changed
        exact absurd rfl changed
      · exact absurd rfl changed
  | claim report =>
      dsimp only [applyAction] at changed
      split at changed <;> exact absurd rfl changed
  | process report succeeds =>
      dsimp only [applyAction] at changed
      split at changed <;> exact absurd rfl changed

/-- A report that comes on its way is resolved to the owner of its account's credentials. -/
theorem resolves_applyAction (listed : report ∈ (applyAction registry state action).onTheWay) :
    report ∈ state.onTheWay ∨
      ∃ creds, state.get report.connector report.account = some creds ∧
        report.merchantId = creds.merchantId := by
  cases action with
  | put caller merchantId connector account webhookSecret downloadAuth reach =>
      rw [(applyAction_put ..).1] at listed
      exact Or.inl listed
  | delete caller merchantId connector account reach =>
      rw [(applyAction_delete ..).1] at listed
      exact Or.inl listed
  | webhook connector body =>
      refine (CredsState.mem_onTheWay_resolve.mp listed).imp_right fun isNew => ?_
      exact merchantId_handleWebhook (Option.mem_toList.mp isNew)
  | poll connector source ready =>
      dsimp only [applyAction] at listed
      split at listed
      · exact (CredsState.mem_onTheWay_resolve.mp listed).imp_right merchantId_pollSource
      · exact Or.inl listed
  | enqueue other =>
      dsimp only [applyAction] at listed
      split at listed
      · next resolved => exact Or.inl (CredsState.mem_of_mem_enqueuePending resolved listed)
      · exact Or.inl listed
  | claim other =>
      dsimp only [applyAction] at listed
      split at listed
      · next pending =>
          have unfinished := CredsState.mem_onTheWay.mpr (Or.inr (Or.inl pending))
          exact Or.inl (CredsState.mem_of_mem_markJob unfinished listed)
      · exact Or.inl listed
  | process other succeeds =>
      dsimp only [applyAction] at listed
      split at listed
      · next processing =>
          have unfinished := CredsState.mem_onTheWay.mpr (Or.inr (Or.inr processing))
          exact Or.inl (CredsState.mem_of_mem_markJob unfinished listed)
      · exact Or.inl listed

/-- A step from a state whose reports are owned leads to such a state. -/
theorem reportsOwned_applyAction (owned : state.ReportsOwned) (allowed : OwnRequest state action) :
    (applyAction registry state action).ReportsOwned := by
  intro report listed creds found
  by_cases same : (applyAction registry state action).get report.connector report.account =
      state.get report.connector report.account
  · rw [same] at found
    rcases resolves_applyAction listed with earlier | ⟨stored, isStored, isOwner⟩
    · exact owned report earlier creds found
    · rw [found] at isStored
      rw [isOwner, Option.some.inj isStored]
  · rcases creds_applyAction same with
      ⟨caller, merchantId, connector, account, webhookSecret, downloadAuth, reach, rfl, isName,
        stored⟩ | ⟨caller, merchantId, connector, account, reach, rfl, isName, deleted⟩
    · rw [(applyAction_put ..).1] at listed
      rw [CredsState.get, stored] at found
      cases found
      exact (allowed.2 report listed isName).symm
    · rw [CredsState.get, deleted] at found
      cases found

/-- A request about own credentials respects those of the others. -/
theorem respects_applyAction (owned : state.ReportsOwned) (allowed : OwnRequest state action) :
    Respects state action (applyAction registry state action) := by
  constructor
  · intro name creds stored changed
    rw [← stored] at changed
    rcases creds_applyAction changed with
      ⟨caller, merchantId, connector, account, webhookSecret, downloadAuth, reach, rfl, rfl, -⟩ |
      ⟨caller, merchantId, connector, account, reach, rfl, rfl, -⟩
    · exact congrArg some (allowed.1 creds stored).symm
    · exact congrArg some (allowed creds stored).symm
  · intro report creds downloaded
    cases action with
    | process job succeeds =>
        rw [downloadCreds] at downloaded
        split at downloaded
        · next processing =>
            rcases Option.map_eq_some_iff.mp downloaded with ⟨stored, found, isPair⟩
            cases isPair
            have unfinished := CredsState.mem_onTheWay.mpr (Or.inr (Or.inr processing.1))
            exact (owned report unfinished creds found).symm
        · cases downloaded
    | _ => cases downloaded
  · intro report listed isNew
    exact (resolves_applyAction listed).resolve_left isNew

/-- In a run of requests about own credentials, stored credentials are changed and deleted by
requests of the merchant that they belong to, and every report is resolved and ingested for
the merchant that its account's credentials belong to. -/
theorem credsOwned_of_run {trace : List (CredsAction Body)}
    (run : Run (fun state action next => CredsStep registry state action next ∧
      OwnRequest state action) .empty trace state) :
    Run (fun state action next => CredsStep registry state action next ∧
      Respects state action next) .empty trace state ∧ state.ReportsOwned := by
  induction run with
  | refl => exact ⟨.refl, fun _ listed => absurd listed List.not_mem_nil⟩
  | snoc run last ih =>
      rcases ih with ⟨respected, owned⟩
      rcases last with ⟨rfl, allowed⟩
      exact ⟨respected.snoc ⟨rfl, respects_applyAction owned allowed⟩,
        reportsOwned_applyAction owned allowed⟩

end Steps

/-! ## Requests of another merchant -/

/-- A connector whose notifications carry the account, the secret, the identifier and the
report. -/
def plainSource : SettlementReportSource (List String) where
  isPull := false
  peekAccount body := body.head?
  verifyAndParse secret body :=
    match body with
    | [_, signature, notificationId, reportRef] =>
        if signature = secret then some (notificationId, reportRef) else none
    | _ => none

def plainRegistry (connector : String) : Option (SettlementReportSource (List String)) :=
  if connector = "adyen" then some plainSource else none

abbrev PlainAction : Type :=
  CredsAction (List String)

def runActions (actions : List PlainAction) : CredsState :=
  actions.foldl (applyAction plainRegistry) .empty

theorem run_runActions (actions : List PlainAction) :
    Run (CredsStep plainRegistry) .empty actions (runActions actions) := by
  have allowed : AllowedActions (applyAction plainRegistry) (fun _ _ => True) .empty actions :=
    allowedActions_of_forall (fun _ _ => trivial) _ actions
  exact (run_foldl allowed).mono fun _ _ _ step => step.1

/-- Merchant m1 stores the credentials of its account. -/
def ownPut : PlainAction :=
  .put "m1" "m1" "adyen" "AcmeEU" "secret" "user:pass" 3

/-- Merchant m2 stores credentials of its own for the same account. -/
def foreignPut : PlainAction :=
  .put "m2" "m2" "adyen" "AcmeEU" "other" "user2:pass2" 3

def foreignDelete : PlainAction :=
  .delete "m2" "m2" "adyen" "AcmeEU" 2

/-- A notification of the account, with a signature. -/
def notification (signature : String) : PlainAction :=
  .webhook "adyen" ["AcmeEU", signature, "note-1", "report-1"]

def accountReport (merchantId : String) : SettlementReport :=
  ⟨"adyen", "AcmeEU", merchantId, "note-1", "report-1"⟩

/-- The report of the merchant m1 from its notification to the end of its ingestion, between a
change and the deletion of its credentials. -/
def ownActions : List PlainAction :=
  [ownPut, .put "m1" "m1" "adyen" "AcmeEU" "other" "user:next" 3, notification "other",
    .enqueue (accountReport "m1"), .claim (accountReport "m1"),
    .process (accountReport "m1") true, .delete "m1" "m1" "adyen" "AcmeEU" 2]

theorem credsOwned_of_run_own :
    Run (fun state action next => CredsStep plainRegistry state action next ∧
      Respects state action next) .empty ownActions (runActions ownActions) ∧
      (runActions ownActions).ReportsOwned := by
  have owned {state : CredsState} {creds : StoredCreds}
      (isStored : state.get "adyen" "AcmeEU" = some creds) (isOwner : creds.merchantId = "m1") :
      state.OwnedBy "adyen" "AcmeEU" "m1" := by
    intro other isOther
    rw [isStored] at isOther
    cases isOther
    exact isOwner
  apply credsOwned_of_run
  apply run_foldl
  exact ⟨⟨nofun, nofun⟩, ⟨owned rfl rfl, nofun⟩, trivial, trivial, trivial, trivial,
    owned rfl rfl, trivial⟩

/-- A merchant replaces or deletes the credentials of another one.  From then on the reports
of the account are ingested for it, and those on their way are downloaded with its own
credentials. -/
theorem credsOwned_of_run_counterexample :
    Run (CredsStep plainRegistry) .empty [ownPut] (runActions [ownPut]) ∧
      ¬ Respects (runActions [ownPut]) foreignPut (runActions [ownPut, foreignPut]) ∧
      ¬ Respects (runActions [ownPut]) foreignDelete (runActions [ownPut, foreignDelete]) ∧
      (runActions [ownPut, foreignPut, notification "other"]).onTheWay = [accountReport "m2"] ∧
      downloadCreds
          (runActions [ownPut, notification "secret", .enqueue (accountReport "m1"),
            .claim (accountReport "m1"), foreignPut])
          (.process (accountReport "m1") true : PlainAction) =
        some (accountReport "m1", ⟨"m2", "other", "user2:pass2"⟩) := by
  have stored : (runActions [ownPut]).creds (credsName "adyen" "AcmeEU") =
      some ⟨"m1", "secret", "user:pass"⟩ := by decide +kernel
  refine ⟨run_runActions _, fun respects => ?_, fun respects => ?_, by decide +kernel,
    by decide +kernel⟩
  · have isOwner := respects.changes _ _ stored (by decide +kernel)
    revert isOwner
    decide
  · have isOwner := respects.changes _ _ stored (by decide +kernel)
    revert isOwner
    decide

end DecisionEngine.CostIngestion
