import DecisionEngine.Cache.Aside
import DecisionEngine.CostIngestion.Serving

/-!
# Concurrent refreshes of the served models

The periodic refresh of all merchants and the refresh of one merchant read the model
tables one after the other and later swap the cache.  Fits change the tables meanwhile.
A slow refresh of all merchants publishes over the newer models of one.

The cached models of a merchant are those of the tables in the end, when every outdated
swap is made while another refresh is under way that will publish the right ones.
-/

namespace DecisionEngine.CostIngestion

open Cache Map Text Transition

/-- What a refresh reads. -/
structure ServingTables where
  cost : CostTables
  overlays : String → Overlays
  /-- The merchants in the indices of the overlays. -/
  overlayMerchants : List String

structure ServingState where
  tables : ServingTables
  cache : HashMap String MerchantModels

/-- One merchant, or all of them. -/
abbrev Scope := Option String

def inScope (scope : Scope) (merchantId : String) : Bool :=
  scope.all fun own => own = merchantId

namespace ServingTables

variable (scope : Scope)

def costRows (tables : ServingTables) : List CostRow :=
  (costSql tables.cost.feeModel).filter fun row => inScope scope row.merchantId

def predictorRows (tables : ServingTables) : List PredictorRow :=
  (predictorSql tables.cost.dailyStats).filter fun row => inScope scope row.merchantId

def segmentRows (tables : ServingTables) : List SegmentRow :=
  match scope with
  | some merchantId => segmentSql merchantId tables.cost.segments
  | none =>
      (tables.cost.segments.map fun row => row.account.merchantId).dedup.flatMap fun merchantId =>
        segmentSql merchantId tables.cost.segments

def rows (tables : ServingTables) : ServingRows :=
  ⟨tables.costRows scope, tables.predictorRows scope, tables.segmentRows scope⟩

/-- The overlays that a refresh loads for a merchant. -/
def loadOverlays (tables : ServingTables) (merchantId : String) : Overlays :=
  match scope with
  | some _ => tables.overlays merchantId
  | none =>
      if merchantId ∈ tables.overlayMerchants then tables.overlays merchantId else Overlays.none

end ServingTables

section Refresh

variable [LetterCase] (order : AssemblyOrder)

/-! ## Snapshots -/

/-- The merchants with an entry in a snapshot. -/
def snapshotMerchants (scope : Scope) (rows : ServingRows) (tables : ServingTables) :
    List String :=
  match scope with
  | some merchantId => [merchantId]
  | none =>
      rows.cost.map CostRow.merchantId ++
        (rows.segments.map fun row => row.account.merchantId) ++
        rows.predictor.map PredictorRow.merchantId ++ tables.overlayMerchants

/-- The models of the merchants from the rows that were read and the overlays. -/
def buildSnapshot (scope : Scope) (rows : ServingRows) (tables : ServingTables) :
    HashMap String MerchantModels :=
  insertKeys ∅ (snapshotMerchants scope rows tables) fun merchantId =>
    buildModel order merchantId rows (tables.loadOverlays scope merchantId)

/-- The models that a merchant is served with, if there are any. -/
def servedModels (merchantId : String) (cache : HashMap String MerchantModels) :
    Option MerchantModels :=
  (cache.lookup merchantId).filter fun models => ¬ models.isEmpty

/-- The whole cache is replaced, or the entry of one merchant. -/
def publishSnapshot (scope : Scope) (snapshot cache : HashMap String MerchantModels) :
    HashMap String MerchantModels :=
  match scope with
  | none => snapshot
  | some merchantId =>
      match servedModels merchantId snapshot with
      | some models => cache.insert merchantId models
      | none => cache.erase merchantId

/-- The models of a merchant that the tables give. -/
def currentModels (merchantId : String) (tables : ServingTables) : Option MerchantModels :=
  servedModels merchantId
    (buildSnapshot order (some merchantId) (tables.rows (some merchantId)) tables)

/-! ## Processes -/

/-- What a process does next: the statements of a fit, or the reads of a refresh and
then its swap. -/
inductive RefreshState where
  | fit (statements : List (ServingTables → ServingTables))
  | start (scope : Scope)
  | loadCost (scope : Scope)
  | loadPredictor (scope : Scope) (cost : List CostRow)
  | loadSegments (scope : Scope) (cost : List CostRow) (predictor : List PredictorRow)
  | loadOverlays (scope : Scope) (rows : ServingRows)
  | publish (scope : Scope) (snapshot : HashMap String MerchantModels)
  | finished

inductive RefreshEvent where
  | changed
  | began (scope : Scope)
  | read
  | published (scope : Scope)
  deriving DecidableEq

def refreshProcess : Process ServingState RefreshState RefreshEvent
  | .fit [], _ => none
  | .fit (statement :: rest), state =>
      some (.changed, .fit rest, { state with tables := statement state.tables })
  | .start scope, state => some (.began scope, .loadCost scope, state)
  | .loadCost scope, state =>
      some (.read, .loadPredictor scope (state.tables.costRows scope), state)
  | .loadPredictor scope cost, state =>
      some (.read, .loadSegments scope cost (state.tables.predictorRows scope), state)
  | .loadSegments scope cost predictor, state =>
      some (.read, .loadOverlays scope ⟨cost, predictor, state.tables.segmentRows scope⟩, state)
  | .loadOverlays scope rows, state =>
      some (.read, .publish scope (buildSnapshot order scope rows state.tables), state)
  | .publish scope snapshot, state =>
      some (.published scope, .finished,
        { state with cache := publishSnapshot scope snapshot state.cache })
  | .finished, _ => none

/-- What a refresh will publish if the tables stay as they are. -/
def RefreshState.snapshot (tables : ServingTables) :
    RefreshState → Option (Scope × HashMap String MerchantModels)
  | .fit _ | .finished => none
  | .start scope | .loadCost scope =>
      some (scope, buildSnapshot order scope (tables.rows scope) tables)
  | .loadPredictor scope cost =>
      some (scope, buildSnapshot order scope
        ⟨cost, tables.predictorRows scope, tables.segmentRows scope⟩ tables)
  | .loadSegments scope cost predictor =>
      some (scope, buildSnapshot order scope
        ⟨cost, predictor, tables.segmentRows scope⟩ tables)
  | .loadOverlays scope rows => some (scope, buildSnapshot order scope rows tables)
  | .publish scope snapshot => some (scope, snapshot)

/-- What a refresh will put into the entry of a merchant. -/
def outcome (merchantId : String) (state : RefreshState) (tables : ServingTables) :
    Option (Option MerchantModels) :=
  (state.snapshot order tables).bind fun (scope, snapshot) =>
    if inScope scope merchantId then some (servedModels merchantId snapshot) else none

/-- The entry of a merchant. -/
def cachedModels (merchantId : String) (state : ServingState) : Option MerchantModels :=
  servedModels merchantId state.cache

/-- A swap of outdated models is made while another refresh will publish the right ones. -/
def SwapsInOrder {ι : Type} (merchantId : String) (config : Config ServingState ι RefreshState)
    (index : ι) : Prop :=
  ∀ scope snapshot, config.locals index = .publish scope snapshot →
    Sound ServingState.tables (currentModels order merchantId) (outcome order merchantId) config
      index

/-- After the last change of the tables a refresh of the merchant began. -/
def RefreshedAfterLastFit {ι : Type} (merchantId : String) (trace : List (ι × RefreshEvent)) :
    Prop :=
  ∃ before index after, trace = before ++ (index, .began (some merchantId)) :: after ∧
    ∀ label ∈ after, label.2 ≠ .changed

variable {order} {merchantId : String}

section

omit [LetterCase]

theorem inScope_own (merchantId : String) : inScope (some merchantId) merchantId = true :=
  decide_eq_true rfl

/-- A swap replaces the entry of every merchant in its scope. -/
theorem servedModels_publishSnapshot {scope : Scope}
    (covers : inScope scope merchantId = true) (snapshot cache : HashMap String MerchantModels) :
    servedModels merchantId (publishSnapshot scope snapshot cache) =
      servedModels merchantId snapshot := by
  cases scope with
  | none => rfl
  | some own =>
      have isOwn : own = merchantId := of_decide_eq_true covers
      rw [isOwn, publishSnapshot]
      cases served : servedModels merchantId snapshot with
      | none => rw [servedModels, AList.lookup_erase, Option.filter_none]
      | some models =>
          have notEmpty := (Option.filter_eq_some_iff.mp served).2
          rw [servedModels, AList.lookup_insert, Option.filter_some, if_pos notEmpty]

/-- A swap keeps the entry of every other merchant. -/
theorem servedModels_publishSnapshot_of_not {scope : Scope}
    (excludes : ¬ inScope scope merchantId = true)
    (snapshot cache : HashMap String MerchantModels) :
    servedModels merchantId (publishSnapshot scope snapshot cache) =
      servedModels merchantId cache := by
  cases scope with
  | none => exact absurd rfl excludes
  | some own =>
      have different : merchantId ≠ own := fun same => excludes (decide_eq_true same.symm)
      rw [publishSnapshot]
      cases servedModels own snapshot with
      | none => rw [servedModels, AList.lookup_erase_ne different, servedModels]
      | some models => rw [servedModels, AList.lookup_insert_ne different, servedModels]

end

/-- A refresh of the merchant that has just begun will publish the right models. -/
theorem outcome_loadCost (tables : ServingTables) :
    outcome order merchantId (.loadCost (some merchantId)) tables =
      some (currentModels order merchantId tables) := by
  exact if_pos (inScope_own merchantId)

/-! ## Runs -/

section Run

variable {ι : Type} [DecidableEq ι]

variable {trace : List (ι × RefreshEvent)}

omit [LetterCase] [DecidableEq ι] in
theorem refreshedAfterLastFit_snoc {label : ι × RefreshEvent}
    (refreshed : RefreshedAfterLastFit merchantId (trace ++ [label])) :
    label.2 ≠ .changed ∧
      (label.2 = .began (some merchantId) ∨ RefreshedAfterLastFit merchantId trace) := by
  rcases refreshed with ⟨before, index, after, split, unchanged⟩
  rcases List.eq_nil_or_concat after with rfl | ⟨earlier, last, rfl⟩
  · rcases List.append_inj' split rfl with ⟨-, isBegan⟩
    rw [List.singleton_inj] at isBegan
    rw [isBegan]
    exact ⟨nofun, Or.inl rfl⟩
  · rw [List.concat_eq_append] at split unchanged
    rw [← List.cons_append, ← List.append_assoc] at split
    rcases List.append_inj' split rfl with ⟨sameTrace, isLast⟩
    rw [List.singleton_inj] at isLast
    rw [isLast]
    refine ⟨unchanged last (List.mem_append_right earlier List.mem_cons_self), Or.inr ?_⟩
    exact ⟨before, index, earlier, sameTrace,
      fun label listed => unchanged label (List.mem_append_left [last] listed)⟩

/-- A process changes the tables, or reads for a refresh, or swaps the cache. -/
theorem refreshProcess_cases {state nextState : RefreshState} {shared next : ServingState}
    {event : RefreshEvent}
    (steps : refreshProcess order state shared = some (event, nextState, next)) :
    event = .changed ∨
      (next = shared ∧ nextState.snapshot order shared.tables =
        state.snapshot order shared.tables) ∨
      ∃ scope snapshot, state = .publish scope snapshot ∧ nextState = .finished ∧
        next = { shared with cache := publishSnapshot scope snapshot shared.cache } := by
  cases state with
  | fit statements =>
      cases statements with
      | nil => cases steps
      | cons statement rest =>
          cases steps
          exact Or.inl rfl
  | publish scope snapshot =>
      cases steps
      exact Or.inr (Or.inr ⟨scope, snapshot, rfl, rfl, rfl⟩)
  | finished => cases steps
  | start | loadCost | loadPredictor | loadSegments | loadOverlays =>
      cases steps
      exact Or.inr (Or.inl ⟨rfl, rfl⟩)

theorem refreshProcess_began {scope : Scope} {state nextState : RefreshState}
    {shared next : ServingState}
    (steps : refreshProcess order state shared = some (.began scope, nextState, next)) :
    nextState = .loadCost scope ∧ next = shared := by
  cases state with
  | start own =>
      cases steps
      exact ⟨rfl, rfl⟩
  | fit statements =>
      cases statements with
      | nil => cases steps
      | cons => cases steps
  | loadCost | loadPredictor | loadSegments | loadOverlays | publish | finished => cases steps

/-- A step without a change keeps the entry refreshing. -/
theorem refreshing_move {config next : Config ServingState ι RefreshState}
    {label : ι × RefreshEvent}
    (refreshing : Refreshing ServingState.tables (cachedModels merchantId)
      (currentModels order merchantId) (outcome order merchantId) config)
    (inOrder : SwapsInOrder order merchantId config label.1)
    (moves : Moves (refreshProcess order) config label next) (unchanged : label.2 ≠ .changed) :
    Refreshing ServingState.tables (cachedModels merchantId) (currentModels order merchantId)
      (outcome order merchantId) next := by
  rcases moves with ⟨steps⟩
  rename_i index event nextLocal shared
  rcases refreshProcess_cases steps with
    changed | ⟨rfl, kept⟩ | ⟨scope, snapshot, isLocal, rfl, rfl⟩
  · exact absurd changed unchanged
  · apply refreshing.reads rfl rfl
    rw [outcome, outcome, kept]
  · have ofPublish : outcome order merchantId (config.locals index) config.shared.tables =
        if inScope scope merchantId then some (servedModels merchantId snapshot) else none := by
      rw [isLocal]
      rfl
    let published : ServingState :=
      { config.shared with cache := publishSnapshot scope snapshot config.shared.cache }
    by_cases covers : inScope scope merchantId = true
    · have entry : cachedModels merchantId published = servedModels merchantId snapshot :=
        servedModels_publishSnapshot covers snapshot config.shared.cache
      rw [if_pos covers] at ofPublish
      exact Refreshing.publishes (inOrder scope snapshot isLocal) rfl ofPublish entry
    · have entry : cachedModels merchantId published = cachedModels merchantId config.shared :=
        servedModels_publishSnapshot_of_not covers snapshot config.shared.cache
      rw [if_neg covers] at ofPublish
      exact refreshing.reads rfl entry ofPublish.symm

variable {start config : Config ServingState ι RefreshState}

/-- Once a refresh of the merchant has begun after the last change, its entry is or will
be right. -/
theorem refreshing_of_run {trace : List (ι × RefreshEvent)}
    (run : Run (fun config label next => Moves (refreshProcess order) config label next ∧
      SwapsInOrder order merchantId config label.1) start trace config)
    (refreshed : RefreshedAfterLastFit merchantId trace) :
    Refreshing ServingState.tables (cachedModels merchantId) (currentModels order merchantId)
      (outcome order merchantId) config := by
  revert refreshed
  apply run.invariant_of_allowed (fun trace config => RefreshedAfterLastFit merchantId trace →
    Refreshing ServingState.tables (cachedModels merchantId) (currentModels order merchantId)
      (outcome order merchantId) config)
  · rintro ⟨before, index, after, split, -⟩
    exact absurd split.symm (by simp)
  · intro trace middle label target holds inOrder moves refreshed
    rcases refreshedAfterLastFit_snoc refreshed with ⟨unchanged, began | earlier⟩
    · rcases moves with ⟨steps⟩
      rename_i index event nextLocal shared
      change event = .began (some merchantId) at began
      rw [began] at steps
      rcases refreshProcess_began steps with ⟨rfl, rfl⟩
      refine Or.inr ⟨index, ?_⟩
      dsimp only
      rw [Function.update_self]
      exact outcome_loadCost middle.shared.tables
    · exact refreshing_move (holds earlier) inOrder moves unchanged

/-- In a run whose swaps are in order, once every refresh has completed and one of the
merchant began after the last change of the tables, the cached models of the merchant are
those of the tables. -/
theorem cachedModels_eq_of_run {start config : Config ServingState ι RefreshState}
    {trace : List (ι × RefreshEvent)}
    (run : Run (fun config label next => Moves (refreshProcess order) config label next ∧
      SwapsInOrder order merchantId config label.1) start trace config)
    (done : config.Done (refreshProcess order))
    (refreshed : RefreshedAfterLastFit merchantId trace) :
    cachedModels merchantId config.shared =
      currentModels order merchantId config.shared.tables := by
  apply (refreshing_of_run run refreshed).settled
  intro index
  have stopped := done index
  cases isLocal : config.locals index with
  | fit => rfl
  | finished => rfl
  | start | loadCost | loadPredictor | loadSegments | loadOverlays | publish =>
      rw [isLocal] at stopped
      cases stopped

end Run

end Refresh

/-! ## A slow refresh of all merchants -/

section Slow

local instance asciiCase : LetterCase := .ascii

/-- A good model of the merchant. -/
def goodModel : FeeModelRow :=
  { reportDate := 1
    account := ⟨"adyen", "acc", "m1"⟩
    cluster := ⟨"visa", "visacredit", "credit", "DE", "EUR", "consumer", ""⟩
    pctBps := some 120
    fixed := some (1 / 10)
    n := 500
    bpsRmse := some 3
    r2 := some (99 / 100)
    grossSum := 50000
    verdict := .good }

/-- No models yet. -/
def unfitted : ServingState :=
  ⟨⟨⟨⟨[], []⟩, [], []⟩, fun _ => Overlays.none, []⟩, ∅⟩

/-- The statement of a fit that inserts the model. -/
def insertGoodModel (tables : ServingTables) : ServingTables :=
  { tables with
    cost := { tables.cost with feeModel := tables.cost.feeModel ++ [goodModel] } }

local instance threeRefreshes : NeZero (3 : ℕ) :=
  ⟨by decide⟩

/-- A refresh of all merchants, a fit, and the refresh of the merchant after it. -/
def fitAndRefresh : Fin 3 → RefreshState
  | 0 => .fit [insertGoodModel]
  | 1 => .start none
  | 2 => .start (some "m1")

def startRefreshes : Config ServingState (Fin 3) RefreshState :=
  ⟨unfitted, fitAndRefresh⟩

/-- The refresh of all merchants has read before the fit, and swaps while the refresh of the
merchant is still reading. -/
def repairedSchedule : List (Fin 3) :=
  [1, 1, 1, 1, 1, 0, 2, 1, 2, 2, 2, 2, 2]

theorem cachedModels_eq_of_run_repaired :
    cachedModels "m1" (runSchedule (refreshProcess .stored) startRefreshes
        repairedSchedule).shared =
      currentModels .stored "m1" (runSchedule (refreshProcess .stored) startRefreshes
        repairedSchedule).shared.tables := by
  have inOrder : AllowedSchedule (refreshProcess .stored) (SwapsInOrder .stored "m1")
      startRefreshes repairedSchedule := by
    refine ⟨nofun, nofun, nofun, nofun, nofun, nofun, nofun, ?_, nofun, nofun, nofun, nofun, ?_,
      trivial⟩
    · intro scope snapshot _ value _
      exact Or.inr ⟨2, by decide, outcome_loadCost _⟩
    · intro scope snapshot _ value promised
      exact Or.inl (Option.some.inj (promised.symm.trans rfl))
  apply cachedModels_eq_of_run (run_scheduleTrace _ inOrder)
  · intro index
    match index with
    | 0 => rfl
    | 1 => rfl
    | 2 => rfl
  · exact ⟨(scheduleTrace (refreshProcess .stored) startRefreshes repairedSchedule).take 6, 2,
      (scheduleTrace (refreshProcess .stored) startRefreshes repairedSchedule).drop 7,
      by decide, by decide⟩

/-- The refresh of all merchants swaps last, and the merchant has no models again. -/
theorem cachedModels_eq_of_run_counterexample :
    ∃ trace config, Interleaving (refreshProcess .stored) startRefreshes trace config ∧
      config.Done (refreshProcess .stored) ∧ RefreshedAfterLastFit "m1" trace ∧
      cachedModels "m1" config.shared = none ∧
      currentModels .stored "m1" config.shared.tables ≠ none := by
  let schedule : List (Fin 3) := [1, 1, 1, 1, 1, 0, 2, 2, 2, 2, 2, 2, 1]
  refine ⟨_, _, interleaving_scheduleTrace (refreshProcess .stored) startRefreshes schedule, ?_,
    ?_, by decide, ?_⟩
  · intro index
    match index with
    | 0 => rfl
    | 1 => rfl
    | 2 => rfl
  · exact ⟨(scheduleTrace (refreshProcess .stored) startRefreshes schedule).take 6, 2,
      (scheduleTrace (refreshProcess .stored) startRefreshes schedule).drop 7,
      by decide, by decide⟩
  · rw [← Option.isSome_iff_ne_none]
    decide +kernel

end Slow

end DecisionEngine.CostIngestion
