import DecisionEngine.Merchant.HierarchySync
import DecisionEngine.Transition.Interleaving

/-!
# Concurrent syncs

Syncs run at the same time.  Each reads a list of ids, and in a later step writes back the
list with its own ids merged into it, so that what another sync has written in between is
lost.  Nothing is lost when every list still has only ids that were read when it is written.
-/

namespace DecisionEngine.Merchant

open Json Map Transition

/-! ## Steps -/

/-- What a sync does next. -/
inductive SyncStage where
  | placing (occurrences : List Occurrence)
  | merging (updates : List IndexUpdate)
  | writing (update : IndexUpdate) (list : List String) (updates : List IndexUpdate)

structure RunningSync where
  request : HierarchyRequest
  stage : SyncStage

/-- The first step of an update: the ids that are listed. -/
def IndexUpdate.load (update : IndexUpdate) (stored : Stored) : List String :=
  update.kind.read (stored.configs update.key)

/-- The second step: the entry is written with the ids of the tree merged into the list. -/
def IndexUpdate.store (update : IndexUpdate) (list : List String) (stored : Stored) : Stored :=
  { stored with
    configs := Function.update stored.configs update.key
      (update.text (mergeIds list update.ids)) }

def syncProcess : Process Stored RunningSync Unit := fun own stored =>
  match own.stage with
  | .placing [] => some ((), { own with stage := .merging (indexUpdates own.request.orgs) }, stored)
  | .placing (occurrence :: rest) =>
      some ((), { own with stage := .placing rest },
        (syncOccurrence own.request.syncedAt (stored, ⟨0, 0, 0⟩) occurrence).1)
  | .merging [] => none
  | .merging (update :: rest) =>
      some ((), { own with stage := .writing update (update.load stored) rest }, stored)
  | .writing update list rest =>
      some ((), { own with stage := .merging rest }, update.store list stored)

/-- The lists that a sync has not yet written. -/
def RunningSync.remaining (own : RunningSync) : List IndexUpdate :=
  match own.stage with
  | .placing _ => indexUpdates own.request.orgs
  | .merging updates => updates
  | .writing update _ updates => update :: updates

/-- Syncs before their first step. -/
def startSyncs {ι : Type} (stored : Stored) (requests : ι → HierarchyRequest) :
    Config Stored ι RunningSync :=
  ⟨stored, fun index => ⟨requests index, .placing (occurrences (requests index).orgs)⟩⟩

/-- A list that a sync is about to write has no ids that it has not read. -/
def WritesLatest {ι : Type} (config : Config Stored ι RunningSync) (index : ι) : Prop :=
  ∀ update list rest, (config.locals index).stage = .writing update list rest →
    ∀ id ∈ update.load config.shared, id ∈ list

/-- The ids of the update are in the list. -/
def Merged (stored : Stored) (update : IndexUpdate) : Prop :=
  ∀ id ∈ update.ids, id ∈ update.load stored

section Steps

variable {stored : Stored} {update other : IndexUpdate} {list : List String}

theorem load_store_of_key_eq (sameKey : other.key = update.key)
    (sameKind : other.kind = update.kind) :
    other.load (update.store list stored) = mergeIds list update.ids := by
  rw [IndexUpdate.load, IndexUpdate.store, sameKey, sameKind]
  dsimp only
  rw [Function.update_self, read_text]

theorem load_store_of_key_ne (different : other.key ≠ update.key) :
    other.load (update.store list stored) = other.load stored := by
  rw [IndexUpdate.load, IndexUpdate.store]
  dsimp only
  rw [Function.update_of_ne different]
  rfl

/-- The list of the organisations apart, what is listed stays listed when the list that is
written has all the ids there are. -/
theorem mem_load_store (latest : ∀ id ∈ update.load stored, id ∈ list)
    (notIndex : other.key ≠ orgIndexKey) {id : String} (listed : id ∈ other.load stored) :
    id ∈ other.load (update.store list stored) := by
  by_cases sameKey : other.key = update.key
  · have sameKind := kind_eq_of_key_eq sameKey notIndex
    rw [load_store_of_key_eq sameKey sameKind]
    rw [IndexUpdate.load, sameKey, sameKind] at listed
    exact mem_mergeIds.mpr (.inl (latest id listed))
  · rwa [load_store_of_key_ne sameKey]

theorem merged_store (stored : Stored) (update : IndexUpdate) (list : List String) :
    Merged (update.store list stored) update := by
  intro id isOwn
  rw [load_store_of_key_eq rfl rfl]
  exact mem_mergeIds.mpr (.inr isOwn)

/-- A step keeps the request and every id that is listed, and a list that it has no longer to
write has the ids that were to be merged into it. -/
theorem syncProcess_step {own next : RunningSync} {shared : Stored}
    (steps : syncProcess own stored = some ((), next, shared))
    (latest : ∀ update list rest, own.stage = .writing update list rest →
      ∀ id ∈ update.load stored, id ∈ list) :
    next.request = own.request ∧
      (∀ other : IndexUpdate, other.key ≠ orgIndexKey →
        ∀ id ∈ other.load stored, id ∈ other.load shared) ∧
      ∀ other ∈ own.remaining, other ∈ next.remaining ∨ Merged shared other := by
  rcases own with ⟨request, stage⟩
  cases stage with
  | placing pending =>
      cases pending with
      | nil =>
          cases steps
          exact ⟨rfl, fun _ _ _ listed => listed, fun _ remains => .inl remains⟩
      | cons occurrence rest =>
          cases steps
          have configs := configs_foldl request.syncedAt [occurrence] (stored, ⟨0, 0, 0⟩)
          rw [List.foldl_cons, List.foldl_nil] at configs
          refine ⟨rfl, fun other _ id listed => ?_, fun _ remains => .inl remains⟩
          rw [IndexUpdate.load, configs]
          exact listed
  | merging pending =>
      cases pending with
      | nil => cases steps
      | cons update rest =>
          cases steps
          exact ⟨rfl, fun _ _ _ listed => listed, fun _ remains => .inl remains⟩
  | writing update list rest =>
      cases steps
      refine ⟨rfl, fun other notIndex id listed => ?_, fun other remains => ?_⟩
      · exact mem_load_store (latest update list rest rfl) notIndex listed
      · rcases List.mem_cons.mp remains with rfl | later
        · exact .inr (merged_store stored other list)
        · exact .inl later

end Steps

/-! ## Runs -/

section Run

variable {ι : Type} [DecidableEq ι] {requests : ι → HierarchyRequest}

theorem key_ne_orgIndexKey {request : HierarchyRequest} (noIndex : NoIndexOrg request)
    {update : IndexUpdate} (ofNode : update ∈ nodeUpdates request.orgs) :
    update.key ≠ orgIndexKey := by
  intro isIndex
  rcases mem_nodeUpdates.mp ofNode with ⟨org, -, merchant, -, rfl⟩ | ⟨org, listed, rfl⟩
  · exact merchantKey_ne_orgIndexKey _ isIndex
  · exact noIndex org listed (orgKey_eq_orgIndexKey_iff.mp isIndex)

/-- Every list that a sync does not still have to write has the ids of its tree. -/
structure Merging (requests : ι → HierarchyRequest) (config : Config Stored ι RunningSync) :
    Prop where
  own : ∀ index, (config.locals index).request = requests index
  merged : ∀ index, ∀ update ∈ nodeUpdates (requests index).orgs,
    update ∈ (config.locals index).remaining ∨ Merged config.shared update

omit [DecidableEq ι] in
theorem merging_start (stored : Stored) (requests : ι → HierarchyRequest) :
    Merging requests (startSyncs stored requests) :=
  ⟨fun _ => rfl, fun _ _ ofNode => .inl (List.mem_append_left _ ofNode)⟩

theorem Merging.move (noIndex : ∀ index, NoIndexOrg (requests index))
    {config next : Config Stored ι RunningSync} {label : ι × Unit}
    (merging : Merging requests config) (latest : WritesLatest config label.1)
    (moves : Moves syncProcess config label next) : Merging requests next := by
  rcases moves with ⟨steps⟩
  rename_i index event nextOwn shared
  rcases syncProcess_step steps latest with ⟨sameRequest, keeps, writes⟩
  refine ⟨fun other => ?_, fun other update ofNode => ?_⟩
  · dsimp only
    by_cases moved : other = index
    · rw [moved, Function.update_self, sameRequest]
      exact merging.own index
    · rw [Function.update_of_ne moved]
      exact merging.own other
  · have keepsMerged : Merged config.shared update → Merged shared update :=
      fun merged id isOwn =>
        keeps update (key_ne_orgIndexKey (noIndex other) ofNode) id (merged id isOwn)
    dsimp only
    rcases merging.merged other update ofNode with remains | merged
    · by_cases moved : other = index
      · rw [moved] at remains ⊢
        rw [Function.update_self]
        exact writes update remains
      · rw [Function.update_of_ne moved]
        exact .inl remains
    · exact .inr (keepsMerged merged)

/-- A sync that is done has no list left to write. -/
theorem remaining_of_done {own : RunningSync} {stored : Stored}
    (stopped : syncProcess own stored = none) : own.remaining = [] := by
  rcases own with ⟨request, stage⟩
  cases stage with
  | placing pending => cases pending <;> cases stopped
  | merging pending =>
      cases pending with
      | nil => rfl
      | cons update rest => cases stopped
  | writing update list rest => cases stopped

/-- The scopes of a tree are listed by their merchants, and the merchants by their
organisations. -/
def TreeListed (stored : Stored) (orgs : List OrgNode) : Prop :=
  ∀ org ∈ orgs, ∀ merchant ∈ org.merchants,
    merchant.merchantId ∈ listedMerchants stored org.orgId ∧
      ∀ profile ∈ merchant.profiles,
        profile.profileId ∈ listedProfiles stored merchant.merchantId

theorem treeListed_of_merged {stored : Stored} {orgs : List OrgNode}
    (merged : ∀ update ∈ nodeUpdates orgs, Merged stored update) : TreeListed stored orgs := by
  intro org isOrg merchant isMerchant
  constructor
  · exact merged (.org org) (mem_nodeUpdates.mpr (.inr ⟨org, isOrg, rfl⟩)) _
      (List.mem_map_of_mem isMerchant)
  · intro profile isProfile
    exact merged (.merchant org merchant)
      (mem_nodeUpdates.mpr (.inl ⟨org, isOrg, merchant, isMerchant, rfl⟩)) _
      (List.mem_map_of_mem isProfile)

/-- In a run of syncs, none of them of an organisation with the name of the list of the
organisations, whose lists still have only ids that were read when they are written, all that
was synced is listed once every sync is done. -/
theorem treeListed_of_run {stored : Stored} (noIndex : ∀ index, NoIndexOrg (requests index))
    {trace : List (ι × Unit)} {config : Config Stored ι RunningSync}
    (run : Run (fun config label next => Moves syncProcess config label next ∧
      WritesLatest config label.1) (startSyncs stored requests) trace config)
    (done : config.Done syncProcess) (index : ι) :
    TreeListed config.shared (requests index).orgs := by
  have merging : Merging requests config := by
    apply run.invariant_of_allowed fun _ config => Merging requests config
    · exact merging_start stored requests
    · intro _ middle label target merging latest moves
      exact merging.move noIndex latest moves
  apply treeListed_of_merged
  intro update ofNode
  rcases merging.merged index update ofNode with remains | merged
  · rw [remaining_of_done (done index)] at remains
    cases remains
  · exact merged

end Run

/-! ## A lost scope -/

section Lost

/-- Two syncs of one merchant, each with a scope of its own. -/
def twoSyncs : Config Stored Bool RunningSync :=
  startSyncs Stored.empty fun second =>
    { orgs :=
        [{ orgId := "org"
           orgName := none
           merchants :=
             [⟨"merchant", none, [⟨if second then "profile_2" else "profile_1", none⟩]⟩] }]
      reportStranded := false
      syncedAt := "2026-08-13T10:04:00Z" }

/-- One sync after the other. -/
def syncsInOrder : List Bool :=
  List.replicate 8 false ++ List.replicate 8 true

/-- The two syncs step by step in turn. -/
def syncsInTurn : List Bool :=
  (List.replicate 8 [false, true]).flatten

theorem treeListed_of_run_inOrder :
    TreeListed (runSchedule syncProcess twoSyncs syncsInOrder).shared
        (twoSyncs.locals false).request.orgs ∧
      TreeListed (runSchedule syncProcess twoSyncs syncsInOrder).shared
        (twoSyncs.locals true).request.orgs := by
  have latest : AllowedSchedule syncProcess WritesLatest twoSyncs syncsInOrder := by
    refine ⟨nofun, nofun, nofun, ?_, nofun, ?_, nofun, ?_, nofun, nofun, nofun, ?_, nofun, ?_,
      nofun, ?_, trivial⟩ <;>
    · rintro update list rest isWrite id listed
      cases isWrite
      exact listed
  have noIndex : ∀ second, NoIndexOrg (twoSyncs.locals second).request := by
    unfold NoIndexOrg
    decide
  have done : (runSchedule syncProcess twoSyncs syncsInOrder).Done syncProcess := by
    intro index
    cases index <;> rfl
  exact ⟨treeListed_of_run noIndex (run_scheduleTrace syncProcess latest) done _,
    treeListed_of_run noIndex (run_scheduleTrace syncProcess latest) done _⟩

/-- Both syncs read the empty list of the merchant, and the scope of the one that writes last is
listed alone. -/
theorem treeListed_of_run_counterexample :
    ∃ trace config, Interleaving syncProcess twoSyncs trace config ∧
      config.Done syncProcess ∧
      listedProfiles config.shared "merchant" = ["profile_2"] ∧
      ¬TreeListed config.shared (twoSyncs.locals false).request.orgs := by
  have last : listedProfiles (runSchedule syncProcess twoSyncs syncsInTurn).shared "merchant" =
      ["profile_2"] := by
    decide +kernel
  refine ⟨_, _, interleaving_scheduleTrace syncProcess twoSyncs syncsInTurn, ?_, last, ?_⟩
  · intro index
    cases index <;> rfl
  · intro treeListed
    have listed := (treeListed _ List.mem_cons_self _ List.mem_cons_self).2 _ List.mem_cons_self
    change "profile_1" ∈ listedProfiles _ "merchant" at listed
    rw [last] at listed
    revert listed
    decide

end Lost

end DecisionEngine.Merchant
