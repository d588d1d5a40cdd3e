import DecisionEngine.Map.Grouped
import DecisionEngine.Merchant.HierarchyStore
import DecisionEngine.Transition.Run
import Mathlib.Algebra.GroupWithZero.Nat

/-!
# Syncing the tree of merchants

A sync takes a tree, or any part of it.  It writes the ancestry of every scope that is new or
has changed, and then merges the scopes, merchants and organisations of the tree into the
lists.
-/

namespace DecisionEngine.Merchant

open Json Map Transition

/-! ## Requests -/

structure ProfileNode where
  profileId : String
  profileName : Option String

structure MerchantNode where
  merchantId : String
  merchantName : Option String
  profiles : List ProfileNode

structure OrgNode where
  orgId : String
  orgName : Option String
  merchants : List MerchantNode

/-- A request, with the time at which it is made. -/
structure HierarchyRequest where
  orgs : List OrgNode
  reportStranded : Bool
  syncedAt : String

structure SyncCounts where
  created : Nat
  updated : Nat
  unchanged : Nat

structure SyncResponse where
  orgsSeen : Nat
  merchantsSeen : Nat
  profilesCreated : Nat
  profilesUpdated : Nat
  profilesUnchanged : Nat
  stranded : List String

/-! ## Ancestry -/

/-- The ancestry that a tree names for a scope. -/
def desired (syncedAt : String) (org : OrgNode) (merchant : MerchantNode) (profile : ProfileNode) :
    Hierarchy where
  v := shapeVersion
  hsOrgId := org.orgId
  hsOrgName := org.orgName
  hsMerchantId := merchant.merchantId
  hsMerchantName := merchant.merchantName
  profileName := profile.profileName
  syncedAt := some syncedAt

/-- The stored ancestry is the desired one but for the time of the sync. -/
def isUnchanged (current : Option Hierarchy) (desired : Hierarchy) : Bool :=
  current.any fun stored => { stored with syncedAt := desired.syncedAt } = desired

def syncProfile (syncedAt : String) (org : OrgNode) (merchant : MerchantNode)
    (state : Stored × SyncCounts) (profile : ProfileNode) : Stored × SyncCounts :=
  let desired := desired syncedAt org merchant profile
  match state.1.loadMerchantByMerchantId profile.profileId with
  | none =>
      ((state.1.insertMerchantAccount profile.profileId).updateMerchantHierarchy profile.profileId
        desired, { state.2 with created := state.2.created + 1 })
  | some account =>
      if isUnchanged account.hierarchy desired then
        (state.1, { state.2 with unchanged := state.2.unchanged + 1 })
      else
        (state.1.updateMerchantHierarchy profile.profileId desired,
          { state.2 with updated := state.2.updated + 1 })

def syncProfiles (syncedAt : String) (orgs : List OrgNode) (stored : Stored) :
    Stored × SyncCounts :=
  orgs.foldl
    (fun state org => org.merchants.foldl
      (fun state merchant => merchant.profiles.foldl (syncProfile syncedAt org merchant) state)
      state)
    (stored, ⟨0, 0, 0⟩)

/-! ## Lists -/

/-- Append the ids that are not there. -/
def mergeIds (existing incoming : List String) : List String :=
  incoming.foldl (fun list id => if id ∈ list then list else list ++ [id]) existing

def mergeMerchant (org : OrgNode) (stored : Stored) (merchant : MerchantNode) : Stored :=
  let profileIds := mergeIds (listedProfiles stored merchant.merchantId)
    (merchant.profiles.map ProfileNode.profileId)
  stored.storeMerchant merchant.merchantId
    ⟨shapeVersion, merchant.merchantName, some org.orgId, profileIds⟩

def mergeOrg (stored : Stored) (org : OrgNode) : Stored :=
  let stored := org.merchants.foldl (mergeMerchant org) stored
  let merchantIds := mergeIds (listedMerchants stored org.orgId)
    (org.merchants.map MerchantNode.merchantId)
  stored.storeOrg org.orgId ⟨shapeVersion, org.orgName, merchantIds⟩

def writeReverseIndexes (orgs : List OrgNode) (stored : Stored) : Stored :=
  let stored := orgs.foldl mergeOrg stored
  let orgIds := mergeIds (listedOrgs stored) (orgs.map OrgNode.orgId)
  stored.storeOrgIndex ⟨shapeVersion, orgIds⟩

/-! ## Syncs -/

/-- A scope with the id of a merchant of the tree and of no scope of it. -/
def isStranded (orgs : List OrgNode) (scopeId : String) : Bool :=
  let merchants := orgs.flatMap OrgNode.merchants
  !(merchants.any fun merchant =>
      merchant.profiles.any fun profile => profile.profileId = scopeId) &&
    merchants.any fun merchant => merchant.merchantId = scopeId

def collectStranded (orgs : List OrgNode) (stored : Stored) : List String :=
  (stored.accounts.map MerchantAccount.merchantId).filter (isStranded orgs)

variable (request : HierarchyRequest)

def syncHierarchy (stored : Stored) : SyncResponse × Stored :=
  let synced := syncProfiles request.syncedAt request.orgs stored
  let next := writeReverseIndexes request.orgs synced.1
  ({ orgsSeen := request.orgs.length
     merchantsSeen := (request.orgs.map fun org => org.merchants.length).sum
     profilesCreated := synced.2.created
     profilesUpdated := synced.2.updated
     profilesUnchanged := synced.2.unchanged
     stranded := if request.reportStranded then collectStranded request.orgs next else [] }, next)

/-! ## Updates of the lists -/

/-- What an entry lists. -/
inductive IndexKind where
  | profiles
  | merchants
  | orgs
  deriving DecidableEq

/-- The ids that the value of a configuration lists. -/
def IndexKind.read (kind : IndexKind) (value : Option (Option StoredText)) : List String :=
  match kind with
  | .profiles => ((readText MerchantEntry.ofValue value).map MerchantEntry.profileIds).getD []
  | .merchants => ((readText OrgEntry.ofValue value).map OrgEntry.merchantIds).getD []
  | .orgs => ((readText OrgIndex.ofValue value).map OrgIndex.orgIds).getD []

/-- One list that a tree is merged into. -/
inductive IndexUpdate where
  | merchant (org : OrgNode) (merchant : MerchantNode)
  | org (org : OrgNode)
  | orgs (orgs : List OrgNode)

namespace IndexUpdate

def kind : IndexUpdate → IndexKind
  | .merchant .. => .profiles
  | .org .. => .merchants
  | .orgs .. => .orgs

def key : IndexUpdate → String
  | .merchant _ node => merchantKey node.merchantId
  | .org node => orgKey node.orgId
  | .orgs _ => orgIndexKey

/-- The ids that are merged into the list. -/
def ids : IndexUpdate → List String
  | .merchant _ node => node.profiles.map ProfileNode.profileId
  | .org node => node.merchants.map MerchantNode.merchantId
  | .orgs nodes => nodes.map OrgNode.orgId

variable (update : IndexUpdate)

/-- The entry with a list. -/
def entry (list : List String) : Value :=
  match update with
  | .merchant parent node =>
      MerchantEntry.toValue ⟨shapeVersion, node.merchantName, some parent.orgId, list⟩
  | .org node => OrgEntry.toValue ⟨shapeVersion, node.orgName, list⟩
  | .orgs _ => OrgIndex.toValue ⟨shapeVersion, list⟩

def text (list : List String) : Option (Option StoredText) :=
  some (some (.json (update.entry list)))

def cell (value : Option (Option StoredText)) :
    Option (Option StoredText) :=
  update.text (mergeIds (update.kind.read value) update.ids)

end IndexUpdate

/-- The lists that a sync updates before the list of the organisations. -/
def nodeUpdates (orgs : List OrgNode) : List IndexUpdate :=
  orgs.flatMap fun org => org.merchants.map (IndexUpdate.merchant org) ++ [.org org]

/-- The lists that a sync updates, in their order. -/
def indexUpdates (orgs : List OrgNode) : List IndexUpdate :=
  nodeUpdates orgs ++ [.orgs orgs]

def applyUpdate (stored : Stored) (update : IndexUpdate) : Stored :=
  { stored with configs := updateCell IndexUpdate.key IndexUpdate.cell stored.configs update }

/-- A sync makes the updates one after the other. -/
theorem writeReverseIndexes_eq (orgs : List OrgNode) (stored : Stored) :
    writeReverseIndexes orgs stored = (indexUpdates orgs).foldl applyUpdate stored := by
  have merges : mergeOrg = fun stored org =>
      (org.merchants.map (IndexUpdate.merchant org) ++ [.org org]).foldl applyUpdate stored := by
    funext stored org
    rw [List.foldl_append, List.foldl_map]
    rfl
  rw [indexUpdates, nodeUpdates, List.foldl_append, List.foldl_flatMap, ← merges]
  rfl

theorem foldl_applyUpdate (updates : List IndexUpdate) (stored : Stored) :
    updates.foldl applyUpdate stored =
      { stored with
        configs :=
          updates.foldl (updateCell IndexUpdate.key IndexUpdate.cell) stored.configs } := by
  induction updates generalizing stored with
  | nil => rfl
  | cons update rest ih => exact ih (applyUpdate stored update)

/-! ## Merging -/

section Merging

variable {existing incoming : List String} {id : String}

theorem mem_mergeIds : id ∈ mergeIds existing incoming ↔ id ∈ existing ∨ id ∈ incoming := by
  rw [mergeIds]
  induction incoming generalizing existing with
  | nil => simp
  | cons first rest ih =>
      rw [List.foldl_cons, ih, List.mem_cons]
      split
      · next listed =>
          constructor
          · exact Or.imp_right .inr
          · rintro (old | rfl | new)
            · exact .inl old
            · exact .inl listed
            · exact .inr new
      · rw [List.mem_append, List.mem_singleton, or_assoc]

theorem mergeIds_of_subset (subset : ∀ id ∈ incoming, id ∈ existing) :
    mergeIds existing incoming = existing := by
  rw [mergeIds]
  induction incoming with
  | nil => rfl
  | cons first rest ih =>
      rcases List.forall_mem_cons.mp subset with ⟨listed, others⟩
      rw [List.foldl_cons, if_pos listed]
      exact ih others

theorem mergeIds_append (first second : List String) :
    mergeIds existing (first ++ second) = mergeIds (mergeIds existing first) second :=
  List.foldl_append ..

/-- An entry is read as the list that was written. -/
theorem read_text (update : IndexUpdate) (list : List String) :
    update.kind.read (update.text list) = list := by
  cases update with
  | merchant parent node =>
      have read := MerchantEntry.ofValue_toValue
        ⟨shapeVersion, node.merchantName, some parent.orgId, list⟩ rfl
      simp only [IndexUpdate.kind, IndexKind.read, IndexUpdate.text, IndexUpdate.entry, readText,
        read, Option.map_some, Option.getD_some]
  | org node =>
      have read := OrgEntry.ofValue_toValue ⟨shapeVersion, node.orgName, list⟩ rfl
      simp only [IndexUpdate.kind, IndexKind.read, IndexUpdate.text, IndexUpdate.entry, readText,
        read, Option.map_some, Option.getD_some]
  | orgs nodes =>
      have read := OrgIndex.ofValue_toValue ⟨shapeVersion, list⟩ rfl
      simp only [IndexUpdate.kind, IndexKind.read, IndexUpdate.text, IndexUpdate.entry, readText,
        read, Option.map_some, Option.getD_some]

/-- The entry of an organisation lists no organisations. -/
theorem read_orgs_text_org (org : OrgNode) (list : List String) :
    IndexKind.orgs.read ((IndexUpdate.org org).text list) = [] := by
  rcases org with ⟨orgId, _ | orgName, merchants⟩ <;>
  simp [IndexKind.read, readText, IndexUpdate.text, IndexUpdate.entry, OrgEntry.toValue,
    optionalField, OrgIndex.ofValue, recordFields, lookupField, smallNumber_shapeVersion, textList]

end Merging

/-! ## The lists after a sync -/

section Lists

variable {kind : IndexKind} {updates : List IndexUpdate} {value : Option (Option StoredText)}

/-- The value of a configuration after updates of it. -/
def cellsAfter (updates : List IndexUpdate) (value : Option (Option StoredText)) :
    Option (Option StoredText) :=
  updates.foldl (fun value update => update.cell value) value

theorem cellsAfter_concat (update : IndexUpdate) :
    cellsAfter (updates ++ [update]) value = update.cell (cellsAfter updates value) :=
  List.foldl_concat ..

/-- Updates of one kind merge all their ids into the list. -/
theorem read_cellsAfter (same : ∀ update ∈ updates, update.kind = kind) :
    kind.read (cellsAfter updates value) =
      mergeIds (kind.read value) (updates.flatMap IndexUpdate.ids) := by
  induction updates using List.reverseRecOn with
  | nil => rfl
  | append_singleton updates update ih =>
      have isKind := same update (List.mem_append_right _ (List.mem_singleton_self update))
      rw [cellsAfter_concat, ← isKind, IndexUpdate.cell, read_text, isKind,
        ih fun other listed => same other (List.mem_append_left _ listed), List.flatMap_append,
        mergeIds_append, List.flatMap_singleton]

/-- Updates of one kind can be repeated. -/
theorem cellsAfter_idem (same : ∀ update ∈ updates, update.kind = kind) :
    cellsAfter updates (cellsAfter updates value) = cellsAfter updates value := by
  rcases List.eq_nil_or_concat' updates with rfl | ⟨before, last, rfl⟩
  · rfl
  · have written : ∀ start, cellsAfter (before ++ [last]) start =
        last.text (mergeIds (kind.read start) ((before ++ [last]).flatMap IndexUpdate.ids)) := by
      intro start
      have isKind := same last (List.mem_append_right _ (List.mem_singleton_self last))
      rw [cellsAfter_concat, IndexUpdate.cell, isKind,
        read_cellsAfter fun other listed => same other (List.mem_append_left _ listed),
        List.flatMap_append, mergeIds_append, List.flatMap_singleton]
    rw [written, read_cellsAfter same, mergeIds_of_subset, written]
    exact fun id listed => mem_mergeIds.mpr (.inr listed)

/-- What the list of the organisations is merged into is lost when an organisation has its
name. -/
theorem cellsAfter_orgs (orgs : List OrgNode) (node : OrgNode) (before : List IndexUpdate) :
    cellsAfter (before ++ [.org node] ++ [.orgs orgs]) value =
      (IndexUpdate.orgs orgs).text (mergeIds [] (orgs.map OrgNode.orgId)) := by
  rw [cellsAfter_concat, cellsAfter_concat, IndexUpdate.cell, IndexUpdate.cell]
  change (IndexUpdate.orgs orgs).text (mergeIds (IndexKind.orgs.read
    ((IndexUpdate.org node).text _)) _) = _
  rw [read_orgs_text_org]
  rfl

/-- Updates of one configuration are of one kind, but for the list of the organisations. -/
theorem kind_eq_of_key_eq {first second : IndexUpdate} (same : first.key = second.key)
    (notIndex : first.key ≠ orgIndexKey) : first.kind = second.kind := by
  cases first with
  | merchant parent node =>
      cases second with
      | merchant => rfl
      | org other => exact absurd same (merchantKey_ne_orgKey _ _)
      | orgs => exact absurd same notIndex
  | org node =>
      cases second with
      | merchant parent other => exact absurd same.symm (merchantKey_ne_orgKey _ _)
      | org => rfl
      | orgs => exact absurd same notIndex
  | orgs nodes => exact absurd rfl notIndex

theorem mem_nodeUpdates {orgs : List OrgNode} {update : IndexUpdate} :
    update ∈ nodeUpdates orgs ↔
      (∃ org ∈ orgs, ∃ merchant ∈ org.merchants, update = .merchant org merchant) ∨
        ∃ org ∈ orgs, update = .org org := by
  rw [nodeUpdates, List.mem_flatMap]
  constructor
  · rintro ⟨org, listed, isUpdate⟩
    rcases List.mem_append.mp isUpdate with ofMerchant | ofOrg
    · rcases List.mem_map.mp ofMerchant with ⟨merchant, below, rfl⟩
      exact .inl ⟨org, listed, merchant, below, rfl⟩
    · exact .inr ⟨org, listed, List.mem_singleton.mp ofOrg⟩
  · rintro (⟨org, listed, merchant, below, rfl⟩ | ⟨org, listed, rfl⟩)
    · exact ⟨org, listed, List.mem_append_left _ (List.mem_map_of_mem below)⟩
    · exact ⟨org, listed, List.mem_append_right _ (List.mem_singleton_self _)⟩

/-- A node whose update is of the list of the organisations is an organisation. -/
theorem isOrg_of_key {orgs : List OrgNode} {update : IndexUpdate}
    (ofNode : update ∈ nodeUpdates orgs) (isIndex : update.key = orgIndexKey) :
    ∃ org, update = .org org := by
  rcases mem_nodeUpdates.mp ofNode with ⟨org, -, merchant, -, rfl⟩ | ⟨org, -, rfl⟩
  · exact absurd isIndex (merchantKey_ne_orgIndexKey _)
  · exact ⟨org, rfl⟩

/-- The updates of one configuration can be repeated. -/
theorem cellsAfter_indexUpdates_idem (orgs : List OrgNode) (name : String)
    (value : Option (Option StoredText)) :
    cellsAfter (updatesOf IndexUpdate.key (indexUpdates orgs) name)
        (cellsAfter (updatesOf IndexUpdate.key (indexUpdates orgs) name) value) =
      cellsAfter (updatesOf IndexUpdate.key (indexUpdates orgs) name) value := by
  by_cases isIndex : name = orgIndexKey
  · subst isIndex
    have last : updatesOf IndexUpdate.key [IndexUpdate.orgs orgs] orgIndexKey = [.orgs orgs] :=
      updatesOf_cons_self (IndexUpdate.orgs orgs) []
    rw [indexUpdates, updatesOf_append, last]
    rcases List.eq_nil_or_concat' (updatesOf IndexUpdate.key (nodeUpdates orgs) orgIndexKey) with
      none | ⟨before, update, isLast⟩
    · rw [none]
      exact cellsAfter_idem fun update listed => by rw [List.mem_singleton.mp listed]
    · have ofNode := mem_updatesOf.mp
        (isLast ▸ List.mem_append_right before (List.mem_singleton_self update))
      rcases isOrg_of_key ofNode.1 ofNode.2 with ⟨org, rfl⟩
      rw [isLast, cellsAfter_orgs, cellsAfter_orgs]
  · rcases updates : updatesOf IndexUpdate.key (indexUpdates orgs) name with _ | ⟨first, rest⟩
    · rfl
    · rw [← updates]
      have isFirst := (mem_updatesOf.mp (updates ▸ List.mem_cons_self)).2
      have same : ∀ update ∈ updatesOf IndexUpdate.key (indexUpdates orgs) name,
          update.kind = first.kind := by
        intro update listed
        have isKey := (mem_updatesOf.mp listed).2
        exact kind_eq_of_key_eq (isKey.trans isFirst.symm) (isKey ▸ isIndex)
      exact cellsAfter_idem same

theorem writeReverseIndexes_idem (orgs : List OrgNode) (stored : Stored) :
    writeReverseIndexes orgs (writeReverseIndexes orgs stored) =
      writeReverseIndexes orgs stored := by
  rw [writeReverseIndexes_eq, writeReverseIndexes_eq, foldl_applyUpdate, foldl_applyUpdate]
  congr 1
  exact foldl_updateCell_idem (fun name value => cellsAfter_indexUpdates_idem orgs name value)
    stored.configs

end Lists

/-! ## The ancestry after a sync -/

/-- A scope in a tree. -/
structure Occurrence where
  org : OrgNode
  merchant : MerchantNode
  profile : ProfileNode

/-- The scopes of a tree, in the order in which they are synced. -/
def occurrences (orgs : List OrgNode) : List Occurrence :=
  orgs.flatMap fun org => org.merchants.flatMap fun merchant =>
    merchant.profiles.map (Occurrence.mk org merchant)

/-- The ancestry without the time at which it was synced. -/
def Hierarchy.tree (hierarchy : Hierarchy) : Hierarchy :=
  { hierarchy with syncedAt := none }

namespace Occurrence

def id (occurrence : Occurrence) : String :=
  occurrence.profile.profileId

def ancestry (occurrence : Occurrence) (syncedAt : String) : Hierarchy :=
  desired syncedAt occurrence.org occurrence.merchant occurrence.profile

def tree (occurrence : Occurrence) : Hierarchy :=
  (occurrence.ancestry "").tree

end Occurrence

def syncOccurrence (syncedAt : String) (state : Stored × SyncCounts) (occurrence : Occurrence) :
    Stored × SyncCounts :=
  syncProfile syncedAt occurrence.org occurrence.merchant state occurrence.profile

/-- The stored ancestry of a scope is that of the tree. -/
def Placed (stored : Stored) (occurrence : Occurrence) : Prop :=
  (stored.ancestry occurrence.id).map Hierarchy.tree = some occurrence.tree

/-- The occurrences of a scope in a tree agree. -/
def Consistent (orgs : List OrgNode) : Prop :=
  ∀ first ∈ occurrences orgs, ∀ second ∈ occurrences orgs, first.id = second.id →
    first.tree = second.tree

theorem syncProfiles_eq (syncedAt : String) (orgs : List OrgNode) (stored : Stored) :
    syncProfiles syncedAt orgs stored =
      (occurrences orgs).foldl (syncOccurrence syncedAt) (stored, ⟨0, 0, 0⟩) := by
  rw [occurrences, List.foldl_flatMap, syncProfiles]
  congr 1
  funext state org
  rw [List.foldl_flatMap]
  congr 1
  funext state merchant
  rw [List.foldl_map]
  rfl

theorem isUnchanged_iff {current : Option Hierarchy} {occurrence : Occurrence} {syncedAt : String} :
    isUnchanged current (occurrence.ancestry syncedAt) = true ↔
      current.map Hierarchy.tree = some occurrence.tree := by
  cases current with
  | none => simp [isUnchanged]
  | some hierarchy =>
      rcases hierarchy with ⟨v, orgId, orgName, merchantId, merchantName, profileName, stamp⟩
      simp [isUnchanged, Hierarchy.tree, Occurrence.tree, Occurrence.ancestry, desired]

section Occurrences

variable {syncedAt : String} {state : Stored × SyncCounts} {occurrence : Occurrence}

/-- What the sync of a scope changes. -/
structure SyncChange (syncedAt : String) (occurrence : Occurrence) (before after : Stored) :
    Prop where
  configs : after.configs = before.configs
  own : after.ancestry occurrence.id = some (occurrence.ancestry syncedAt)
  others : ∀ other, other ≠ occurrence.id → after.ancestry other = before.ancestry other

/-- A scope that is placed already is left alone; another one is placed and counted. -/
theorem syncOccurrence_cases (syncedAt : String) (state : Stored × SyncCounts)
    (occurrence : Occurrence) :
    (Placed state.1 occurrence ∧ syncOccurrence syncedAt state occurrence =
        (state.1, { state.2 with unchanged := state.2.unchanged + 1 })) ∨
      ¬Placed state.1 occurrence ∧ ∃ next counts,
        syncOccurrence syncedAt state occurrence = (next, counts) ∧
        SyncChange syncedAt occurrence state.1 next ∧
        counts.created + counts.updated = state.2.created + state.2.updated + 1 := by
  rcases state with ⟨stored, counts⟩
  rw [syncOccurrence, syncProfile]
  dsimp only
  cases loaded : stored.loadMerchantByMerchantId occurrence.profile.profileId with
  | none =>
      right
      have absent : stored.ancestry occurrence.id = none := by
        rw [Stored.ancestry, Occurrence.id, loaded]
        rfl
      refine ⟨?_, _, _, rfl, ⟨rfl, ?_, ?_⟩, ?_⟩
      · rw [Placed, absent]
        intro placed
        cases placed
      · apply ancestry_update_self rfl
        rw [load_insertMerchantAccount_self]
        rfl
      · intro other (different : other ≠ occurrence.profile.profileId)
        rw [ancestry_update_of_ne _ different, ancestry_insert_of_ne different]
      · exact Nat.add_right_comm ..
  | some account =>
      have isAncestry : account.hierarchy = stored.ancestry occurrence.id := by
        rw [Stored.ancestry, Occurrence.id, loaded]
        rfl
      dsimp only
      rw [isAncestry]
      by_cases unchanged : isUnchanged (stored.ancestry occurrence.id)
          (occurrence.ancestry syncedAt) = true
      · left
        exact ⟨isUnchanged_iff.mp unchanged, if_pos unchanged⟩
      · right
        refine ⟨fun placed => unchanged (isUnchanged_iff.mpr placed), _, _, if_neg unchanged,
          ⟨rfl, ?_, ?_⟩, rfl⟩
        · apply ancestry_update_self rfl
          rw [loaded]
          rfl
        · intro other different
          exact ancestry_update_of_ne _ different

theorem placed_of_change {before after : Stored}
    (change : SyncChange syncedAt occurrence before after) :
    Placed after occurrence := by
  rw [Placed, change.own]
  rfl

/-- After a sync a scope of the tree is placed as one of its occurrences says, and the others
are where they were. -/
theorem ancestry_foldl (syncedAt : String) (list : List Occurrence) (state : Stored × SyncCounts)
    (profileId : String) :
    (∃ occurrence ∈ list, occurrence.id = profileId ∧
        Placed (list.foldl (syncOccurrence syncedAt) state).1 occurrence) ∨
      (∀ occurrence ∈ list, occurrence.id ≠ profileId) ∧
        (list.foldl (syncOccurrence syncedAt) state).1.ancestry profileId =
          state.1.ancestry profileId := by
  induction list generalizing state with
  | nil => exact .inr ⟨nofun, rfl⟩
  | cons occurrence rest ih =>
      rw [List.foldl_cons]
      rcases ih (syncOccurrence syncedAt state occurrence) with
        ⟨last, listed, isLast, placed⟩ | ⟨absent, same⟩
      · exact .inl ⟨last, List.mem_cons_of_mem _ listed, isLast, placed⟩
      · by_cases isScope : occurrence.id = profileId
        · subst isScope
          refine .inl ⟨occurrence, List.mem_cons_self, rfl, ?_⟩
          rw [Placed, same]
          rcases syncOccurrence_cases syncedAt state occurrence with
            ⟨placed, synced⟩ | ⟨-, next, counts, synced, change, -⟩
          · rw [synced]
            exact placed
          · rw [synced]
            exact placed_of_change change
        · refine .inr ⟨List.forall_mem_cons.mpr ⟨isScope, absent⟩, same.trans ?_⟩
          rcases syncOccurrence_cases syncedAt state occurrence with
            ⟨-, synced⟩ | ⟨-, next, counts, synced, change, -⟩
          · rw [synced]
          · rw [synced]
            exact change.others profileId (Ne.symm isScope)

theorem configs_foldl (syncedAt : String) (list : List Occurrence) (state : Stored × SyncCounts) :
    (list.foldl (syncOccurrence syncedAt) state).1.configs = state.1.configs := by
  induction list generalizing state with
  | nil => rfl
  | cons occurrence rest ih =>
      rw [List.foldl_cons, ih]
      rcases syncOccurrence_cases syncedAt state occurrence with
        ⟨-, synced⟩ | ⟨-, next, counts, synced, change, -⟩
      · rw [synced]
      · rw [synced]
        exact change.configs

/-- Nothing is written for scopes that are placed. -/
theorem foldl_of_placed {stored : Stored} {list : List Occurrence} (counts : SyncCounts)
    (placed : ∀ occurrence ∈ list, Placed stored occurrence) :
    list.foldl (syncOccurrence syncedAt) (stored, counts) =
      (stored, { counts with unchanged := counts.unchanged + list.length }) := by
  induction list generalizing counts with
  | nil => rfl
  | cons occurrence rest ih =>
      rcases List.forall_mem_cons.mp placed with ⟨isPlaced, others⟩
      rcases syncOccurrence_cases syncedAt (stored, counts) occurrence with
        ⟨-, synced⟩ | ⟨notPlaced, -⟩
      · rw [List.foldl_cons, synced, ih _ others, List.length_cons, Nat.add_comm rest.length,
          ← Nat.add_assoc]
      · exact absurd isPlaced notPlaced

theorem changes_le_foldl (syncedAt : String) (list : List Occurrence)
    (state : Stored × SyncCounts) :
    state.2.created + state.2.updated ≤
      (list.foldl (syncOccurrence syncedAt) state).2.created +
        (list.foldl (syncOccurrence syncedAt) state).2.updated := by
  induction list generalizing state with
  | nil => exact le_rfl
  | cons occurrence rest ih =>
      rw [List.foldl_cons]
      refine le_trans ?_ (ih _)
      rcases syncOccurrence_cases syncedAt state occurrence with
        ⟨-, synced⟩ | ⟨-, next, counts, synced, -, counted⟩
      · rw [synced]
      · rw [synced]
        dsimp only
        omega

/-- A sync that counts no change has found every scope placed. -/
theorem placed_of_uncounted {stored : Stored} {list : List Occurrence} (counts : SyncCounts)
    (uncounted : (list.foldl (syncOccurrence syncedAt) (stored, counts)).2.created +
      (list.foldl (syncOccurrence syncedAt) (stored, counts)).2.updated =
        counts.created + counts.updated) :
    ∀ occurrence ∈ list, Placed stored occurrence := by
  induction list generalizing counts with
  | nil => exact nofun
  | cons occurrence rest ih =>
      rw [List.foldl_cons] at uncounted
      rcases syncOccurrence_cases syncedAt (stored, counts) occurrence with
        ⟨placed, synced⟩ | ⟨-, next, nextCounts, synced, -, counted⟩
      · rw [synced] at uncounted
        exact List.forall_mem_cons.mpr ⟨placed, ih _ uncounted⟩
      · have atLeast := changes_le_foldl syncedAt rest (next, nextCounts)
        rw [synced] at uncounted
        dsimp only at atLeast counted
        omega

end Occurrences

/-! ## Syncing again -/

/-- The lists are no part of the ancestry. -/
theorem ancestry_writeReverseIndexes (orgs : List OrgNode) (stored : Stored) (profileId : String) :
    (writeReverseIndexes orgs stored).ancestry profileId = stored.ancestry profileId := by
  rw [writeReverseIndexes_eq, foldl_applyUpdate]
  rfl

/-- A second sync of the tree reports no change and leaves everything as it was. -/
structure SettledBy (request : HierarchyRequest) (later : String) (stored : Stored) : Prop where
  created : (syncHierarchy { request with syncedAt := later }
    (syncHierarchy request stored).2).1.profilesCreated = 0
  updated : (syncHierarchy { request with syncedAt := later }
    (syncHierarchy request stored).2).1.profilesUpdated = 0
  stored : (syncHierarchy { request with syncedAt := later } (syncHierarchy request stored).2).2 =
    (syncHierarchy request stored).2

theorem placed_after_iff (stored : Stored) :
    (∀ occurrence ∈ occurrences request.orgs,
      Placed (syncHierarchy request stored).2 occurrence) ↔ Consistent request.orgs := by
  have same : ∀ occurrence, Placed (syncHierarchy request stored).2 occurrence ↔
      Placed (syncProfiles request.syncedAt request.orgs stored).1 occurrence := by
    intro occurrence
    rw [Placed, Placed, syncHierarchy]
    dsimp only
    rw [ancestry_writeReverseIndexes]
  simp only [same, syncProfiles_eq]
  constructor
  · intro placed first isFirst second isSecond sameScope
    have firstPlaced := placed first isFirst
    rw [Placed, sameScope, placed second isSecond] at firstPlaced
    exact (Option.some.inj firstPlaced).symm
  · intro consistent occurrence listed
    rcases ancestry_foldl request.syncedAt (occurrences request.orgs) (stored, ⟨0, 0, 0⟩)
      occurrence.id with ⟨last, isLast, sameScope, placed⟩ | ⟨absent, -⟩
    · rw [Placed, ← sameScope, ← consistent last isLast occurrence listed sameScope]
      exact placed
    · exact absurd rfl (absent occurrence listed)

/-- A second sync settles just when the occurrences of every scope agree. -/
theorem settledBy_iff (later : String) (stored : Stored) :
    SettledBy request later stored ↔ Consistent request.orgs := by
  rw [← placed_after_iff request stored]
  constructor
  · intro settled
    have created := settled.created
    have updated := settled.updated
    rw [syncHierarchy] at created updated
    dsimp only at created updated
    rw [syncProfiles_eq] at created updated
    exact placed_of_uncounted ⟨0, 0, 0⟩ (by rw [created, updated])
  · intro placed
    have again : syncProfiles later request.orgs (syncHierarchy request stored).2 =
        ((syncHierarchy request stored).2, ⟨0, 0, (occurrences request.orgs).length⟩) := by
      rw [syncProfiles_eq]
      refine (foldl_of_placed ⟨0, 0, 0⟩ placed).trans ?_
      rw [Nat.zero_add]
    refine ⟨?_, ?_, ?_⟩
    · rw [syncHierarchy]
      dsimp only
      rw [again]
    · rw [syncHierarchy]
      dsimp only
      rw [again]
    · rw [syncHierarchy]
      dsimp only
      rw [again]
      exact writeReverseIndexes_idem request.orgs _

/-! ## Completeness of the lists -/

section Completeness

variable {orgs : List OrgNode} {stored : Stored}

variable {update : IndexUpdate} {hsMerchantId : String}

theorem kind_of_merchantKey (isKey : update.key = merchantKey hsMerchantId) :
    update.kind = .profiles := by
  cases update with
  | merchant => rfl
  | org node => exact absurd isKey.symm (merchantKey_ne_orgKey _ _)
  | orgs => exact absurd isKey.symm (merchantKey_ne_orgIndexKey _)

theorem kind_of_orgKey {hsOrgId : String} (isKey : update.key = orgKey hsOrgId)
    (notIndex : hsOrgId ≠ "INDEX") :
    update.kind = .merchants := by
  cases update with
  | merchant => exact absurd isKey (merchantKey_ne_orgKey _ _)
  | org => rfl
  | orgs => exact absurd (orgKey_eq_orgIndexKey_iff.mp isKey.symm) notIndex

/-- After a sync a list has what it had and what its updates merge into it. -/
theorem mem_read_writeReverseIndexes {kind : IndexKind} {name id : String}
    (same : ∀ update : IndexUpdate, update.key = name → update.kind = kind) :
    id ∈ kind.read ((writeReverseIndexes orgs stored).configs name) ↔
      id ∈ kind.read (stored.configs name) ∨
        ∃ update ∈ indexUpdates orgs, update.key = name ∧ id ∈ update.ids := by
  have own : (writeReverseIndexes orgs stored).configs name =
      cellsAfter (updatesOf IndexUpdate.key (indexUpdates orgs) name) (stored.configs name) := by
    rw [writeReverseIndexes_eq, foldl_applyUpdate]
    exact foldl_updateCell_apply ..
  rw [own, read_cellsAfter fun update listed => same update (mem_updatesOf.mp listed).2,
    mem_mergeIds, List.mem_flatMap]
  simp only [mem_updatesOf, and_assoc]

theorem mem_listedProfiles_writeReverseIndexes {profileId : String} :
    profileId ∈ listedProfiles (writeReverseIndexes orgs stored) hsMerchantId ↔
      profileId ∈ listedProfiles stored hsMerchantId ∨
        ∃ update ∈ indexUpdates orgs, update.key = merchantKey hsMerchantId ∧
          profileId ∈ update.ids :=
  mem_read_writeReverseIndexes fun _ isKey => kind_of_merchantKey isKey

theorem mem_listedMerchants_writeReverseIndexes {hsOrgId : String} (notIndex : hsOrgId ≠ "INDEX") :
    hsMerchantId ∈ listedMerchants (writeReverseIndexes orgs stored) hsOrgId ↔
      hsMerchantId ∈ listedMerchants stored hsOrgId ∨
        ∃ update ∈ indexUpdates orgs, update.key = orgKey hsOrgId ∧ hsMerchantId ∈ update.ids :=
  mem_read_writeReverseIndexes fun _ isKey => kind_of_orgKey isKey notIndex

variable {occurrence : Occurrence}

theorem mem_occurrences :
    occurrence ∈ occurrences orgs ↔ occurrence.org ∈ orgs ∧
      occurrence.merchant ∈ occurrence.org.merchants ∧
      occurrence.profile ∈ occurrence.merchant.profiles := by
  rcases occurrence with ⟨org, merchant, profile⟩
  simp [occurrences, List.mem_flatMap]

/-- A scope of the tree is listed by its merchant, and its merchant by the organisation. -/
theorem listed_of_mem_occurrences (inTree : occurrence ∈ occurrences orgs)
    (notIndex : occurrence.org.orgId ≠ "INDEX") :
    occurrence.id ∈ listedProfiles (writeReverseIndexes orgs stored)
        occurrence.merchant.merchantId ∧
      occurrence.merchant.merchantId ∈ listedMerchants (writeReverseIndexes orgs stored)
        occurrence.org.orgId := by
  rcases mem_occurrences.mp inTree with ⟨isOrg, isMerchant, isProfile⟩
  constructor
  · refine mem_listedProfiles_writeReverseIndexes.mpr
      (.inr ⟨.merchant occurrence.org occurrence.merchant, ?_, rfl, List.mem_map_of_mem isProfile⟩)
    exact List.mem_append_left _ (mem_nodeUpdates.mpr (.inl ⟨_, isOrg, _, isMerchant, rfl⟩))
  · refine (mem_listedMerchants_writeReverseIndexes notIndex).mpr
      (.inr ⟨.org occurrence.org, ?_, rfl, List.mem_map_of_mem isMerchant⟩)
    exact List.mem_append_left _ (mem_nodeUpdates.mpr (.inr ⟨_, isOrg, rfl⟩))

end Completeness

/-- The merchant of a scope lists it, and the organisation lists the merchant. -/
def IndexesComplete (stored : Stored) : Prop :=
  ∀ profileId hierarchy, stored.ancestry profileId = some hierarchy →
    profileId ∈ listedProfiles stored hierarchy.hsMerchantId ∧
      hierarchy.hsMerchantId ∈ listedMerchants stored hierarchy.hsOrgId

/-- No stored scope is of an organisation with the name of the list. -/
def NoIndexAncestry (stored : Stored) : Prop :=
  ∀ profileId hierarchy, stored.ancestry profileId = some hierarchy → hierarchy.hsOrgId ≠ "INDEX"

/-- No organisation of a tree has the name of the list of the organisations. -/
def NoIndexOrg (request : HierarchyRequest) : Prop :=
  ∀ org ∈ request.orgs, org.orgId ≠ "INDEX"

/-- The scopes after a sync: each is as the tree says or as before. -/
theorem ancestry_syncHierarchy (stored : Stored) (profileId : String) :
    (∃ occurrence ∈ occurrences request.orgs, occurrence.id = profileId ∧
        Placed (syncHierarchy request stored).2 occurrence) ∨
      (syncHierarchy request stored).2.ancestry profileId = stored.ancestry profileId := by
  rw [syncHierarchy]
  dsimp only
  rw [syncProfiles_eq, ancestry_writeReverseIndexes]
  rcases ancestry_foldl request.syncedAt (occurrences request.orgs) (stored, ⟨0, 0, 0⟩) profileId
    with ⟨occurrence, listed, isScope, placed⟩ | ⟨-, same⟩
  · refine .inl ⟨occurrence, listed, isScope, ?_⟩
    rw [Placed, ancestry_writeReverseIndexes]
    exact placed
  · exact .inr same

theorem configs_syncProfiles (syncedAt : String) (orgs : List OrgNode) (stored : Stored) :
    (syncProfiles syncedAt orgs stored).1.configs = stored.configs := by
  rw [syncProfiles_eq, configs_foldl]

/-- A sync keeps the lists complete. -/
theorem indexesComplete_sync {request : HierarchyRequest} {stored : Stored}
    (complete : IndexesComplete stored) (named : NoIndexAncestry stored)
    (noIndex : NoIndexOrg request) :
    IndexesComplete (syncHierarchy request stored).2 ∧
      NoIndexAncestry (syncHierarchy request stored).2 := by
  have both : ∀ profileId hierarchy,
      (syncHierarchy request stored).2.ancestry profileId = some hierarchy →
        hierarchy.hsOrgId ≠ "INDEX" ∧
          profileId ∈ listedProfiles (syncHierarchy request stored).2 hierarchy.hsMerchantId ∧
          hierarchy.hsMerchantId ∈
            listedMerchants (syncHierarchy request stored).2 hierarchy.hsOrgId := by
    intro profileId hierarchy isAncestry
    rcases ancestry_syncHierarchy request stored profileId with
      ⟨occurrence, inTree, rfl, placed⟩ | same
    · rw [Placed, isAncestry] at placed
      have sameTree : hierarchy.tree = occurrence.tree := Option.some.inj placed
      have sameMerchant : hierarchy.hsMerchantId = occurrence.merchant.merchantId :=
        congrArg Hierarchy.hsMerchantId sameTree
      have sameOrg : hierarchy.hsOrgId = occurrence.org.orgId :=
        congrArg Hierarchy.hsOrgId sameTree
      have notIndex := noIndex occurrence.org (mem_occurrences.mp inTree).1
      rw [sameMerchant, sameOrg]
      exact ⟨notIndex, listed_of_mem_occurrences inTree notIndex⟩
    · rw [same] at isAncestry
      rcases complete profileId hierarchy isAncestry with ⟨listedProfile, listedMerchant⟩
      have notIndex := named profileId hierarchy isAncestry
      have sameConfigs := configs_syncProfiles request.syncedAt request.orgs stored
      refine ⟨notIndex, mem_listedProfiles_writeReverseIndexes.mpr (.inl ?_),
        (mem_listedMerchants_writeReverseIndexes notIndex).mpr (.inl ?_)⟩
      · rw [listedProfiles, Stored.loadMerchant, Stored.readEntry, sameConfigs]
        exact listedProfile
      · rw [listedMerchants, Stored.loadOrg, Stored.readEntry, sameConfigs]
        exact listedMerchant
  exact ⟨fun profileId hierarchy isAncestry => (both profileId hierarchy isAncestry).2,
    fun profileId hierarchy isAncestry => (both profileId hierarchy isAncestry).1⟩

def SyncStep (stored : Stored) (request : HierarchyRequest) (next : Stored) : Prop :=
  next = (syncHierarchy request stored).2

theorem indexesComplete_of_run {source target : Stored} {trace : List HierarchyRequest}
    (complete : IndexesComplete source) (named : NoIndexAncestry source)
    (run : Run (fun stored request next => SyncStep stored request next ∧ NoIndexOrg request)
      source trace target) : IndexesComplete target := by
  refine (run.invariant (fun _ stored => IndexesComplete stored ∧ NoIndexAncestry stored)
    ⟨complete, named⟩ ?_).1
  rintro _ stored request _ ⟨complete, named⟩ ⟨rfl, noIndex⟩
  exact indexesComplete_sync complete named noIndex

/-- A sync of a tree settles just when the occurrences of every scope agree; and any syncs keep
the lists complete if no organisation has the name of the list of the organisations. -/
theorem sync_settles_and_completes (later : String) (stored : Stored) :
    (SettledBy request later stored ↔ Consistent request.orgs) ∧
    ∀ source trace target, IndexesComplete source → NoIndexAncestry source →
      Run (fun stored request next => SyncStep stored request next ∧ NoIndexOrg request) source
        trace target →
      IndexesComplete target :=
  ⟨settledBy_iff request later stored,
    fun _ _ _ complete named run => indexesComplete_of_run complete named run⟩

/-- Nothing is stored. -/
def Stored.empty : Stored :=
  ⟨[], fun _ => none⟩

theorem complete_empty : IndexesComplete Stored.empty ∧ NoIndexAncestry Stored.empty :=
  ⟨fun _ _ isAncestry => (by cases isAncestry), fun _ _ isAncestry => (by cases isAncestry)⟩

/-- A tree in which the scope "profile" is below each of the merchants. -/
def treeBelow (merchants : List String) : HierarchyRequest where
  orgs :=
    [{ orgId := "org"
       orgName := none
       merchants := merchants.map fun merchantId => ⟨merchantId, none, [⟨"profile", none⟩]⟩ }]
  reportStranded := false
  syncedAt := "2026-08-13T10:04:00Z"

/-- A scope below two merchants is moved twice by every sync. -/
theorem sync_settles_and_completes_counterexample :
    ¬ ((∀ request later stored, SettledBy request later stored) ∧
      ∀ source trace target, IndexesComplete source → NoIndexAncestry source →
        Run SyncStep source trace target → IndexesComplete target) := by
  rintro ⟨settles, -⟩
  have consistent := (settledBy_iff _ _ _).mp
    (settles (treeBelow ["first", "second"]) "2026-08-13T10:05:00Z" Stored.empty)
  have differ : ¬Consistent (treeBelow ["first", "second"]).orgs := by
    unfold Consistent
    decide
  exact differ consistent

/-- A second organisation whose merchant has two scopes. -/
def treeBeside : HierarchyRequest :=
  { treeBelow ["first"] with
    orgs := (treeBelow ["first"]).orgs ++
      [⟨"other", none, [⟨"second", none, [⟨"profile_2", none⟩, ⟨"profile_3", none⟩]⟩]⟩] }

theorem sync_settles_and_completes_tree :
    SettledBy treeBeside "2026-08-13T10:05:00Z" (syncHierarchy (treeBelow ["first"]) .empty).2 ∧
      IndexesComplete
        (syncHierarchy treeBeside (syncHierarchy (treeBelow ["first"]) .empty).2).2 := by
  constructor
  · apply (sync_settles_and_completes treeBeside _ _).1.mpr
    unfold Consistent
    decide
  · have noIndex : NoIndexOrg (treeBelow ["first"]) ∧ NoIndexOrg treeBeside := by
      unfold NoIndexOrg
      decide
    exact (sync_settles_and_completes treeBeside "" Stored.empty).2 _ _ _ complete_empty.1
      complete_empty.2 ((Run.single ⟨rfl, noIndex.1⟩).snoc ⟨rfl, noIndex.2⟩)

end DecisionEngine.Merchant
