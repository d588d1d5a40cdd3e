import DecisionEngine.Map.Keyed
import DecisionEngine.Merchant.HierarchySync

/-!
# Reconciling the scopes with a tree

A reconciliation reads all scopes.  A scope is linked if the tree has its profile, stranded if
its id is one of a merchant of the tree, and unlinked otherwise.  The profiles of the tree
without a scope are missing.

A sync gives a scope to every profile of its tree and takes none away, so that after any syncs
only those profiles are missing that had no scope before and are in none of the trees.
-/

namespace DecisionEngine.Merchant

open Map Transition

/-! ## Reports -/

inductive ScopeClassification where
  | linked
  | unlinked
  | stranded
  deriving DecidableEq

structure ScopeReport where
  scopeId : String
  classification : ScopeClassification
  hsMerchantId : Option String
  hsOrgId : Option String
  hasAncestry : Bool
  deriving DecidableEq

structure ReconcileResponse where
  linked : Nat
  unlinked : Nat
  stranded : Nat
  missingInDe : List String
  scopes : List ScopeReport

/-- The merchant and the organisation of each profile of a tree, and the ids of its merchants. -/
structure TreeIndex where
  profileParents : HashMap String (String × String)
  merchantIds : List String

/-- What a reconciliation has found so far. -/
structure Tally where
  linked : Nat
  unlinked : Nat
  stranded : Nat
  seenProfiles : List String
  scopes : List ScopeReport

namespace TreeIndex

def insertProfile (org : OrgNode) (merchant : MerchantNode) (index : TreeIndex)
    (profile : ProfileNode) : TreeIndex :=
  { index with
    profileParents := index.profileParents.insert profile.profileId
      (merchant.merchantId, org.orgId) }

def build (orgs : List OrgNode) : TreeIndex :=
  orgs.foldl
    (fun index org => org.merchants.foldl
      (fun index merchant => merchant.profiles.foldl (insertProfile org merchant)
        { index with merchantIds := merchant.merchantId :: index.merchantIds })
      index)
    ⟨∅, []⟩

variable (index : TreeIndex)

def classify (scopeId : String) : ScopeClassification :=
  if scopeId ∈ index.profileParents then .linked
  else if scopeId ∈ index.merchantIds then .stranded
  else .unlinked

def parentsOf (scopeId : String) : Option (String × String) :=
  index.profileParents.lookup scopeId

/-- The tree's word on the ancestry comes before the stored one. -/
def reportOf (account : MerchantAccount) : ScopeReport :=
  let parents := index.parentsOf account.merchantId
  let ancestry := account.hierarchy
  { scopeId := account.merchantId
    classification := index.classify account.merchantId
    hsMerchantId := (parents.map Prod.fst).orElse fun _ => ancestry.map Hierarchy.hsMerchantId
    hsOrgId := (parents.map Prod.snd).orElse fun _ => ancestry.map Hierarchy.hsOrgId
    hasAncestry := ancestry.isSome }

def countScope (tally : Tally) (scopeId : String) : Tally :=
  match index.classify scopeId with
  | .linked =>
      { tally with
        linked := tally.linked + 1
        seenProfiles := tally.seenProfiles ++ [scopeId] }
  | .unlinked => { tally with unlinked := tally.unlinked + 1 }
  | .stranded => { tally with stranded := tally.stranded + 1 }

/-- The stranded scopes are always reported. -/
def reports (includeAllScopes : Bool) (account : MerchantAccount) : Bool :=
  includeAllScopes || index.classify account.merchantId = .stranded

def tallyScope (includeAllScopes : Bool) (tally : Tally) (account : MerchantAccount) : Tally :=
  let counted := index.countScope tally account.merchantId
  if index.reports includeAllScopes account then
    { counted with scopes := counted.scopes ++ [index.reportOf account] }
  else counted

end TreeIndex

def reconcileHierarchy (order : IterationOrder String (String × String)) (orgs : List OrgNode)
    (includeAllScopes : Bool) (stored : Stored) : ReconcileResponse :=
  let index := TreeIndex.build orgs
  let tally := stored.accounts.foldl (index.tallyScope includeAllScopes) ⟨0, 0, 0, [], []⟩
  { linked := tally.linked
    unlinked := tally.unlinked
    stranded := tally.stranded
    missingInDe := (order.keys index.profileParents).filter fun profileId =>
      profileId ∉ tally.seenProfiles
    scopes := tally.scopes }

/-! ## The index of a tree -/

/-- The tree has the profile. -/
def InTree (orgs : List OrgNode) (profileId : String) : Prop :=
  ∃ occurrence ∈ occurrences orgs, occurrence.id = profileId

/-- The profile with its merchant and organisation. -/
def Occurrence.parents (occurrence : Occurrence) : String × (String × String) :=
  (occurrence.id, (occurrence.merchant.merchantId, occurrence.org.orgId))

theorem inTree_iff {orgs : List OrgNode} {profileId : String} :
    InTree orgs profileId ↔ ∃ merchant ∈ orgs.flatMap OrgNode.merchants,
      ∃ profile ∈ merchant.profiles, profile.profileId = profileId := by
  constructor
  · rintro ⟨occurrence, listed, rfl⟩
    rcases mem_occurrences.mp listed with ⟨isOrg, isMerchant, isProfile⟩
    exact ⟨_, List.mem_flatMap.mpr ⟨_, isOrg, isMerchant⟩, _, isProfile, rfl⟩
  · rintro ⟨merchant, listed, profile, isProfile, rfl⟩
    rcases List.mem_flatMap.mp listed with ⟨org, isOrg, isMerchant⟩
    exact ⟨⟨org, merchant, profile⟩, mem_occurrences.mpr ⟨isOrg, isMerchant, isProfile⟩, rfl⟩

namespace TreeIndex

variable (orgs : List OrgNode)

theorem profileParents_foldl (org : OrgNode) (merchant : MerchantNode)
    (profiles : List ProfileNode) (index : TreeIndex) :
    (profiles.foldl (insertProfile org merchant) index).profileParents =
      (profiles.map (Occurrence.mk org merchant)).foldl
        (fun parents occurrence => parents.insert occurrence.parents.1 occurrence.parents.2)
        index.profileParents := by
  induction profiles generalizing index with
  | nil => rfl
  | cons profile rest ih => exact ih _

theorem merchantIds_foldl (org : OrgNode) (merchant : MerchantNode) (profiles : List ProfileNode)
    (index : TreeIndex) :
    (profiles.foldl (insertProfile org merchant) index).merchantIds = index.merchantIds := by
  induction profiles generalizing index with
  | nil => rfl
  | cons profile rest ih => exact ih _

theorem profileParents_build :
    (build orgs).profileParents = collect ((occurrences orgs).map Occurrence.parents) := by
  rw [collect, List.foldl_map, occurrences, List.foldl_flatMap, build]
  refine (List.foldl_hom profileParents fun index org => ?_).symm
  rw [List.foldl_flatMap]
  refine List.foldl_hom profileParents fun index merchant => ?_
  rw [profileParents_foldl]

variable {scopeId : String}

theorem mem_merchantIds_build :
    scopeId ∈ (build orgs).merchantIds ↔
      ∃ merchant ∈ orgs.flatMap OrgNode.merchants, merchant.merchantId = scopeId := by
  have listed : (build orgs).merchantIds = (orgs.flatMap OrgNode.merchants).foldl
      (fun ids merchant => merchant.merchantId :: ids) [] := by
    rw [List.foldl_flatMap, build]
    refine (List.foldl_hom merchantIds fun index org => ?_).symm
    refine List.foldl_hom merchantIds fun index merchant => ?_
    rw [merchantIds_foldl]
  rw [listed, List.foldl_flip_cons_eq_append, List.append_nil, List.mem_reverse, List.mem_map]

theorem mem_profileParents_build {profileId : String} :
    profileId ∈ (build orgs).profileParents ↔ InTree orgs profileId := by
  rw [profileParents_build, mem_collect, List.map_map, List.mem_map]
  rfl

theorem classify_eq_linked :
    (build orgs).classify scopeId = .linked ↔ InTree orgs scopeId := by
  rw [classify, ← mem_profileParents_build]
  split
  · next isProfile => exact iff_of_true rfl isProfile
  · next notProfile =>
      refine iff_of_false ?_ notProfile
      split <;> decide

/-- A scope is stranded for a reconciliation as it is for a sync. -/
theorem classify_eq_stranded :
    (build orgs).classify scopeId = .stranded ↔ isStranded orgs scopeId = true := by
  have strandedIff : isStranded orgs scopeId = true ↔
      ¬InTree orgs scopeId ∧ scopeId ∈ (build orgs).merchantIds := by
    rw [isStranded, inTree_iff, mem_merchantIds_build]
    simp only [Bool.and_eq_true, Bool.not_eq_true', ← Bool.not_eq_true, List.any_eq_true,
      decide_eq_true_eq]
  rw [strandedIff, classify, ← mem_profileParents_build]
  split
  · next isProfile => exact iff_of_false (by decide) fun holds => holds.1 isProfile
  · next notProfile =>
      split
      · next isMerchant => exact iff_of_true rfl ⟨notProfile, isMerchant⟩
      · next notMerchant => exact iff_of_false (by decide) fun holds => notMerchant holds.2

end TreeIndex

/-! ## What a reconciliation reports -/

section Reports

variable (index : TreeIndex) (includeAllScopes : Bool)

variable (accounts : List MerchantAccount)

/-- How many scopes are of a class. -/
def countOf (classification : ScopeClassification) : Nat :=
  accounts.countP fun account => index.classify account.merchantId = classification

theorem foldl_tallyScope (tally : Tally) :
    accounts.foldl (index.tallyScope includeAllScopes) tally =
      { linked := tally.linked + countOf index accounts .linked
        unlinked := tally.unlinked + countOf index accounts .unlinked
        stranded := tally.stranded + countOf index accounts .stranded
        seenProfiles := tally.seenProfiles ++ (accounts.map MerchantAccount.merchantId).filter
          fun scopeId => index.classify scopeId = .linked
        scopes := tally.scopes ++
          (accounts.filter (index.reports includeAllScopes)).map index.reportOf } := by
  induction accounts generalizing tally with
  | nil => simp [countOf]
  | cons account rest ih =>
      rw [List.foldl_cons, ih, TreeIndex.tallyScope, TreeIndex.countScope]
      cases isClass : index.classify account.merchantId <;>
        cases isReported : index.reports includeAllScopes account <;>
        simp [countOf, isClass, isReported, Nat.add_assoc, Nat.add_comm 1]

variable (order : IterationOrder String (String × String)) (orgs : List OrgNode)

def Stored.scopeIds (stored : Stored) : List String :=
  stored.accounts.map MerchantAccount.merchantId

theorem mem_missingInDe {stored : Stored} {profileId : String} :
    profileId ∈ (reconcileHierarchy order orgs includeAllScopes stored).missingInDe ↔
      InTree orgs profileId ∧ profileId ∉ stored.scopeIds := by
  rw [reconcileHierarchy, foldl_tallyScope]
  dsimp only
  rw [List.mem_filter, order.mem_keys, TreeIndex.mem_profileParents_build]
  refine and_congr_right fun inTree => ?_
  simp [(TreeIndex.classify_eq_linked orgs).mpr inTree, Stored.scopeIds]

theorem countOf_add :
    countOf index accounts .linked + countOf index accounts .unlinked +
      countOf index accounts .stranded = accounts.length := by
  induction accounts with
  | nil => rfl
  | cons account rest ih =>
      simp only [countOf, List.countP_cons, List.length_cons] at ih ⊢
      rw [← ih]
      cases index.classify account.merchantId <;> simp <;> omega

theorem isStranded_eq (scopeId : String) :
    isStranded orgs scopeId = decide ((TreeIndex.build orgs).classify scopeId = .stranded) := by
  rw [← Bool.coe_iff_coe, decide_eq_true_iff, TreeIndex.classify_eq_stranded]

theorem strandedScopes_eq (accounts : List MerchantAccount) :
    ((((accounts.filter ((TreeIndex.build orgs).reports includeAllScopes)).map
        (TreeIndex.build orgs).reportOf).filter fun scope =>
          scope.classification = .stranded).map ScopeReport.scopeId) =
      (accounts.map MerchantAccount.merchantId).filter (isStranded orgs) := by
  have sameScopes : ∀ account : MerchantAccount,
      (((fun scope : ScopeReport => decide (scope.classification = .stranded)) ∘
          (TreeIndex.build orgs).reportOf) account &&
        (TreeIndex.build orgs).reports includeAllScopes account) =
        (isStranded orgs ∘ MerchantAccount.merchantId) account := by
    intro account
    rw [Function.comp_apply, Function.comp_apply, isStranded_eq, TreeIndex.reports,
      TreeIndex.reportOf]
    cases decide ((TreeIndex.build orgs).classify account.merchantId = .stranded) with
    | false => rfl
    | true => rw [Bool.true_and, Bool.or_true]
  rw [List.filter_map, List.map_map, List.filter_filter, List.filter_map,
    List.filter_congr fun account _ => sameScopes account]
  rfl

end Reports

/-! ## After syncs -/

theorem load_eq_none_iff {stored : Stored} {profileId : String} :
    stored.loadMerchantByMerchantId profileId = none ↔ profileId ∉ stored.scopeIds := by
  rw [Stored.loadMerchantByMerchantId, List.getLast?_eq_none_iff, List.filter_eq_nil_iff,
    Stored.scopeIds, List.mem_map]
  simp

variable (stored : Stored)

theorem scopeIds_update (profileId : String) (hierarchy : Hierarchy) :
    (stored.updateMerchantHierarchy profileId hierarchy).scopeIds = stored.scopeIds := by
  rw [Stored.scopeIds, Stored.updateMerchantHierarchy, List.map_map]
  apply List.map_congr_left
  intro account _
  rw [Function.comp_apply]
  split <;> rfl

theorem scopeIds_syncOccurrence (syncedAt : String) (state : Stored × SyncCounts)
    (occurrence : Occurrence) :
    (syncOccurrence syncedAt state occurrence).1.scopeIds =
      if occurrence.id ∈ state.1.scopeIds then state.1.scopeIds
      else state.1.scopeIds ++ [occurrence.id] := by
  rw [syncOccurrence, syncProfile]
  cases loaded : state.1.loadMerchantByMerchantId occurrence.profile.profileId with
  | none =>
      have absent : occurrence.id ∉ state.1.scopeIds := load_eq_none_iff.mp loaded
      rw [if_neg absent]
      dsimp only
      rw [scopeIds_update]
      simp [Stored.scopeIds, Stored.insertMerchantAccount, Occurrence.id]
  | some account =>
      have isScope : occurrence.id ∈ state.1.scopeIds := by
        by_contra absent
        have unloaded := load_eq_none_iff.mpr absent
        rw [Occurrence.id, loaded] at unloaded
        cases unloaded
      rw [if_pos isScope]
      dsimp only
      split
      · rfl
      · exact scopeIds_update ..

/-- A sync adds a scope for every profile of its tree that has none. -/
theorem scopeIds_syncHierarchy (request : HierarchyRequest) (stored : Stored) :
    (syncHierarchy request stored).2.scopeIds =
      mergeIds stored.scopeIds ((occurrences request.orgs).map Occurrence.id) := by
  have synced : (syncHierarchy request stored).2.scopeIds =
      (syncProfiles request.syncedAt request.orgs stored).1.scopeIds := by
    rw [syncHierarchy]
    dsimp only
    rw [writeReverseIndexes_eq, foldl_applyUpdate]
    rfl
  rw [synced, syncProfiles_eq, mergeIds, List.foldl_map]
  exact (List.foldl_hom (fun state : Stored × SyncCounts => state.1.scopeIds)
    fun state occurrence => (scopeIds_syncOccurrence request.syncedAt state occurrence).symm).symm

theorem filter_mergeIds {kept : String → Bool} {incoming : List String}
    (dropped : ∀ id ∈ incoming, kept id = false) (existing : List String) :
    (mergeIds existing incoming).filter kept = existing.filter kept := by
  induction incoming generalizing existing with
  | nil => rfl
  | cons id rest ih =>
      rw [List.forall_mem_cons] at dropped
      rw [mergeIds, List.foldl_cons]
      refine (ih dropped.2 _).trans ?_
      split
      · rfl
      · simp [dropped.1]

/-- The scopes that a sync adds are not stranded. -/
theorem stranded_syncHierarchy {request : HierarchyRequest}
    (isReported : request.reportStranded = true) :
    (syncHierarchy request stored).1.stranded = collectStranded request.orgs stored := by
  have collected : (syncHierarchy request stored).1.stranded =
      (syncHierarchy request stored).2.scopeIds.filter (isStranded request.orgs) :=
    if_pos isReported
  rw [collected, scopeIds_syncHierarchy, filter_mergeIds]
  · rfl
  · intro id isAdded
    rw [← Bool.not_eq_true, ← TreeIndex.classify_eq_stranded,
      (TreeIndex.classify_eq_linked _).mpr (List.mem_map.mp isAdded)]
    decide

/-- The classes are those of all scopes, and the stranded ones are those that a sync reports. -/
theorem reconcileHierarchy_report (includeAllScopes : Bool)
    (order : IterationOrder String (String × String)) (orgs : List OrgNode) (syncedAt : String) :
    let report := reconcileHierarchy order orgs includeAllScopes stored
    let synced := (syncHierarchy ⟨orgs, true, syncedAt⟩ stored).1
    report.linked + report.unlinked + report.stranded = stored.accounts.length ∧
      (report.scopes.filter fun scope => scope.classification = .stranded).map
          ScopeReport.scopeId = synced.stranded ∧
      report.stranded = synced.stranded.length ∧
      report.missingInDe.Nodup ∧
      ∀ profileId, profileId ∈ report.missingInDe ↔
        InTree orgs profileId ∧ profileId ∉ stored.scopeIds := by
  dsimp only
  rw [stranded_syncHierarchy stored rfl]
  have strandedScopes := strandedScopes_eq includeAllScopes orgs stored.accounts
  refine ⟨?_, ?_, ?_, ?_, fun _ => mem_missingInDe includeAllScopes order orgs⟩
  · rw [reconcileHierarchy, foldl_tallyScope]
    simp only [Nat.zero_add]
    exact countOf_add _ _
  · rw [reconcileHierarchy, foldl_tallyScope]
    exact strandedScopes
  · rw [reconcileHierarchy, foldl_tallyScope]
    dsimp only
    rw [Nat.zero_add, countOf, collectStranded, List.filter_map, List.length_map,
      ← List.countP_eq_length_filter]
    exact List.countP_congr fun account _ => by rw [Function.comp_apply, isStranded_eq]
  · exact (order.nodup_keys _).filter _

theorem mem_scopeIds_of_run {source target : Stored} {trace : List HierarchyRequest}
    (run : Run SyncStep source trace target) (profileId : String) :
    profileId ∈ target.scopeIds ↔
      profileId ∈ source.scopeIds ∨ ∃ request ∈ trace, InTree request.orgs profileId := by
  refine run.invariant (fun trace target => profileId ∈ target.scopeIds ↔
    profileId ∈ source.scopeIds ∨ ∃ request ∈ trace, InTree request.orgs profileId) ?_ ?_
  · simp
  · rintro trace stored request _ carried rfl
    have added : profileId ∈ (occurrences request.orgs).map Occurrence.id ↔
        InTree request.orgs profileId := List.mem_map
    rw [scopeIds_syncHierarchy, mem_mergeIds, carried, added, or_assoc]
    refine or_congr_right ?_
    simp [or_and_right, exists_or]

/-- After any syncs a profile is missing if it had no scope and no sync has carried it. -/
theorem missingInDe_of_run {source target : Stored} {trace : List HierarchyRequest}
    (run : Run SyncStep source trace target) (order : IterationOrder String (String × String))
    (orgs : List OrgNode) (includeAllScopes : Bool) (profileId : String) :
    profileId ∈ (reconcileHierarchy order orgs includeAllScopes target).missingInDe ↔
      InTree orgs profileId ∧ profileId ∉ source.scopeIds ∧
        ∀ request ∈ trace, ¬InTree request.orgs profileId := by
  rw [mem_missingInDe, mem_scopeIds_of_run run, not_or, not_exists]
  simp only [not_and]

/-- A profile without a scope is not missing after a sync that has it below another merchant. -/
theorem missingInDe_of_run_other :
    "profile" ∉ (reconcileHierarchy .stored (treeBelow ["second"]).orgs false
      (syncHierarchy (treeBelow ["first"]) Stored.empty).2).missingInDe := by
  intro isMissing
  have run : Run SyncStep Stored.empty [treeBelow ["first"]]
      (syncHierarchy (treeBelow ["first"]) Stored.empty).2 := .single rfl
  have notCarried := ((missingInDe_of_run run _ _ _ _).mp isMissing).2.2 _ List.mem_cons_self
  exact notCarried ⟨⟨_, _, ⟨"profile", none⟩⟩, List.mem_cons_self, rfl⟩

/-! ### The ancestry of the linked scopes -/

/-- The merchant and the organisation of a scope by its ancestry. -/
def Stored.parentsOf (scopeId : String) : Option (String × String) :=
  (stored.ancestry scopeId).map fun hierarchy => (hierarchy.hsMerchantId, hierarchy.hsOrgId)

/-- The last occurrence of a profile is the one that counts, for the index and for a sync. -/
theorem parentsOf_foldl (syncedAt : String) (list : List Occurrence) (state : Stored × SyncCounts)
    {scopeId : String} (linked : scopeId ∈ collect (list.map Occurrence.parents)) :
    (collect (list.map Occurrence.parents)).lookup scopeId =
      (list.foldl (syncOccurrence syncedAt) state).1.parentsOf scopeId := by
  induction list using List.reverseRecOn with
  | nil => exact absurd linked (by simp)
  | append_singleton rest last ih =>
      have step : collect ((rest ++ [last]).map Occurrence.parents) =
          (collect (rest.map Occurrence.parents)).insert last.id last.parents.2 := by
        rw [List.map_append, collect, List.foldl_append]
        rfl
      rw [step] at linked ⊢
      rw [List.foldl_append, List.foldl_cons, List.foldl_nil]
      generalize rest.foldl (syncOccurrence syncedAt) state = before at ih
      by_cases isLast : scopeId = last.id
      · subst isLast
        have placed : Placed (syncOccurrence syncedAt before last).1 last := by
          rcases syncOccurrence_cases syncedAt before last with
            ⟨placed, synced⟩ | ⟨-, next, counts, synced, change, -⟩
          · rw [synced]
            exact placed
          · rw [synced]
            exact placed_of_change change
        rw [AList.lookup_insert, Stored.parentsOf]
        rcases Option.map_eq_some_iff.mp placed with ⟨hierarchy, isAncestry, sameTree⟩
        have sameMerchant := congrArg Hierarchy.hsMerchantId sameTree
        have sameOrg := congrArg Hierarchy.hsOrgId sameTree
        rw [isAncestry, Option.map_some]
        exact congrArg some (Prod.ext sameMerchant.symm sameOrg.symm)
      · rw [AList.lookup_insert_ne isLast,
          ih (((AList.mem_insert _).mp linked).resolve_left isLast), Stored.parentsOf,
          Stored.parentsOf]
        rcases syncOccurrence_cases syncedAt before last with
          ⟨-, synced⟩ | ⟨-, next, counts, synced, change, -⟩
        · rw [synced]
        · rw [synced, change.others scopeId isLast]

/-- After a sync, a scope of its tree is reported below the merchant and the organisation that
its stored ancestry names, also if the tree has it twice. -/
theorem linked_of_syncHierarchy (request : HierarchyRequest) (stored : Stored)
    (order : IterationOrder String (String × String)) (scope : ScopeReport)
    (reported : scope ∈ (reconcileHierarchy order request.orgs true
      (syncHierarchy request stored).2).scopes) (linked : scope.classification = .linked) :
    ∃ hierarchy, (syncHierarchy request stored).2.ancestry scope.scopeId = some hierarchy ∧
      scope.hsMerchantId = some hierarchy.hsMerchantId ∧
      scope.hsOrgId = some hierarchy.hsOrgId := by
  rw [reconcileHierarchy, foldl_tallyScope] at reported
  rcases List.mem_map.mp reported with ⟨account, -, rfl⟩
  have isProfile : account.merchantId ∈ (TreeIndex.build request.orgs).profileParents :=
    (TreeIndex.mem_profileParents_build _).mpr ((TreeIndex.classify_eq_linked _).mp linked)
  rw [TreeIndex.profileParents_build] at isProfile
  have sameParents := parentsOf_foldl request.syncedAt (occurrences request.orgs)
    (stored, ⟨0, 0, 0⟩) isProfile
  rw [← syncProfiles_eq] at sameParents
  have sameAncestry : (syncHierarchy request stored).2.ancestry account.merchantId =
      (syncProfiles request.syncedAt request.orgs stored).1.ancestry account.merchantId :=
    ancestry_writeReverseIndexes ..
  rcases Option.isSome_iff_exists.mp (AList.lookup_isSome.mpr isProfile) with ⟨parents, isParents⟩
  rw [isParents, Stored.parentsOf, eq_comm, Option.map_eq_some_iff] at sameParents
  rcases sameParents with ⟨hierarchy, isAncestry, rfl⟩
  have indexed : (TreeIndex.build request.orgs).parentsOf account.merchantId =
      some (hierarchy.hsMerchantId, hierarchy.hsOrgId) := by
    rw [TreeIndex.parentsOf, TreeIndex.profileParents_build, isParents]
  refine ⟨hierarchy, sameAncestry.trans isAncestry, ?_, ?_⟩ <;>
  · rw [TreeIndex.reportOf, indexed]
    rfl

/-- The scope that the tree has below two merchants. -/
theorem linked_of_syncHierarchy_twice :
    ∃ hierarchy, (syncHierarchy (treeBelow ["first", "second"]) Stored.empty).2.ancestry
        "profile" = some hierarchy ∧ some "second" = some hierarchy.hsMerchantId ∧
      some "org" = some hierarchy.hsOrgId := by
  refine linked_of_syncHierarchy (treeBelow ["first", "second"]) Stored.empty .stored
    ⟨"profile", .linked, some "second", some "org", true⟩ ?_ rfl
  decide +kernel

end DecisionEngine.Merchant
