import DecisionEngine.Cache.Aside
import DecisionEngine.Config.ServiceConfiguration
import DecisionEngine.Merchant.HierarchyStore

/-!
# The cache of the merchant accounts

An account is served from the cache, or else read from the table and then put into the cache.
An update or a deletion writes the table and then removes the account from the cache, so that
a load that has read the old row in between can put it back.

The cache ends up right when an outdated account is only put into it while another operation
has still to write the cache.
-/

namespace DecisionEngine.Merchant.AccountCache

open Cache Json Transition
open DecisionEngine.Config (MeshError)

/-! ## Accounts -/

/-- The columns of `merchant_account` that an account is made of or that are changed. -/
structure DbMerchantAccount where
  id : Int
  merchantId : Option String
  gatewayDecidedByHealthEnabled : Option Bool
  gatewayPriority : Option String
  gatewayPriorityLogic : Option String
  internalHashKey : Option String
  userId : Option Int
  secondaryMerchantAccountId : Option Int
  useCodeForGatewayPriority : Bool
  enableGatewayReferenceIdBasedRouting : Option Bool
  gatewaySuccessRateBasedDeciderInput : Option String
  internalMetadata : Option StoredText
  country : Option String
  installmentEnabled : Option Bool
  tenantAccountId : Option String
  priorityLogicConfig : Option String
  merchantCategoryCode : Option String
  merchantName : Option String

structure MerchantAccount where
  id : Int
  merchantId : String
  country : Option String
  gatewayDecidedByHealthEnabled : Option Bool
  gatewayPriority : Option String
  gatewayPriorityLogic : String
  useCodeForGatewayPriority : Bool
  internalHashKey : Option String
  userId : Option Int
  secondaryMerchantAccountId : Option Int
  enableGatewayReferenceIdBasedRouting : Option Bool
  gatewaySuccessRateBasedDeciderInput : String
  internalMetadata : Option StoredText
  installmentEnabled : Option Bool
  tenantAccountId : Option String
  priorityLogicConfig : Option String
  merchantCategoryCode : Option String

/-- The account of a row with the merchant id. -/
def DbMerchantAccount.accountOf (value : DbMerchantAccount) (merchantId : String) :
    MerchantAccount :=
  { id := value.id
    merchantId := merchantId
    country := value.country
    gatewayDecidedByHealthEnabled := value.gatewayDecidedByHealthEnabled
    gatewayPriority := value.gatewayPriority
    gatewayPriorityLogic := value.gatewayPriorityLogic.getD ""
    useCodeForGatewayPriority := value.useCodeForGatewayPriority
    internalHashKey := value.internalHashKey
    userId := value.userId
    secondaryMerchantAccountId := value.secondaryMerchantAccountId
    enableGatewayReferenceIdBasedRouting := value.enableGatewayReferenceIdBasedRouting
    gatewaySuccessRateBasedDeciderInput := value.gatewaySuccessRateBasedDeciderInput.getD ""
    internalMetadata := value.internalMetadata
    installmentEnabled := value.installmentEnabled
    tenantAccountId := value.tenantAccountId
    priorityLogicConfig := value.priorityLogicConfig
    merchantCategoryCode := value.merchantCategoryCode }

/-- A row without a merchant id is no account. -/
def DbMerchantAccount.toAccount (value : DbMerchantAccount) : Option MerchantAccount :=
  value.merchantId.map value.accountOf

/-- The table, and the cached accounts by key. -/
structure AccountState where
  table : List DbMerchantAccount
  cache : String → Option MerchantAccount

def cacheKey (merchantId : String) : String := "merchant_acct_" ++ merchantId

namespace AccountState

variable (state : AccountState) (merchantId : String)

/-- The last row of a merchant. -/
def findRow : Option DbMerchantAccount :=
  (state.table.filter fun row => row.merchantId = some merchantId).getLast?

/-- The account that the table has. -/
def account : Option MerchantAccount :=
  (state.findRow merchantId).bind DbMerchantAccount.toAccount

def setCache (entry : Option MerchantAccount) : AccountState :=
  { state with cache := Function.update state.cache (cacheKey merchantId) entry }

/-- Change the rows of a merchant; the database layer refuses an update of none. -/
def genericUpdate (change : DbMerchantAccount → DbMerchantAccount) :
    Except MeshError AccountState :=
  if state.table.any fun row => row.merchantId = some merchantId then
    .ok { state with
      table := state.table.map fun row =>
        if row.merchantId = some merchantId then change row else row }
  else .error .noRowstoUpdate

def genericDelete : Except MeshError AccountState :=
  if state.table.any fun row => row.merchantId = some merchantId then
    .ok { state with table := state.table.filter fun row => row.merchantId ≠ some merchantId }
  else .error .noRowstoDelete

/-- Without a value there is no column to set, which the database layer refuses. -/
def updateDeciderInput : Option String → Except MeshError AccountState
  | none => .error .others
  | some value => state.genericUpdate merchantId fun row =>
      { row with gatewaySuccessRateBasedDeciderInput := some value }

/-- A name is set only if there is one. -/
def updateMetadata (metadata : StoredText) (merchantName : Option String) :
    Except MeshError AccountState :=
  state.genericUpdate merchantId fun row =>
    { row with
      internalMetadata := some metadata
      merchantName := merchantName.orElse fun _ => row.merchantName }

/-- The metadata with the ancestry merged into those of the stored row. -/
def mergedMetadata (hierarchy : Hierarchy) : StoredText :=
  mergeIntoMetadata ((state.findRow merchantId).bind DbMerchantAccount.internalMetadata) hierarchy

/-! ## Operations -/

def loadMerchantByMerchantId : Option MerchantAccount × AccountState :=
  match state.cache (cacheKey merchantId) with
  | some cached => (some cached, state)
  | none =>
      match state.account merchantId with
      | none => (none, state)
      | some merchant => (some merchant, state.setCache merchantId (some merchant))

def deleteMerchantAccount : Except MeshError AccountState :=
  (state.genericDelete merchantId).map fun deleted => deleted.setCache merchantId none

def updateMerchantHierarchy (hierarchy : Hierarchy) : Except MeshError AccountState :=
  (state.updateMetadata merchantId (state.mergedMetadata merchantId hierarchy)
    hierarchy.profileName).map fun updated => updated.setCache merchantId none

def updateMerchantAccount (value : Option String) : Except MeshError AccountState :=
  (state.updateDeciderInput merchantId value).map fun updated => updated.setCache merchantId none

end AccountState

/-! ## The ancestry in the rows -/

/-- What a row with a merchant id says of the scope. -/
def DbMerchantAccount.scope (row : DbMerchantAccount) : Option Merchant.MerchantAccount :=
  row.merchantId.map fun merchantId => ⟨merchantId, row.internalMetadata⟩

def AccountState.stored (state : AccountState) (configs : String → Option (Option StoredText)) :
    Stored :=
  ⟨state.table.filterMap DbMerchantAccount.scope, configs⟩

section Ancestry

variable {state next : AccountState} {merchantId : String}
  {configs : String → Option (Option StoredText)}

theorem filter_scopes (table : List DbMerchantAccount) :
    (table.filterMap DbMerchantAccount.scope).filter
        (fun account => account.merchantId = merchantId) =
      (table.filter fun row => row.merchantId = some merchantId).map
        fun row => ⟨merchantId, row.internalMetadata⟩ := by
  induction table with
  | nil => rfl
  | cons row rest ih =>
      rw [List.filterMap_cons, List.filter_cons]
      cases owner : row.merchantId with
      | none =>
          rw [if_neg (by simp), DbMerchantAccount.scope, owner]
          exact ih
      | some other =>
          simp only [DbMerchantAccount.scope, owner, Option.map_some, Option.some.injEq,
            List.filter_cons]
          by_cases own : other = merchantId
          · rw [if_pos (decide_eq_true own), if_pos (decide_eq_true own), List.map_cons, own]
            exact congrArg _ ih
          · rw [if_neg (by simpa using own), if_neg (by simpa using own)]
            exact ih

theorem load_stored : (state.stored configs).loadMerchantByMerchantId merchantId =
    (state.findRow merchantId).map fun row => ⟨merchantId, row.internalMetadata⟩ := by
  rw [Stored.loadMerchantByMerchantId, AccountState.stored, filter_scopes, List.getLast?_map]
  rfl

/-- The columns of a row that an ancestry leaves alone. -/
def DbMerchantAccount.withoutAncestry (row : DbMerchantAccount) : DbMerchantAccount :=
  { row with internalMetadata := none, merchantName := none }

/-- The row with an ancestry, and with its name if there is one. -/
def DbMerchantAccount.withAncestry (row : DbMerchantAccount) (metadata : StoredText)
    (merchantName : Option String) : DbMerchantAccount :=
  { row with
    internalMetadata := some metadata
    merchantName := merchantName.orElse fun _ => row.merchantName }

theorem updateMerchantHierarchy_eq {hierarchy : Hierarchy}
    (updated : state.updateMerchantHierarchy merchantId hierarchy = .ok next) :
    next =
      { table := state.table.map fun row =>
          if row.merchantId = some merchantId then
            row.withAncestry (state.mergedMetadata merchantId hierarchy) hierarchy.profileName
          else row
        cache := Function.update state.cache (cacheKey merchantId) none } := by
  rw [AccountState.updateMerchantHierarchy, AccountState.updateMetadata,
    AccountState.genericUpdate] at updated
  split at updated
  · cases updated
    rfl
  · cases updated

/-- The ancestry that is written is that of the scope's row. -/
theorem stored_withAncestry (hierarchy : Hierarchy)
    (cache : String → Option AccountCache.MerchantAccount) :
    AccountState.stored
        ⟨state.table.map fun row =>
          if row.merchantId = some merchantId then
            row.withAncestry (state.mergedMetadata merchantId hierarchy) hierarchy.profileName
          else row, cache⟩ configs =
      (state.stored configs).updateMerchantHierarchy merchantId hierarchy := by
  have sameMetadata : ((state.stored configs).loadMerchantByMerchantId merchantId).bind
        Merchant.MerchantAccount.internalMetadata =
      (state.findRow merchantId).bind DbMerchantAccount.internalMetadata := by
    rw [load_stored, Option.bind_map]
    rfl
  rw [Stored.updateMerchantHierarchy, sameMetadata, AccountState.stored, AccountState.stored]
  congr 1
  change List.filterMap _ (List.map _ state.table) = _
  rw [List.filterMap_map, List.map_filterMap]
  congr 1
  funext row
  rw [Function.comp_apply, DbMerchantAccount.scope, DbMerchantAccount.scope]
  cases owner : row.merchantId with
  | none =>
      rw [if_neg (Option.some_ne_none merchantId).symm, owner]
      rfl
  | some other =>
      by_cases own : other = merchantId
      · rw [own, if_pos rfl, Option.map_some, Option.map_some, if_pos rfl,
          DbMerchantAccount.withAncestry, owner, own]
        rfl
      · rw [if_neg fun same => own (Option.some.inj same), owner, Option.map_some,
          Option.map_some, if_neg own]

/-- An update writes the ancestry into the scope's rows and no other column of them but the
name, and removes the account from the cache. -/
theorem stored_updateMerchantHierarchy {hierarchy : Hierarchy}
    (updated : state.updateMerchantHierarchy merchantId hierarchy = .ok next) :
    next.stored configs = (state.stored configs).updateMerchantHierarchy merchantId hierarchy ∧
      next.table.map DbMerchantAccount.withoutAncestry =
        state.table.map DbMerchantAccount.withoutAncestry ∧
      next.cache (cacheKey merchantId) = none ∧
      ∀ key ≠ cacheKey merchantId, next.cache key = state.cache key := by
  rw [updateMerchantHierarchy_eq updated]
  refine ⟨stored_withAncestry hierarchy _, ?_, Function.update_self .., ?_⟩
  · rw [List.map_map]
    apply List.map_congr_left
    intro row _
    rw [Function.comp_apply]
    split <;> rfl
  · exact fun key isOther => Function.update_of_ne isOther _ _

end Ancestry

/-! ## Steps -/

/-- What an operation does next. -/
inductive AccountStage where
  | load
  | fetch
  | fill (merchant : MerchantAccount)
  | update (value : Option String)
  | merge (hierarchy : Hierarchy)
  | updateMetadata (metadata : StoredText) (merchantName : Option String)
  | delete
  | evict
  | finished

/-- After a write of the table the cached account is removed; after a refusal nothing is. -/
def afterWrite (state : AccountState) : Except MeshError AccountState → AccountStage × AccountState
  | .error _ => (.finished, state)
  | .ok written => (.evict, written)

/-- The steps of the operations on a merchant's account, each of them atomic. -/
def accountProcess (merchantId : String) : Process AccountState AccountStage Unit
  | .load, state =>
      match state.cache (cacheKey merchantId) with
      | some _ => some ((), .finished, state)
      | none => some ((), .fetch, state)
  | .fetch, state =>
      match state.account merchantId with
      | none => some ((), .finished, state)
      | some merchant => some ((), .fill merchant, state)
  | .fill merchant, state => some ((), .finished, state.setCache merchantId (some merchant))
  | .update value, state => some ((), afterWrite state (state.updateDeciderInput merchantId value))
  | .merge hierarchy, state =>
      some ((), .updateMetadata (state.mergedMetadata merchantId hierarchy)
        hierarchy.profileName, state)
  | .updateMetadata metadata merchantName, state =>
      some ((), afterWrite state (state.updateMetadata merchantId metadata merchantName))
  | .delete, state => some ((), afterWrite state (state.genericDelete merchantId))
  | .evict, state => some ((), .finished, state.setCache merchantId none)
  | .finished, _ => none

inductive AccountOperation where
  | load
  | update (value : Option String)
  | updateHierarchy (hierarchy : Hierarchy)
  | delete

def AccountOperation.start : AccountOperation → AccountStage
  | .load => .load
  | .update value => .update value
  | .updateHierarchy hierarchy => .merge hierarchy
  | .delete => .delete

/-- The operations before their first step. -/
def startOperations {ι : Type} (state : AccountState) (operations : ι → AccountOperation) :
    Config AccountState ι AccountStage :=
  ⟨state, fun index => (operations index).start⟩

/-! ## The cache beside the table -/

/-- What an operation has still to write to the cache. -/
def pendingEntry : AccountStage → Option (Option MerchantAccount)
  | .fill merchant => some (some merchant)
  | .evict => some none
  | _ => none

section Steps

variable {merchantId : String} {stage nextStage : AccountStage} {shared next : AccountState}

/-- A step beside the table and the cached account of the merchant. -/
abbrev AccountStep (merchantId : String) : AccountStage → AccountState → AccountStage →
    AccountState → Prop :=
  AsideStep (fun state => state.account merchantId)
    (fun state => state.cache (cacheKey merchantId)) pendingEntry

theorem cache_of_genericUpdate {change : DbMerchantAccount → DbMerchantAccount}
    (written : shared.genericUpdate merchantId change = .ok next) : next.cache = shared.cache := by
  rw [AccountState.genericUpdate] at written
  split at written
  · cases written
    rfl
  · cases written

theorem cache_of_genericDelete (written : shared.genericDelete merchantId = .ok next) :
    next.cache = shared.cache := by
  rw [AccountState.genericDelete] at written
  split at written
  · cases written
    rfl
  · cases written

theorem cache_of_updateDeciderInput {value : Option String}
    (written : shared.updateDeciderInput merchantId value = .ok next) :
    next.cache = shared.cache := by
  cases value with
  | none => cases written
  | some value => exact cache_of_genericUpdate written

/-- An operation that has written the table will remove the account from the cache. -/
theorem accountStep_afterWrite {result : Except MeshError AccountState} {event : Unit}
    (idle : pendingEntry stage = none)
    (kept : ∀ written, result = .ok written → written.cache = shared.cache)
    (steps : some ((), afterWrite shared result) = some (event, nextStage, next)) :
    AccountStep merchantId stage shared nextStage next := by
  cases result with
  | error error =>
      cases steps
      exact .passes rfl rfl idle.symm
  | ok written =>
      cases steps
      have entry : next.cache (cacheKey merchantId) = shared.cache (cacheKey merchantId) := by
        rw [kept next rfl]
      exact .fetches entry rfl (Or.inl rfl)

theorem accountStep_of_accountProcess {event : Unit}
    (steps : accountProcess merchantId stage shared = some (event, nextStage, next)) :
    AccountStep merchantId stage shared nextStage next := by
  cases stage with
  | load =>
      rw [accountProcess] at steps
      split at steps
      · cases steps
        exact .passes rfl rfl rfl
      · cases steps
        exact .passes rfl rfl rfl
  | fetch =>
      rw [accountProcess] at steps
      split at steps
      · cases steps
        exact .passes rfl rfl rfl
      · next merchant stored =>
          cases steps
          exact .fetches rfl rfl (Or.inr stored.symm)
  | fill merchant =>
      cases steps
      exact .writes rfl rfl (Function.update_self ..)
  | update value =>
      exact accountStep_afterWrite rfl (fun _ => cache_of_updateDeciderInput) steps
  | merge hierarchy =>
      cases steps
      exact .passes rfl rfl rfl
  | updateMetadata metadata merchantName =>
      exact accountStep_afterWrite rfl (fun _ => cache_of_genericUpdate) steps
  | delete =>
      exact accountStep_afterWrite rfl (fun _ => cache_of_genericDelete) steps
  | evict =>
      cases steps
      exact .writes rfl rfl (Function.update_self ..)
  | finished => cases steps

/-- An operation that is done has nothing left to write. -/
theorem pendingEntry_of_done (stopped : accountProcess merchantId stage shared = none) :
    pendingEntry stage = none := by
  cases stage with
  | fill merchant => cases stopped
  | evict => cases stopped
  | _ => rfl

end Steps

/-! ## Runs -/

section Run

variable {ι : Type} [DecidableEq ι]

/-- An account that the table no longer has is only put into the cache while another operation
has still to write the cache, and will do it right. -/
def InPace (merchantId : String) (config : Config AccountState ι AccountStage) (index : ι) :
    Prop :=
  Covered (fun state : AccountState => state.account merchantId) pendingEntry config index

/-- When all operations are done and no outdated account was left to itself, the cached account
is that of the table, and none is cached of a merchant that has no row. -/
theorem cachedAccount_converges {merchantId : String} {state : AccountState}
    {operations : ι → AccountOperation}
    (settled : Settled (state.account merchantId) (state.cache (cacheKey merchantId)))
    {trace : List (ι × Unit)} {final : Config AccountState ι AccountStage}
    (run : Run (fun config label next => Moves (accountProcess merchantId) config label next ∧
      InPace merchantId config label.1) (startOperations state operations) trace final)
    (done : final.Done (accountProcess merchantId)) :
    (∀ merchant, final.shared.cache (cacheKey merchantId) = some merchant →
      final.shared.account merchantId = some merchant) ∧
    ((∀ row ∈ final.shared.table, row.merchantId ≠ some merchantId) →
      final.shared.cache (cacheKey merchantId) = none) := by
  have converging : Converging (fun state : AccountState => state.account merchantId)
      (fun state => state.cache (cacheKey merchantId)) pendingEntry final := by
    apply run.invariant_of_allowed fun _ config => Converging
      (fun state : AccountState => state.account merchantId)
      (fun state => state.cache (cacheKey merchantId)) pendingEntry config
    · exact Or.inl settled
    · rintro _ config label next converging inPace ⟨steps⟩
      exact converging.step inPace (accountStep_of_accountProcess steps)
  have right := converging.settled fun index => pendingEntry_of_done (done index)
  constructor
  · intro merchant isCached
    rcases right with noEntry | isCurrent
    · cases isCached.symm.trans noEntry
    · exact isCurrent.symm.trans isCached
  · intro noRow
    rcases right with noEntry | isCurrent
    · exact noEntry
    · have none : final.shared.findRow merchantId = none := by
        rw [AccountState.findRow, List.getLast?_eq_none_iff, List.filter_eq_nil_iff]
        exact fun row listed isRow => noRow row listed (of_decide_eq_true isRow)
      rw [isCurrent, AccountState.account, none]
      rfl

end Run

/-! ## An account that comes back -/

section Stale

/-- A row of the merchant with a decider input. -/
def storedRow : DbMerchantAccount where
  id := 1
  merchantId := some "merchant"
  gatewayDecidedByHealthEnabled := none
  gatewayPriority := none
  gatewayPriorityLogic := none
  internalHashKey := none
  userId := none
  secondaryMerchantAccountId := none
  useCodeForGatewayPriority := true
  enableGatewayReferenceIdBasedRouting := none
  gatewaySuccessRateBasedDeciderInput := some "old"
  internalMetadata := none
  country := none
  installmentEnabled := none
  tenantAccountId := none
  priorityLogicConfig := none
  merchantCategoryCode := none
  merchantName := none

/-- The row of the merchant, with nothing cached. -/
def storedState : AccountState :=
  ⟨[storedRow], fun _ => none⟩

/-- An ancestry that is written to the row of the merchant. -/
theorem stored_updateMerchantHierarchy_row :
    ∃ next, storedState.updateMerchantHierarchy "merchant"
        ⟨shapeVersion, "org", none, "hs", none, some "Shop", none⟩ = .ok next ∧
      next.stored (fun _ => none) = (storedState.stored fun _ => none).updateMerchantHierarchy
        "merchant" ⟨shapeVersion, "org", none, "hs", none, some "Shop", none⟩ ∧
      next.table.map DbMerchantAccount.withoutAncestry = [storedRow.withoutAncestry] ∧
      next.cache (cacheKey "merchant") = none := by
  have updated : ∃ next, storedState.updateMerchantHierarchy "merchant"
      ⟨shapeVersion, "org", none, "hs", none, some "Shop", none⟩ = .ok next := ⟨_, rfl⟩
  rcases updated with ⟨next, updated⟩
  have written := @stored_updateMerchantHierarchy _ _ _ (fun _ => none) _ updated
  exact ⟨next, updated, written.1, written.2.1, written.2.2.1⟩

/-- One operation loads the account and the other one deletes it. -/
def loadAndDelete (second : Bool) : AccountOperation :=
  if second then .delete else .load

theorem fetch_storedState :
    accountProcess "merchant" .fetch storedState =
      some ((), .fill (storedRow.accountOf "merchant"), storedState) := by
  have stored : storedState.account "merchant" = some (storedRow.accountOf "merchant") := by
    simp [AccountState.account, AccountState.findRow, storedState, storedRow,
      DbMerchantAccount.toAccount]
  rw [accountProcess, stored]

theorem delete_storedState :
    accountProcess "merchant" .delete storedState = some ((), .evict, ⟨[], fun _ => none⟩) := by
  have deleted : storedState.genericDelete "merchant" = .ok ⟨[], fun _ => none⟩ := by
    simp [AccountState.genericDelete, storedState, storedRow]
  rw [accountProcess, deleted]
  rfl

/-- The load caches the account of the deleted row, but the deletion has still to remove it. -/
def coveredFinal : Config AccountState Bool AccountStage :=
  runSchedule (accountProcess "merchant") (startOperations storedState loadAndDelete)
    [false, false, true, false, true]

theorem cachedAccount_converges_covered :
    (∀ merchant, coveredFinal.shared.cache (cacheKey "merchant") = some merchant →
      coveredFinal.shared.account "merchant" = some merchant) ∧
    ((∀ row ∈ coveredFinal.shared.table, row.merchantId ≠ some "merchant") →
      coveredFinal.shared.cache (cacheKey "merchant") = none) := by
  have paced : AllowedSchedule (accountProcess "merchant") (InPace "merchant")
      (startOperations storedState loadAndDelete) [false, false, true, false, true] := by
    refine .cons (covered_of_idle rfl) rfl (.cons (covered_of_idle rfl) fetch_storedState
      (.cons (covered_of_idle rfl) delete_storedState (.cons ?_ rfl (.cons ?_ rfl trivial))))
    · intro value _
      exact Or.inr ⟨true, none, by decide, rfl, Or.inl rfl⟩
    · intro value written
      cases written
      exact Or.inl (Or.inl rfl)
  apply cachedAccount_converges (Or.inl rfl) (run_scheduleTrace _ paced)
  intro index
  cases index <;> rfl

/-- A load that has read the row puts the account back after the deletion has removed it. -/
theorem cachedAccount_converges_counterexample :
    ∃ trace final, Interleaving (accountProcess "merchant")
        (startOperations storedState loadAndDelete) trace final ∧
      final.Done (accountProcess "merchant") ∧
      final.shared.table = [] ∧
      final.shared.cache (cacheKey "merchant") = some (storedRow.accountOf "merchant") := by
  refine ⟨_, _, interleaving_scheduleTrace (accountProcess "merchant")
    (startOperations storedState loadAndDelete) [false, false, true, true, false], ?_, rfl, rfl⟩
  intro index
  cases index <;> rfl

end Stale

end DecisionEngine.Merchant.AccountCache
