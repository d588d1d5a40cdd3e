import DecisionEngine.Auth.Authenticate
import DecisionEngine.Config.Features
import DecisionEngine.Config.Slots
import DecisionEngine.CostIngestion.CredentialOwnership
import DecisionEngine.CostIngestion.OverlayIndex
import DecisionEngine.Merchant.AccountCache
import DecisionEngine.Transition.Footprint

/-!
# The stored configurations of the merchants

The merchants of a tenant have their keys, their accounts, and configurations under names.
Most names have the merchant in them, and are of this merchant alone.  The names of fee
overrides and credentials are of the merchant they are assigned to.  The features, the
merchants with overrides and the polled sources are lists for all merchants.
-/

namespace DecisionEngine.Config

open Auth (ApiKeyStore)
open Text Transition
open CostIngestion (SourceRef credsName overrideName)
open Merchant.AccountCache (AccountState DbMerchantAccount MerchantAccount cacheKey)

structure TenantStore where
  keys : ApiKeyStore
  accounts : AccountState
  configs : ConfigState

/-! ## Names -/

/-- A configuration in which merchants are listed. -/
def globalIndexName : String := "cost_fee_override_merchants"

def pollIndexName (connector : String) : String := "cost_ingest_poll::" ++ connector

/-- The configurations of one merchant. -/
inductive MerchantName where
  | successRate
  | debitRouting
  | debitRoutingEnabled
  | overrideIndex
  | clusterOverrides
  | sources
  deriving DecidableEq

def MerchantName.start : MerchantName → String
  | .successRate => "SR_V3_INPUT_CONFIG_"
  | .debitRouting => "DEBIT_ROUTING_CONFIG_"
  | .debitRoutingEnabled => "DEBIT_ROUTING_ENABLED_"
  | .overrideIndex => "cost_fee_override_index::"
  | .clusterOverrides => "cost_cluster_overrides::"
  | .sources => "cost_ingest_sources::"

def MerchantName.name (kind : MerchantName) (merchantId : String) : String :=
  kind.start ++ merchantId

/-- What a name is for. -/
inductive NameKind where
  | ofMerchant (merchantId : String)
  | pollSources (connector : String)
  | other (name : String)

def stripStart (start text : String) : Option String :=
  (text.toList.dropPrefix? start.toList).map String.ofList

/-- The beginnings of the names with a merchant or a connector. -/
def nameStarts : List (String × (String → NameKind)) :=
  [(MerchantName.successRate.start, .ofMerchant), (MerchantName.debitRouting.start, .ofMerchant),
    (MerchantName.debitRoutingEnabled.start, .ofMerchant),
    (MerchantName.overrideIndex.start, .ofMerchant),
    (MerchantName.clusterOverrides.start, .ofMerchant), (MerchantName.sources.start, .ofMerchant),
    ("cost_ingest_poll::", .pollSources)]

/-- The beginnings of the names of fee overrides and of credentials, which no one merchant can
be read from. -/
def assignedStarts : List String :=
  ["cost_fee_override::", "cost_ingest_creds::"]

def isAssignedName (name : String) : Bool :=
  assignedStarts.any fun start => (stripStart start name).isSome

/-- What a name is for, when the names of fee overrides and of credentials are assigned to
merchants. -/
def nameKind (assigned : String → Option String) (name : String) : NameKind :=
  match nameStarts.findSome? fun start => (stripStart start.1 name).map start.2 with
  | some kind => kind
  | none =>
      if isAssignedName name then (assigned name).elim (.other name) .ofMerchant else .other name

section Names

variable {assigned : String → Option String} {name merchantId connector account : String}

theorem stripStart_append (start rest : String) : stripStart start (start ++ rest) = some rest := by
  rw [stripStart, String.toList_append, List.dropPrefix?_append_of_beq _ (beq_self_eq_true _),
    Option.map_some, String.ofList_toList]

/-- Neither text is the beginning of the other. -/
def StartsApart (first second : String) : Prop :=
  ¬first.toList <+: second.toList ∧ ¬second.toList <+: first.toList

theorem stripStart_eq_none {start text : String} (noStart : ¬start.toList <+: text.toList) :
    stripStart start text = none := by
  rw [stripStart, Option.map_eq_none_iff, Option.eq_none_iff_forall_ne_some]
  intro remaining found
  rcases List.dropPrefix?_eq_some_iff.mp found with ⟨same, isText, isStart⟩
  rw [beq_iff_eq] at isStart
  rw [isStart] at isText
  exact noStart (isText ▸ List.prefix_append start.toList remaining)

theorem stripStart_of_apart {start other : String} (apart : StartsApart start other)
    (rest : String) : stripStart start (other ++ rest) = none := by
  apply stripStart_eq_none
  rw [String.toList_append]
  intro isStart
  rcases List.prefix_or_prefix_of_prefix (List.prefix_append other.toList rest.toList)
      isStart with otherFirst | startFirst
  · exact apart.2 otherFirst
  · exact apart.1 startFirst

/-- Of beginnings that are apart the one that a text has is found. -/
theorem findSome?_of_apart {α : Type} {starts : List (String × (String → α))}
    (apart : starts.Pairwise fun first second => StartsApart first.1 second.1)
    {start : String × (String → α)} (listed : start ∈ starts) (rest : String) :
    (starts.findSome? fun other => (stripStart other.1 (start.1 ++ rest)).map other.2) =
      some (start.2 rest) := by
  induction starts with
  | nil => cases listed
  | cons first others ih =>
      rw [List.pairwise_cons] at apart
      rw [List.findSome?_cons]
      rcases List.mem_cons.mp listed with rfl | isOther
      · rw [stripStart_append]
        rfl
      · rw [stripStart_of_apart (apart.1 start isOther) rest]
        exact ih apart.2 isOther

theorem nameStarts_apart :
    nameStarts.Pairwise fun first second => StartsApart first.1 second.1 := by
  simp [nameStarts, StartsApart, MerchantName.start]

theorem nameKind_of_start {start : String × (String → NameKind)} (listed : start ∈ nameStarts)
    (rest : String) : nameKind assigned (start.1 ++ rest) = start.2 rest := by
  rw [nameKind, findSome?_of_apart nameStarts_apart listed]

theorem nameKind_merchantName (assigned : String → Option String) (kind : MerchantName)
    (merchantId : String) : nameKind assigned (kind.name merchantId) = .ofMerchant merchantId := by
  have listed : (kind.start, NameKind.ofMerchant) ∈ nameStarts := by
    cases kind <;> simp [nameStarts]
  exact nameKind_of_start listed merchantId

theorem nameKind_pollIndexName :
    nameKind assigned (pollIndexName connector) = .pollSources connector := by
  have listed : ("cost_ingest_poll::", NameKind.pollSources) ∈ nameStarts := by
    simp [nameStarts]
  exact nameKind_of_start listed connector

/-- The names with neither a merchant nor a connector in them. -/
def plainNames : List String :=
  globalIndexName :: KnownFeature.all.map KnownFeature.featureConfKey

theorem plainNames_apart : ∀ name ∈ plainNames,
    ∀ start ∈ nameStarts.map Prod.fst ++ assignedStarts, ¬start.toList <+: name.toList := by
  simp [plainNames, globalIndexName, KnownFeature.all, KnownFeature.featureConfKey, nameStarts,
    MerchantName.start, assignedStarts]

theorem nameKind_of_plain (listed : name ∈ plainNames) : nameKind assigned name = .other name := by
  have noStart : (nameStarts.findSome? fun start => (stripStart start.1 name).map start.2) =
      none := by
    rw [List.findSome?_eq_none_iff]
    intro start isStart
    rw [stripStart_eq_none (plainNames_apart name listed start.1
      (List.mem_append_left _ (List.mem_map_of_mem isStart)))]
    rfl
  have notAssigned : isAssignedName name = false := by
    rw [isAssignedName, List.any_eq_false]
    intro start isStart
    rw [stripStart_eq_none (plainNames_apart name listed start
      (List.mem_append_right _ isStart))]
    exact Bool.false_ne_true
  rw [nameKind, noStart, notAssigned]
  rfl

theorem nameKind_globalIndexName :
    nameKind assigned globalIndexName = .other globalIndexName :=
  nameKind_of_plain List.mem_cons_self

theorem nameKind_featureConfKey (feature : KnownFeature) :
    nameKind assigned feature.featureConfKey = .other feature.featureConfKey := by
  have listed : feature ∈ KnownFeature.all := by cases feature <;> simp [KnownFeature.all]
  exact nameKind_of_plain (List.mem_cons_of_mem _ (List.mem_map_of_mem listed))

theorem assignedStarts_apart : ∀ assignedStart ∈ assignedStarts, ∀ start ∈ nameStarts,
    StartsApart start.1 assignedStart := by
  simp [nameStarts, MerchantName.start, assignedStarts, StartsApart]

/-- An assigned name is of the merchant that it is assigned to. -/
theorem nameKind_of_assigned {start : String} (listed : start ∈ assignedStarts)
    (isName : ∃ rest, name = start ++ rest) (isAssigned : assigned name = some merchantId) :
    nameKind assigned name = .ofMerchant merchantId := by
  rcases isName with ⟨rest, rfl⟩
  have noStart : (nameStarts.findSome? fun other =>
      (stripStart other.1 (start ++ rest)).map other.2) = none := by
    rw [List.findSome?_eq_none_iff]
    intro other otherListed
    rw [stripStart_of_apart (assignedStarts_apart start listed other otherListed)]
    rfl
  have isAssignedStart : isAssignedName (start ++ rest) = true :=
    List.any_eq_true.mpr ⟨start, listed, by rw [stripStart_append]; rfl⟩
  rw [nameKind, noStart, isAssignedStart, isAssigned]
  rfl

theorem nameKind_overrideName {owner : String}
    (isAssigned : assigned (overrideName merchantId connector) = some owner) :
    nameKind assigned (overrideName merchantId connector) = .ofMerchant owner := by
  have listed : "cost_fee_override::" ∈ assignedStarts := by simp [assignedStarts]
  refine nameKind_of_assigned listed ⟨join "::" [merchantId, connector], ?_⟩ isAssigned
  exact join_cons "::" "cost_fee_override" (List.cons_ne_nil _ _)

theorem nameKind_credsName (isAssigned : assigned (credsName connector account) = some merchantId) :
    nameKind assigned (credsName connector account) = .ofMerchant merchantId := by
  have listed : "cost_ingest_creds::" ∈ assignedStarts := by simp [assignedStarts]
  refine nameKind_of_assigned listed ⟨join "::" [connector, account], ?_⟩ isAssigned
  exact join_cons "::" "cost_ingest_creds" (List.cons_ne_nil _ _)

end Names

/-! ## Calls -/

/-- What a request reads or writes a configuration for. -/
inductive CallSite where
  | lookup
  | exists
  | write
  | prune
  | shown
  | cached
  deriving DecidableEq

/-- Which calls of a request fail, and with what. -/
structure StoreCalls where
  failure : CallSite → String → Option MeshError
  accountLoadFails : Bool
  accountWriteFailure : Option MeshError

abbrev Route (ε α : Type) := Effect TenantStore ε α

variable {ε α : Type}

variable (calls : StoreCalls)

def findConfig (site : CallSite) (name : String) (onError : MeshError → ε) :
    Route ε (Option ServiceConfiguration) :=
  fun store =>
    match calls.failure site name with
    | some error => (.error (onError error), store)
    | none => (.ok (store.configs.findConfigByName name), store)

def writeConfig (app : TenantAppState) (calls : StoreCalls) (name : String) (write : ConfigWrite)
    (onError : MeshError → ε) : Route ε PUnit :=
  fun store =>
    match calls.failure .write name with
    | some error => (.error (onError error), store)
    | none =>
        match write.run app name store.configs with
        | .error error => (.error (onError error), store)
        | .ok configs => (.ok .unit, { store with configs := configs })

/-- A find through the caches; when it has to go to the table and fails there, it finds
nothing. -/
def findCached (app : TenantAppState) (calls : StoreCalls) (name : String)
    (decode : String → Option α) : Route ε (Option α) :=
  fun store =>
    let slot := store.configs.slot app name
    if (calls.failure .cached name).isSome && slot.memory.isNone && (slot.redisText app).isNone then
      (.ok none, store)
    else
      let found := store.configs.findByNameFromRedisHelper app name decode
      (.ok found.1, { store with configs := found.2 })

/-- An account that is not cached and cannot be loaded is none. -/
def loadMerchant (merchantId : String) : Route ε (Option MerchantAccount) :=
  fun store =>
    if calls.accountLoadFails && (store.accounts.cache (cacheKey merchantId)).isNone then
      (.ok none, store)
    else
      let loaded := store.accounts.loadMerchantByMerchantId merchantId
      (.ok loaded.1, { store with accounts := loaded.2 })

/-- A write of the account of a merchant. -/
inductive AccountWrite where
  | deciderInput (value : Option String)
  | delete

def AccountWrite.run (merchantId : String) (state : AccountState) :
    AccountWrite → Except MeshError AccountState
  | .deciderInput value => state.updateMerchantAccount merchantId value
  | .delete => state.deleteMerchantAccount merchantId

def writeAccount (merchantId : String) (write : AccountWrite) (onError : MeshError → ε) :
    Route ε PUnit :=
  fun store =>
    match calls.accountWriteFailure with
    | some error => (.error (onError error), store)
    | none =>
        match write.run merchantId store.accounts with
        | .error error => (.error (onError error), store)
        | .ok accounts => (.ok .unit, { store with accounts := accounts })

/-! ## Accounts -/

/-- The rows of a merchant and the cached account. -/
structure AccountSlot where
  rows : List DbMerchantAccount
  cached : Option MerchantAccount

def accountSlot (state : AccountState) (merchantId : String) : AccountSlot where
  rows := state.table.filter fun row => row.merchantId = some merchantId
  cached := state.cache (cacheKey merchantId)

/-- The account that is found, and the slot with the account in the cache. -/
def AccountSlot.load (slot : AccountSlot) : Option MerchantAccount × AccountSlot :=
  match slot.cached with
  | some cached => (some cached, slot)
  | none =>
      match slot.rows.getLast?.bind DbMerchantAccount.toAccount with
      | none => (none, slot)
      | some merchant => (some merchant, { slot with cached := some merchant })

def AccountWrite.onSlot (slot : AccountSlot) : AccountWrite → Except MeshError AccountSlot
  | .deciderInput none => .error .others
  | .deciderInput (some value) =>
      if slot.rows.isEmpty then .error .noRowstoUpdate
      else
        .ok
          { rows := slot.rows.map fun row =>
              { row with gatewaySuccessRateBasedDeciderInput := some value }
            cached := none }
  | .delete => if slot.rows.isEmpty then .error .noRowstoDelete else .ok ⟨[], none⟩

/-- The slot of the merchant after an operation, and the slots that it leaves. -/
structure WrittenAccount (state : AccountState) (merchantId : String) (slot : AccountSlot)
    (next : AccountState) : Prop where
  own : accountSlot next merchantId = slot
  others : ∀ other, other ≠ merchantId → accountSlot next other = accountSlot state other

section Accounts

variable {state : AccountState} {merchantId other : String}

theorem cacheKey_injective : Function.Injective cacheKey :=
  fun _ _ sameKey => String.append_right_inj _ |>.mp sameKey

/-- After a write of the table the cache has an entry for the merchant. -/
theorem writtenAccount_setCache {table rows : List DbMerchantAccount}
    (entry : Option MerchantAccount)
    (own : (table.filter fun row => row.merchantId = some merchantId) = rows)
    (others : ∀ other, other ≠ merchantId →
      (table.filter fun row => row.merchantId = some other) =
        state.table.filter fun row => row.merchantId = some other) :
    WrittenAccount state merchantId ⟨rows, entry⟩
      (AccountState.setCache { state with table := table } merchantId entry) :=
  ⟨congrArg₂ AccountSlot.mk own (Function.update_self ..), fun other differ =>
    congrArg₂ AccountSlot.mk (others other differ)
      (Function.update_of_ne (fun sameKey => differ (cacheKey_injective sameKey)) ..)⟩

/-- An account is loaded as its slot says. -/
theorem load_eq_slot (state : AccountState) (merchantId : String) :
    (state.loadMerchantByMerchantId merchantId).1 = (accountSlot state merchantId).load.1 ∧
      WrittenAccount state merchantId (accountSlot state merchantId).load.2
        (state.loadMerchantByMerchantId merchantId).2 := by
  have isCached : (accountSlot state merchantId).cached = state.cache (cacheKey merchantId) := rfl
  have isStored : (accountSlot state merchantId).rows.getLast?.bind DbMerchantAccount.toAccount =
      state.account merchantId := rfl
  rw [AccountState.loadMerchantByMerchantId, AccountSlot.load, isCached, isStored]
  cases state.cache (cacheKey merchantId) with
  | some cached => exact ⟨rfl, rfl, fun _ _ => rfl⟩
  | none =>
      cases state.account merchantId with
      | none => exact ⟨rfl, rfl, fun _ _ => rfl⟩
      | some merchant => exact ⟨rfl, writtenAccount_setCache (some merchant) rfl fun _ _ => rfl⟩

section Updates

variable {change : DbMerchantAccount → DbMerchantAccount}

theorem filter_update (keeps : ∀ row, (change row).merchantId = row.merchantId)
    (table : List DbMerchantAccount) :
    ((table.map fun row => if row.merchantId = some merchantId then change row else row).filter
        fun row => row.merchantId = some other) =
      (table.filter fun row => row.merchantId = some other).map
        fun row => if row.merchantId = some merchantId then change row else row := by
  rw [List.filter_map]
  congr 1
  apply List.filter_congr
  intro row _
  rw [Function.comp_apply]
  split
  · rw [keeps]
  · rfl

theorem writtenAccount_updated (change : DbMerchantAccount → DbMerchantAccount)
    (keeps : ∀ row, (change row).merchantId = row.merchantId) (state : AccountState)
    (merchantId : String) :
    WrittenAccount state merchantId ⟨(accountSlot state merchantId).rows.map change, none⟩
      (AccountState.setCache
        { state with
          table := state.table.map fun row =>
            if row.merchantId = some merchantId then change row else row }
        merchantId none) := by
  apply writtenAccount_setCache
  · rw [filter_update keeps]
    apply List.map_congr_left
    intro row rowMem
    rw [List.mem_filter, decide_eq_true_eq] at rowMem
    rw [if_pos rowMem.2]
  · intro other differ
    rw [filter_update keeps, List.map_congr_left (g := id), List.map_id]
    intro row rowMem
    rw [List.mem_filter, decide_eq_true_eq] at rowMem
    rw [if_neg fun same => differ (Option.some.inj (rowMem.2.symm.trans same)), id]

end Updates

theorem writtenAccount_deleted (state : AccountState) (merchantId : String) :
    WrittenAccount state merchantId ⟨[], none⟩
      (AccountState.setCache
        { state with table := state.table.filter fun row => row.merchantId ≠ some merchantId }
        merchantId none) := by
  apply writtenAccount_setCache
  · rw [List.filter_filter, List.filter_eq_nil_iff]
    intro row _
    simp
  · intro other differ
    rw [List.filter_filter]
    apply List.filter_congr
    intro row _
    by_cases isOther : row.merchantId = some other
    · simp [isOther, differ]
    · simp [isOther]

/-- A write of an account is refused as the slot says, or makes of the slot what it says. -/
theorem accountWrite_cases (write : AccountWrite) (merchantId : String) (state : AccountState) :
    (∃ error, write.run merchantId state = .error error ∧
        write.onSlot (accountSlot state merchantId) = .error error) ∨
      ∃ next slot, write.run merchantId state = .ok next ∧
        write.onSlot (accountSlot state merchantId) = .ok slot ∧
        WrittenAccount state merchantId slot next := by
  have anyRow : (state.table.any fun row => decide (row.merchantId = some merchantId)) =
      !(accountSlot state merchantId).rows.isEmpty :=
    any_eq_filter ..
  cases write with
  | deciderInput value =>
      cases value with
      | none => exact Or.inl ⟨.others, rfl, rfl⟩
      | some value =>
          rw [AccountWrite.run, AccountWrite.onSlot, AccountState.updateMerchantAccount,
            AccountState.updateDeciderInput, AccountState.genericUpdate, anyRow]
          cases isEmpty : (accountSlot state merchantId).rows.isEmpty with
          | true => exact Or.inl ⟨.noRowstoUpdate, rfl, rfl⟩
          | false =>
              refine Or.inr ⟨_, _, rfl, rfl, ?_⟩
              exact writtenAccount_updated
                (fun row => { row with gatewaySuccessRateBasedDeciderInput := some value })
                (fun _ => rfl) state merchantId
  | delete =>
      rw [AccountWrite.run, AccountWrite.onSlot, AccountState.deleteMerchantAccount,
        AccountState.genericDelete, anyRow]
      cases isEmpty : (accountSlot state merchantId).rows.isEmpty with
      | true => exact Or.inl ⟨.noRowstoDelete, rfl, rfl⟩
      | false => exact Or.inr ⟨_, _, rfl, rfl, writtenAccount_deleted state merchantId⟩

end Accounts

end DecisionEngine.Config
