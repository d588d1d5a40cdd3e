import DecisionEngine.Config.RouteIsolation
import DecisionEngine.Config.RuleData

/-!
# The routes of rules are a map

The configuration of a merchant for an algorithm is what its last request that succeeded has
made of it, in whichever of the two stores it is kept.  The text that is stored is the one
that was written, so that a get gives back the data and the decider reads the same fields.
-/

namespace DecisionEngine.Config

open Json Text Transition Transition.Effect
open Merchant.AccountCache (AccountState DbMerchantAccount MerchantAccount cacheKey)

/-! ## Requests -/

inductive RuleOperation where
  | create (rule : RoutingRule RuleData)
  | update (rule : RoutingRule RuleData)
  | get (payload : FetchRoutingRule)
  | delete (payload : FetchRoutingRule)

namespace RuleOperation

def toConfigOperation : RuleOperation → ConfigOperation RuleData
  | create rule => .createRule rule
  | update rule => .updateRule rule
  | get payload => .getRule payload
  | delete payload => .deleteRule payload

/-- The merchant and the algorithm of a request. -/
def target : RuleOperation → String × AlgorithmType
  | create rule | update rule => (rule.merchantId, rule.algorithm)
  | get payload | delete payload => (payload.merchantId, payload.algorithm)

/-- The rule that a request submits. -/
def submitted : RuleOperation → Option (RoutingRule RuleData)
  | create rule | update rule => some rule
  | get _ | delete _ => none

end RuleOperation

structure RuleRequest (Page : Type) where
  operation : RuleOperation
  calls : RequestCalls Page

/-- The data of a rule if it is one of the merchant for the algorithm. -/
def RoutingRule.dataFor (rule : RoutingRule RuleData) (merchantId : String)
    (algorithm : AlgorithmType) : Option (RuleData algorithm) :=
  if same : rule.merchantId = merchantId ∧ rule.algorithm = algorithm then some (same.2 ▸ rule.data)
  else none

/-- What a request that has succeeded has made of the configuration of a merchant for an
algorithm: the data of a rule, or none by a deletion. -/
def configured {Page : Type} (merchantId : String) (algorithm : AlgorithmType) :
    RuleOperation → ConfigAnswer RuleData Page → Option (Option (RuleData algorithm))
  | .create rule, .ruleWritten (.ok _) | .update rule, .ruleWritten (.ok _) =>
      (rule.dataFor merchantId algorithm).map some
  | .delete payload, .ruleDeleted (.ok _) =>
      if payload.merchantId = merchantId ∧ payload.algorithm = algorithm then some none else none
  | _, _ => none

/-- What the last request that has succeeded has made of it. -/
def lastConfigured {Page : Type} (merchantId : String) (algorithm : AlgorithmType)
    (events : List (RuleRequest Page × ConfigAnswer RuleData Page)) :
    Option (Option (RuleData algorithm)) :=
  events.reverse.findSome? fun event => configured merchantId algorithm event.1.operation event.2

/-! ## Stored texts -/

/-- The text that is stored for a merchant and an algorithm. -/
def storedText (store : TenantStore) (merchantId : String) (algorithm : AlgorithmType) :
    Option String :=
  match algorithm.configName with
  | some kind =>
      (store.configs.findConfigByName (kind.name merchantId)).bind ServiceConfiguration.value
  | none =>
      (store.accounts.account merchantId).map MerchantAccount.gatewaySuccessRateBasedDeciderInput

/-- The text for data that are written, and after a deletion. -/
def textFor (json : JsonText) (algorithm : AlgorithmType) :
    Option (RuleData algorithm) → Option String
  | some data => some (json.print (encodeRule algorithm data))
  | none => if algorithm.configName.isSome then none else some ""

/-- An account in the cache is the one of the table. -/
def AccountsCached (store : TenantStore) : Prop :=
  ∀ merchantId account, (accountSlot store.accounts merchantId).cached = some account →
    store.accounts.account merchantId = some account

/-- One text is written, and nothing else. -/
structure TextWritten (store : TenantStore) (merchantId : String) (algorithm : AlgorithmType)
    (text : Option String) (next : TenantStore) : Prop where
  cached : AccountsCached next
  known : ∀ other,
    (next.accounts.account other).isSome = (store.accounts.account other).isSome
  own : storedText next merchantId algorithm = text
  others : ∀ other algorithm', (other, algorithm') ≠ (merchantId, algorithm) →
    storedText next other algorithm' = storedText store other algorithm'

section Writes

variable {store : TenantStore} {merchantId other : String} {algorithm : AlgorithmType}

theorem start_injective {first second : MerchantName} (same : first.start = second.start) :
    first = second := by
  cases first <;> cases second <;> first | rfl | exact absurd same (by decide)

theorem name_inj {first second : MerchantName}
    (same : first.name merchantId = second.name other) :
    first = second ∧ merchantId = other := by
  have sameKind := congrArg (nameKind fun _ => none) same
  rw [nameKind_merchantName, nameKind_merchantName, NameKind.ofMerchant.injEq] at sameKind
  rw [MerchantName.name, MerchantName.name, sameKind, String.append_left_inj] at same
  exact ⟨start_injective same, sameKind⟩

theorem configName_injective {first second : AlgorithmType} {kind : MerchantName}
    (isFirst : first.configName = some kind) (isSecond : second.configName = some kind) :
    first = second := by
  cases first <;> cases second <;> first | rfl | (cases isFirst; cases isSecond) | cases isFirst

theorem textWritten_config {app : TenantAppState} {kind : MerchantName} {slot : Slot}
    {configs : ConfigState} (named : algorithm.configName = some kind)
    (cached : AccountsCached store)
    (written : ConfigState.WrittenSlot app store.configs (kind.name merchantId) slot configs) :
    TextWritten store merchantId algorithm (slot.row.bind ServiceConfiguration.value)
      { store with configs := configs } := by
  refine ⟨cached, fun _ => rfl, ?_, ?_⟩
  · rw [storedText, named]
    change (configs.findConfigByName (kind.name merchantId)).bind _ = _
    rw [ConfigState.findConfigByName_eq_row app, written.own]
  · intro other algorithm' differ
    rw [storedText, storedText]
    cases otherNamed : algorithm'.configName with
    | none => rfl
    | some kind' =>
        have otherName : kind'.name other ≠ kind.name merchantId := by
          intro same
          rcases name_inj same with ⟨rfl, rfl⟩
          exact differ (congrArg _ (configName_injective otherNamed named))
        change (configs.findConfigByName (kind'.name other)).bind _ = _
        rw [ConfigState.findConfigByName_eq_row app, written.others _ otherName,
          ← ConfigState.findConfigByName_eq_row app]

theorem configName_eq_none {algorithm : AlgorithmType} :
    algorithm.configName = none ↔ algorithm = .elimination := by
  cases algorithm <;> simp [AlgorithmType.configName]

theorem account_eq_slot (state : AccountState) :
    state.account merchantId =
      (accountSlot state merchantId).rows.getLast?.bind DbMerchantAccount.toAccount :=
  rfl

theorem account_of_written {state next : AccountState} {slot : AccountSlot}
    (written : WrittenAccount state merchantId slot next) :
    next.account other =
      if other = merchantId then slot.rows.getLast?.bind DbMerchantAccount.toAccount
      else state.account other := by
  split
  · next own => rw [account_eq_slot, own, written.own]
  · next differ => rw [account_eq_slot, written.others other differ, ← account_eq_slot]

theorem cached_of_written {accounts : AccountState} {slot : AccountSlot}
    (cached : AccountsCached store)
    (written : WrittenAccount store.accounts merchantId slot accounts)
    (ownCached : ∀ account, slot.cached = some account →
      slot.rows.getLast?.bind DbMerchantAccount.toAccount = some account) :
    AccountsCached { store with accounts := accounts } := by
  intro other account isCached
  change accounts.account other = some account
  change (accountSlot accounts other).cached = some account at isCached
  rw [account_of_written written]
  by_cases own : other = merchantId
  · rw [own, written.own] at isCached
    rw [if_pos own]
    exact ownCached account isCached
  · rw [written.others other own] at isCached
    rw [if_neg own]
    exact cached other account isCached

/-- A row of the merchant is an account. -/
theorem account_of_rows {state : AccountState}
    (found : (accountSlot state merchantId).rows.isEmpty = false) :
    (state.account merchantId).isSome = true := by
  rw [account_eq_slot]
  cases isLast : (accountSlot state merchantId).rows.getLast? with
  | none =>
      rw [List.getLast?_eq_none_iff.mp isLast] at found
      cases found
  | some row =>
      have rowMem := List.mem_of_getLast? isLast
      rw [accountSlot, List.mem_filter, decide_eq_true_eq] at rowMem
      rw [Option.bind_some, DbMerchantAccount.toAccount, rowMem.2]
      rfl

def withDeciderInput (text : String) (account : MerchantAccount) : MerchantAccount :=
  { account with gatewaySuccessRateBasedDeciderInput := text }

theorem toAccount_deciderInput (row : DbMerchantAccount) (text : String) :
    DbMerchantAccount.toAccount { row with gatewaySuccessRateBasedDeciderInput := some text } =
      row.toAccount.map (withDeciderInput text) := by
  rw [DbMerchantAccount.toAccount, DbMerchantAccount.toAccount]
  cases row.merchantId with
  | none => rfl
  | some owner => rfl

/-- An input is written into the account of a merchant that has one. -/
theorem account_of_deciderInput {state next : AccountState} {text : String}
    (written : (AccountWrite.deciderInput (some text)).run merchantId state = .ok next) :
    (state.account merchantId).isSome = true ∧
      (accountSlot next merchantId).cached = none ∧
      (∀ other, other ≠ merchantId → accountSlot next other = accountSlot state other) ∧
      next.account merchantId = (state.account merchantId).map (withDeciderInput text) := by
  rcases accountWrite_cases (.deciderInput (some text)) merchantId state with
    ⟨error, refused, _⟩ | ⟨_, slot, ran, onSlot, writtenSlot⟩
  · rw [refused] at written
    cases written
  · rw [ran, Except.ok.injEq] at written
    subst written
    rw [AccountWrite.onSlot] at onSlot
    split at onSlot
    · cases onSlot
    · next notEmpty =>
        cases onSlot
        refine ⟨account_of_rows (Bool.eq_false_of_not_eq_true notEmpty), ?_, writtenSlot.others, ?_⟩
        · rw [writtenSlot.own]
        · rw [account_eq_slot, account_eq_slot, writtenSlot.own, List.getLast?_map,
            Option.bind_map, Option.map_bind]
          congr 1
          funext row
          exact toAccount_deciderInput row text

theorem textWritten_account {accounts : AccountState} {text : String}
    (unnamed : algorithm.configName = none) (cached : AccountsCached store)
    (written : (AccountWrite.deciderInput (some text)).run merchantId store.accounts =
      .ok accounts) :
    TextWritten store merchantId algorithm (some text) { store with accounts := accounts } := by
  rcases account_of_deciderInput written with ⟨found, notCached, otherSlots, ownAccount⟩
  have otherAccount (other : String) (differ : other ≠ merchantId) :
      accounts.account other = store.accounts.account other := by
    rw [account_eq_slot, otherSlots other differ, ← account_eq_slot]
  constructor
  · intro other account isCached
    change accounts.account other = some account
    change (accountSlot accounts other).cached = some account at isCached
    by_cases own : other = merchantId
    · rw [own, notCached] at isCached
      cases isCached
    · rw [otherSlots other own] at isCached
      rw [otherAccount other own]
      exact cached other account isCached
  · intro other
    change (accounts.account other).isSome = _
    by_cases own : other = merchantId
    · rw [own, ownAccount, Option.isSome_map]
    · rw [otherAccount other own]
  · rw [storedText, unnamed]
    change (accounts.account merchantId).map _ = _
    rcases Option.isSome_iff_exists.mp found with ⟨account, isAccount⟩
    rw [ownAccount, isAccount]
    rfl
  · intro other algorithm' differ
    rw [storedText, storedText]
    cases otherNamed : algorithm'.configName with
    | some kind => rfl
    | none =>
        have otherMerchant : other ≠ merchantId := by
          rintro rfl
          rw [configName_eq_none.mp otherNamed, configName_eq_none.mp unnamed] at differ
          exact differ rfl
        change (accounts.account other).map _ = _
        rw [otherAccount other otherMerchant]

end Writes

/-! ## Requests -/

/-- What a request makes of the stored texts. -/
structure Serves {Page : Type} (json : JsonText) (store : TenantStore) (operation : RuleOperation)
    (answer : ConfigAnswer RuleData Page) (next : TenantStore) : Prop where
  cached : AccountsCached next
  known : ∀ merchantId,
    (next.accounts.account merchantId).isSome = (store.accounts.account merchantId).isSome
  found : ∀ merchantId algorithm data,
    configured merchantId algorithm operation answer = some data →
      (store.accounts.account merchantId).isSome = true
  texts : ∀ merchantId algorithm, storedText next merchantId algorithm =
    (configured merchantId algorithm operation answer).elim
      (storedText store merchantId algorithm) (textFor json algorithm)

/-- The tables are the same. -/
structure SameTables (store next : TenantStore) : Prop where
  accounts : next.accounts.table = store.accounts.table
  configs : next.configs = store.configs

section Steps

variable {Page : Type} {json : JsonText} {config : RouteConfig RuleData}
  {calls : RequestCalls Page} {store next : TenantStore} {operation : RuleOperation}
  {answer : ConfigAnswer RuleData Page}

theorem SameTables.account_eq (same : SameTables store next) (merchantId : String) :
    next.accounts.account merchantId = store.accounts.account merchantId := by
  rw [AccountState.account, AccountState.findRow, same.accounts]
  rfl

theorem SameTables.storedText_eq (same : SameTables store next) (merchantId : String)
    (algorithm : AlgorithmType) :
    storedText next merchantId algorithm = storedText store merchantId algorithm := by
  rw [storedText, storedText, same.configs, same.account_eq]

/-- A request that changes no table and has not succeeded in changing a rule. -/
theorem serves_of_same (cached : AccountsCached next) (same : SameTables store next)
    (notConfigured : ∀ merchantId algorithm,
      configured merchantId algorithm operation answer = none) :
    Serves json store operation answer next := by
  refine ⟨cached, fun merchantId => by rw [same.account_eq], ?_, fun merchantId algorithm => ?_⟩
  · intro merchantId algorithm data isConfigured
    rw [notConfigured] at isConfigured
    cases isConfigured
  · rw [notConfigured, Option.elim_none, same.storedText_eq]

/-- A request that has written the text of what it has made. -/
theorem serves_of_written {middle : TenantStore} {text : Option String}
    (found : (store.accounts.account operation.target.1).isSome = true)
    (same : SameTables store middle)
    (written : TextWritten middle operation.target.1 operation.target.2 text next)
    (made : ∃ data, configured operation.target.1 operation.target.2 operation answer = some data ∧
      textFor json operation.target.2 data = text)
    (notOthers : ∀ merchantId algorithm, (merchantId, algorithm) ≠ operation.target →
      configured merchantId algorithm operation answer = none) :
    Serves json store operation answer next := by
  refine ⟨written.cached, fun merchantId => by rw [written.known, same.account_eq], ?_, ?_⟩
  · intro merchantId algorithm data isConfigured
    by_cases own : (merchantId, algorithm) = operation.target
    · have isMerchant : merchantId = operation.target.1 := congrArg Prod.fst own
      rw [isMerchant]
      exact found
    · rw [notOthers merchantId algorithm own] at isConfigured
      cases isConfigured
  · intro merchantId algorithm
    by_cases own : (merchantId, algorithm) = operation.target
    · have isMerchant : merchantId = operation.target.1 := congrArg Prod.fst own
      have isAlgorithm : algorithm = operation.target.2 := congrArg Prod.snd own
      subst isMerchant isAlgorithm
      rcases made with ⟨data, isMade, isText⟩
      rw [written.own, isMade, Option.elim_some, isText]
    · rw [notOthers merchantId algorithm own, Option.elim_none,
        written.others merchantId algorithm own, same.storedText_eq]

/-- A load returns the account of the table, or fails, and changes no table. -/
theorem loadMerchant_cases {ε : Type} (storeCalls : StoreCalls) (merchantId : String)
    (cached : AccountsCached store) :
    ∃ loaded next,
      (loadMerchant storeCalls merchantId : Route ε (Option MerchantAccount)).outcome store =
        (.ok loaded, next) ∧
      (loaded = store.accounts.account merchantId ∨
        storeCalls.accountLoadFails = true ∧ loaded = none) ∧
      AccountsCached next ∧ SameTables store next := by
  rw [outcome, loadMerchant]
  split
  · next fails =>
      rw [Bool.and_eq_true] at fails
      exact ⟨none, store, rfl, Or.inr ⟨fails.1, rfl⟩, cached, rfl, rfl⟩
  · rcases load_eq_slot store.accounts merchantId with ⟨loads, written⟩
    have isAccount : (accountSlot store.accounts merchantId).load.1 =
        store.accounts.account merchantId := by
      rw [AccountSlot.load, account_eq_slot]
      split
      · next found => exact (cached merchantId _ found).symm
      · split
        · next missed => exact missed.symm
        · next found => exact found.symm
    have sameTable : (store.accounts.loadMerchantByMerchantId merchantId).2.table =
        store.accounts.table := by
      rw [AccountState.loadMerchantByMerchantId]
      split
      · rfl
      · split <;> rfl
    refine ⟨_, _, rfl, Or.inl (loads.trans isAccount), cached_of_written cached written ?_,
      sameTable, rfl⟩
    intro account isCached
    rw [AccountSlot.load] at isCached ⊢
    split at isCached
    · next found => exact cached merchantId account isCached
    · next missed =>
        split at isCached
        · next noAccount =>
            rw [missed] at isCached
            cases isCached
        · next found => exact found.trans isCached

section Rules

variable {ε α : Type} {storeCalls : StoreCalls} {post : Except ε α → TenantStore → Prop}

theorem ensures_loadMerchant_bind {merchantId : String}
    {rest : Option MerchantAccount → Route ε α} (cached : AccountsCached store)
    (goes : ∀ loaded next, AccountsCached next → SameTables store next →
      (loaded.isSome = true → (store.accounts.account merchantId).isSome = true) →
      Ensures (rest loaded) next post) :
    Ensures (loadMerchant storeCalls merchantId >>= rest) store post := by
  rcases @loadMerchant_cases store ε storeCalls merchantId cached with
    ⟨loaded, next, loads, isLoaded, nextCached, same⟩
  refine ensures_bind.mpr ?_
  rw [Ensures, loads]
  refine goes loaded next nextCached same fun isSome => ?_
  rcases isLoaded with rfl | ⟨_, rfl⟩
  · exact isSome
  · cases isSome

theorem ensures_findConfig_bind {site : CallSite} {name : String} {onError : MeshError → ε}
    {rest : Option ServiceConfiguration → Route ε α}
    (fails : ∀ error, storeCalls.failure site name = some error →
      post (.error (onError error)) store)
    (goes : Ensures (rest (store.configs.findConfigByName name)) store post) :
    Ensures (findConfig storeCalls site name onError >>= rest) store post := by
  refine ensures_bind.mpr ?_
  cases failed : storeCalls.failure site name with
  | some error =>
      rw [Ensures, outcome, findConfig, failed]
      exact fails error failed
  | none =>
      rw [Ensures, outcome, findConfig, failed]
      exact goes

theorem ensures_writeConfig_bind {app : TenantAppState} {name : String} {write : ConfigWrite}
    {onError : MeshError → ε} {rest : PUnit → Route ε α}
    (fails : ∀ error, post (.error error) store)
    (goes : ∀ slot configs, write.onSlot name (store.configs.slot app name) = .ok slot →
      ConfigState.WrittenSlot app store.configs name slot configs →
      Ensures (rest .unit) { store with configs := configs } post) :
    Ensures (writeConfig app storeCalls name write onError >>= rest) store post := by
  refine ensures_bind.mpr ?_
  cases failed : storeCalls.failure .write name with
  | some error =>
      rw [Ensures, outcome, writeConfig, failed]
      exact fails _
  | none =>
      rcases ConfigState.run_cases write app name store.configs with
        ⟨error, refused, _⟩ | ⟨configs, slot, ran, onSlot, written⟩
      · rw [Ensures, outcome, writeConfig, failed, refused]
        exact fails _
      · rw [Ensures, outcome, writeConfig, failed, ran]
        exact goes slot configs onSlot written

theorem ensures_writeAccount_bind {merchantId : String} {write : AccountWrite}
    {onError : MeshError → ε} {rest : PUnit → Route ε α}
    (fails : ∀ error, post (.error error) store)
    (goes : ∀ accounts, write.run merchantId store.accounts = .ok accounts →
      Ensures (rest .unit) { store with accounts := accounts } post) :
    Ensures (writeAccount storeCalls merchantId write onError >>= rest) store post := by
  refine ensures_bind.mpr ?_
  cases failed : storeCalls.accountWriteFailure with
  | some error =>
      rw [Ensures, outcome, writeAccount, failed]
      exact fails _
  | none =>
      cases ran : write.run merchantId store.accounts with
      | error error =>
          rw [Ensures, outcome, writeAccount, failed, ran]
          exact fails _
      | ok accounts =>
          rw [Ensures, outcome, writeAccount, failed, ran]
          exact goes accounts ran

end Rules

/-! ## The routes -/

theorem dataFor_self (rule : RoutingRule RuleData) :
    rule.dataFor rule.merchantId rule.algorithm = some rule.data := by
  rw [RoutingRule.dataFor, dif_pos ⟨rfl, rfl⟩]

theorem dataFor_of_ne {rule : RoutingRule RuleData} {merchantId : String}
    {algorithm : AlgorithmType}
    (differ : (merchantId, algorithm) ≠ (rule.merchantId, rule.algorithm)) :
    rule.dataFor merchantId algorithm = none := by
  rw [RoutingRule.dataFor, dif_neg]
  rintro ⟨rfl, rfl⟩
  exact differ rfl

/-- A rule whose text has been written. -/
theorem serves_of_rule {middle : TenantStore} {rule : RoutingRule RuleData}
    {response : RuleConfigResponse RuleData}
    (isWrite : operation = .create rule ∨ operation = .update rule)
    (found : (store.accounts.account rule.merchantId).isSome = true)
    (same : SameTables store middle)
    (written : TextWritten middle rule.merchantId rule.algorithm
      (some (json.print (encodeRule rule.algorithm rule.data))) next) :
    Serves json store operation (.ruleWritten (.ok response) : ConfigAnswer RuleData Page)
      next := by
  have isConfigured (merchantId : String) (algorithm : AlgorithmType) :
      configured merchantId algorithm operation
          (.ruleWritten (.ok response) : ConfigAnswer RuleData Page) =
        (rule.dataFor merchantId algorithm).map some := by
    rcases isWrite with rfl | rfl <;> rfl
  have isTarget : operation.target = (rule.merchantId, rule.algorithm) := by
    rcases isWrite with rfl | rfl <;> rfl
  have ownWritten : TextWritten middle operation.target.1 operation.target.2
      (some (json.print (encodeRule rule.algorithm rule.data))) next := by
    rw [isTarget]
    exact written
  refine serves_of_written (isTarget ▸ found) same ownWritten ?_ ?_
  · rw [isTarget, isConfigured, dataFor_self]
    exact ⟨some rule.data, rfl, rfl⟩
  · intro merchantId algorithm differ
    rw [isTarget] at differ
    rw [isConfigured, dataFor_of_ne differ]
    rfl

theorem serves_createRule (cached : AccountsCached store) (rule : RoutingRule RuleData) :
    Ensures (createRuleConfig (config.withRules json) calls rule) store fun result next =>
      Serves json store (.create rule) (.ruleWritten result : ConfigAnswer RuleData Page) next := by
  rw [createRuleConfig]
  refine ensures_loadMerchant_bind cached fun loaded middle middleCached same found => ?_
  have failed (error : RuleConfigurationError) :
      Serves json store (.create rule)
        (.ruleWritten (.error error) : ConfigAnswer RuleData Page) middle :=
    serves_of_same middleCached same fun _ _ => rfl
  refine ensures_require_bind (fun _ => failed _) fun isLoaded => ?_
  refine ensures_orError_bind (fun _ => failed _) fun serialized isSerialized => ?_
  cases isSerialized
  cases named : rule.algorithm.configName with
  | some kind =>
      refine ensures_findConfig_bind (fun _ _ => failed _) ?_
      refine ensures_require_bind (fun _ => failed _) fun isNew => ?_
      refine ensures_writeConfig_bind failed fun slot configs onSlot written => ?_
      rw [ConfigState.findConfigByName_eq_row (config.withRules json).app, Slot.row,
        Option.isNone_iff_eq_none,
        List.head?_eq_none_iff] at isNew
      cases onSlot
      have textWritten := textWritten_config named middleCached written
      rw [Slot.written, Slot.row, isNew] at textWritten
      exact serves_of_rule (.inl rfl) (found isLoaded) same textWritten
  | none =>
      refine ensures_writeAccount_bind failed fun accounts written => ?_
      exact serves_of_rule (.inl rfl) (found isLoaded) same
        (textWritten_account named middleCached written)

theorem serves_updateRule (cached : AccountsCached store) (rule : RoutingRule RuleData) :
    Ensures (updateRuleConfig (config.withRules json) calls rule) store fun result next =>
      Serves json store (.update rule) (.ruleWritten result : ConfigAnswer RuleData Page) next := by
  rw [updateRuleConfig]
  refine ensures_loadMerchant_bind cached fun loaded middle middleCached same found => ?_
  have failed (error : RuleConfigurationError) :
      Serves json store (.update rule)
        (.ruleWritten (.error error) : ConfigAnswer RuleData Page) middle :=
    serves_of_same middleCached same fun _ _ => rfl
  refine ensures_require_bind (fun _ => failed _) fun isLoaded => ?_
  refine ensures_orError_bind (fun _ => failed _) fun serialized isSerialized => ?_
  cases isSerialized
  cases named : rule.algorithm.configName with
  | some kind =>
      refine ensures_writeConfig_bind failed fun slot configs onSlot written => ?_
      rw [ConfigWrite.onSlot] at onSlot
      split at onSlot
      · cases onSlot
      · next notEmpty =>
          cases onSlot
          have textWritten := textWritten_config named middleCached written
          cases rows : (middle.configs.slot (config.withRules json).app
              (kind.name rule.merchantId)).rows with
          | nil => exact absurd (by rw [rows]; rfl) notEmpty
          | cons row rest =>
              rw [Slot.written, Slot.row, rows] at textWritten
              exact serves_of_rule (.inr rfl) (found isLoaded) same textWritten
  | none =>
      refine ensures_writeAccount_bind failed fun accounts written => ?_
      exact serves_of_rule (.inr rfl) (found isLoaded) same
        (textWritten_account named middleCached written)

theorem serves_deleteRule (cached : AccountsCached store) (payload : FetchRoutingRule) :
    Ensures (deleteRuleConfig (config.withRules json) calls payload) store fun result next =>
      Serves json store (.delete payload) (.ruleDeleted result : ConfigAnswer RuleData Page)
        next := by
  have deleted {middle next : TenantStore} {text : Option String}
      {response : RuleConfigDeleteResponse}
      (found : (store.accounts.account payload.merchantId).isSome = true)
      (same : SameTables store middle)
      (written : TextWritten middle payload.merchantId payload.algorithm text next)
      (isText : textFor json payload.algorithm none = text) :
      Serves json store (.delete payload)
        (.ruleDeleted (.ok response) : ConfigAnswer RuleData Page) next := by
    refine serves_of_written found same written ⟨none, if_pos ⟨rfl, rfl⟩, isText⟩ ?_
    intro merchantId algorithm differ
    refine if_neg ?_
    rintro ⟨rfl, rfl⟩
    exact differ rfl
  rw [deleteRuleConfig]
  refine ensures_loadMerchant_bind cached fun loaded middle middleCached same found => ?_
  have failed (error : RuleConfigurationError) :
      Serves json store (.delete payload)
        (.ruleDeleted (.error error) : ConfigAnswer RuleData Page) middle :=
    serves_of_same middleCached same fun _ _ => rfl
  refine ensures_orError_bind (fun _ => failed _) fun account isLoaded => ?_
  have isFound := found (isLoaded ▸ rfl)
  cases named : payload.algorithm.configName with
  | some kind =>
      refine ensures_writeConfig_bind failed fun slot configs onSlot written => ?_
      rw [ConfigWrite.onSlot] at onSlot
      split at onSlot
      · cases onSlot
      · cases onSlot
        refine deleted isFound same (textWritten_config named middleCached written) ?_
        rw [textFor, named]
        rfl
  | none =>
      refine ensures_require_bind (fun _ => failed _) fun _ => ?_
      refine ensures_writeAccount_bind failed fun accounts written => ?_
      refine deleted isFound same (textWritten_account named middleCached written) ?_
      rw [textFor, named]
      rfl

theorem serves_getRule (cached : AccountsCached store) (payload : FetchRoutingRule) :
    Ensures (getRuleConfig (config.withRules json) calls payload) store fun result next =>
      Serves json store (.get payload) (.rule result : ConfigAnswer RuleData Page) next := by
  rw [getRuleConfig]
  refine ensures_loadMerchant_bind cached fun loaded middle middleCached same found => ?_
  have unchanged (result : Except RuleConfigurationError (RoutingRule RuleData)) :
      Serves json store (.get payload) (.rule result : ConfigAnswer RuleData Page) middle :=
    serves_of_same middleCached same fun _ _ => rfl
  refine ensures_orError_bind (fun _ => unchanged _) fun account _ => ?_
  cases payload.algorithm.configName with
  | some kind =>
      refine ensures_findConfig_bind (fun _ _ => unchanged _) ?_
      refine ensures_orError_bind (fun _ => unchanged _) fun text _ => ?_
      exact ensures_orError_bind (fun _ => unchanged _) fun data _ => unchanged _
  | none => exact ensures_orError_bind (fun _ => unchanged _) fun data _ => unchanged _

end Steps

/-! ## Runs -/

section Runs

variable [LetterCase] {Page : Type}

/-- A request on a rule after it has been admitted. -/
def serveRule (config : RouteConfig RuleData) (json : JsonText) (store : TenantStore)
    (request : RuleRequest Page) : ConfigAnswer RuleData Page × TenantStore :=
  request.operation.toConfigOperation.handle (config.withRules json) request.calls store

/-- The requests with their answers. -/
def ruleEvents (config : RouteConfig RuleData) (json : JsonText) (store : TenantStore)
    (history : List (RuleRequest Page)) : List (RuleRequest Page × ConfigAnswer RuleData Page) :=
  seen (serveRule config json) (fun _ _ => true) store history

variable {config : RouteConfig RuleData} {json : JsonText} {store : TenantStore}

theorem serves_serveRule (config : RouteConfig RuleData) (json : JsonText)
    (cached : AccountsCached store) (request : RuleRequest Page) :
    Serves json store request.operation (serveRule config json store request).1
      (serveRule config json store request).2 := by
  rcases request with ⟨operation, calls⟩
  cases operation with
  | create rule => exact serves_createRule cached rule
  | update rule => exact serves_updateRule cached rule
  | get payload => exact serves_getRule cached payload
  | delete payload => exact serves_deleteRule cached payload

omit [LetterCase] in
theorem lastConfigured_cons (merchantId : String) (algorithm : AlgorithmType)
    (event : RuleRequest Page × ConfigAnswer RuleData Page)
    (events : List (RuleRequest Page × ConfigAnswer RuleData Page)) :
    lastConfigured merchantId algorithm (event :: events) =
      (lastConfigured merchantId algorithm events).or
        (configured merchantId algorithm event.1.operation event.2) := by
  rw [lastConfigured, List.reverse_cons, List.findSome?_append, lastConfigured,
    List.findSome?_cons, List.findSome?_nil]
  cases configured merchantId algorithm event.1.operation event.2 <;> rfl

/-- What a run of requests makes of the stored texts. -/
structure ServesAll (json : JsonText) (store : TenantStore)
    (events : List (RuleRequest Page × ConfigAnswer RuleData Page)) (final : TenantStore) :
    Prop where
  cached : AccountsCached final
  known : ∀ merchantId,
    (final.accounts.account merchantId).isSome = (store.accounts.account merchantId).isSome
  found : ∀ merchantId algorithm data,
    lastConfigured merchantId algorithm events = some data →
      (store.accounts.account merchantId).isSome = true
  texts : ∀ merchantId algorithm, storedText final merchantId algorithm =
    (lastConfigured merchantId algorithm events).elim
      (storedText store merchantId algorithm) (textFor json algorithm)

theorem servesAll_history (config : RouteConfig RuleData) (json : JsonText)
    (cached : AccountsCached store) (history : List (RuleRequest Page)) :
    ServesAll json store (ruleEvents config json store history)
      (serveAll (serveRule config json) store history) := by
  induction history generalizing store with
  | nil => exact ⟨cached, fun _ => rfl, fun _ _ _ => nofun, fun _ _ => rfl⟩
  | cons request rest ih =>
      have step := serves_serveRule config json cached request
      have others := ih step.cached
      have split : ruleEvents config json store (request :: rest) =
          (request, (serveRule config json store request).1) ::
            ruleEvents config json (serveRule config json store request).2 rest := by
        rw [ruleEvents, seen, if_pos rfl]
        rfl
      rw [split]
      refine ⟨others.cached, fun merchantId =>
        (others.known merchantId).trans (step.known merchantId), ?_, ?_⟩
      · intro merchantId algorithm data isLast
        rw [lastConfigured_cons, Option.or_eq_some_iff] at isLast
        rcases isLast with later | ⟨_, now⟩
        · rw [← step.known]
          exact others.found merchantId algorithm data later
        · exact step.found merchantId algorithm data now
      · intro merchantId algorithm
        refine (others.texts merchantId algorithm).trans ?_
        rw [lastConfigured_cons, step.texts]
        cases lastConfigured merchantId algorithm
          (ruleEvents config json (serveRule config json store request).2 rest) <;> rfl

/-! ## What a get returns -/

/-- Whether the merchant or only the configuration is not found. -/
def notFound (store : TenantStore) (merchantId : String) : RuleConfigurationError :=
  if (store.accounts.account merchantId).isSome then .configurationNotFound else .merchantNotFound

/-- The calls of a get all succeed. -/
structure Succeeds (calls : RequestCalls Page) : Prop where
  reads : ∀ site name, calls.failure site name = none
  loads : calls.accountLoadFails = false

/-- The answer of a get. -/
def gotRule (config : RouteConfig RuleData) (json : JsonText) (calls : RequestCalls Page)
    (store : TenantStore) (merchantId : String) (algorithm : AlgorithmType) :
    Except RuleConfigurationError (RoutingRule RuleData) :=
  ((getRuleConfig (config.withRules json) calls ⟨merchantId, algorithm⟩).outcome store).1

/-- The success rates as the decider decodes them. -/
def deciderConfig (json : JsonText) (store : TenantStore) (merchantId : String) :
    Option SrV3InputConfig :=
  ((storedText store merchantId .successRate).bind json.parse).bind SrV3InputConfig.codec.read

/-- A get by the text that is stored. -/
def ruleOf (json : JsonText) (found : Bool) (text : Option String) (merchantId : String)
    (algorithm : AlgorithmType) : Except RuleConfigurationError (RoutingRule RuleData) :=
  if found then
    match text with
    | none => .error .configurationNotFound
    | some text =>
        match (json.parse text).bind (decodeRule algorithm) with
        | some data => .ok ⟨merchantId, algorithm, data⟩
        | none =>
            .error (if algorithm.configName.isSome then .storageError else .configurationNotFound)
  else .error .merchantNotFound

section

omit [LetterCase]

theorem ruleOf_of_data {text merchantId : String} {algorithm : AlgorithmType}
    {data : RuleData algorithm}
    (isData : (json.parse text).bind (decodeRule algorithm) = some data) :
    ruleOf json true (some text) merchantId algorithm = .ok ⟨merchantId, algorithm, data⟩ := by
  unfold ruleOf
  rw [if_pos rfl]
  dsimp only
  rw [isData]

theorem ruleOf_of_noData {text : String} {algorithm : AlgorithmType} (merchantId : String)
    (noData : (json.parse text).bind (decodeRule algorithm) = none) :
    ruleOf json true (some text) merchantId algorithm =
      .error (if algorithm.configName.isSome then .storageError else .configurationNotFound) := by
  unfold ruleOf
  rw [if_pos rfl]
  dsimp only
  rw [noData]

theorem gotRule_eq {calls : RequestCalls Page} (cached : AccountsCached store)
    (succeeds : Succeeds calls) (merchantId : String) (algorithm : AlgorithmType) :
    gotRule config json calls store merchantId algorithm =
      ruleOf json (store.accounts.account merchantId).isSome
        (storedText store merchantId algorithm) merchantId algorithm := by
  change Ensures (getRuleConfig (config.withRules json) calls ⟨merchantId, algorithm⟩) store
    fun result _ => result = _
  rcases @loadMerchant_cases store RuleConfigurationError calls.toStoreCalls merchantId cached with
    ⟨loaded, next, loads, isLoaded, _, same⟩
  rw [succeeds.loads, or_iff_left (fun fails => absurd fails.1 Bool.false_ne_true)] at isLoaded
  rw [getRuleConfig]
  refine ensures_bind.mpr ?_
  rw [Ensures, loads, isLoaded]
  refine ensures_orError_bind (fun isMissing => ?_) fun account isAccount => ?_
  · rw [isMissing]
    rfl
  · rw [storedText, isAccount, Option.isSome_some]
    cases named : algorithm.configName with
    | some kind =>
        refine ensures_findConfig_bind (fun error fails => ?_) ?_
        · rw [succeeds.reads] at fails
          cases fails
        · rw [same.configs]
          dsimp only
          refine ensures_orError_bind (fun noText => ?_) fun text isText => ?_
          · rw [noText]
            rfl
          · rw [isText]
            refine ensures_orError_bind (fun noData => ?_) fun data isData => ?_
            · rw [ruleOf_of_noData merchantId noData, named]
              rfl
            · exact (ruleOf_of_data isData).symm
    | none =>
        refine ensures_orError_bind (fun noData => ?_) fun data isData => ?_
        · rw [Option.map_some, ruleOf_of_noData merchantId noData, named]
          rfl
        · exact (ruleOf_of_data isData).symm

end

/-- A value is parsed from what is printed for it. -/
def JsonText.Lossless (json : JsonText) (value : Value) : Prop :=
  json.parse (json.print value) = some value

/-- No rule is stored: nothing under its name, and an empty input in the account. -/
def NoRules (store : TenantStore) : Prop :=
  ∀ merchantId algorithm, storedText store merchantId algorithm = none ∨
    algorithm.configName = none ∧ storedText store merchantId algorithm = some ""

section Results

variable {history : List (RuleRequest Page)} {merchantId : String} {algorithm : AlgorithmType}

variable {operation : RuleOperation} {answer : ConfigAnswer RuleData Page}
  {data : RuleData algorithm}

omit [LetterCase] in
/-- Data that a request has made are those of the rule that it has submitted. -/
theorem submitted_of_configured
    (isMade : configured merchantId algorithm operation answer = some (some data)) :
    ∃ rule, operation.submitted = some rule ∧
      encodeRule rule.algorithm rule.data = encodeRule algorithm data := by
  have ofRule {rule : RoutingRule RuleData}
      (isData : (rule.dataFor merchantId algorithm).map some = some (some data)) :
      encodeRule rule.algorithm rule.data = encodeRule algorithm data := by
    rcases Option.map_eq_some_iff.mp isData with ⟨_, found, isSome⟩
    cases isSome
    rw [RoutingRule.dataFor] at found
    split at found
    · next same =>
        rcases same with ⟨_, rfl⟩
        cases found
        rfl
    · cases found
  unfold configured at isMade
  split at isMade
  · exact ⟨_, rfl, ofRule isMade⟩
  · exact ⟨_, rfl, ofRule isMade⟩
  · split at isMade <;> cases isMade
  · cases isMade

theorem lossless_of_lastConfigured
    (lossless : ∀ request ∈ history, ∀ rule, request.operation.submitted = some rule →
      json.Lossless (encodeRule rule.algorithm rule.data))
    {data : RuleData algorithm}
    (isLast : lastConfigured merchantId algorithm (ruleEvents config json store history) =
      some (some data)) :
    json.Lossless (encodeRule algorithm data) := by
  rcases List.exists_of_findSome?_eq_some isLast with ⟨event, listed, isMade⟩
  rcases submitted_of_configured isMade with ⟨rule, isSubmitted, sameValue⟩
  rw [← sameValue]
  exact lossless event.1 (mem_of_mem_seen (List.mem_reverse.mp listed)) rule isSubmitted

omit [LetterCase] in
theorem ruleOf_of_noRule (empty : json.parse "" = none) (found : Bool) {text : Option String}
    (noRule : text = none ∨ algorithm.configName = none ∧ text = some "") :
    ruleOf json found text merchantId algorithm =
      .error (if found then .configurationNotFound else .merchantNotFound) := by
  cases found with
  | false => rfl
  | true =>
      rcases noRule with rfl | ⟨unnamed, rfl⟩
      · rfl
      · rw [ruleOf_of_noData merchantId (by rw [empty]; rfl), unnamed]
        rfl

omit [LetterCase] in
theorem textFor_none (json : JsonText) (algorithm : AlgorithmType) :
    textFor json algorithm none = none ∨
      algorithm.configName = none ∧ textFor json algorithm none = some "" := by
  rw [textFor]
  cases algorithm.configName with
  | some kind => exact Or.inl rfl
  | none => exact Or.inr ⟨rfl, rfl⟩

variable {calls : RequestCalls Page}

theorem gotRule_history (empty : json.parse "" = none) (cached : AccountsCached store)
    (lossless : ∀ request ∈ history, ∀ rule, request.operation.submitted = some rule →
      json.Lossless (encodeRule rule.algorithm rule.data))
    (succeeds : Succeeds calls) (merchantId : String) (algorithm : AlgorithmType) :
    gotRule config json calls (serveAll (serveRule config json) store history) merchantId
        algorithm =
      (lastConfigured merchantId algorithm (ruleEvents config json store history)).elim
        (gotRule config json calls store merchantId algorithm)
        fun last => last.elim (.error (notFound store merchantId))
          fun data => .ok ⟨merchantId, algorithm, data⟩ := by
  have served := servesAll_history config json cached history
  rw [gotRule_eq served.cached succeeds, gotRule_eq cached succeeds, served.known, served.texts]
  cases isLast : lastConfigured merchantId algorithm (ruleEvents config json store history) with
  | none => rfl
  | some last =>
      have found := served.found merchantId algorithm last isLast
      rw [Option.elim_some, Option.elim_some, notFound, found]
      cases last with
      | none => exact ruleOf_of_noRule empty true (textFor_none json algorithm)
      | some data =>
          apply ruleOf_of_data
          rw [lossless_of_lastConfigured lossless isLast, Option.bind_some, decodeRule_encodeRule]

omit [LetterCase] in
theorem configured_of_ne (differ : operation.target ≠ (merchantId, algorithm)) :
    configured merchantId algorithm operation answer = none := by
  unfold configured
  split
  · rw [dataFor_of_ne (Ne.symm differ)]
    rfl
  · rw [dataFor_of_ne (Ne.symm differ)]
    rfl
  · refine if_neg ?_
    rintro ⟨rfl, rfl⟩
    exact differ rfl
  · rfl

/-- A request on the rule of another merchant or algorithm changes no answer of a get. -/
theorem gotRule_serveRule_of_ne (cached : AccountsCached store) (succeeds : Succeeds calls)
    {request : RuleRequest Page} (differ : request.operation.target ≠ (merchantId, algorithm)) :
    gotRule config json calls (serveRule config json store request).2 merchantId algorithm =
      gotRule config json calls store merchantId algorithm := by
  have step := serves_serveRule config json cached request
  rw [gotRule_eq step.cached succeeds, gotRule_eq cached succeeds, step.known, step.texts,
    configured_of_ne differ, Option.elim_none]

/-- In every run of requests a get returns what the last request that has succeeded has made of
the configuration, or else what it returned at the start, which is nothing when no rule was
stored.  A request for another merchant or algorithm changes nothing, and the decider reads the
fields of the rule. -/
theorem rules_refine_map {calls : RequestCalls Page} (config : RouteConfig RuleData)
    (empty : json.parse "" = none) (cached : AccountsCached store)
    (lossless : ∀ request ∈ history, ∀ rule, request.operation.submitted = some rule →
      json.Lossless (encodeRule rule.algorithm rule.data))
    (succeeds : Succeeds calls) (merchantId : String) (algorithm : AlgorithmType) :
    gotRule config json calls (serveAll (serveRule config json) store history) merchantId
        algorithm =
      (lastConfigured merchantId algorithm (ruleEvents config json store history)).elim
        (gotRule config json calls store merchantId algorithm)
        (fun last => last.elim (.error (notFound store merchantId))
          fun data => .ok ⟨merchantId, algorithm, data⟩) ∧
      (NoRules store →
        gotRule config json calls store merchantId algorithm =
          .error (notFound store merchantId)) ∧
      (∀ request : RuleRequest Page, request.operation.target ≠ (merchantId, algorithm) →
        gotRule config json calls
            (serveAll (serveRule config json) store (history ++ [request])) merchantId algorithm =
          gotRule config json calls (serveAll (serveRule config json) store history) merchantId
            algorithm) ∧
      ∀ data, lastConfigured merchantId .successRate (ruleEvents config json store history) =
          some (some data) →
        deciderConfig json (serveAll (serveRule config json) store history) merchantId =
          some (SuccessRateData.shared data) := by
  have served := servesAll_history config json cached history
  refine ⟨gotRule_history empty cached lossless succeeds merchantId algorithm, ?_, ?_, ?_⟩
  · intro noRules
    rw [gotRule_eq cached succeeds, ruleOf_of_noRule empty _ (noRules merchantId algorithm)]
    rfl
  · intro request differ
    rw [serveAll, List.foldl_append]
    exact gotRule_serveRule_of_ne served.cached succeeds differ
  · intro data isLast
    rw [deciderConfig, served.texts, isLast, Option.elim_some, textFor, Option.bind_some,
      lossless_of_lastConfigured lossless isLast, Option.bind_some]
    exact read_successRate data

end Results

end Runs

/-! ## Rules for debit routing -/

def debitFormat : Format DebitRoutingData :=
  .map (.braced
      (.pair (.field "merchantCategoryCode" .string) (.field "acquirerCountry" .string)))
    (fun parts => ⟨parts.1, parts.2⟩)
    (fun data => (data.merchantCategoryCode, data.acquirerCountry)) fun _ => rfl

/-- The texts of rules for debit routing; no others are written below. -/
def debitText : JsonText where
  print value := ((DebitRoutingData.codec.read value).map debitFormat.print).getD "null"
  parse text := (debitFormat.parse text).map DebitRoutingData.codec.write

theorem lossless_debit (data : DebitRoutingData) :
    debitText.Lossless (encodeRule .debitRouting data) := by
  change debitText.parse (debitText.print (DebitRoutingData.codec.write data)) = _
  rw [debitText]
  dsimp only
  rw [DebitRoutingData.codec.exact, Option.map_some, Option.getD_some, debitFormat.parse_print]
  rfl

def ruleRoutes : RouteConfig RuleData where
  middleware := routeConfig.middleware
  app := plainApp
  formats :=
    { rule := ruleSerde debitText
      feature := routeFormats.feature
      fee := routeFormats.fee
      clusters := routeFormats.clusters
      names := routeFormats.names
      sources := routeFormats.sources }
  keyring := none
  isPullConnector _ := false

def debitRule (merchantId merchantCategoryCode : String) : RoutingRule RuleData :=
  ⟨merchantId, .debitRouting, (⟨merchantCategoryCode, "US"⟩ : DebitRoutingData)⟩

section Debit

local instance ruleCase : LetterCase := .ascii

/-- Two merchants create rules, one twice, and the other deletes its own. -/
def debitHistory : List (RuleRequest Unit) :=
  [⟨.create (debitRule "merchant_1" "5411"), routeCalls⟩,
    ⟨.create (debitRule "merchant_2" "5812"), routeCalls⟩,
    ⟨.create (debitRule "merchant_1" "4111"), routeCalls⟩,
    ⟨.delete ⟨"merchant_2", .debitRouting⟩, routeCalls⟩]

instance : DecidableEq (RuleData .debitRouting) :=
  inferInstanceAs (DecidableEq DebitRoutingData)

theorem lastConfigured_debitHistory :
    lastConfigured "merchant_1" .debitRouting
        (ruleEvents ruleRoutes debitText (tenantsOf ["merchant_1", "merchant_2"]) debitHistory) =
      some (some ⟨"5411", "US"⟩) := by
  decide +kernel

theorem rules_refine_map_debit :
    gotRule ruleRoutes debitText routeCalls
        (serveAll (serveRule ruleRoutes debitText) (tenantsOf ["merchant_1", "merchant_2"])
          debitHistory) "merchant_1" .debitRouting =
      .ok (debitRule "merchant_1" "5411") := by
  have cached : AccountsCached (tenantsOf ["merchant_1", "merchant_2"]) := by
    intro merchantId account isCached
    have notCached : none = some account := isCached
    cases notCached
  have allDebit : ∀ request ∈ debitHistory, ∀ rule ∈ request.operation.submitted,
      rule.algorithm = .debitRouting := by
    decide +kernel
  have lossless : ∀ request ∈ debitHistory, ∀ rule, request.operation.submitted = some rule →
      debitText.Lossless (encodeRule rule.algorithm rule.data) := by
    intro request listed rule isSubmitted
    have isDebit : rule.algorithm = .debitRouting := allDebit request listed rule isSubmitted
    rcases rule with ⟨owner, algorithm, data⟩
    cases isDebit
    exact lossless_debit data
  have succeeds : Succeeds routeCalls := ⟨fun _ _ => rfl, rfl⟩
  rw [(rules_refine_map ruleRoutes rfl cached lossless succeeds "merchant_1" .debitRouting).1,
    lastConfigured_debitHistory]
  rfl

end Debit

end DecisionEngine.Config
