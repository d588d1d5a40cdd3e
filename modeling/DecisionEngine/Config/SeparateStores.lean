import DecisionEngine.Config.ConfigRoutes

/-!
# Stores that are the same for a merchant

Two stores are the same for a merchant when they have the same keys and account of the
merchant, the same under the names that are of the merchant, and say the same of the merchant
in the configurations of all merchants.

The steps of the routes are confined to the merchant they are for, and go unnoticed by the
others.
-/

namespace DecisionEngine.Config

open Auth (SameFor)
open Text Transition Transition.Effect
open CostIngestion (SourceRef credsName overrideName)
open Merchant.AccountCache (AccountState cacheKey)

/-! ## Agreement -/

/-- Every value is written as a text that it is read from. -/
def Serde.Faithful {α : Type} (serde : Serde α) : Prop :=
  ∀ value, ∃ text, serde.toString value = some text ∧ serde.fromStr text = some value

/-- The list under a name; none is there as the empty one. -/
def Slot.listed {α : Type} (serde : Serde (List α)) (slot : Slot) : Option (List α) :=
  match slot.row.bind ServiceConfiguration.value with
  | none => some []
  | some text => serde.fromStr text

/-- Neither list can be read, or some items are in both or in neither. -/
inductive SameListed {α : Type} (mine : α → Prop) : Option (List α) → Option (List α) → Prop
  | unreadable : SameListed mine none none
  | listed {first second : List α} (same : ∀ item, mine item → (item ∈ first ↔ item ∈ second)) :
      SameListed mine (some first) (some second)

theorem SameListed.refl {α : Type} (mine : α → Prop) (list : Option (List α)) :
    SameListed mine list list := by
  cases list with
  | none => exact .unreadable
  | some list => exact .listed fun _ _ => Iff.rfl

section Agreement

variable [LetterCase] {Data : AlgorithmType → Type}

/-- What is in effect for a merchant, and what a toggle would start from. -/
def featureViews (app : TenantAppState) (serde : Serde FeatureConf) (merchantId : String)
    (slot : Slot) : FeatureView × FeatureView :=
  (((slot.effective app serde.fromStr).getD .default).view merchantId,
    ((slot.stored serde.fromStr).getD .default).view merchantId)

/-- The credentials of a source are the merchant's. -/
def SourceOf (assigned : String → Option String) (merchantId : String) (source : SourceRef) :
    Prop :=
  nameKind assigned (credsName source.connector source.account) = .ofMerchant merchantId

variable (config : RouteConfig Data) (assigned : String → Option String) (merchantId : String)

/-- The slots of a name are the same for a merchant. -/
def SameSlot (name : String) (first second : Slot) : Prop :=
  match nameKind assigned name with
  | .ofMerchant owner => owner = merchantId → first = second
  | .pollSources _ =>
      SameListed (SourceOf assigned merchantId) (first.listed config.formats.sources)
        (second.listed config.formats.sources)
  | .other name =>
      (∀ feature : KnownFeature, feature.featureConfKey = name →
        featureViews config.app config.formats.feature merchantId first =
          featureViews config.app config.formats.feature merchantId second) ∧
      (name = globalIndexName →
        SameListed (fun other => other = merchantId) (first.listed config.formats.names)
          (second.listed config.formats.names))

structure SameTenant (first second : TenantStore) : Prop where
  keys : SameFor merchantId first.keys second.keys
  account : accountSlot first.accounts merchantId = accountSlot second.accounts merchantId
  configs : ∀ name, SameSlot config assigned merchantId name
    (first.configs.slot config.app name) (second.configs.slot config.app name)

/-- A computation for a merchant tells another one nothing and changes nothing of it. -/
abbrev TenantApart (owner : String) {ε α : Type} (program : Effect TenantStore ε α) :
    TenantStore → Prop :=
  ApartAt (SameTenant config assigned merchantId) (owner = merchantId) program

end Agreement

section Steps

variable [LetterCase] {Data : AlgorithmType → Type} {config : RouteConfig Data}
  {assigned : String → Option String} {merchantId owner name : String}

theorem SameSlot.refl (config : RouteConfig Data) (assigned : String → Option String)
    (merchantId name : String) (slot : Slot) :
    SameSlot config assigned merchantId name slot slot := by
  rw [SameSlot]
  split
  · exact fun _ => rfl
  · exact SameListed.refl _ _
  · exact ⟨fun _ _ => rfl, fun _ => SameListed.refl _ _⟩

variable {first second : Slot}

theorem sameSlot_of_owner (isOwner : nameKind assigned name = .ofMerchant owner) :
    SameSlot config assigned merchantId name first second ↔
      (owner = merchantId → first = second) := by
  rw [SameSlot, isOwner]

theorem sameSlot_globalIndexName :
    SameSlot config assigned merchantId globalIndexName first second ↔
      SameListed (fun other => other = merchantId) (first.listed config.formats.names)
        (second.listed config.formats.names) := by
  rw [SameSlot, nameKind_globalIndexName]
  have notFeature : ∀ feature : KnownFeature, feature.featureConfKey ≠ globalIndexName := by
    intro feature
    cases feature <;> decide
  exact ⟨fun same => same.2 rfl, fun same =>
    ⟨fun feature isKey => absurd isKey (notFeature feature), fun _ => same⟩⟩

theorem sameSlot_pollIndexName {connector : String} :
    SameSlot config assigned merchantId (pollIndexName connector) first second ↔
      SameListed (SourceOf assigned merchantId) (first.listed config.formats.sources)
        (second.listed config.formats.sources) := by
  rw [SameSlot, nameKind_pollIndexName]

theorem sameSlot_featureConfKey {feature : KnownFeature} :
    SameSlot config assigned merchantId feature.featureConfKey first second ↔
      featureViews config.app config.formats.feature merchantId first =
        featureViews config.app config.formats.feature merchantId second := by
  rw [SameSlot, nameKind_featureConfKey]
  have notGlobal : feature.featureConfKey ≠ globalIndexName := by
    cases feature <;> decide
  constructor
  · exact fun same => same.1 feature rfl
  · intro same
    refine ⟨?_, fun isGlobal => absurd isGlobal notGlobal⟩
    intro other sameKey
    exact same

variable {first second : TenantStore}

/-- After writes under one name the stores are the same if they are so there. -/
theorem SameTenant.written (same : SameTenant config assigned merchantId first second)
    {firstSlot secondSlot : Slot} {firstNext secondNext : ConfigState}
    (firstWritten : ConfigState.WrittenSlot config.app first.configs name firstSlot firstNext)
    (secondWritten : ConfigState.WrittenSlot config.app second.configs name secondSlot secondNext)
    (atName : SameSlot config assigned merchantId name firstSlot secondSlot) :
    SameTenant config assigned merchantId { first with configs := firstNext }
      { second with configs := secondNext } := by
  refine ⟨same.keys, same.account, ?_⟩
  intro other
  by_cases isName : other = name
  · rw [isName, firstWritten.own, secondWritten.own]
    exact atName
  · rw [firstWritten.others other isName, secondWritten.others other isName]
    exact same.configs other

theorem SameTenant.written_first (same : SameTenant config assigned merchantId first second)
    {slot : Slot} {next : ConfigState}
    (written : ConfigState.WrittenSlot config.app first.configs name slot next)
    (atName : SameSlot config assigned merchantId name slot
      (second.configs.slot config.app name)) :
    SameTenant config assigned merchantId { first with configs := next } second :=
  same.written written (ConfigState.writtenSlot_self config.app second.configs name) atName

/-! ## Steps under the names of one merchant -/

variable {ε : Type} {calls : StoreCalls} {site : CallSite} {onError : MeshError → ε}
  {store : TenantStore}

theorem apartAt_findConfig (isOwner : nameKind assigned name = .ofMerchant owner) :
    TenantApart config assigned merchantId owner (findConfig calls site name onError) store := by
  constructor
  · intro isOwn other same
    have sameSlot := (sameSlot_of_owner isOwner).mp (same.configs name) isOwn
    simp only [outcome, findConfig, ConfigState.findConfigByName_eq_row config.app, sameSlot]
    cases calls.failure site name <;> exact ⟨rfl, same⟩
  · intro _ other same
    simp only [outcome, findConfig]
    cases calls.failure site name <;> exact same

theorem apartAt_writeConfig (isOwner : nameKind assigned name = .ofMerchant owner)
    (write : ConfigWrite) :
    TenantApart config assigned merchantId owner
      (writeConfig config.app calls name write onError) store := by
  constructor
  · intro isOwn other same
    have sameSlot := (sameSlot_of_owner isOwner).mp (same.configs name) isOwn
    simp only [outcome, writeConfig]
    cases calls.failure .write name with
    | some error => exact ⟨rfl, same⟩
    | none =>
        rcases ConfigState.run_cases write config.app name store.configs with
          ⟨error, refused, isRefused⟩ | ⟨next, slot, ran, isSlot, written⟩ <;>
        rcases ConfigState.run_cases write config.app name other.configs with
          ⟨otherError, otherRefused, otherIsRefused⟩ |
            ⟨otherNext, otherSlot, otherRan, otherIsSlot, otherWritten⟩
        · rw [sameSlot, otherIsRefused] at isRefused
          cases isRefused
          simp only [refused, otherRefused, true_and]
          exact same
        · rw [sameSlot, otherIsSlot] at isRefused
          cases isRefused
        · rw [sameSlot, otherIsRefused] at isSlot
          cases isSlot
        · rw [sameSlot, otherIsSlot] at isSlot
          cases isSlot
          simp only [ran, otherRan, true_and]
          exact same.written written otherWritten (SameSlot.refl ..)
  · intro notOwn other same
    simp only [outcome, writeConfig]
    cases calls.failure .write name with
    | some error => exact same
    | none =>
        rcases ConfigState.run_cases write config.app name store.configs with
          ⟨error, refused, -⟩ | ⟨next, slot, ran, -, written⟩
        · simp only [refused]
          exact same
        · simp only [ran]
          exact same.written_first written
            ((sameSlot_of_owner isOwner).mpr fun isOwn => absurd isOwn notOwn)

/-! ## Steps on the account of a merchant -/

variable {slot : AccountSlot}

theorem SameTenant.account_written (same : SameTenant config assigned merchantId first second)
    {firstNext secondNext : AccountState}
    (firstWritten : WrittenAccount first.accounts owner slot firstNext)
    (secondWritten : WrittenAccount second.accounts owner slot secondNext) :
    SameTenant config assigned merchantId { first with accounts := firstNext }
      { second with accounts := secondNext } := by
  refine ⟨same.keys, ?_, same.configs⟩
  by_cases isOwn : merchantId = owner
  · rw [isOwn, firstWritten.own, secondWritten.own]
  · rw [firstWritten.others merchantId isOwn, secondWritten.others merchantId isOwn]
    exact same.account

theorem SameTenant.account_other (same : SameTenant config assigned merchantId first second)
    {next : AccountState} (notOwn : ¬owner = merchantId)
    (written : WrittenAccount first.accounts owner slot next) :
    SameTenant config assigned merchantId { first with accounts := next } second := by
  refine ⟨same.keys, ?_, same.configs⟩
  rw [written.others merchantId (Ne.symm notOwn)]
  exact same.account

theorem apartAt_loadMerchant :
    TenantApart config assigned merchantId owner (loadMerchant calls owner : Route ε _) store := by
  constructor
  · rintro rfl other same
    have sameCached : store.accounts.cache (cacheKey owner) =
        other.accounts.cache (cacheKey owner) :=
      congrArg AccountSlot.cached same.account
    rcases load_eq_slot store.accounts owner with ⟨loaded, written⟩
    rcases load_eq_slot other.accounts owner with ⟨otherLoaded, otherWritten⟩
    rw [same.account] at loaded written
    simp only [outcome, loadMerchant, sameCached]
    split
    · exact ⟨rfl, same⟩
    · rw [loaded, otherLoaded]
      exact ⟨rfl, same.account_written written otherWritten⟩
  · intro notOwn other same
    simp only [outcome, loadMerchant]
    split
    · exact same
    · exact same.account_other notOwn (load_eq_slot store.accounts owner).2

theorem apartAt_writeAccount (write : AccountWrite) :
    TenantApart config assigned merchantId owner
      (writeAccount calls owner write onError) store := by
  constructor
  · rintro rfl other same
    simp only [outcome, writeAccount]
    cases calls.accountWriteFailure with
    | some error => exact ⟨rfl, same⟩
    | none =>
        rcases accountWrite_cases write owner store.accounts with
          ⟨error, refused, isRefused⟩ | ⟨next, slot, ran, isSlot, written⟩ <;>
        rcases accountWrite_cases write owner other.accounts with
          ⟨otherError, otherRefused, otherIsRefused⟩ |
            ⟨otherNext, otherSlot, otherRan, otherIsSlot, otherWritten⟩
        · rw [same.account, otherIsRefused] at isRefused
          cases isRefused
          simp only [refused, otherRefused, true_and]
          exact same
        · rw [same.account, otherIsSlot] at isRefused
          cases isRefused
        · rw [same.account, otherIsRefused] at isSlot
          cases isSlot
        · rw [same.account, otherIsSlot] at isSlot
          cases isSlot
          simp only [ran, otherRan, true_and]
          exact same.account_written written otherWritten
  · intro notOwn other same
    simp only [outcome, writeAccount]
    cases calls.accountWriteFailure with
    | some error => exact same
    | none =>
        rcases accountWrite_cases write owner store.accounts with
          ⟨error, refused, -⟩ | ⟨next, slot, ran, -, written⟩
        · simp only [refused]
          exact same
        · simp only [ran]
          exact same.account_other notOwn written

omit [LetterCase] in
/-- The load of an account leaves the configurations. -/
theorem configs_loadMerchant :
    ((loadMerchant calls owner : Route ε _).outcome store).2.configs = store.configs := by
  simp only [outcome, loadMerchant]
  split <;> rfl

end Steps

/-! ## Texts under a name -/

section Texts

variable [LetterCase] {Data : AlgorithmType → Type} {Page α : Type} {config : RouteConfig Data}
  {calls : RequestCalls Page} {assigned : String → Option String}
  {merchantId owner name : String} {site : CallSite} {store : TenantStore} {serde : Serde α}

theorem apartAt_upsert (named : nameKind assigned name = .ofMerchant owner) (text : String) :
    TenantApart config assigned merchantId owner (upsert config calls name text) store := by
  rw [upsert]
  refine (apartAt_findConfig named).bind fun existing _ => ?_
  exact apartAt_writeConfig named _

theorem apartAt_readJson (named : nameKind assigned name = .ofMerchant owner) :
    TenantApart config assigned merchantId owner (readJson calls serde site name) store := by
  rw [readJson]
  refine (apartAt_findConfig named).bind fun row _ => ?_
  cases row.bind ServiceConfiguration.value with
  | none => exact apartAt_pure none
  | some text => exact (apartAt_orError _ _).bind fun value _ => apartAt_pure (some value)

theorem apartAt_writeJson (named : nameKind assigned name = .ofMerchant owner) (value : α) :
    TenantApart config assigned merchantId owner
      (writeJson config calls serde name value) store := by
  rw [writeJson]
  exact (apartAt_orError _ _).bind fun text _ => apartAt_upsert named text

variable {list : Serde (List α)}

theorem apartAt_readList (named : nameKind assigned name = .ofMerchant owner) :
    TenantApart config assigned merchantId owner (readList calls list site name) store := by
  rw [readList]
  exact (apartAt_readJson named).bind fun stored _ => apartAt_pure (stored.getD [])

variable [DecidableEq α]

theorem apartAt_indexAdd (named : nameKind assigned name = .ofMerchant owner) (item : α) :
    TenantApart config assigned merchantId owner (indexAdd config calls list name item) store := by
  rw [indexAdd]
  refine (apartAt_readList named).bind fun items _ => ?_
  split
  · exact apartAt_pure PUnit.unit
  · exact apartAt_writeJson named _

theorem apartAt_indexRemove (named : nameKind assigned name = .ofMerchant owner) (item : α) :
    TenantApart config assigned merchantId owner
      (indexRemove config calls list name item) store := by
  rw [indexRemove]
  exact (apartAt_readList named).bind fun items _ => apartAt_writeJson named _

/-! ## Lists for all merchants -/

section

omit [LetterCase] [DecidableEq α]

/-- A list is read as the slot has it, or the read fails whatever is stored. -/
theorem readList_cases (app : TenantAppState) (calls : RequestCalls Page) (list : Serde (List α))
    (site : CallSite) (name : String) :
    (∃ error, ∀ store, (readList calls list site name).outcome store = (.error error, store)) ∨
      ∀ store, (readList calls list site name).outcome store =
        (((store.configs.slot app name).listed list).elim (.error .malformed) .ok, store) := by
  cases fails : calls.failure site name with
  | some error =>
      left
      refine ⟨.storage error, fun store => ?_⟩
      rw [readList, outcome_bind, readJson, outcome_bind]
      simp only [outcome, findConfig, fails]
  | none =>
      right
      intro store
      have found : (findConfig calls.toStoreCalls site name RouteError.storage).outcome store =
          (.ok (store.configs.slot app name).row, store) := by
        simp only [outcome, findConfig, fails, ConfigState.findConfigByName_eq_row app]
      rw [readList, outcome_bind, readJson, outcome_bind, found, Slot.listed]
      dsimp only
      cases stored : (store.configs.slot app name).row.bind ServiceConfiguration.value with
      | none => rfl
      | some text =>
          dsimp only
          rw [outcome_bind]
          cases read : list.fromStr text <;> simp only [outcome, orError] <;> rfl

/-- A text is written over a row or as the first one, or the write fails whatever is stored. -/
theorem putText_cases {ε : Type} (app : TenantAppState) (calls : StoreCalls) (name : String)
    (onError : MeshError → ε) :
    (∃ error, ∀ store write,
        (writeConfig app calls name write onError).outcome store = (.error error, store)) ∨
      ∀ (store : TenantStore) (text : String), ∃ next slot,
        (writeConfig app calls name
            (if (store.configs.slot app name).row.isSome then .update (some text)
              else .insert (some text)) onError).outcome store =
          (.ok .unit, { store with configs := next }) ∧
        ConfigState.WrittenSlot app store.configs name slot next ∧
        slot.row.bind ServiceConfiguration.value = some text := by
  cases fails : calls.failure .write name with
  | some error =>
      refine Or.inl ⟨onError error, fun store write => ?_⟩
      simp only [outcome, writeConfig, fails]
  | none =>
      refine Or.inr fun store text => ?_
      have ran : ∀ write slot,
          ConfigWrite.onSlot name (store.configs.slot app name) write = .ok slot →
          ∃ next, (writeConfig app calls name write onError).outcome store =
              (.ok .unit, { store with configs := next }) ∧
            ConfigState.WrittenSlot app store.configs name slot next := by
        intro write slot isSlot
        rcases ConfigState.run_cases write app name store.configs with
          ⟨error, -, isRefused⟩ | ⟨next, otherSlot, isNext, isOther, written⟩
        · rw [isSlot] at isRefused
          cases isRefused
        · rw [isSlot] at isOther
          cases isOther
          refine ⟨next, ?_, written⟩
          simp only [outcome, writeConfig, fails, isNext]
      rcases isSlot : store.configs.slot app name with ⟨_ | ⟨row, rows⟩, redis, memory⟩
      · rcases ran (.insert (some text)) _ (by rw [isSlot]; rfl) with ⟨next, isNext, written⟩
        exact ⟨next, _, isNext, written, rfl⟩
      · rcases ran (.update (some text)) _ (by rw [isSlot]; rfl) with ⟨next, isNext, written⟩
        exact ⟨next, _, isNext, written, rfl⟩

/-- After a write the slot has the text, or the write fails whatever is stored. -/
theorem upsert_cases (config : RouteConfig Data) (calls : RequestCalls Page) (name : String) :
    (∃ error, ∀ store text,
        (upsert config calls name text).outcome store = (.error error, store)) ∨
      ∀ (store : TenantStore) (text : String), ∃ next slot,
        (upsert config calls name text).outcome store =
          (.ok .unit, { store with configs := next }) ∧
        ConfigState.WrittenSlot config.app store.configs name slot next ∧
        slot.row.bind ServiceConfiguration.value = some text := by
  cases existsFails : calls.failure .exists name with
  | some error =>
      left
      refine ⟨.storage error, fun store text => ?_⟩
      rw [upsert, outcome_bind]
      simp only [outcome, findConfig, existsFails]
  | none =>
      have found : ∀ store : TenantStore,
          (findConfig calls.toStoreCalls .exists name RouteError.storage).outcome store =
            (.ok (store.configs.slot config.app name).row, store) := by
        intro store
        simp only [outcome, findConfig, existsFails,
          ConfigState.findConfigByName_eq_row config.app]
      rcases putText_cases config.app calls.toStoreCalls name RouteError.storage with
        ⟨error, fails⟩ | succeeds
      · refine Or.inl ⟨error, fun store text => ?_⟩
        rw [upsert, outcome_bind, found]
        exact fails store _
      · refine Or.inr fun store text => ?_
        rw [upsert, outcome_bind, found]
        exact succeeds store text

/-- After a write the slot has the list, or the write fails whatever is stored. -/
theorem writeJson_cases (faithful : list.Faithful) (config : RouteConfig Data)
    (calls : RequestCalls Page) (name : String) :
    (∃ error, ∀ store items,
        (writeJson config calls list name items).outcome store = (.error error, store)) ∨
      ∀ (store : TenantStore) (items : List α), ∃ next slot,
        (writeJson config calls list name items).outcome store =
          (.ok .unit, { store with configs := next }) ∧
        ConfigState.WrittenSlot config.app store.configs name slot next ∧
        slot.listed list = some items := by
  have written : ∀ items, ∃ text, list.fromStr text = some items ∧ ∀ store,
      (writeJson config calls list name items).outcome store =
        (upsert config calls name text).outcome store := by
    intro items
    rcases faithful items with ⟨text, isText, isItems⟩
    refine ⟨text, isItems, fun store => ?_⟩
    rw [writeJson, outcome_bind, isText]
    rfl
  rcases upsert_cases config calls name with ⟨error, fails⟩ | succeeds
  · refine Or.inl ⟨error, fun store items => ?_⟩
    rcases written items with ⟨text, -, same⟩
    rw [same, fails]
  · refine Or.inr fun store items => ?_
    rcases written items with ⟨text, isItems, same⟩
    rcases succeeds store text with ⟨next, slot, isNext, writtenSlot, isText⟩
    refine ⟨next, slot, (same store).trans isNext, writtenSlot, ?_⟩
    rw [Slot.listed, isText]
    exact isItems

end

/-- Change a list, unless there is nothing to change. -/
def updateList (config : RouteConfig Data) (calls : RequestCalls Page) (serde : Serde (List α))
    (name : String) (change : List α → Option (List α)) : Route RouteError PUnit := do
  let items ← readList calls serde .lookup name
  match change items with
  | none => return .unit
  | some next => writeJson config calls serde name next

omit [LetterCase] in
theorem indexAdd_eq_updateList
    (serde : Serde (List α)) (item : α) :
    indexAdd config calls serde name item =
      updateList config calls serde name
        fun items => if item ∈ items then none else some (items ++ [item]) := by
  rw [indexAdd, updateList]
  congr
  funext items
  split <;> rfl

/-- A change keeps which of the merchant's items are in the list, or it makes the same of
them in two lists. -/
structure KeepsItems (own : Prop) (mine : α → Prop) (change : List α → Option (List α)) :
    Prop where
  ofOwn : own → ∀ first second, (∀ item, mine item → (item ∈ first ↔ item ∈ second)) →
    (change first = none ∧ change second = none) ∨
      ∃ next other, change first = some next ∧ change second = some other ∧
        ∀ item, mine item → (item ∈ next ↔ item ∈ other)
  ofOthers : ¬own → ∀ items next, change items = some next →
    ∀ item, mine item → (item ∈ next ↔ item ∈ items)

variable {own : Prop} {mine : α → Prop}

omit [DecidableEq α] in
/-- A change of a list for all merchants. -/
theorem apartAt_updateList {change : List α → Option (List α)} (faithful : list.Faithful)
    (atName : ∀ {first second : Slot}, SameSlot config assigned merchantId name first second ↔
      SameListed mine (first.listed list) (second.listed list))
    (keeps : KeepsItems own mine change) :
    ApartAt (SameTenant config assigned merchantId) own
      (updateList config calls list name change) store := by
  constructor
  · intro isOwn other same
    rw [updateList, outcome_bind, outcome_bind]
    rcases readList_cases config.app calls list .lookup name with ⟨error, fails⟩ | reads
    · rw [fails, fails]
      exact ⟨rfl, same⟩
    · have sameListed := atName.mp (same.configs name)
      rw [reads, reads]
      generalize (store.configs.slot config.app name).listed list = items at sameListed ⊢
      generalize (other.configs.slot config.app name).listed list = otherItems at sameListed ⊢
      cases sameListed with
      | unreadable => exact ⟨rfl, same⟩
      | @listed first second sameItems =>
          dsimp only [Option.elim_some]
          rcases keeps.ofOwn isOwn first second sameItems with
            ⟨isNone, otherNone⟩ | ⟨next, otherNext, isNext, isOther, sameNext⟩
          · rw [isNone, otherNone]
            exact ⟨rfl, same⟩
          · rw [isNext, isOther]
            dsimp only
            rcases writeJson_cases faithful config calls name with ⟨error, fails⟩ | succeeds
            · rw [fails, fails]
              exact ⟨rfl, same⟩
            · rcases succeeds store next with ⟨after, slot, isAfter, written, isListed⟩
              rcases succeeds other otherNext with
                ⟨otherAfter, otherSlot, isOtherAfter, otherWritten, isOtherListed⟩
              rw [isAfter, isOtherAfter]
              refine ⟨rfl, same.written written otherWritten (atName.mpr ?_)⟩
              rw [isListed, isOtherListed]
              exact .listed sameNext
  · intro notOwn other same
    rw [updateList, outcome_bind]
    rcases readList_cases config.app calls list .lookup name with ⟨error, fails⟩ | reads
    · rw [fails]
      exact same
    · have sameListed := atName.mp (same.configs name)
      rw [reads]
      generalize (store.configs.slot config.app name).listed list = items at sameListed ⊢
      generalize isOther : (other.configs.slot config.app name).listed list = otherItems
        at sameListed
      cases sameListed with
      | unreadable => exact same
      | @listed first second sameItems =>
          dsimp only [Option.elim_some]
          cases isNext : change first with
          | none => exact same
          | some next =>
              dsimp only
              rcases writeJson_cases faithful config calls name with ⟨error, fails⟩ | succeeds
              · rw [fails]
                exact same
              · rcases succeeds store next with ⟨after, slot, isAfter, written, isListed⟩
                rw [isAfter]
                refine same.written_first written (atName.mpr ?_)
                rw [isListed, isOther]
                exact .listed fun item isMine =>
                  (keeps.ofOthers notOwn first next isNext item isMine).trans
                    (sameItems item isMine)

omit [LetterCase]

/-- To add an item that is the merchant's if the request is. -/
theorem keepsItems_add {item : α} (isMine : own ↔ mine item) :
    KeepsItems own mine fun items => if item ∈ items then none else some (items ++ [item]) := by
  constructor
  · intro isOwn first second same
    have sameItem := same item (isMine.mp isOwn)
    by_cases listed : item ∈ first
    · exact Or.inl ⟨if_pos listed, if_pos (sameItem.mp listed)⟩
    · refine Or.inr ⟨_, _, if_neg listed, if_neg fun other => listed (sameItem.mpr other), ?_⟩
      intro other otherMine
      rw [List.mem_append, List.mem_append, same other otherMine]
  · intro notOwn items next isNext other otherMine
    split at isNext
    · cases isNext
    · cases isNext
      have differ : other ≠ item := fun isItem => notOwn (isMine.mpr (isItem ▸ otherMine))
      rw [List.mem_append, List.mem_singleton, or_iff_left differ]

theorem keepsItems_remove {item : α} (isMine : own ↔ mine item) :
    KeepsItems own mine fun items => some (items.filter fun other => other ≠ item) := by
  constructor
  · intro isOwn first second same
    refine Or.inr ⟨_, _, rfl, rfl, ?_⟩
    intro other otherMine
    rw [List.mem_filter, List.mem_filter, same other otherMine]
  · intro notOwn items next isNext other otherMine
    cases isNext
    have differ : other ≠ item := fun isItem => notOwn (isMine.mpr (isItem ▸ otherMine))
    rw [List.mem_filter, decide_eq_true_eq, and_iff_left differ]

end Texts

section Shared

variable [LetterCase] {Data : AlgorithmType → Type} {Page : Type} {config : RouteConfig Data}
  {calls : RequestCalls Page} {assigned : String → Option String} {merchantId owner : String}

theorem apartAt_indexAdd_global (faithful : config.formats.names.Faithful) :
    TenantApart config assigned merchantId owner
      (indexAdd config calls config.formats.names globalIndexName owner) store := by
  rw [indexAdd_eq_updateList]
  exact apartAt_updateList faithful sameSlot_globalIndexName (keepsItems_add Iff.rfl)

theorem apartAt_indexRemove_global (faithful : config.formats.names.Faithful) :
    TenantApart config assigned merchantId owner
      (indexRemove config calls config.formats.names globalIndexName owner) store :=
  apartAt_updateList faithful sameSlot_globalIndexName (keepsItems_remove Iff.rfl)

theorem apartAt_addPollSource (faithful : config.formats.sources.Faithful) {source : SourceRef}
    (named : SourceOf assigned owner source) :
    TenantApart config assigned merchantId owner (addPollSource config calls source) store := by
  rw [addPollSource, indexAdd_eq_updateList]
  refine apartAt_updateList faithful sameSlot_pollIndexName (keepsItems_add ?_)
  rw [SourceOf, named, NameKind.ofMerchant.injEq]

/-! ## Features -/

variable {feature : KnownFeature} {enabled : Bool}

variable {slot : Slot}

omit [LetterCase] in
/-- Where both caches miss, what is not stored is not found. -/
theorem find_of_missed {α : Type} {app : TenantAppState} {decode : String → Option α}
    (missed : slot.memory = none) (missedRedis : slot.redisText app = none)
    (notStored : slot.stored decode = none) : (slot.find app decode).1 = none := by
  rw [Slot.find, missed, missedRedis]
  cases inTable : slot.row.bind ServiceConfiguration.value with
  | none => rfl
  | some text =>
      rw [Slot.stored, inTable] at notStored
      exact notStored

/-- A feature is read from what is in effect, which stays as it is. -/
theorem readEffective_cases (ε : Type) (config : RouteConfig Data) (owner : String)
    (found : calls.failure .shown feature.featureConfKey = none) (store : TenantStore) :
    ∃ next slot,
      (readEffective config calls owner feature : Route ε Bool).outcome store =
        (.ok ((((store.configs.slot config.app feature.featureConfKey).effective config.app
            config.formats.feature.fromStr).getD .default).view owner |>.enabled
              (calls.draw feature)),
          { store with configs := next }) ∧
      ConfigState.WrittenSlot config.app store.configs feature.featureConfKey slot next ∧
      slot.stored config.formats.feature.fromStr =
        (store.configs.slot config.app feature.featureConfKey).stored
          config.formats.feature.fromStr ∧
      slot.effective config.app config.formats.feature.fromStr =
        (store.configs.slot config.app feature.featureConfKey).effective config.app
          config.formats.feature.fromStr := by
  have looked : ((findConfig calls.toStoreCalls .shown feature.featureConfKey id).attempt :
      Route ε _).outcome store =
        (.ok (some (store.configs.slot config.app feature.featureConfKey).row), store) := by
    simp only [outcome, attempt, findConfig, found,
      ConfigState.findConfigByName_eq_row config.app]
  have unfolded : (readEffective config calls owner feature : Route ε Bool).outcome store =
      Effect.outcome (((store.configs.slot config.app feature.featureConfKey).stored
          config.formats.feature.fromStr).elim (do
            let conf ← findCached config.app calls.toStoreCalls feature.featureConfKey
              config.formats.feature.fromStr
            return checkMerchantEnabled conf owner (calls.draw feature))
          fun conf => pure (checkMerchantEnabled (some conf) owner (calls.draw feature)))
        store := by
    have isStored : ((some (store.configs.slot config.app
        feature.featureConfKey).row).join.bind ServiceConfiguration.value).bind
          config.formats.feature.fromStr =
        (store.configs.slot config.app feature.featureConfKey).stored
          config.formats.feature.fromStr := rfl
    rw [readEffective, outcome_bind, looked]
    dsimp only
    rw [isStored]
    cases (store.configs.slot config.app feature.featureConfKey).stored
      config.formats.feature.fromStr <;> rfl
  rw [unfolded]
  generalize isSlot : store.configs.slot config.app feature.featureConfKey = slot
  have itself : ConfigState.WrittenSlot config.app store.configs feature.featureConfKey slot
      store.configs :=
    isSlot ▸ ConfigState.writtenSlot_self ..
  cases isStored : slot.stored config.formats.feature.fromStr with
  | some conf =>
      have inEffect : slot.effective config.app config.formats.feature.fromStr = some conf := by
        rw [Slot.effective, isStored]
        rfl
      refine ⟨store.configs, slot, ?_, itself, isStored, rfl⟩
      rw [Option.elim_some, checkMerchantEnabled_eq_view, inEffect]
      rfl
  | none =>
      have inEffect : slot.effective config.app config.formats.feature.fromStr =
          (slot.find config.app config.formats.feature.fromStr).1 := by
        rw [Slot.effective, isStored]
        rfl
      rw [Option.elim_none, outcome_bind]
      by_cases missed : ((calls.failure .cached feature.featureConfKey).isSome &&
          slot.memory.isNone && (slot.redisText config.app).isNone) = true
      · have notFound : (slot.find config.app config.formats.feature.fromStr).1 = none := by
          rw [Bool.and_eq_true, Bool.and_eq_true, Option.isNone_iff_eq_none,
            Option.isNone_iff_eq_none] at missed
          exact find_of_missed missed.1.2 missed.2 isStored
        refine ⟨store.configs, slot, ?_, itself, isStored, rfl⟩
        rw [inEffect, notFound, ← checkMerchantEnabled_eq_view]
        simp only [outcome, findCached, isSlot, missed, if_true]
        rfl
      · rcases ConfigState.find_eq_slot config.app store.configs feature.featureConfKey
          config.formats.feature.fromStr with ⟨isFound, written⟩
        rw [isSlot] at isFound written
        refine ⟨_, _, ?_, written, stored_find.trans isStored, effective_find⟩
        rw [inEffect, ← isFound, ← checkMerchantEnabled_eq_view]
        simp only [outcome, findCached, isSlot, missed]
        rfl

variable {app : TenantAppState}

variable {serde : Serde FeatureConf}

theorem featureViews_congr {first second : Slot}
    (sameStored : first.stored serde.fromStr = second.stored serde.fromStr)
    (sameEffective : first.effective app serde.fromStr = second.effective app serde.fromStr) :
    featureViews app serde merchantId first = featureViews app serde merchantId second := by
  rw [featureViews, featureViews, sameStored, sameEffective]

variable {ε : Type}

theorem apartAt_readEffective (found : calls.failure .shown feature.featureConfKey = none) :
    TenantApart config assigned merchantId owner
      (readEffective config calls owner feature : Route ε Bool) store := by
  rcases readEffective_cases ε config owner found store with
    ⟨next, slot, isNext, written, sameStored, sameEffective⟩
  constructor
  · rintro rfl other same
    rcases readEffective_cases ε config owner found other with
      ⟨otherNext, otherSlot, isOther, otherWritten, otherStored, otherEffective⟩
    have sameViews := sameSlot_featureConfKey.mp (same.configs feature.featureConfKey)
    rw [isNext, isOther]
    refine ⟨?_, same.written written otherWritten (sameSlot_featureConfKey.mpr ?_)⟩
    · exact congrArg (fun views => Except.ok (views.1.enabled (calls.draw feature))) sameViews
    · rw [featureViews_congr sameStored sameEffective, sameViews,
        featureViews_congr otherStored otherEffective]
  · intro notOwn other same
    have sameViews := sameSlot_featureConfKey.mp (same.configs feature.featureConfKey)
    rw [isNext]
    refine same.written_first written (sameSlot_featureConfKey.mpr ?_)
    rw [featureViews_congr sameStored sameEffective, sameViews]

/-- The configuration that a toggle writes. -/
def Slot.toggledConf (serde : Serde FeatureConf) (slot : Slot) (owner : String) (enabled : Bool) :
    FeatureConf :=
  ((slot.stored serde.fromStr).getD .default).toggled owner enabled

/-- A toggle writes the toggled configuration, or it fails whatever is stored. -/
theorem updateConf_cases (faithful : config.formats.feature.Faithful)
    (found : calls.failure .lookup feature.featureConfKey = none) (owner : String) (enabled : Bool)
    (error : ε) :
    (∃ failed, ∀ store, (updateConf config calls owner feature enabled error).outcome store =
        (.error failed, store)) ∨
      ∀ store : TenantStore, ∃ next slot,
        (updateConf config calls owner feature enabled error).outcome store =
          (.ok .unit, { store with configs := next }) ∧
        ConfigState.WrittenSlot config.app store.configs feature.featureConfKey slot next ∧
        slot.stored config.formats.feature.fromStr =
          some ((store.configs.slot config.app feature.featureConfKey).toggledConf
            config.formats.feature owner enabled) := by
  have looked : ∀ store : TenantStore,
      ((findConfig calls.toStoreCalls .lookup feature.featureConfKey id).attempt :
        Route ε _).outcome store =
          (.ok (some (store.configs.slot config.app feature.featureConfKey).row), store) := by
    intro store
    simp only [outcome, attempt, findConfig, found,
      ConfigState.findConfigByName_eq_row config.app]
  have unfolded : ∀ store : TenantStore, ∃ text,
      config.formats.feature.fromStr text =
        some ((store.configs.slot config.app feature.featureConfKey).toggledConf
          config.formats.feature owner enabled) ∧
      (updateConf config calls owner feature enabled error).outcome store =
        (writeConfig config.app calls.toStoreCalls feature.featureConfKey
          (if (store.configs.slot config.app feature.featureConfKey).row.isSome then
            .update (some text) else .insert (some text)) fun _ => error).outcome store := by
    intro store
    rcases faithful ((store.configs.slot config.app feature.featureConfKey).toggledConf
      config.formats.feature owner enabled) with ⟨text, isText, isConf⟩
    refine ⟨text, isConf, ?_⟩
    rw [updateConf, outcome_bind, looked]
    change Effect.outcome (orError (config.formats.feature.toString
      ((store.configs.slot config.app feature.featureConfKey).toggledConf config.formats.feature
        owner enabled)) error >>= _) store = _
    rw [isText]
    rfl
  rcases putText_cases config.app calls.toStoreCalls feature.featureConfKey
      (fun _ : MeshError => error) with ⟨failed, fails⟩ | succeeds
  · refine Or.inl ⟨failed, fun store => ?_⟩
    rcases unfolded store with ⟨text, -, same⟩
    rw [same, fails]
  · refine Or.inr fun store => ?_
    rcases unfolded store with ⟨text, isConf, same⟩
    rcases succeeds store text with ⟨next, slot, isNext, written, isStored⟩
    refine ⟨next, slot, same.trans isNext, written, ?_⟩
    rw [Slot.stored, isStored]
    exact isConf

/-- What the caches have of a feature is stored. -/
def Slot.Settled (app : TenantAppState) (serde : Serde FeatureConf) (slot : Slot) : Prop :=
  slot.stored serde.fromStr = none → slot.effective app serde.fromStr = none

theorem featureViews_of_stored {conf : FeatureConf}
    (isStored : slot.stored serde.fromStr = some conf) :
    featureViews app serde merchantId slot = (conf.view merchantId, conf.view merchantId) := by
  rw [featureViews, Slot.effective, isStored]
  rfl

/-- A settled feature says of a merchant what a toggle would start from. -/
theorem Slot.Settled.featureViews_eq (settled : slot.Settled app serde) :
    featureViews app serde merchantId slot =
      (((slot.stored serde.fromStr).getD .default).view merchantId,
        ((slot.stored serde.fromStr).getD .default).view merchantId) := by
  cases isStored : slot.stored serde.fromStr with
  | some conf => exact featureViews_of_stored isStored
  | none => rw [featureViews, settled isStored, isStored]

/-- A toggle of a settled feature, for a merchant that differs in more than letter case from
those that it is to go unnoticed by. -/
theorem apartAt_updateConf {error : ε} {store : TenantStore}
    (faithful : config.formats.feature.Faithful)
    (found : calls.failure .lookup feature.featureConfKey = none)
    (settled : (store.configs.slot config.app feature.featureConfKey).Settled config.app
      config.formats.feature)
    (differ : owner ≠ merchantId → ¬SameLetters owner merchantId) :
    TenantApart config assigned merchantId owner
      (updateConf config calls owner feature enabled error) store := by
  have toggles := updateConf_cases faithful found owner enabled error
  constructor
  · rintro rfl other same
    rcases toggles with ⟨failed, fails⟩ | succeeds
    · rw [fails, fails]
      exact ⟨rfl, same⟩
    · have sameViews := sameSlot_featureConfKey.mp (same.configs feature.featureConfKey)
      rcases succeeds store with ⟨next, slot, isNext, written, isStored⟩
      rcases succeeds other with ⟨otherNext, otherSlot, isOther, otherWritten, otherStored⟩
      rw [isNext, isOther]
      refine ⟨rfl, same.written written otherWritten (sameSlot_featureConfKey.mpr ?_)⟩
      rw [featureViews_of_stored isStored, featureViews_of_stored otherStored, Slot.toggledConf,
        Slot.toggledConf, view_toggled_self, view_toggled_self]
      have sameStart := congrArg Prod.snd sameViews
      dsimp only [featureViews] at sameStart
      rw [sameStart]
  · intro notOwn other same
    rcases toggles with ⟨failed, fails⟩ | succeeds
    · rw [fails]
      exact same
    · have sameViews := sameSlot_featureConfKey.mp (same.configs feature.featureConfKey)
      rcases succeeds store with ⟨next, slot, isNext, written, isStored⟩
      rw [isNext]
      refine same.written_first written (sameSlot_featureConfKey.mpr ?_)
      rw [← sameViews, settled.featureViews_eq, featureViews_of_stored isStored, Slot.toggledConf,
        view_toggled_of_ne (differ notOwn)]

end Shared

end DecisionEngine.Config
