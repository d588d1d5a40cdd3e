import DecisionEngine.Auth.KeyIsolation
import DecisionEngine.Config.SeparateStores
import DecisionEngine.Json.Compact

/-!
# Isolation of the configurations of merchants

A merchant is isolated from the requests of others when every request names the merchant that
it is authenticated as, uses the names of fee overrides and of credentials that are assigned to
this merchant, and finds the features that it reads or toggles.
-/

namespace DecisionEngine.Config

open Auth (AuthOutcome Credentials)
open Text Transition Transition.Effect
open CostIngestion (ServingCost SourceRef credsName overrideName)

section Routes

variable [LetterCase] {Data : AlgorithmType → Type} {Page : Type} {config : RouteConfig Data}
  {calls : RequestCalls Page} {assigned : String → Option String}
  {merchantId owner connector account : String} {store : TenantStore}

/-! ## Rules -/

theorem apartAt_createRuleConfig (rule : RoutingRule Data) :
    TenantApart config assigned merchantId rule.merchantId
      (createRuleConfig config calls rule) store := by
  rw [createRuleConfig]
  refine apartAt_loadMerchant.bind fun merchant _ => ?_
  refine (apartAt_require _ _).bind fun _ _ => ?_
  refine (apartAt_orError _ _).bind fun serialized _ => ?_
  cases rule.algorithm.configName with
  | some kind =>
      have named := nameKind_merchantName assigned kind rule.merchantId
      refine (apartAt_findConfig named).bind fun existing _ => ?_
      refine (apartAt_require _ _).bind fun _ _ => ?_
      exact (apartAt_writeConfig named _).bind fun _ _ => apartAt_pure _
  | none => exact (apartAt_writeAccount _).bind fun _ _ => apartAt_pure _

theorem apartAt_getRuleConfig (payload : FetchRoutingRule) :
    TenantApart config assigned merchantId payload.merchantId
      (getRuleConfig config calls payload) store := by
  rw [getRuleConfig]
  refine apartAt_loadMerchant.bind fun merchant _ => ?_
  refine (apartAt_orError _ _).bind fun account _ => ?_
  cases payload.algorithm.configName with
  | some kind =>
      have named := nameKind_merchantName assigned kind payload.merchantId
      refine (apartAt_findConfig named).bind fun row _ => ?_
      refine (apartAt_orError _ _).bind fun text _ => ?_
      exact (apartAt_orError _ _).bind fun data _ => apartAt_pure _
  | none => exact (apartAt_orError _ _).bind fun data _ => apartAt_pure _

theorem apartAt_updateRuleConfig (rule : RoutingRule Data) :
    TenantApart config assigned merchantId rule.merchantId
      (updateRuleConfig config calls rule) store := by
  rw [updateRuleConfig]
  refine apartAt_loadMerchant.bind fun merchant _ => ?_
  refine (apartAt_require _ _).bind fun _ _ => ?_
  refine (apartAt_orError _ _).bind fun serialized _ => ?_
  cases rule.algorithm.configName with
  | some kind =>
      have named := nameKind_merchantName assigned kind rule.merchantId
      exact (apartAt_writeConfig named _).bind fun _ _ => apartAt_pure _
  | none => exact (apartAt_writeAccount _).bind fun _ _ => apartAt_pure _

theorem apartAt_deleteRuleConfig (payload : FetchRoutingRule) :
    TenantApart config assigned merchantId payload.merchantId
      (deleteRuleConfig config calls payload) store := by
  rw [deleteRuleConfig]
  refine apartAt_loadMerchant.bind fun merchant _ => ?_
  refine (apartAt_orError _ _).bind fun account _ => ?_
  cases payload.algorithm.configName with
  | some kind =>
      have named := nameKind_merchantName assigned kind payload.merchantId
      exact (apartAt_writeConfig named _).bind fun _ _ => apartAt_pure _
  | none =>
      refine (apartAt_require _ _).bind fun _ _ => ?_
      exact (apartAt_writeAccount _).bind fun _ _ => apartAt_pure _

/-! ## Accounts, features and debit routing -/

theorem apartAt_getMerchantConfig :
    TenantApart config assigned merchantId owner (getMerchantConfig calls owner) store := by
  rw [getMerchantConfig]
  refine apartAt_loadMerchant.bind fun merchant _ => ?_
  exact (apartAt_orError _ _).bind fun account _ => apartAt_pure _

theorem apartAt_deleteMerchantConfig :
    TenantApart config assigned merchantId owner (deleteMerchantConfig calls owner) store := by
  rw [deleteMerchantConfig]
  exact (apartAt_writeAccount _).bind fun _ _ => apartAt_pure _

/-- The reads of the features are answered by the table. -/
def ReadsFound (calls : RequestCalls Page) : Prop :=
  ∀ feature : KnownFeature, calls.failure .shown feature.featureConfKey = none

theorem apartAt_readFeatures {ε : Type} (found : ReadsFound calls) :
    TenantApart config assigned merchantId owner
      (readFeatures config calls owner : Route ε _) store := by
  rw [readFeatures]
  refine ApartAt.bind ?_ fun features _ => apartAt_pure _
  refine apartAt_each (fun feature _ store => ?_) store
  exact (apartAt_readEffective (found feature)).bind fun enabled _ => apartAt_pure _

theorem apartAt_getMerchantFeatures (found : ReadsFound calls) :
    TenantApart config assigned merchantId owner
      (getMerchantFeatures config calls owner) store := by
  rw [getMerchantFeatures]
  refine apartAt_loadMerchant.bind fun merchant _ => ?_
  exact (apartAt_require _ _).bind fun _ _ => apartAt_readFeatures found

theorem apartAt_updateMerchantFeature {featureSlug : String} {enabled : Bool}
    (faithful : config.formats.feature.Faithful) (found : ReadsFound calls)
    (toggles : ∀ feature, KnownFeature.fromSlug featureSlug = some feature →
      calls.failure .lookup feature.featureConfKey = none ∧
        (store.configs.slot config.app feature.featureConfKey).Settled config.app
          config.formats.feature)
    (differ : owner ≠ merchantId → ¬SameLetters owner merchantId) :
    TenantApart config assigned merchantId owner
      (updateMerchantFeature config calls owner featureSlug enabled) store := by
  rw [updateMerchantFeature]
  refine (apartAt_orError _ _).bind fun feature isFeature => ?_
  have known : KnownFeature.fromSlug featureSlug = some feature := by
    cases fromSlug : KnownFeature.fromSlug featureSlug with
    | none =>
        rw [fromSlug] at isFeature
        cases isFeature
    | some other =>
        rw [fromSlug] at isFeature
        cases isFeature
        rfl
  rcases toggles feature known with ⟨looked, settled⟩
  refine apartAt_loadMerchant.bind fun merchant _ => ?_
  refine (apartAt_require _ _).bind fun _ _ => ?_
  refine (apartAt_updateConf faithful looked ?_ differ).bind fun _ _ => ?_
  · change ((((loadMerchant calls.toStoreCalls owner : Route _ _).outcome store).2).configs.slot
      config.app feature.featureConfKey).Settled config.app config.formats.feature
    rw [configs_loadMerchant]
    exact settled
  · exact apartAt_readFeatures found

theorem apartAt_getDebitRouting :
    TenantApart config assigned merchantId owner (getDebitRouting calls owner) store := by
  rw [getDebitRouting]
  refine apartAt_loadMerchant.bind fun merchant _ => ?_
  refine (apartAt_require _ _).bind fun _ _ => ?_
  exact (apartAt_findConfig (nameKind_merchantName assigned .debitRoutingEnabled owner)).bind
    fun row _ => apartAt_pure _

theorem apartAt_updateDebitRouting (enabled : Bool) :
    TenantApart config assigned merchantId owner
      (updateDebitRouting config calls owner enabled) store := by
  have named := nameKind_merchantName assigned .debitRoutingEnabled owner
  rw [updateDebitRouting]
  refine apartAt_loadMerchant.bind fun merchant _ => ?_
  refine (apartAt_require _ _).bind fun _ _ => ?_
  refine (apartAt_findConfig named).bind fun existing _ => ?_
  exact (apartAt_writeConfig named _).bind fun _ _ => apartAt_pure _

/-! ## Credentials -/

theorem apartAt_listSources :
    TenantApart config assigned merchantId owner (listSources config calls owner) store :=
  apartAt_readList (nameKind_merchantName assigned .sources owner)

theorem apartAt_removeSource (source : SourceRef) :
    TenantApart config assigned merchantId owner
      (removeSource config calls owner source) store := by
  have named := nameKind_merchantName assigned .sources owner
  rw [removeSource]
  refine (apartAt_listSources).bind fun sources _ => ?_
  dsimp only
  split
  · exact apartAt_pure _
  · split
    · exact apartAt_writeConfig named _
    · exact (apartAt_orError _ _).bind fun serialized _ => apartAt_writeConfig named _

theorem apartAt_setConnectorCredentials (faithful : config.formats.sources.Faithful)
    {body : SetCredentialsRequest}
    (isAssigned : assigned (credsName connector body.account) = some owner) :
    TenantApart config assigned merchantId owner
      (setConnectorCredentials config calls owner connector body) store := by
  have named := nameKind_credsName isAssigned
  have ofOwner : SourceOf assigned owner ⟨connector, body.account⟩ := named
  rw [setConnectorCredentials]
  refine (apartAt_orError _ _).bind fun keyring _ => ?_
  refine (apartAt_orError _ _).bind fun value _ => ?_
  refine (apartAt_upsert named value).bind fun _ _ => ?_
  refine (apartAt_indexAdd (nameKind_merchantName assigned .sources owner) _).bind
    fun _ _ => ?_
  split
  · exact (apartAt_addPollSource faithful ofOwner).bind fun _ _ => apartAt_pure _
  · exact apartAt_pure _

theorem apartAt_deleteConnectorCredentials
    (isAssigned : assigned (credsName connector account) = some owner) :
    TenantApart config assigned merchantId owner
      (deleteConnectorCredentials config calls owner connector account) store := by
  rw [deleteConnectorCredentials]
  exact (apartAt_writeConfig (nameKind_credsName isAssigned) _).bind
    fun _ _ => apartAt_removeSource _

theorem apartAt_maskedSource {source : SourceRef} (keyring : ConnectorCredsStore)
    (isAssigned : assigned (credsName source.connector source.account) = some owner) :
    TenantApart config assigned merchantId owner (maskedSource calls keyring source) store := by
  rw [maskedSource]
  refine (apartAt_findConfig (nameKind_credsName isAssigned)).attempt.bind fun row _ => ?_
  split
  · exact apartAt_pure _
  · exact apartAt_pure _

omit [LetterCase] in
/-- What a read of a list returns is what the slot has. -/
theorem listed_of_readList {α : Type} {list : Serde (List α)} {site : CallSite} {name : String}
    {items : List α} (app : TenantAppState)
    (read : ((readList calls list site name).outcome store).1 = .ok items) :
    (store.configs.slot app name).listed list = some items := by
  rcases readList_cases app calls list site name with ⟨error, fails⟩ | reads
  · rw [fails] at read
    cases read
  · rw [reads] at read
    cases listed : (store.configs.slot app name).listed list with
    | none =>
        rw [listed] at read
        cases read
    | some others =>
        rw [listed] at read
        cases read
        rfl

theorem apartAt_listConnectorCredentials
    (assignedAll : ∀ sources, (store.configs.slot config.app
        (MerchantName.sources.name owner)).listed config.formats.sources = some sources →
      ∀ source ∈ sources, config.keyring.isSome →
        assigned (credsName source.connector source.account) = some owner) :
    TenantApart config assigned merchantId owner
      (listConnectorCredentials config calls owner) store := by
  rw [listConnectorCredentials]
  refine (apartAt_listSources).bind fun sources read => ?_
  cases isKeyring : config.keyring with
  | none => exact apartAt_pure _
  | some keyring =>
      refine apartAt_each (fun source listed store => ?_) _
      exact apartAt_maskedSource keyring
        (assignedAll sources (listed_of_readList config.app read) source listed
          (by rw [isKeyring]; rfl))

/-! ## Fees of connectors -/

theorem apartAt_listOverrides
    (assignedAll : ∀ connectors, (store.configs.slot config.app
        (MerchantName.overrideIndex.name owner)).listed config.formats.names = some connectors →
      ∀ connector ∈ connectors, assigned (overrideName owner connector) = some owner) :
    TenantApart config assigned merchantId owner (listOverrides config calls owner) store := by
  rw [listOverrides]
  refine (apartAt_readList (nameKind_merchantName assigned .overrideIndex owner)).bind
    fun connectors read => ?_
  refine ApartAt.bind ?_ fun overrides _ => apartAt_pure _
  refine apartAt_each (fun connector listed store => ?_) _
  have isAssigned := assignedAll connectors (listed_of_readList config.app read) connector listed
  exact (apartAt_readJson (nameKind_overrideName isAssigned)).bind fun fee _ => apartAt_pure _

theorem apartAt_listConnectorFees
    (assignedAll : ∀ connectors, (store.configs.slot config.app
        (MerchantName.overrideIndex.name owner)).listed config.formats.names = some connectors →
      ∀ connector ∈ connectors, assigned (overrideName owner connector) = some owner) :
    TenantApart config assigned merchantId owner (listConnectorFees config calls owner) store := by
  rw [listConnectorFees]
  refine (apartAt_orError _ _).bind fun model _ => ?_
  refine (apartAt_listOverrides assignedAll).attempt.bind fun overrides _ => ?_
  exact (apartAt_listSources).attempt.bind fun sources _ => apartAt_pure _

theorem apartAt_pruneGlobalIndex (faithful : config.formats.names.Faithful) :
    TenantApart config assigned merchantId owner (pruneGlobalIndex config calls owner) store := by
  rw [pruneGlobalIndex]
  refine (apartAt_readList (nameKind_merchantName assigned .overrideIndex owner)).bind
    fun connectors _ => ?_
  refine (apartAt_readList (nameKind_merchantName assigned .clusterOverrides owner)).bind
    fun clusters _ => ?_
  split
  · exact apartAt_indexRemove_global faithful
  · exact apartAt_pure _

theorem apartAt_setFeeOverride (faithful : config.formats.names.Faithful)
    (isAssigned : assigned (overrideName owner (LetterCase.toLowercase connector)) = some owner)
    (fee : ServingCost) :
    TenantApart config assigned merchantId owner
      (setFeeOverride config calls owner connector fee) store := by
  rw [setFeeOverride]
  refine (apartAt_require _ _).bind fun _ _ => ?_
  refine (apartAt_writeJson (nameKind_overrideName isAssigned) _).bind fun _ _ => ?_
  refine (apartAt_indexAdd (nameKind_merchantName assigned .overrideIndex owner) _).bind
    fun _ _ => ?_
  exact (apartAt_indexAdd_global faithful).bind fun _ _ => apartAt_pure _

theorem apartAt_deleteFeeOverride (faithful : config.formats.names.Faithful)
    (isAssigned : assigned (overrideName owner (LetterCase.toLowercase connector)) = some owner) :
    TenantApart config assigned merchantId owner
      (deleteFeeOverride config calls owner connector) store := by
  rw [deleteFeeOverride]
  refine (apartAt_writeConfig (nameKind_overrideName isAssigned) _).bind fun _ _ => ?_
  refine (apartAt_indexRemove (nameKind_merchantName assigned .overrideIndex owner) _).bind
    fun _ _ => ?_
  exact apartAt_pruneGlobalIndex faithful

/-! ## Fees of clusters -/

theorem apartAt_listClusters (site : CallSite) :
    TenantApart config assigned merchantId owner (listClusters config calls owner site) store :=
  apartAt_readList (nameKind_merchantName assigned .clusterOverrides owner)

theorem apartAt_listCostClusters :
    TenantApart config assigned merchantId owner (listCostClusters config calls owner) store := by
  rw [listCostClusters]
  refine (apartAt_orError _ _).bind fun page _ => ?_
  exact (apartAt_listClusters .lookup).attempt.bind fun overrides _ => apartAt_pure _

theorem apartAt_setClusterOverride (faithful : config.formats.names.Faithful)
    (clusterKey : String) (fee : ServingCost) :
    TenantApart config assigned merchantId owner
      (setClusterOverride config calls owner clusterKey fee) store := by
  rw [setClusterOverride]
  refine (apartAt_require _ _).bind fun _ _ => ?_
  refine (apartAt_orError _ _).bind fun dims _ => ?_
  refine (apartAt_listClusters .lookup).bind fun list _ => ?_
  refine (apartAt_writeJson (nameKind_merchantName assigned .clusterOverrides owner) _).bind
    fun _ _ => ?_
  exact (apartAt_indexAdd_global faithful).bind fun _ _ => apartAt_pure _

theorem apartAt_deleteClusterOverride (faithful : config.formats.names.Faithful)
    (clusterKey : String) :
    TenantApart config assigned merchantId owner
      (deleteClusterOverride config calls owner clusterKey) store := by
  rw [deleteClusterOverride]
  refine (apartAt_orError _ _).bind fun dims _ => ?_
  refine (apartAt_listClusters .lookup).bind fun list _ => ?_
  dsimp only
  split
  · exact apartAt_pruneGlobalIndex faithful
  · refine (apartAt_writeJson (nameKind_merchantName assigned .clusterOverrides owner) _).bind
      fun _ _ => ?_
    exact apartAt_pruneGlobalIndex faithful

/-! ## Operations -/

/-- What an operation of a merchant may touch beside what bears its id: the overrides and
credentials that are assigned to it, and features that are found. -/
def ConfigOperation.Owned (config : RouteConfig Data) (assigned : String → Option String)
    (merchantId : String) (calls : RequestCalls Page) (store : TenantStore) :
    ConfigOperation Data → Prop
  | .getFeatures _ => ReadsFound calls
  | .updateFeature owner featureSlug _ =>
      ReadsFound calls ∧
        (∀ feature, KnownFeature.fromSlug featureSlug = some feature →
          calls.failure .lookup feature.featureConfKey = none ∧
            (store.configs.slot config.app feature.featureConfKey).Settled config.app
              config.formats.feature) ∧
        (owner ≠ merchantId → ¬SameLetters owner merchantId)
  | .listCredentials owner =>
      ∀ sources, (store.configs.slot config.app
          (MerchantName.sources.name owner)).listed config.formats.sources = some sources →
        ∀ source ∈ sources, config.keyring.isSome →
          assigned (credsName source.connector source.account) = some owner
  | .setCredentials owner connector body =>
      assigned (credsName connector body.account) = some owner
  | .deleteCredentials owner connector account =>
      assigned (credsName connector account) = some owner
  | .listFees owner =>
      ∀ connectors, (store.configs.slot config.app
          (MerchantName.overrideIndex.name owner)).listed config.formats.names = some connectors →
        ∀ connector ∈ connectors, assigned (overrideName owner connector) = some owner
  | .setFee owner connector _ =>
      assigned (overrideName owner (LetterCase.toLowercase connector)) = some owner
  | .deleteFee owner connector =>
      assigned (overrideName owner (LetterCase.toLowercase connector)) = some owner
  | _ => True

/-- The formats of what is shared by the merchants read what they write. -/
structure Formats.Faithful (formats : Formats Data) : Prop where
  names : formats.names.Faithful
  sources : formats.sources.Faithful
  feature : formats.feature.Faithful

/-- An operation of the merchant has one answer at stores that are the same for it, and leads to
such stores; one of another merchant leads to a store that is the same for it. -/
structure HandledApart (config : RouteConfig Data) (assigned : String → Option String)
    (merchantId : String) (mine : Prop)
    (handler : TenantStore → ConfigAnswer Data Page × TenantStore) (store : TenantStore) :
    Prop where
  own : mine → ∀ other, SameTenant config assigned merchantId store other →
    (handler store).1 = (handler other).1 ∧
      SameTenant config assigned merchantId (handler store).2 (handler other).2
  others : ¬mine → ∀ other, SameTenant config assigned merchantId store other →
    SameTenant config assigned merchantId (handler store).2 other

theorem handledApart_answered {ε α : Type} {own : Prop} {route : Route ε α}
    (wrap : Except ε α → ConfigAnswer Data Page)
    (apart : ApartAt (SameTenant config assigned merchantId) own route store) :
    HandledApart config assigned merchantId own (answered wrap route) store := by
  constructor
  · intro isOwn other same
    rcases apart.confined isOwn other same with ⟨sameResult, next⟩
    exact ⟨congrArg wrap sameResult, next⟩
  · exact apart.unnoticed

theorem handledApart_handle (faithful : config.formats.Faithful) (operation : ConfigOperation Data)
    (owned : operation.Owned config assigned merchantId calls store) :
    HandledApart config assigned merchantId (operation.merchantId = merchantId)
      (operation.handle config calls) store := by
  cases operation with
  | createRule rule => exact handledApart_answered _ (apartAt_createRuleConfig rule)
  | getRule payload => exact handledApart_answered _ (apartAt_getRuleConfig payload)
  | updateRule rule => exact handledApart_answered _ (apartAt_updateRuleConfig rule)
  | deleteRule payload => exact handledApart_answered _ (apartAt_deleteRuleConfig payload)
  | getMerchant owner => exact handledApart_answered _ (apartAt_getMerchantConfig)
  | deleteMerchant owner => exact handledApart_answered _ (apartAt_deleteMerchantConfig)
  | getFeatures owner => exact handledApart_answered _ (apartAt_getMerchantFeatures owned)
  | updateFeature owner featureSlug enabled =>
      rcases owned with ⟨found, toggles, differ⟩
      exact handledApart_answered _
        (apartAt_updateMerchantFeature faithful.feature found toggles differ)
  | getDebitRouting owner => exact handledApart_answered _ (apartAt_getDebitRouting)
  | updateDebitRouting owner enabled =>
      exact handledApart_answered _ (apartAt_updateDebitRouting enabled)
  | listCredentials owner => exact handledApart_answered _ (apartAt_listConnectorCredentials owned)
  | setCredentials owner connector body =>
      exact handledApart_answered _
        (apartAt_setConnectorCredentials faithful.sources owned)
  | deleteCredentials owner connector account =>
      exact handledApart_answered _ (apartAt_deleteConnectorCredentials owned)
  | listFees owner => exact handledApart_answered _ (apartAt_listConnectorFees owned)
  | setFee owner connector fee =>
      exact handledApart_answered _ (apartAt_setFeeOverride faithful.names owned fee)
  | deleteFee owner connector =>
      exact handledApart_answered _ (apartAt_deleteFeeOverride faithful.names owned)
  | listClusters owner => exact handledApart_answered _ (apartAt_listCostClusters)
  | setCluster owner clusterKey fee =>
      exact handledApart_answered _
        (apartAt_setClusterOverride faithful.names clusterKey fee)
  | deleteCluster owner clusterKey =>
      exact handledApart_answered _
        (apartAt_deleteClusterOverride faithful.names clusterKey)

end Routes

/-! ## Isolation -/

section Isolation

variable [LetterCase] {Data : AlgorithmType → Type} {Page : Type} {config : RouteConfig Data}
  {assigned : String → Option String} {merchantId : String} {store first second : TenantStore}
  {request : RouteRequest Data Page}

/-- The request is authenticated as the merchant. -/
def configRequestOf (config : RouteConfig Data) (merchantId : String) (store : TenantStore)
    (request : RouteRequest Data Page) : Bool :=
  decide ((request.admission config store).1.merchant = some merchantId)

/-- A request that is authenticated names the merchant that it is authenticated as, and touches
only what this merchant owns. -/
structure OwnConfigRequest (config : RouteConfig Data) (assigned : String → Option String)
    (merchantId : String) (store : TenantStore) (request : RouteRequest Data Page) : Prop where
  authenticated : (request.admission config store).1 ≠ .admitted none
  own : ∀ owner, (request.admission config store).1.merchant = some owner →
    request.operation.merchantId = owner ∧
      request.operation.Owned config assigned merchantId request.calls store

/-- In a run the merchant gets the answers that it gets without the requests of the others, and
its configuration ends up the same; so it is from any two stores that are the same for it. -/
structure ConfigIsolated (config : RouteConfig Data) (assigned : String → Option String)
    (merchantId : String) (first second : TenantStore)
    (requests : List (RouteRequest Data Page)) : Prop where
  answers : seen (serveConfig config) (configRequestOf config merchantId) first requests =
    seen (serveConfig config) (configRequestOf config merchantId) second
      (alone (serveConfig config) (configRequestOf config merchantId) first requests)
  stored : SameTenant config assigned merchantId
    (serveAll (serveConfig config) first requests)
    (serveAll (serveConfig config) second
      (alone (serveConfig config) (configRequestOf config merchantId) first requests))

theorem SameTenant.withKeys (same : SameTenant config assigned merchantId first second)
    {firstKeys secondKeys : Auth.ApiKeyStore}
    (keys : Auth.SameFor merchantId firstKeys secondKeys) :
    SameTenant config assigned merchantId { first with keys := firstKeys }
      { second with keys := secondKeys } :=
  ⟨keys, same.account, same.configs⟩

theorem serveConfig_of_admitted {context : Option Auth.AuthContext}
    (isAdmitted : (request.admission config store).1 = .admitted context) :
    serveConfig config store request =
      request.operation.handle config request.calls (request.admission config store).2 := by
  rw [serveConfig]
  split
  · next isRefused =>
      rw [isRefused] at isAdmitted
      cases isAdmitted
  · next found => rw [found]

theorem serveConfig_of_refused {status : Nat} {message : String}
    (isRefused : (request.admission config store).1 = .refused status message) :
    serveConfig config store request =
      (.refused status message, (request.admission config store).2) := by
  rw [serveConfig]
  split
  · next found =>
      rw [found] at isRefused ⊢
      cases isRefused
      rfl
  · next found =>
      rw [found] at isRefused
      cases isRefused

/-- The authentication of a request leaves what the request may touch. -/
theorem owned_admission {operation : ConfigOperation Data}
    (owned : operation.Owned config assigned merchantId request.calls store) :
    operation.Owned config assigned merchantId request.calls
      (request.admission config store).2 := by
  cases operation <;> exact owned

/-- Requests of merchants for themselves separate the merchants. -/
theorem separated_serveConfig (faithful : config.formats.Faithful)
    (assigned : String → Option String) (merchantId : String) :
    Separated
      (serveConfig config :
        TenantStore → RouteRequest Data Page → ConfigAnswer Data Page × TenantStore)
      (configRequestOf config merchantId)
      (OwnConfigRequest config assigned merchantId) (SameTenant config assigned merchantId) := by
  constructor
  · intro first second request same ownRequest notMine
    have notMerchant : (request.admission config first).1.merchant ≠ some merchantId :=
      of_decide_eq_false notMine
    have authenticated : SameTenant config assigned merchantId
        (request.admission config first).2 second :=
      same.withKeys (same.keys.authenticate_other notMerchant)
    cases isAdmission : (request.admission config first).1 with
    | refused status message =>
        rw [serveConfig_of_refused isAdmission]
        exact authenticated
    | admitted context =>
        cases context with
        | none => exact absurd isAdmission ownRequest.authenticated
        | some context =>
            have isOwner : (request.admission config first).1.merchant =
                some context.merchantId := by
              rw [isAdmission]
              rfl
            rcases ownRequest.own _ isOwner with ⟨named, owned⟩
            rw [serveConfig_of_admitted isAdmission]
            refine (handledApart_handle faithful request.operation
              (owned_admission owned)).others ?_ second authenticated
            intro isMerchant
            rw [isOwner, ← named, isMerchant] at notMerchant
            exact notMerchant rfl
  · intro first second request same ownRequest isMine
    have isMerchant : (request.admission config first).1.merchant = some merchantId :=
      of_decide_eq_true isMine
    rcases same.keys.authenticate_eq (Or.inl isMerchant) with ⟨sameAdmission, agrees⟩
    have sameAnswer : (request.admission config first).1 = (request.admission config second).1 :=
      sameAdmission
    have secondMerchant : (request.admission config second).1.merchant = some merchantId :=
      (congrArg AuthOutcome.merchant sameAnswer).symm.trans isMerchant
    refine ⟨decide_eq_true secondMerchant, ?_⟩
    have authenticated : SameTenant config assigned merchantId
        (request.admission config first).2 (request.admission config second).2 :=
      same.withKeys agrees
    cases isAdmission : (request.admission config first).1 with
    | refused status message =>
        rw [isAdmission] at isMerchant
        cases isMerchant
    | admitted context =>
        rcases ownRequest.own _ isMerchant with ⟨named, owned⟩
        rw [serveConfig_of_admitted isAdmission,
          serveConfig_of_admitted (sameAnswer.symm.trans isAdmission)]
        exact (handledApart_handle faithful request.operation
          (owned_admission owned)).own named _ authenticated

/-- In every run of requests of merchants for themselves, a merchant is isolated. -/
theorem configIsolated_of_ownRequests (faithful : config.formats.Faithful)
    (same : SameTenant config assigned merchantId first second)
    {requests : List (RouteRequest Data Page)}
    (ownRun : AllowedRequests (serveConfig config) (OwnConfigRequest config assigned merchantId)
      first requests) :
    ConfigIsolated config assigned merchantId first second requests := by
  rcases (separated_serveConfig faithful assigned merchantId).run same ownRun with
    ⟨sameSeen, stored⟩
  exact ⟨sameSeen, stored⟩

end Isolation

/-! ## Configurations of another merchant -/

/-- A format as the texts of a type. -/
def Serde.ofFormat {α : Type} (format : Json.Format α) : Serde α :=
  ⟨format.parse, fun value => some (format.print value)⟩

theorem faithful_ofFormat {α : Type} (format : Json.Format α) : (Serde.ofFormat format).Faithful :=
  fun value => ⟨_, rfl, format.parse_print value⟩

def namesFormat : Json.Format (List String) :=
  .array .string (Json.Format.notOpening_string (by decide))

def sourceFormat : Json.Format SourceRef :=
  .map (.braced (.pair (.field "connector" .string) (.field "account" .string)))
    (fun parts => ⟨parts.1, parts.2⟩) (fun source => (source.connector, source.account))
    fun _ => rfl

def sourcesFormat : Json.Format (List SourceRef) :=
  .array sourceFormat
    (Json.Format.notOpening_map (Json.Format.notOpening_braced (by decide) _))

def merchantFeatureFormat : Json.Format MerchantFeature :=
  .map (.braced (.pair (.field "merchantId" .string) (.field "rollout" .int)))
    (fun parts => ⟨parts.1, parts.2⟩) (fun merchant => (merchant.merchantId, merchant.rollout))
    fun _ => rfl

def merchantFeaturesFormat : Json.Format (List MerchantFeature) :=
  .array merchantFeatureFormat
    (Json.Format.notOpening_map (Json.Format.notOpening_braced (by decide) _))

def featureFormat : Json.Format FeatureConf :=
  .map
    (.braced
      (.pair (.field "enableAll" .bool)
        (.pair
          (.field "enableAllRollout"
            (.nullable .int (Json.Format.notOpening_int (by decide) (by decide))))
          (.pair
            (.field "disableAny"
              (.nullable namesFormat (Json.Format.notOpening_array (by decide) _)))
            (.field "merchants"
              (.nullable merchantFeaturesFormat
                (Json.Format.notOpening_array (by decide) _)))))))
    (fun parts => ⟨parts.1, parts.2.1, parts.2.2.1, parts.2.2.2⟩)
    (fun conf => (conf.enableAll, conf.enableAllRollout, conf.disableAny, conf.merchants))
    fun _ => rfl

/-- Rules as their own texts; no fee is written below. -/
def routeFormats : Formats fun _ => String where
  rule _ := ⟨some, some⟩
  feature := .ofFormat featureFormat
  fee := ⟨fun _ => none, fun _ => none⟩
  clusters := ⟨fun _ => none, fun _ => none⟩
  names := .ofFormat namesFormat
  sources := .ofFormat sourcesFormat

theorem faithful_routeFormats : routeFormats.Faithful :=
  ⟨faithful_ofFormat _, faithful_ofFormat _, faithful_ofFormat _⟩

def routeConfig : RouteConfig fun _ => String where
  middleware := Auth.keyConfig
  app := plainApp
  formats := routeFormats
  keyring := none
  isPullConnector _ := false

def routeCalls : RequestCalls Unit where
  failure _ _ := none
  accountLoadFails := false
  accountWriteFailure := none
  draw _ := 1
  now := "1970-01-01T00:00:00.000Z"
  nonce := ""
  blends := some []
  clusterPage := some fun _ => ()

def routeRequest (merchantId : String) (operation : ConfigOperation fun _ => String) :
    RouteRequest (fun _ => String) Unit where
  credentials := Auth.sessionOf merchantId
  authCalls := ⟨0, true, true, true, true⟩
  operation := operation
  calls := routeCalls

/-- The accounts of some merchants, and no configurations. -/
def tenantsOf (merchantIds : List String) : TenantStore where
  keys := Auth.noKeys
  accounts :=
    ⟨merchantIds.map fun merchantId =>
      { Merchant.AccountCache.storedRow with merchantId := some merchantId }, fun _ => none⟩
  configs := ⟨[], fun _ => none, fun _ => none⟩

section Foreign

local instance routeCase : LetterCase := .ascii

theorem sameTenant_tenantsOf (assigned : String → Option String) (merchantId : String)
    (merchantIds : List String) :
    SameTenant routeConfig assigned merchantId (tenantsOf merchantIds) (tenantsOf merchantIds) :=
  ⟨Auth.SameFor.refl Auth.coherent_noKeys merchantId, rfl, fun _ => SameSlot.refl ..⟩

/-- The session of a merchant switches debit routing on for another one, who then reads it. -/
def foreignToggle : List (RouteRequest (fun _ => String) Unit) :=
  [routeRequest "mallory" (.updateDebitRouting "victim" true),
    routeRequest "victim" (.getDebitRouting "victim")]

/-- The session of a merchant reads the debit routing of another one. -/
def foreignRead : List (RouteRequest (fun _ => String) Unit) :=
  [routeRequest "mallory" (.getDebitRouting "victim")]

/-- The store in which debit routing is on for the other merchant. -/
def debitRouted : TenantStore :=
  ((writeConfig plainApp routeCalls.toStoreCalls (MerchantName.debitRoutingEnabled.name "victim")
    (.insert (some "true")) id : Route MeshError PUnit).outcome
      (tenantsOf ["victim", "mallory"])).2

/-- Whether an answer says that debit routing is on. -/
def ConfigAnswer.routesDebit : ConfigAnswer (fun _ => String) Unit → Bool
  | .debitRouting (.ok response) => response.debitRoutingEnabled
  | _ => false

/-- The store differs only in what is the other merchant's. -/
theorem sameTenant_debitRouted (assigned : String → Option String) :
    SameTenant routeConfig assigned "mallory" debitRouted (tenantsOf ["victim", "mallory"]) := by
  have named := nameKind_merchantName assigned .debitRoutingEnabled "victim"
  have apart : ApartAt (SameTenant routeConfig assigned "mallory") ("victim" = "mallory")
      (writeConfig plainApp routeCalls.toStoreCalls
        (MerchantName.debitRoutingEnabled.name "victim") (.insert (some "true")) id :
          Route MeshError PUnit) (tenantsOf ["victim", "mallory"]) :=
    apartAt_writeConfig named _
  exact apart.unnoticed (by decide) _ (sameTenant_tenantsOf assigned "mallory" _)

theorem configIsolated_counterexample :
    ¬ConfigIsolated routeConfig (fun _ => none) "victim" (tenantsOf ["victim", "mallory"])
        (tenantsOf ["victim", "mallory"]) foreignToggle ∧
      SameTenant routeConfig (fun _ => none) "mallory" debitRouted
        (tenantsOf ["victim", "mallory"]) ∧
      ¬ConfigIsolated routeConfig (fun _ => none) "mallory" debitRouted
        (tenantsOf ["victim", "mallory"]) foreignRead := by
  refine ⟨?_, sameTenant_debitRouted _, ?_⟩
  · intro isolated
    have sameRouting := congrArg (fun answers => answers.map fun answer => answer.2.routesDebit)
      isolated.answers
    exact absurd sameRouting (by decide +kernel)
  · intro isolated
    have sameRouting := congrArg (fun answers => answers.map fun answer => answer.2.routesDebit)
      isolated.answers
    exact absurd sameRouting (by decide +kernel)

/-- A merchant toggles a feature and creates a rule, and another merchant reads its features. -/
def ownRoutes : List (RouteRequest (fun _ => String) Unit) :=
  [routeRequest "merchant_1" (.updateFeature "merchant_1" "autopilot" true),
    routeRequest "merchant_1" (.createRule ⟨"merchant_1", .successRate, "rule"⟩),
    routeRequest "merchant_2" (.getFeatures "merchant_2")]

theorem configIsolated_ownRoutes :
    ConfigIsolated routeConfig (fun _ => none) "merchant_2"
      (tenantsOf ["merchant_1", "merchant_2"]) (tenantsOf ["merchant_1", "merchant_2"])
      ownRoutes := by
  have ownRun : AllowedRequests (serveConfig routeConfig)
      (OwnConfigRequest routeConfig (fun _ => none) "merchant_2")
      (tenantsOf ["merchant_1", "merchant_2"]) ownRoutes := by
    refine ⟨⟨?_, ?_⟩, ⟨?_, ?_⟩, ⟨?_, ?_⟩, trivial⟩
    · decide +kernel
    · rintro _ ⟨⟩
      refine ⟨rfl, fun _ => rfl, ?_, fun _ => by decide +kernel⟩
      intro feature _
      exact ⟨rfl, fun _ => rfl⟩
    · decide +kernel
    · rintro _ ⟨⟩
      exact ⟨rfl, trivial⟩
    · decide +kernel
    · rintro _ ⟨⟩
      exact ⟨rfl, fun _ => rfl⟩
  exact configIsolated_of_ownRequests faithful_routeFormats (sameTenant_tenantsOf _ _ _) ownRun

end Foreign

end DecisionEngine.Config
