import DecisionEngine.Config.TenantStore

/-!
# The routes of the configurations

The routes of rules take the merchant from the body of a request; those of features, debit
routing, accounts, credentials and cost overrides take it from the path.  The middleware has
authenticated the request before, and none of them asks as whom.
-/

namespace DecisionEngine.Config

open Auth (AuthOutcome AuthCalls Credentials Method MiddlewareConfig authenticate)
open Text Transition Transition.Effect
open CostIngestion
  (ClusterDims ServingCost SourceRef StoredCreds credsName overrideName)
open Merchant (Hierarchy fromInternalMetadata)
open Merchant.AccountCache (MerchantAccount)

/-! ## Data -/

inductive AlgorithmType where
  | successRate
  | elimination
  | debitRouting
  deriving DecidableEq

/-- The text for the configurations of an algorithm in the messages. -/
def AlgorithmType.title : AlgorithmType → String
  | .successRate => "Success Rate"
  | .elimination => "Elimination"
  | .debitRouting => "Debit Routing"

/-- The configuration of an algorithm is stored under a name, or with the account. -/
def AlgorithmType.configName : AlgorithmType → Option MerchantName
  | .successRate => some .successRate
  | .elimination => none
  | .debitRouting => some .debitRouting

/-- A rule has the data of its algorithm. -/
structure RoutingRule (Data : AlgorithmType → Type) where
  merchantId : String
  algorithm : AlgorithmType
  data : Data algorithm

structure FetchRoutingRule where
  merchantId : String
  algorithm : AlgorithmType

structure RuleConfigResponse (Data : AlgorithmType → Type) where
  message : String
  rule : RoutingRule Data

structure RuleConfigDeleteResponse where
  message : String
  merchantId : String

structure MerchantAccountResponse where
  merchantId : String
  gatewaySuccessRateBasedDeciderInput : Option String
  hierarchy : Option Hierarchy

structure MerchantAccountDeleteResponse where
  message : String
  merchantId : String

structure MerchantFeatureEntry where
  feature : KnownFeature
  enabled : Bool

structure MerchantFeaturesResponse where
  merchantId : String
  features : List MerchantFeatureEntry

structure DebitRoutingResponse where
  merchantId : String
  debitRoutingEnabled : Bool

structure SetCredentialsRequest where
  account : String
  webhookSecret : String
  downloadAuth : String

structure SetCredentialsResponse where
  merchantId : String
  connector : String
  account : String
  status : String

structure MaskedSource where
  connector : String
  account : String
  webhookSecretHint : String
  downloadAuthHint : String

structure FeeOverride extends ServingCost where
  updatedAt : String

structure ClusterOverride extends ServingCost where
  dims : ClusterDims
  updatedAt : String

structure FeeOverrideResponse where
  merchantId : String
  connector : String
  fee : FeeOverride

/-- The fee of a connector by the fitted models. -/
structure ConnectorBlend extends ServingCost where
  goodGross : ℚ
  account : Option String

structure ConnectorFee where
  connector : String
  account : Option String
  hasCredentials : Bool
  model : Option ConnectorBlend
  override : Option FeeOverride
  effective : Option ServingCost
  source : String

/-! ## Errors -/

inductive RuleConfigurationError where
  | storageError
  | merchantNotFound
  | configurationNotFound
  | configurationAlreadyExists
  deriving DecidableEq

inductive MerchantAccountConfigurationError where
  | storageError
  | invalidConfiguration
  | merchantNotFound
  | merchantDeletionFailed
  deriving DecidableEq

/-- A status with a text; the texts of the database and of decoding are left out. -/
inductive RouteError where
  | badRequest (message : String)
  | serviceUnavailable (message : String)
  | storage (error : MeshError)
  | malformed
  | crypto
  | clickhouse

/-! ## Surroundings -/

/-- How the stored texts are written and read. -/
structure Formats (Data : AlgorithmType → Type) where
  rule : (algorithm : AlgorithmType) → Serde (Data algorithm)
  feature : Serde FeatureConf
  fee : Serde FeeOverride
  clusters : Serde (List ClusterOverride)
  names : Serde (List String)
  sources : Serde (List SourceRef)

/-- Encryption with a nonce, and decryption. -/
structure ConnectorCredsStore where
  sealCreds : String → StoredCreds → Option String
  openCreds : String → Option StoredCreds

structure RouteConfig (Data : AlgorithmType → Type) where
  middleware : MiddlewareConfig
  app : TenantAppState
  formats : Formats Data
  keyring : Option ConnectorCredsStore
  isPullConnector : String → Bool

/-- What a request is given beside its body: which calls fail, the draws for rollouts, the
time, the nonce, and what comes of ClickHouse's answers. -/
structure RequestCalls (Page : Type) extends StoreCalls where
  draw : KnownFeature → Int
  now : String
  nonce : String
  blends : Option (List (String × ConnectorBlend))
  /-- The page of the cost clusters with the overrides of the merchant. -/
  clusterPage : Option (List ClusterOverride → Page)

section Handlers

variable [LetterCase] {Data : AlgorithmType → Type} {Page ε α : Type}
  (config : RouteConfig Data) (calls : RequestCalls Page) (merchantId : String)

/-! ## Rules -/

def createRuleConfig (rule : RoutingRule Data) :
    Route RuleConfigurationError (RuleConfigResponse Data) := do
  let merchant ← loadMerchant calls.toStoreCalls rule.merchantId
  require merchant.isSome .merchantNotFound
  let serialized ← orError ((config.formats.rule rule.algorithm).toString rule.data) .storageError
  match rule.algorithm.configName with
  | some kind =>
      let name := kind.name rule.merchantId
      let existing ← findConfig calls.toStoreCalls .exists name fun _ => .storageError
      require existing.isNone .configurationAlreadyExists
      writeConfig config.app calls.toStoreCalls name (.insert (some serialized))
        fun _ => .storageError
      return ⟨rule.algorithm.title ++ " Configuration created successfully", rule⟩
  | none =>
      writeAccount calls.toStoreCalls rule.merchantId (.deciderInput (some serialized))
        fun _ => .storageError
      return ⟨rule.algorithm.title ++ " Configuration created successfully", rule⟩

def getRuleConfig (payload : FetchRoutingRule) :
    Route RuleConfigurationError (RoutingRule Data) := do
  let merchant ← loadMerchant calls.toStoreCalls payload.merchantId
  let account ← orError merchant .merchantNotFound
  match payload.algorithm.configName with
  | some kind =>
      let row ← findConfig calls.toStoreCalls .lookup (kind.name payload.merchantId)
        fun _ => .storageError
      let text ← orError (row.bind ServiceConfiguration.value) .configurationNotFound
      let data ← orError ((config.formats.rule payload.algorithm).fromStr text) .storageError
      return ⟨payload.merchantId, payload.algorithm, data⟩
  | none =>
      let data ← orError ((config.formats.rule payload.algorithm).fromStr
        account.gatewaySuccessRateBasedDeciderInput) .configurationNotFound
      return ⟨payload.merchantId, payload.algorithm, data⟩

def updateRuleConfig (rule : RoutingRule Data) :
    Route RuleConfigurationError (RuleConfigResponse Data) := do
  let merchant ← loadMerchant calls.toStoreCalls rule.merchantId
  require merchant.isSome .merchantNotFound
  let serialized ← orError ((config.formats.rule rule.algorithm).toString rule.data) .storageError
  match rule.algorithm.configName with
  | some kind =>
      writeConfig config.app calls.toStoreCalls (kind.name rule.merchantId)
        (.update (some serialized)) fun _ => .configurationNotFound
      return ⟨rule.algorithm.title ++ " Configuration updated successfully", rule⟩
  | none =>
      writeAccount calls.toStoreCalls rule.merchantId (.deciderInput (some serialized))
        fun _ => .configurationNotFound
      return ⟨rule.algorithm.title ++ " Configuration updated successfully", rule⟩

def deleteRuleConfig (payload : FetchRoutingRule) :
    Route RuleConfigurationError RuleConfigDeleteResponse := do
  let merchant ← loadMerchant calls.toStoreCalls payload.merchantId
  let account ← orError merchant .merchantNotFound
  match payload.algorithm.configName with
  | some kind =>
      writeConfig config.app calls.toStoreCalls (kind.name payload.merchantId) .delete
        fun _ => .configurationNotFound
      return ⟨payload.algorithm.title ++ " Configuration deleted successfully", payload.merchantId⟩
  | none =>
      require (!account.gatewaySuccessRateBasedDeciderInput.isEmpty) .configurationNotFound
      writeAccount calls.toStoreCalls payload.merchantId (.deciderInput (some ""))
        fun _ => .storageError
      return ⟨payload.algorithm.title ++ " Configuration deleted successfully", payload.merchantId⟩

/-! ## Accounts, features and debit routing -/

def getMerchantConfig : Route MerchantAccountConfigurationError MerchantAccountResponse := do
  let merchant ← loadMerchant calls.toStoreCalls merchantId
  let account ← orError merchant .merchantNotFound
  return ⟨account.merchantId, some account.gatewaySuccessRateBasedDeciderInput,
    fromInternalMetadata account.internalMetadata⟩

def deleteMerchantConfig :
    Route MerchantAccountConfigurationError MerchantAccountDeleteResponse := do
  writeAccount calls.toStoreCalls merchantId .delete fun _ => .merchantDeletionFailed
  return ⟨"Merchant account deleted successfully", merchantId⟩

/-- The feature of a merchant by the table, or else by the caches. -/
def readEffective (feature : KnownFeature) : Route ε Bool := do
  let key := feature.featureConfKey
  let row ← (findConfig calls.toStoreCalls .shown key id).attempt
  match (row.join.bind ServiceConfiguration.value).bind config.formats.feature.fromStr with
  | some conf => return checkMerchantEnabled (some conf) merchantId (calls.draw feature)
  | none =>
      let conf ← findCached config.app calls.toStoreCalls key config.formats.feature.fromStr
      return checkMerchantEnabled conf merchantId (calls.draw feature)

/-- Toggle a feature in its configuration; one that cannot be found starts from the default. -/
def updateConf (feature : KnownFeature) (enabled : Bool) (error : ε) : Route ε PUnit := do
  let key := feature.featureConfKey
  let row ← (findConfig calls.toStoreCalls .lookup key id).attempt
  let existing := row.join
  let conf := ((existing.bind ServiceConfiguration.value).bind config.formats.feature.fromStr).getD
    .default
  let serialized ← orError (config.formats.feature.toString (conf.toggled merchantId enabled)) error
  writeConfig config.app calls.toStoreCalls key
    (if existing.isSome then .update (some serialized) else .insert (some serialized))
    fun _ => error

def readFeatures : Route ε MerchantFeaturesResponse := do
  let features ← each KnownFeature.all fun feature => do
    let enabled ← readEffective config calls merchantId feature
    return ⟨feature, enabled⟩
  return ⟨merchantId, features⟩

def getMerchantFeatures :
    Route MerchantAccountConfigurationError MerchantFeaturesResponse := do
  let merchant ← loadMerchant calls.toStoreCalls merchantId
  require merchant.isSome .merchantNotFound
  readFeatures config calls merchantId

def updateMerchantFeature (featureSlug : String) (enabled : Bool) :
    Route MerchantAccountConfigurationError MerchantFeaturesResponse := do
  let feature ← orError (KnownFeature.fromSlug featureSlug) .invalidConfiguration
  let merchant ← loadMerchant calls.toStoreCalls merchantId
  require merchant.isSome .merchantNotFound
  updateConf config calls merchantId feature enabled .storageError
  readFeatures config calls merchantId

def parseBool : String → Option Bool
  | "true" => some true
  | "false" => some false
  | _ => none

def getDebitRouting : Route MerchantAccountConfigurationError DebitRoutingResponse := do
  let merchant ← loadMerchant calls.toStoreCalls merchantId
  require merchant.isSome .merchantNotFound
  let row ← findConfig calls.toStoreCalls .lookup (MerchantName.debitRoutingEnabled.name merchantId)
    fun _ => .storageError
  return ⟨merchantId, ((row.bind ServiceConfiguration.value).bind parseBool).getD false⟩

def updateDebitRouting (enabled : Bool) :
    Route MerchantAccountConfigurationError DebitRoutingResponse := do
  let merchant ← loadMerchant calls.toStoreCalls merchantId
  require merchant.isSome .merchantNotFound
  let name := MerchantName.debitRoutingEnabled.name merchantId
  let configValue := if enabled then "true" else "false"
  let existing ← findConfig calls.toStoreCalls .exists name fun _ => .storageError
  writeConfig config.app calls.toStoreCalls name
    (if existing.isSome then .update (some configValue) else .insert (some configValue))
    fun _ => .storageError
  return ⟨merchantId, enabled⟩

/-! ## Texts under a name -/

/-- Write a text, whether or not there is a row. -/
def upsert (name text : String) : Route RouteError PUnit := do
  let existing ← findConfig calls.toStoreCalls .exists name .storage
  writeConfig config.app calls.toStoreCalls name
    (if existing.isSome then .update (some text) else .insert (some text)) .storage

def readJson (serde : Serde α) (site : CallSite) (name : String) :
    Route RouteError (Option α) := do
  let row ← findConfig calls.toStoreCalls site name .storage
  match row.bind ServiceConfiguration.value with
  | some text =>
      let value ← orError (serde.fromStr text) .malformed
      return some value
  | none => return none

def writeJson (serde : Serde α) (name : String) (value : α) : Route RouteError PUnit := do
  let serialized ← orError (serde.toString value) .malformed
  upsert config calls name serialized

def readList (serde : Serde (List α)) (site : CallSite) (name : String) :
    Route RouteError (List α) := do
  let list ← readJson calls serde site name
  return list.getD []

/-- Add to a list, unless it is there. -/
def indexAdd [DecidableEq α] (serde : Serde (List α)) (name : String) (item : α) :
    Route RouteError PUnit := do
  let list ← readList calls serde .lookup name
  if item ∈ list then return .unit
  else writeJson config calls serde name (list ++ [item])

def indexRemove [DecidableEq α] (serde : Serde (List α)) (name : String) (item : α) :
    Route RouteError PUnit := do
  let list ← readList calls serde .lookup name
  writeJson config calls serde name (list.filter fun other => other ≠ item)

/-! ## Credentials -/

/-- The last four characters, unless they are most of the secret. -/
def maskSecret (secret : String) : String :=
  let chars := secret.toList
  if chars.length = 0 then "—"
  else if chars.length ≤ 4 then "••••"
  else "••••" ++ String.ofList (chars.drop (chars.length - 4))

/-- The user of a basic authentication, or the end of a key. -/
def maskDownloadAuth (auth : String) : String :=
  match splitOnce ':' auth with
  | some (user, _) => user ++ ":••••"
  | none => maskSecret auth

def listSources : Route RouteError (List SourceRef) :=
  readList calls config.formats.sources .lookup (MerchantName.sources.name merchantId)

def addSource (source : SourceRef) : Route RouteError PUnit :=
  indexAdd config calls config.formats.sources (MerchantName.sources.name merchantId) source

/-- The row is deleted with the last source. -/
def removeSource (source : SourceRef) : Route RouteError PUnit := do
  let sources ← listSources config calls merchantId
  let rest := sources.filter fun other => other ≠ source
  let name := MerchantName.sources.name merchantId
  if rest.length = sources.length then return .unit
  else if rest.isEmpty then writeConfig config.app calls.toStoreCalls name .delete .storage
  else
    let serialized ← orError (config.formats.sources.toString rest) .malformed
    writeConfig config.app calls.toStoreCalls name (.update (some serialized)) .storage

def addPollSource (source : SourceRef) : Route RouteError PUnit :=
  indexAdd config calls config.formats.sources (pollIndexName source.connector) source

def setConnectorCredentials (connector : String) (body : SetCredentialsRequest) :
    Route RouteError SetCredentialsResponse := do
  let store ← orError config.keyring
    (.serviceUnavailable "credential encryption keyring not configured")
  let value ← orError
    (store.sealCreds calls.nonce ⟨merchantId, body.webhookSecret, body.downloadAuth⟩) .crypto
  upsert config calls (credsName connector body.account) value
  addSource config calls merchantId ⟨connector, body.account⟩
  if config.isPullConnector connector then
    addPollSource config calls ⟨connector, body.account⟩
    return ⟨merchantId, connector, body.account, "saved"⟩
  else return ⟨merchantId, connector, body.account, "saved"⟩

def deleteConnectorCredentials (connector account : String) : Route RouteError PUnit := do
  writeConfig config.app calls.toStoreCalls (credsName connector account) .delete .storage
  removeSource config calls merchantId ⟨connector, account⟩

/-- The hints of a source; without credentials that can be read there are none. -/
def maskedSource (store : ConnectorCredsStore) (source : SourceRef) :
    Route RouteError MaskedSource := do
  let row ← (findConfig calls.toStoreCalls .lookup (credsName source.connector source.account)
    id).attempt
  match (row.join.bind ServiceConfiguration.value).bind store.openCreds with
  | some creds =>
      return ⟨source.connector, source.account, maskSecret creds.webhookSecret,
        maskDownloadAuth creds.downloadAuth⟩
  | none => return ⟨source.connector, source.account, "—", "—"⟩

def listConnectorCredentials : Route RouteError (List MaskedSource) := do
  let sources ← listSources config calls merchantId
  match config.keyring with
  | some store => each sources (maskedSource calls store)
  | none =>
      return sources.map fun source => ⟨source.connector, source.account, "—", "—"⟩

/-! ## Fees of connectors -/

/-- The overrides of the listed connectors. -/
def listOverrides : Route RouteError (List (String × FeeOverride)) := do
  let connectors ← readList calls config.formats.names .lookup
    (MerchantName.overrideIndex.name merchantId)
  let overrides ← each connectors fun connector => do
    let fee ← readJson calls config.formats.fee .lookup (overrideName merchantId connector)
    return fee.map fun fee => (connector, fee)
  return overrides.reduceOption

/-- The last entry of a key counts. -/
def lastEntry (entries : List (String × α)) (key : String) : Option α :=
  (entries.reverse.find? fun entry => entry.1 = key).map Prod.snd

/-- The fees of all connectors with a model, an override or credentials. -/
def connectorFees (model : List (String × ConnectorBlend)) (overrides : List (String × FeeOverride))
    (sources : List SourceRef) : List ConnectorFee :=
  let overrides := overrides.map fun entry => (LetterCase.toLowercase entry.1, entry.2)
  let credentialed := sources.map fun source => LetterCase.toLowercase source.connector
  let connectors := (model.map Prod.fst ++ overrides.map Prod.fst ++ credentialed).dedup.mergeSort
    fun first second => first ≤ second
  connectors.map fun connector =>
    let blend := lastEntry model connector
    let override := lastEntry overrides connector
    let account := (sources.find? fun source =>
      LetterCase.toLowercase source.connector = connector).map SourceRef.account
    { connector := connector
      account := account.orElse fun _ => blend.bind ConnectorBlend.account
      hasCredentials := credentialed.contains connector
      model := blend
      override := override
      effective := (override.map FeeOverride.toServingCost).orElse fun _ =>
        blend.map ConnectorBlend.toServingCost
      source := if override.isSome then "override" else if blend.isSome then "model" else "none" }

def listConnectorFees : Route RouteError (List ConnectorFee) := do
  let model ← orError calls.blends .clickhouse
  let overrides ← (listOverrides config calls merchantId).attempt
  let sources ← (listSources config calls merchantId).attempt
  return connectorFees model (overrides.getD []) (sources.getD [])

/-- A merchant without overrides is taken out of the global index. -/
def pruneGlobalIndex : Route RouteError PUnit := do
  let connectors ← readList calls config.formats.names .prune
    (MerchantName.overrideIndex.name merchantId)
  let clusters ← readList calls config.formats.clusters .prune
    (MerchantName.clusterOverrides.name merchantId)
  if connectors.isEmpty && clusters.isEmpty then
    indexRemove config calls config.formats.names globalIndexName merchantId
  else return .unit

def validFee (fee : ServingCost) : Bool :=
  decide (0 ≤ fee.pctBps ∧ 0 ≤ fee.fixed)

def setFeeOverride (connector : String) (fee : ServingCost) :
    Route RouteError FeeOverrideResponse := do
  require (validFee fee) (.badRequest "pct_bps and fixed must be finite and non-negative")
  let connector := LetterCase.toLowercase connector
  let override : FeeOverride := ⟨fee, calls.now⟩
  writeJson config calls config.formats.fee (overrideName merchantId connector) override
  indexAdd config calls config.formats.names (MerchantName.overrideIndex.name merchantId) connector
  indexAdd config calls config.formats.names globalIndexName merchantId
  return ⟨merchantId, connector, override⟩

def deleteFeeOverride (connector : String) : Route RouteError PUnit := do
  let connector := LetterCase.toLowercase connector
  writeConfig config.app calls.toStoreCalls (overrideName merchantId connector) .delete .storage
  indexRemove config calls config.formats.names (MerchantName.overrideIndex.name merchantId)
    connector
  pruneGlobalIndex config calls merchantId

/-! ## Fees of clusters -/

def clusterDimsFromKey (key : String) : Option ClusterDims :=
  match (split '|' key).map LetterCase.toLowercase with
  | [connector, cardNetwork, variant, funding, issuerCountry, currency, icCategory] =>
      some ⟨connector, cardNetwork, variant, funding, issuerCountry, currency, icCategory⟩
  | _ => none

def listClusters (site : CallSite) : Route RouteError (List ClusterOverride) :=
  readList calls config.formats.clusters site (MerchantName.clusterOverrides.name merchantId)

def listCostClusters : Route RouteError Page := do
  let page ← orError calls.clusterPage .clickhouse
  let overrides ← (listClusters config calls merchantId .lookup).attempt
  return page (overrides.getD [])

def setClusterOverride (clusterKey : String) (fee : ServingCost) :
    Route RouteError ClusterOverride := do
  require (validFee fee) (.badRequest "pct_bps and fixed must be finite and non-negative")
  let dims ← orError (clusterDimsFromKey clusterKey)
    (.badRequest "cluster key must have 7 '|'-separated fields")
  let override : ClusterOverride := ⟨fee, dims, calls.now⟩
  let list ← listClusters config calls merchantId .lookup
  writeJson config calls config.formats.clusters (MerchantName.clusterOverrides.name merchantId)
    (list.filter (fun other => other.dims ≠ dims) ++ [override])
  indexAdd config calls config.formats.names globalIndexName merchantId
  return override

def deleteClusterOverride (clusterKey : String) : Route RouteError PUnit := do
  let dims ← orError (clusterDimsFromKey clusterKey)
    (.badRequest "cluster key must have 7 '|'-separated fields")
  let list ← listClusters config calls merchantId .lookup
  let rest := list.filter fun other => other.dims ≠ dims
  if rest.length = list.length then pruneGlobalIndex config calls merchantId
  else
    writeJson config calls config.formats.clusters (MerchantName.clusterOverrides.name merchantId)
      rest
    pruneGlobalIndex config calls merchantId

end Handlers

/-! ## Requests -/

inductive ConfigOperation (Data : AlgorithmType → Type) where
  | createRule (rule : RoutingRule Data)
  | getRule (payload : FetchRoutingRule)
  | updateRule (rule : RoutingRule Data)
  | deleteRule (payload : FetchRoutingRule)
  | getMerchant (merchantId : String)
  | deleteMerchant (merchantId : String)
  | getFeatures (merchantId : String)
  | updateFeature (merchantId featureSlug : String) (enabled : Bool)
  | getDebitRouting (merchantId : String)
  | updateDebitRouting (merchantId : String) (enabled : Bool)
  | listCredentials (merchantId : String)
  | setCredentials (merchantId connector : String) (body : SetCredentialsRequest)
  | deleteCredentials (merchantId connector account : String)
  | listFees (merchantId : String)
  | setFee (merchantId connector : String) (fee : ServingCost)
  | deleteFee (merchantId connector : String)
  | listClusters (merchantId : String)
  | setCluster (merchantId clusterKey : String) (fee : ServingCost)
  | deleteCluster (merchantId clusterKey : String)

namespace ConfigOperation

variable {Data : AlgorithmType → Type} {Page : Type}

def method : ConfigOperation Data → Method
  | .createRule _ | .getRule _ | .updateRule _ | .deleteRule _ | .updateFeature .. |
    .updateDebitRouting .. | .setCredentials .. => .post
  | .getMerchant _ | .getFeatures _ | .getDebitRouting _ | .listCredentials _ | .listFees _ |
    .listClusters _ => .get
  | .setFee .. | .setCluster .. => .put
  | .deleteMerchant _ | .deleteCredentials .. | .deleteFee .. | .deleteCluster .. => .delete

def matchedPath : ConfigOperation Data → String
  | .createRule _ => "/rule/create"
  | .getRule _ => "/rule/get"
  | .updateRule _ => "/rule/update"
  | .deleteRule _ => "/rule/delete"
  | .getMerchant _ | .deleteMerchant _ => "/merchant-account/:merchant-id"
  | .getFeatures _ => "/merchant-account/:merchant-id/features"
  | .updateFeature .. => "/merchant-account/:merchant-id/features/:feature"
  | .getDebitRouting _ | .updateDebitRouting .. => "/merchant-account/:merchant-id/debit-routing"
  | .listCredentials _ => "/merchant-account/:merchant-id/connectors"
  | .setCredentials .. => "/merchant-account/:merchant-id/connectors/:connector/credentials"
  | .deleteCredentials .. =>
      "/merchant-account/:merchant-id/connectors/:connector/credentials/:account"
  | .listFees _ => "/merchant-account/:merchant-id/connector-fees"
  | .setFee .. | .deleteFee .. =>
      "/merchant-account/:merchant-id/connectors/:connector/fee-override"
  | .listClusters _ => "/merchant-account/:merchant-id/cost-clusters"
  | .setCluster .. | .deleteCluster .. =>
      "/merchant-account/:merchant-id/cost-clusters/:cluster-key/fee-override"

/-- The merchant of the body or the path. -/
def merchantId : ConfigOperation Data → String
  | .createRule rule | .updateRule rule => rule.merchantId
  | .getRule payload | .deleteRule payload => payload.merchantId
  | .getMerchant merchantId | .deleteMerchant merchantId | .getFeatures merchantId |
    .updateFeature merchantId .. | .getDebitRouting merchantId | .updateDebitRouting merchantId _ |
    .listCredentials merchantId | .setCredentials merchantId .. | .deleteCredentials merchantId .. |
    .listFees merchantId | .setFee merchantId .. | .deleteFee merchantId .. |
    .listClusters merchantId | .setCluster merchantId .. | .deleteCluster merchantId .. =>
      merchantId

end ConfigOperation

inductive ConfigAnswer (Data : AlgorithmType → Type) (Page : Type) where
  | refused (status : Nat) (message : String)
  | ruleWritten (result : Except RuleConfigurationError (RuleConfigResponse Data))
  | rule (result : Except RuleConfigurationError (RoutingRule Data))
  | ruleDeleted (result : Except RuleConfigurationError RuleConfigDeleteResponse)
  | merchant (result : Except MerchantAccountConfigurationError MerchantAccountResponse)
  | merchantDeleted
      (result : Except MerchantAccountConfigurationError MerchantAccountDeleteResponse)
  | features (result : Except MerchantAccountConfigurationError MerchantFeaturesResponse)
  | debitRouting (result : Except MerchantAccountConfigurationError DebitRoutingResponse)
  | credentials (result : Except RouteError (List MaskedSource))
  | credentialsSet (result : Except RouteError SetCredentialsResponse)
  | fees (result : Except RouteError (List ConnectorFee))
  | feeSet (result : Except RouteError FeeOverrideResponse)
  | clusters (result : Except RouteError Page)
  | clusterSet (result : Except RouteError ClusterOverride)
  | noContent (result : Except RouteError PUnit)

structure RouteRequest (Data : AlgorithmType → Type) (Page : Type) where
  credentials : Credentials
  authCalls : AuthCalls
  operation : ConfigOperation Data
  calls : RequestCalls Page

section Service

variable [LetterCase] {Data : AlgorithmType → Type} {Page ε α : Type}

/-- The answer of a route and the store after it. -/
def answered (wrap : Except ε α → ConfigAnswer Data Page) (route : Route ε α)
    (store : TenantStore) : ConfigAnswer Data Page × TenantStore :=
  (wrap (route.outcome store).1, (route.outcome store).2)

def ConfigOperation.handle (config : RouteConfig Data) (calls : RequestCalls Page) :
    ConfigOperation Data → TenantStore → ConfigAnswer Data Page × TenantStore
  | .createRule rule => answered .ruleWritten (createRuleConfig config calls rule)
  | .getRule payload => answered .rule (getRuleConfig config calls payload)
  | .updateRule rule => answered .ruleWritten (updateRuleConfig config calls rule)
  | .deleteRule payload => answered .ruleDeleted (deleteRuleConfig config calls payload)
  | .getMerchant merchantId => answered .merchant (getMerchantConfig calls merchantId)
  | .deleteMerchant merchantId => answered .merchantDeleted (deleteMerchantConfig calls merchantId)
  | .getFeatures merchantId => answered .features (getMerchantFeatures config calls merchantId)
  | .updateFeature merchantId featureSlug enabled =>
      answered .features (updateMerchantFeature config calls merchantId featureSlug enabled)
  | .getDebitRouting merchantId => answered .debitRouting (Config.getDebitRouting calls merchantId)
  | .updateDebitRouting merchantId enabled =>
      answered .debitRouting (Config.updateDebitRouting config calls merchantId enabled)
  | .listCredentials merchantId =>
      answered .credentials (listConnectorCredentials config calls merchantId)
  | .setCredentials merchantId connector body =>
      answered .credentialsSet (setConnectorCredentials config calls merchantId connector body)
  | .deleteCredentials merchantId connector account =>
      answered .noContent (deleteConnectorCredentials config calls merchantId connector account)
  | .listFees merchantId => answered .fees (listConnectorFees config calls merchantId)
  | .setFee merchantId connector fee =>
      answered .feeSet (setFeeOverride config calls merchantId connector fee)
  | .deleteFee merchantId connector =>
      answered .noContent (deleteFeeOverride config calls merchantId connector)
  | .listClusters merchantId => answered .clusters (listCostClusters config calls merchantId)
  | .setCluster merchantId clusterKey fee =>
      answered .clusterSet (setClusterOverride config calls merchantId clusterKey fee)
  | .deleteCluster merchantId clusterKey =>
      answered .noContent (deleteClusterOverride config calls merchantId clusterKey)

/-- Who a request is authenticated as, and the keys after it. -/
def RouteRequest.admission (config : RouteConfig Data) (store : TenantStore)
    (request : RouteRequest Data Page) : AuthOutcome × TenantStore :=
  let result := authenticate config.middleware request.operation.method
    (some request.operation.matchedPath) request.credentials request.authCalls store.keys
  (result.1, { store with keys := result.2 })

def serveConfig (config : RouteConfig Data) (store : TenantStore)
    (request : RouteRequest Data Page) : ConfigAnswer Data Page × TenantStore :=
  match request.admission config store with
  | (.refused status message, next) => (.refused status message, next)
  | (.admitted _, next) => request.operation.handle config request.calls next

end Service

end DecisionEngine.Config
