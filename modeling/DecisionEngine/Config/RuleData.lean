import DecisionEngine.Config.ConfigRoutes
import DecisionEngine.Json.Codec

/-!
# The data of the rules

A rule for the success rate or for debit routing is stored as it is given.  One for
elimination is stored inside the routing input of the account, whose other fields are then
the defaults.  The decider reads the success rates by a type of its own.
-/

namespace DecisionEngine.Config

open Json

/-! ## Success rates -/

structure GatewayWiseExtraScore where
  gatewayName : String
  gatewaySigmaFactor : ℚ

structure SRSubLevelInputConfig where
  paymentMethodType : Option String
  paymentMethod : Option String
  cardNetwork : Option String
  cardIsIn : Option String
  currency : Option String
  country : Option String
  authType : Option String
  source : Option String
  latencyThreshold : Option ℚ
  bucketSize : Option Int32
  hedgingPercent : Option ℚ
  lowerResetFactor : Option ℚ
  upperResetFactor : Option ℚ
  gatewayExtraScore : Option (List GatewayWiseExtraScore)

structure SuccessRateData where
  defaultLatencyThreshold : Option ℚ
  defaultBucketSize : Option Int32
  defaultHedgingPercent : Option ℚ
  defaultLowerResetFactor : Option ℚ
  defaultUpperResetFactor : Option ℚ
  defaultGatewayExtraScore : Option (List GatewayWiseExtraScore)
  subLevelInputConfig : Option (List SRSubLevelInputConfig)
  margin : Option ℚ

/-- The entries as the decider has them. -/
structure SrV3SubLevelInputConfig where
  paymentMethodType : Option String
  paymentMethod : Option String
  cardNetwork : Option String
  cardIsIn : Option String
  currency : Option String
  country : Option String
  authType : Option String
  latencyThreshold : Option ℚ
  bucketSize : Option Int32
  hedgingPercent : Option ℚ
  lowerResetFactor : Option ℚ
  upperResetFactor : Option ℚ
  gatewayExtraScore : Option (List GatewayWiseExtraScore)
  source : Option String

structure SrV3InputConfig where
  defaultLatencyThreshold : Option ℚ
  defaultBucketSize : Option Int32
  defaultHedgingPercent : Option ℚ
  defaultLowerResetFactor : Option ℚ
  defaultUpperResetFactor : Option ℚ
  defaultGatewayExtraScore : Option (List GatewayWiseExtraScore)
  subLevelInputConfig : Option (List SrV3SubLevelInputConfig)

def GatewayWiseExtraScore.codec : Codec GatewayWiseExtraScore :=
  .record
    (Fields.make GatewayWiseExtraScore.mk
      |>.field "gatewayName" (.required .string) gatewayName
      |>.field "gatewaySigmaFactor" (.required .f64) gatewaySigmaFactor)
    fun _ => rfl

def SRSubLevelInputConfig.fields : Fields SRSubLevelInputConfig SRSubLevelInputConfig :=
  Fields.make SRSubLevelInputConfig.mk
    |>.field "paymentMethodType" (.optional .string) paymentMethodType
    |>.field "paymentMethod" (.optional .string) paymentMethod
    |>.field "cardNetwork" (.omitted .string) cardNetwork
    |>.field "cardIsIn" (.omitted .string) cardIsIn
    |>.field "currency" (.omitted .string) currency
    |>.field "country" (.omitted .string) country
    |>.field "authType" (.omitted .string) authType
    |>.field "source" (.omitted .string) source
    |>.field "latencyThreshold" (.optional .f64) latencyThreshold
    |>.field "bucketSize" (.optional .i32) bucketSize
    |>.field "hedgingPercent" (.optional .f64) hedgingPercent
    |>.field "lowerResetFactor" (.optional .f64) lowerResetFactor
    |>.field "upperResetFactor" (.optional .f64) upperResetFactor
    |>.field "gatewayExtraScore" (.optional (.list GatewayWiseExtraScore.codec)) gatewayExtraScore

def SRSubLevelInputConfig.codec : Codec SRSubLevelInputConfig :=
  .record fields fun _ => rfl

def SuccessRateData.fields : Fields SuccessRateData SuccessRateData :=
  Fields.make SuccessRateData.mk
    |>.field "defaultLatencyThreshold" (.optional .f64) defaultLatencyThreshold
    |>.field "defaultBucketSize" (.optional .i32) defaultBucketSize
    |>.field "defaultHedgingPercent" (.optional .f64) defaultHedgingPercent
    |>.field "defaultLowerResetFactor" (.optional .f64) defaultLowerResetFactor
    |>.field "defaultUpperResetFactor" (.optional .f64) defaultUpperResetFactor
    |>.field "defaultGatewayExtraScore" (.optional (.list GatewayWiseExtraScore.codec))
      defaultGatewayExtraScore
    |>.field "subLevelInputConfig" (.optional (.list SRSubLevelInputConfig.codec))
      subLevelInputConfig
    |>.field "margin" (.optional .f64) margin

def SuccessRateData.codec : Codec SuccessRateData :=
  .record fields fun _ => rfl

def SrV3SubLevelInputConfig.fields : Fields SrV3SubLevelInputConfig SrV3SubLevelInputConfig :=
  Fields.make SrV3SubLevelInputConfig.mk
    |>.field "paymentMethodType" (.optional .string) paymentMethodType
    |>.field "paymentMethod" (.optional .string) paymentMethod
    |>.field "cardNetwork" (.optional .string) cardNetwork
    |>.field "cardIsIn" (.optional .string) cardIsIn
    |>.field "currency" (.optional .string) currency
    |>.field "country" (.optional .string) country
    |>.field "authType" (.optional .string) authType
    |>.field "latencyThreshold" (.optional .f64) latencyThreshold
    |>.field "bucketSize" (.optional .i32) bucketSize
    |>.field "hedgingPercent" (.optional .f64) hedgingPercent
    |>.field "lowerResetFactor" (.optional .f64) lowerResetFactor
    |>.field "upperResetFactor" (.optional .f64) upperResetFactor
    |>.field "gatewayExtraScore" (.optional (.list GatewayWiseExtraScore.codec)) gatewayExtraScore
    |>.field "source" (.omitted .string) source

def SrV3SubLevelInputConfig.codec : Codec SrV3SubLevelInputConfig :=
  .record fields fun _ => rfl

def SrV3InputConfig.fields : Fields SrV3InputConfig SrV3InputConfig :=
  Fields.make SrV3InputConfig.mk
    |>.field "defaultLatencyThreshold" (.optional .f64) defaultLatencyThreshold
    |>.field "defaultBucketSize" (.optional .i32) defaultBucketSize
    |>.field "defaultHedgingPercent" (.optional .f64) defaultHedgingPercent
    |>.field "defaultLowerResetFactor" (.optional .f64) defaultLowerResetFactor
    |>.field "defaultUpperResetFactor" (.optional .f64) defaultUpperResetFactor
    |>.field "defaultGatewayExtraScore" (.optional (.list GatewayWiseExtraScore.codec))
      defaultGatewayExtraScore
    |>.field "subLevelInputConfig" (.optional (.list SrV3SubLevelInputConfig.codec))
      subLevelInputConfig

def SrV3InputConfig.codec : Codec SrV3InputConfig :=
  .record fields fun _ => rfl

/-- The fields that the decider shares with an entry. -/
def SRSubLevelInputConfig.shared (entry : SRSubLevelInputConfig) : SrV3SubLevelInputConfig :=
  { paymentMethodType := entry.paymentMethodType
    paymentMethod := entry.paymentMethod
    cardNetwork := entry.cardNetwork
    cardIsIn := entry.cardIsIn
    currency := entry.currency
    country := entry.country
    authType := entry.authType
    latencyThreshold := entry.latencyThreshold
    bucketSize := entry.bucketSize
    hedgingPercent := entry.hedgingPercent
    lowerResetFactor := entry.lowerResetFactor
    upperResetFactor := entry.upperResetFactor
    gatewayExtraScore := entry.gatewayExtraScore
    source := entry.source }

/-- The fields that the decider shares with a rule. -/
def SuccessRateData.shared (data : SuccessRateData) : SrV3InputConfig :=
  { defaultLatencyThreshold := data.defaultLatencyThreshold
    defaultBucketSize := data.defaultBucketSize
    defaultHedgingPercent := data.defaultHedgingPercent
    defaultLowerResetFactor := data.defaultLowerResetFactor
    defaultUpperResetFactor := data.defaultUpperResetFactor
    defaultGatewayExtraScore := data.defaultGatewayExtraScore
    subLevelInputConfig := data.subLevelInputConfig.map fun entries =>
      entries.map SRSubLevelInputConfig.shared }

theorem read_subLevelFields (entry : SRSubLevelInputConfig) :
    (SrV3SubLevelInputConfig.fields.read fun name =>
      lookupField name (SRSubLevelInputConfig.fields.write entry)) = some entry.shared := by
  simp [SrV3SubLevelInputConfig.fields, SRSubLevelInputConfig.fields, Fields.field,
    Fields.make, Field.optional, Field.omitted, lookupField_append, Fields.lookupField_entry,
    SRSubLevelInputConfig.shared]

theorem read_subLevel (entry : SRSubLevelInputConfig) :
    SrV3SubLevelInputConfig.codec.read (SRSubLevelInputConfig.codec.write entry) =
      some entry.shared := by
  rw [SrV3SubLevelInputConfig.codec, SRSubLevelInputConfig.codec]
  exact Codec.read_record_write (read_subLevelFields entry)

theorem read_subLevelInputConfig (entries : Option (List SRSubLevelInputConfig)) :
    Field.readOptional (.list SrV3SubLevelInputConfig.codec)
        (some (entries.elim .null (Codec.list SRSubLevelInputConfig.codec).write)) =
      some (entries.map fun entries => entries.map SRSubLevelInputConfig.shared) := by
  cases entries with
  | none => rfl
  | some entries => exact congrArg (Option.map some) (Codec.read_list_write read_subLevel entries)

/-- What is stored of a rule the decider reads as the fields that it shares. -/
theorem read_successRate (data : SuccessRateData) :
    SrV3InputConfig.codec.read (SuccessRateData.codec.write data) = some data.shared := by
  rw [SrV3InputConfig.codec, SuccessRateData.codec]
  apply Codec.read_record_write
  simp [SrV3InputConfig.fields, SuccessRateData.fields, Fields.field, Fields.make,
    Field.optional, lookupField_append, Fields.lookupField_entry, read_subLevelInputConfig,
    SuccessRateData.shared]

/-! ## Elimination -/

structure TransactionLatencyThreshold where
  gatewayLatency : Option ℚ

structure EliminationData where
  threshold : ℚ
  txnLatency : Option TransactionLatencyThreshold

inductive EliminationLevel where
  | gateway
  | paymentMethodType
  | paymentMethod
  | none
  | forcedPaymentMethod
  deriving DecidableEq

inductive SelectionLevel where
  | slPaymentMode
  | slPaymentMethod
  deriving DecidableEq

structure GatewayWiseSuccessRateBasedRoutingInput where
  gateway : String
  eliminationThreshold : Option ℚ
  eliminationMaxCountThreshold : Option Int64
  selectionMaxCountThreshold : Option Int64
  softTxnResetCount : Option Int64
  gatewayLevelEliminationThreshold : Option ℚ
  eliminationLevel : Option EliminationLevel
  currentScore : Option ℚ
  lastResetTimeStamp : Option Int64

structure EliminationSuccessRateInput where
  successRate : ℚ
  paymentMethodType : String
  paymentMethod : Option String
  txnObjectType : Option String

structure GatewaySuccessRateBasedRoutingInput where
  gatewayWiseInputs : Option (List GatewayWiseSuccessRateBasedRoutingInput)
  defaultEliminationThreshold : ℚ
  defaultEliminationLevel : EliminationLevel
  defaultSelectionLevel : Option SelectionLevel
  enabledPaymentMethodTypes : List String
  eliminationV2SuccessRateInputs : Option (List EliminationSuccessRateInput)
  globalGatewayWiseInputs : Option (List GatewayWiseSuccessRateBasedRoutingInput)
  defaultGlobalEliminationThreshold : Option ℚ
  defaultGlobalEliminationMaxCountThreshold : Option Int64
  defaultGlobalEliminationLevel : Option EliminationLevel
  defaultGlobalSelectionMaxCountThreshold : Option Int64
  selectionTransactionCountThreshold : Option Int64
  defaultGlobalSoftTxnResetCount : Option Int64
  defaultGatewayLevelEliminationThreshold : Option ℚ
  defaultEliminationV2SuccessRate : Option ℚ
  txnLatency : Option TransactionLatencyThreshold

namespace GatewaySuccessRateBasedRoutingInput

def default : GatewaySuccessRateBasedRoutingInput :=
  { gatewayWiseInputs := none
    defaultEliminationThreshold := 0
    defaultEliminationLevel := .paymentMethod
    defaultSelectionLevel := none
    enabledPaymentMethodTypes := []
    eliminationV2SuccessRateInputs := none
    globalGatewayWiseInputs := none
    defaultGlobalEliminationThreshold := none
    defaultGlobalEliminationMaxCountThreshold := none
    defaultGlobalEliminationLevel := none
    defaultGlobalSelectionMaxCountThreshold := none
    selectionTransactionCountThreshold := none
    defaultGlobalSoftTxnResetCount := none
    defaultGatewayLevelEliminationThreshold := none
    defaultEliminationV2SuccessRate := none
    txnLatency := none }

def fromEliminationThreshold (config : EliminationData) : GatewaySuccessRateBasedRoutingInput :=
  { default with
    defaultEliminationThreshold := config.threshold
    txnLatency := config.txnLatency }

/-- What is given back of the input as the rule. -/
def eliminationData (config : GatewaySuccessRateBasedRoutingInput) : EliminationData :=
  ⟨config.defaultEliminationThreshold, config.txnLatency⟩

end GatewaySuccessRateBasedRoutingInput

def TransactionLatencyThreshold.codec : Codec TransactionLatencyThreshold :=
  .record
    (Fields.make TransactionLatencyThreshold.mk
      |>.field "gatewayLatency" (.optional .f64) gatewayLatency)
    fun _ => rfl

def EliminationLevel.name : EliminationLevel → String
  | .gateway => "GATEWAY"
  | .paymentMethodType => "PAYMENT_METHOD_TYPE"
  | .paymentMethod => "PAYMENT_METHOD"
  | .none => "NONE"
  | .forcedPaymentMethod => "FORCED_PAYMENT_METHOD"

def EliminationLevel.codec : Codec EliminationLevel :=
  .variants name [.gateway, .paymentMethodType, .paymentMethod, .none, .forcedPaymentMethod]
    fun level => by cases level <;> decide

def SelectionLevel.name : SelectionLevel → String
  | .slPaymentMode => "PAYMENT_MODE"
  | .slPaymentMethod => "PAYMENT_METHOD"

def SelectionLevel.codec : Codec SelectionLevel :=
  .variants name [.slPaymentMode, .slPaymentMethod] fun level => by cases level <;> decide

def GatewayWiseSuccessRateBasedRoutingInput.codec :
    Codec GatewayWiseSuccessRateBasedRoutingInput :=
  .record
    (Fields.make GatewayWiseSuccessRateBasedRoutingInput.mk
      |>.field "gateway" (.required .string) gateway
      |>.field "eliminationThreshold" (.optional .f64) eliminationThreshold
      |>.field "eliminationMaxCountThreshold" (.optional .i64) eliminationMaxCountThreshold
      |>.field "selectionMaxCountThreshold" (.optional .i64) selectionMaxCountThreshold
      |>.field "softTxnResetCount" (.optional .i64) softTxnResetCount
      |>.field "gatewayLevelEliminationThreshold" (.optional .f64) gatewayLevelEliminationThreshold
      |>.field "eliminationLevel" (.optional EliminationLevel.codec) eliminationLevel
      |>.field "currentScore" (.optional .f64) currentScore
      |>.field "lastResetTimeStamp" (.optional .i64) lastResetTimeStamp)
    fun _ => rfl

def EliminationSuccessRateInput.codec : Codec EliminationSuccessRateInput :=
  .record
    (Fields.make EliminationSuccessRateInput.mk
      |>.field "successRate" (.required .f64) successRate
      |>.field "paymentMethodType" (.required .string) paymentMethodType
      |>.field "paymentMethod" (.optional .string) paymentMethod
      |>.field "txnObjectType" (.optional .string) txnObjectType)
    fun _ => rfl

/-- A field that is missing is the default's. -/
def GatewaySuccessRateBasedRoutingInput.codec : Codec GatewaySuccessRateBasedRoutingInput :=
  .record
    (Fields.make GatewaySuccessRateBasedRoutingInput.mk
      |>.field "gatewayWiseInputs"
        (.optional (.list GatewayWiseSuccessRateBasedRoutingInput.codec)) gatewayWiseInputs
      |>.field "defaultEliminationThreshold"
        (.withDefault .f64 default.defaultEliminationThreshold) defaultEliminationThreshold
      |>.field "defaultEliminationLevel"
        (.withDefault EliminationLevel.codec default.defaultEliminationLevel)
        defaultEliminationLevel
      |>.field "defaultSelectionLevel" (.optional SelectionLevel.codec) defaultSelectionLevel
      |>.field "enabledPaymentMethodTypes"
        (.withDefault (.list .string) default.enabledPaymentMethodTypes) enabledPaymentMethodTypes
      |>.field "eliminationV2SuccessRateInputs"
        (.optional (.list EliminationSuccessRateInput.codec)) eliminationV2SuccessRateInputs
      |>.field "globalGatewayWiseInputs"
        (.optional (.list GatewayWiseSuccessRateBasedRoutingInput.codec)) globalGatewayWiseInputs
      |>.field "defaultGlobalEliminationThreshold" (.optional .f64)
        defaultGlobalEliminationThreshold
      |>.field "defaultGlobalEliminationMaxCountThreshold" (.optional .i64)
        defaultGlobalEliminationMaxCountThreshold
      |>.field "defaultGlobalEliminationLevel" (.optional EliminationLevel.codec)
        defaultGlobalEliminationLevel
      |>.field "defaultGlobalSelectionMaxCountThreshold" (.optional .i64)
        defaultGlobalSelectionMaxCountThreshold
      |>.field "selectionTransactionCountThreshold" (.optional .i64)
        selectionTransactionCountThreshold
      |>.field "defaultGlobalSoftTxnResetCount" (.optional .i64) defaultGlobalSoftTxnResetCount
      |>.field "defaultGatewayLevelEliminationThreshold" (.optional .f64)
        defaultGatewayLevelEliminationThreshold
      |>.field "defaultEliminationV2SuccessRate" (.optional .f64) defaultEliminationV2SuccessRate
      |>.field "txnLatency" (.optional TransactionLatencyThreshold.codec) txnLatency
      |>.defaulting)
    fun _ => rfl

/-! ## Debit routing -/

structure DebitRoutingData where
  merchantCategoryCode : String
  acquirerCountry : String
  deriving DecidableEq

def DebitRoutingData.codec : Codec DebitRoutingData :=
  .record
    (Fields.make DebitRoutingData.mk
      |>.field "merchantCategoryCode" (.required .string) merchantCategoryCode
      |>.field "acquirerCountry" (.required .string) acquirerCountry)
    fun _ => rfl

/-! ## Stored texts -/

/-- The data of the rules of an algorithm. -/
def RuleData : AlgorithmType → Type
  | .successRate => SuccessRateData
  | .elimination => EliminationData
  | .debitRouting => DebitRoutingData

/-- What is stored for the data of a rule. -/
def encodeRule : (algorithm : AlgorithmType) → RuleData algorithm → Value
  | .successRate, data => SuccessRateData.codec.write data
  | .elimination, data =>
      GatewaySuccessRateBasedRoutingInput.codec.write
        (GatewaySuccessRateBasedRoutingInput.fromEliminationThreshold data)
  | .debitRouting, data => DebitRoutingData.codec.write data

/-- The data of a rule that is stored. -/
def decodeRule : (algorithm : AlgorithmType) → Value → Option (RuleData algorithm)
  | .successRate, stored => SuccessRateData.codec.read stored
  | .elimination, stored =>
      (GatewaySuccessRateBasedRoutingInput.codec.read stored).map
        GatewaySuccessRateBasedRoutingInput.eliminationData
  | .debitRouting, stored => DebitRoutingData.codec.read stored

theorem decodeRule_encodeRule (algorithm : AlgorithmType) (data : RuleData algorithm) :
    decodeRule algorithm (encodeRule algorithm data) = some data := by
  cases algorithm with
  | successRate => exact SuccessRateData.codec.exact data
  | elimination =>
      rw [encodeRule, decodeRule, GatewaySuccessRateBasedRoutingInput.codec.exact]
      rfl
  | debitRouting => exact DebitRoutingData.codec.exact data

/-- How JSON is printed and parsed. -/
structure JsonText where
  print : Value → String
  parse : String → Option Value

def ruleSerde (json : JsonText) (algorithm : AlgorithmType) : Serde (RuleData algorithm) where
  fromStr text := (json.parse text).bind (decodeRule algorithm)
  toString data := some (json.print (encodeRule algorithm data))

/-- The rules are stored as JSON. -/
def RouteConfig.withRules (config : RouteConfig RuleData) (json : JsonText) :
    RouteConfig RuleData :=
  { config with formats := { config.formats with rule := ruleSerde json } }

end DecisionEngine.Config
