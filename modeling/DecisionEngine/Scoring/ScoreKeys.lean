import DecisionEngine.Map.Keyed
import DecisionEngine.Text.Basic

/-!
# Score keys

The key builder for the scores of gateways, and the three places that call it:
the decider, which reads the scores, the feedback, which writes them, and the
snapshot, which reports them.  Every path reads the same service configurations.
-/

namespace DecisionEngine.Scoring

open Map Text

abbrev Gateway := String

abbrev RedisKey := String

abbrev GatewayReferenceIdMap := HashMap Gateway (Option String)

abbrev GatewayRedisKeyMap := HashMap Gateway RedisKey

inductive ScoreKeyType where
  | eliminationGlobalKey
  | eliminationMerchantKey
  | outageGlobalKey
  | outageMerchantKey
  | srV2Key
  | srV3Key
  deriving DecidableEq

/-- What the key builder reads of the data that the decider stores for a payment. -/
structure GatewayScoringData where
  merchantId : String
  paymentMethodType : String
  paymentMethod : String
  orderType : String
  cardType : Option String
  bankCode : Option String
  authType : Option String
  paymentSource : Option String
  isPaymentSourceEnabledForSrRouting : Bool
  isAuthLevelEnabledForSrRouting : Bool
  isBankLevelEnabledForSrRouting : Bool
  isGriEnabledForElimination : Bool
  isGriEnabledForSrRouting : Bool
  cardIsIn : Option String
  cardSwitchProvider : Option String
  currency : Option String
  country : Option String
  isLegacyDeciderFlow : Bool
  udfs : Option (HashMap Int String)

/-- The data of an order that is paid by card. -/
def cardOrder : GatewayScoringData where
  merchantId := "m"
  paymentMethodType := "CARD"
  paymentMethod := "VISA"
  orderType := "ORDER_PAYMENT"
  cardType := some "CREDIT"
  bankCode := none
  authType := none
  paymentSource := none
  isPaymentSourceEnabledForSrRouting := false
  isAuthLevelEnabledForSrRouting := false
  isBankLevelEnabledForSrRouting := false
  isGriEnabledForElimination := false
  isGriEnabledForSrRouting := false
  cardIsIn := none
  cardSwitchProvider := none
  currency := none
  country := none
  isLegacyDeciderFlow := false
  udfs := none

def GatewayScoringData.getPaymentSource (data : GatewayScoringData) : String :=
  data.paymentSource.getD ""

structure SrDimensionInfo where
  udfs : List Int
  fields : Option (List String)

structure SrDimensionConfig where
  merchantId : String
  paymentInfo : SrDimensionInfo

/-- The service configurations that the key builder reads, by name where the name
depends on the merchant. -/
structure ServiceConfigs where
  srDimensionConfig : String → Option SrDimensionConfig
  upiHandleList : Option (List String)
  upiPackageList : Option (List String)
  routingTopBankList : Option (List String)

/-! ## Constants -/

def card : String := "CARD"

def upi : String := "UPI"

def globalLevelOutageKeyPrefix : String := "gw_score_global_outage"

def merchantLevelOutageKeyPrefix : String := "gw_score_outage"

def gatewaySelectionOrderTypeKeyPrefix : String := "gw_sr_score"

/-- The brace opens the hash tag of the key, which its two suffixes close. -/
def gatewaySelectionV3OrderTypeKeyPrefix : String := "\x7bgw_sr_v3_score"

def eliminationBasedRoutingKeyPrefix : String := "gw_score"

def eliminationBasedRoutingGlobalKeyPrefix : String := "gw_score_global"

/-! ## Success-rate keys -/

/-- Empty texts are not left out but replaced. -/
def intercalateWithoutEmptyString (intercalateWith : String) (inputTexts : List String) :
    String :=
  join intercalateWith (inputTexts.map fun text => if text.isEmpty then "UNKNOWN" else text)

variable (data : GatewayScoringData)

/-- The values of the configured user fields; `none` when one of them is missing. -/
def udfValues (udfKeys : List Int) : Option (List String) :=
  data.udfs.bind fun udfs => udfKeys.mapM fun udf => udfs.lookup udf

def srKeyPrefix (isSrV3MetricEnabled : Bool) : String :=
  if isSrV3MetricEnabled then gatewaySelectionV3OrderTypeKeyPrefix
  else gatewaySelectionOrderTypeKeyPrefix

/-- The components of every success-rate key. -/
def srBaseKey (isSrV3MetricEnabled : Bool) : List String :=
  [srKeyPrefix isSrV3MetricEnabled, data.merchantId, data.orderType, data.paymentMethodType,
    data.paymentMethod]

/-- The value when it is in the list, else an empty text. -/
def listed (list : Option (List String)) (value : String) : String :=
  if (list.getD []).contains value then value else ""

variable (configs : ServiceConfigs)

def getLegacyUnifiedSrKey (data : GatewayScoringData) (isSrV3MetricEnabled enforce1d : Bool) :
    String :=
  let baseKey := srBaseKey data isSrV3MetricEnabled
  if enforce1d && data.paymentMethodType == card then
    intercalateWithoutEmptyString "_" (baseKey ++ [data.cardType.getD ""])
  else if enforce1d then intercalateWithoutEmptyString "_" baseKey
  else if data.paymentMethodType == upi then
    if data.isPaymentSourceEnabledForSrRouting then
      if data.paymentMethod == "UPI_COLLECT" || data.paymentMethod == "COLLECT" then
        intercalateWithoutEmptyString "_"
          (baseKey ++ [listed configs.upiHandleList data.getPaymentSource])
      else if data.paymentMethod == "UPI_PAY" || data.paymentMethod == "PAY" then
        intercalateWithoutEmptyString "_"
          (baseKey ++ [listed configs.upiPackageList data.getPaymentSource])
      else intercalateWithoutEmptyString "_" baseKey
    else intercalateWithoutEmptyString "_" baseKey
  else if data.paymentMethodType == card then
    if data.isAuthLevelEnabledForSrRouting then
      intercalateWithoutEmptyString "_"
        (baseKey ++ [data.cardType.getD "", data.authType.getD ""])
    else if data.isBankLevelEnabledForSrRouting then
      intercalateWithoutEmptyString "_"
        (baseKey ++ [data.cardType.getD "",
          listed configs.routingTopBankList (data.bankCode.getD "UNKNOWN")])
    else intercalateWithoutEmptyString "_" (baseKey ++ [data.cardType.getD ""])
  else intercalateWithoutEmptyString "_" baseKey

/-- The component that a configured field adds; a missing value and an unknown
field add none. -/
def fieldComponent (field : String) : Option String :=
  if field == "card_network" then data.cardSwitchProvider
  else if field == "card_is_in" then data.cardIsIn
  else if field == "currency" then data.currency
  else if field == "country" then data.country
  else if field == "auth_type" then data.authType
  else none

def getUnifiedSrKey (data : GatewayScoringData) (isSrV3MetricEnabled enforce1d : Bool) : String :=
  let serviceConfig := configs.srDimensionConfig ("SR_DIMENSION_CONFIG_" ++ data.merchantId)
  let udfs := (serviceConfig.map fun config => config.paymentInfo.udfs).getD []
  if data.isLegacyDeciderFlow then
    let srKeys := getLegacyUnifiedSrKey configs data isSrV3MetricEnabled enforce1d
    match udfValues data udfs with
    | some values => intercalateWithoutEmptyString "_" (srKeys :: values)
    | none => srKeys
  else
    let fields := (serviceConfig.bind fun config => config.paymentInfo.fields).getD []
    intercalateWithoutEmptyString "_"
      (srBaseKey data isSrV3MetricEnabled ++ fields.filterMap (fieldComponent data) ++
        (udfValues data udfs).getD [])

/-! ## The key builder -/

/-- The components after the gateway in an elimination key. -/
def eliminationSuffix (data : GatewayScoringData) : List String :=
  if data.paymentMethodType == card then
    [data.paymentMethodType, data.paymentMethod, data.cardType.getD ""]
  else [data.paymentMethodType, data.paymentMethod]

/-- The components after the payment method in an outage key. -/
def outageSuffix (data : GatewayScoringData) : List String :=
  if data.paymentMethodType == card then [data.bankCode.getD "", data.cardType.getD ""]
  else if data.paymentMethodType == upi then [data.getPaymentSource]
  else []

/-- A map with one key for all gateways, under the empty name. -/
def sharedKey (key : RedisKey) : GatewayRedisKeyMap :=
  AList.singleton "" key

def getUnifiedKey (data : GatewayScoringData) (scoreKeyType : ScoreKeyType) (enforce1d : Bool)
    (gatewayRefIdMap : GatewayReferenceIdMap) :
    GatewayRedisKeyMap :=
  match scoreKeyType with
  | .eliminationGlobalKey =>
      mapEntries gatewayRefIdMap fun gateway _ =>
        intercalateWithoutEmptyString "_"
          ([eliminationBasedRoutingGlobalKeyPrefix, data.orderType] ++ [gateway] ++
            eliminationSuffix data)
  | .eliminationMerchantKey =>
      let prefixKey := [eliminationBasedRoutingKeyPrefix, data.merchantId, data.orderType]
      mapEntries gatewayRefIdMap fun gateway referenceId =>
        intercalateWithoutEmptyString "_"
          (if data.isGriEnabledForElimination then
            prefixKey ++ [gateway] ++ eliminationSuffix data ++ [referenceId.getD ""]
          else prefixKey ++ [gateway] ++ eliminationSuffix data)
  | .srV2Key =>
      let key := getUnifiedSrKey configs data false enforce1d
      if data.isGriEnabledForSrRouting then
        mapEntries gatewayRefIdMap fun _ referenceId =>
          intercalateWithoutEmptyString "_" [key, referenceId.getD ""]
      else sharedKey key
  | .srV3Key =>
      let baseKey := getUnifiedSrKey configs data true enforce1d
      mapEntries gatewayRefIdMap fun gateway referenceId =>
        intercalateWithoutEmptyString "_"
          (if data.isGriEnabledForSrRouting then [baseKey, referenceId.getD "", gateway]
          else [baseKey, gateway])
  | .outageGlobalKey =>
      sharedKey (intercalateWithoutEmptyString "_"
        ([globalLevelOutageKeyPrefix, data.paymentMethodType, data.paymentMethod] ++
          outageSuffix data))
  | .outageMerchantKey =>
      sharedKey (intercalateWithoutEmptyString "_"
        ([merchantLevelOutageKeyPrefix, data.merchantId, data.paymentMethodType,
          data.paymentMethod] ++ outageSuffix data))

/-! ## Its callers -/

/-- The reference id of a gateway, by what its metadata gives: an empty text is none. -/
def getGatewayReferenceId (metaRes : Option String) : Option String :=
  metaRes.filter (· != "")

/-- The reference ids that the decider passes to the key builder; `referenceId` finds
the reference id of a gateway in the metadata. -/
def gwRefIdMap (gatewayList : List Gateway) (referenceId : Gateway → Option String) :
    GatewayReferenceIdMap :=
  if data.isGriEnabledForElimination || data.isGriEnabledForSrRouting then
    insertKeys ∅ gatewayList fun gateway =>
      some ((getGatewayReferenceId (referenceId gateway)).getD "NULL")
  else insertKeys ∅ gatewayList fun _ => none

/-- The keys that the decider reads. -/
def getConsumerKey (data : GatewayScoringData) (scoreKeyType : ScoreKeyType) (enforce1d : Bool)
    (gatewayList : List Gateway) (referenceId : Gateway → Option String) : GatewayRedisKeyMap :=
  getUnifiedKey configs data scoreKeyType enforce1d (gwRefIdMap data gatewayList referenceId)

/-- The key that the feedback writes. -/
def getProducerKey (txnGateway : Option Gateway) (redisGatewayScoreData : Option GatewayScoringData)
    (scoreKeyType : ScoreKeyType) (enforce1d : Bool) (gatewayReferenceId : Option String) :
    Option RedisKey :=
  match redisGatewayScoreData with
  | none => none
  | some data =>
      let isGriEnabled :=
        if scoreKeyType = .eliminationMerchantKey then data.isGriEnabledForElimination
        else if scoreKeyType = .srV2Key || scoreKeyType = .srV3Key then
          data.isGriEnabledForSrRouting
        else false
      let gateway := txnGateway.getD ""
      let gatewayAndReferenceId : GatewayReferenceIdMap :=
        if isGriEnabled then AList.singleton gateway (some (gatewayReferenceId.getD "NULL"))
        else AList.singleton gateway none
      (getUnifiedKey configs data scoreKeyType enforce1d gatewayAndReferenceId).entries.head?.map
        Sigma.snd

/-- The key whose score is recorded after an update of the success-rate score;
nothing is recorded without a gateway. -/
def snapshotKey (txnGateway : Option Gateway) (data : GatewayScoringData)
    (gatewayReferenceId : Option String) : Option RedisKey :=
  let gatewayName := txnGateway.getD ""
  if gatewayName.isEmpty then none
  else
    (getUnifiedKey configs data .srV3Key false
      (AList.singleton gatewayName gatewayReferenceId)).lookup gatewayName

end DecisionEngine.Scoring
