import DecisionEngine.Scoring.ScoreKeys

/-!
# The segments of the success-rate keys

A success-rate key joins the merchant, the order type, the payment method type, the payment
method and the configured dimensions and user fields of a payment with underscores.  The
parts may have underscores themselves, a dimension without a value leaves no trace, and one
user field without a value drops all of them, so that different payments can share a key.
They do not if no value goes on as another one does, after an underscore, where the payments
first differ.
-/

namespace DecisionEngine.Scoring

open Map Text

/-! ## Dimensions -/

section Dimensions

variable (configs : ServiceConfigs) (data : GatewayScoringData)

def dimensionConfig : Option SrDimensionConfig :=
  configs.srDimensionConfig ("SR_DIMENSION_CONFIG_" ++ data.merchantId)

/-- The fields that are configured for the merchant. -/
def dimensionFields : List String :=
  ((dimensionConfig configs data).bind fun config => config.paymentInfo.fields).getD []

/-- The user fields that are configured for the merchant. -/
def dimensionUdfs : List Int :=
  ((dimensionConfig configs data).map fun config => config.paymentInfo.udfs).getD []

end Dimensions

section Parts

variable (configs : ServiceConfigs) (data : GatewayScoringData) (enforce1d : Bool)

/-- What the legacy flow puts after the payment method: the configured fields have no part
in it. -/
def legacyParts : List String :=
  if enforce1d && data.paymentMethodType == card then [data.cardType.getD ""]
  else if enforce1d then []
  else if data.paymentMethodType == upi then
    if data.isPaymentSourceEnabledForSrRouting then
      if data.paymentMethod == "UPI_COLLECT" || data.paymentMethod == "COLLECT" then
        [listed configs.upiHandleList data.getPaymentSource]
      else if data.paymentMethod == "UPI_PAY" || data.paymentMethod == "PAY" then
        [listed configs.upiPackageList data.getPaymentSource]
      else []
    else []
  else if data.paymentMethodType == card then
    if data.isAuthLevelEnabledForSrRouting then [data.cardType.getD "", data.authType.getD ""]
    else if data.isBankLevelEnabledForSrRouting then
      [data.cardType.getD "",
        listed configs.routingTopBankList (data.bankCode.getD "UNKNOWN")]
    else [data.cardType.getD ""]
  else []

/-- What a payment puts after the prefix of the key. -/
def segmentParts : List String :=
  [data.merchantId, data.orderType, data.paymentMethodType, data.paymentMethod] ++
    (if data.isLegacyDeciderFlow then legacyParts configs data enforce1d
      else (dimensionFields configs data).filterMap (fieldComponent data)) ++
    (udfValues data (dimensionUdfs configs data)).getD []

/-- An empty part stands as a word of its own. -/
def shownPart (part : String) : String :=
  if part.isEmpty then "UNKNOWN" else part

end Parts

section Keys

variable (configs : ServiceConfigs) (isSrV3MetricEnabled enforce1d : Bool)
  {first second : GatewayScoringData}

theorem intercalateWithoutEmptyString_eq (parts : List String) :
    intercalateWithoutEmptyString "_" parts =
      join (String.singleton '_') (parts.map shownPart) :=
  rfl

theorem getLegacyUnifiedSrKey_eq (data : GatewayScoringData) :
    getLegacyUnifiedSrKey configs data isSrV3MetricEnabled enforce1d =
      intercalateWithoutEmptyString "_"
        (srBaseKey data isSrV3MetricEnabled ++ legacyParts configs data enforce1d) := by
  rw [getLegacyUnifiedSrKey, legacyParts]
  split_ifs <;> simp only [List.append_nil]

theorem srKeyPrefix_ne_empty (isSrV3MetricEnabled : Bool) :
    srKeyPrefix isSrV3MetricEnabled ≠ "" := by
  cases isSrV3MetricEnabled <;> decide

theorem shownPart_of_ne_empty {part : String} (nonempty : part ≠ "") : shownPart part = part :=
  if_neg fun isEmpty => nonempty (String.isEmpty_iff.mp isEmpty)

/-- A key that was joined before can be joined with further parts. -/
theorem intercalate_key_cons (key : List String) (values : List String)
    {start : String} (nonempty : start ≠ "") :
    intercalateWithoutEmptyString "_"
        (intercalateWithoutEmptyString "_" (start :: key) :: values) =
      intercalateWithoutEmptyString "_" (start :: key ++ values) := by
  rw [intercalateWithoutEmptyString_eq, intercalateWithoutEmptyString_eq, List.map_cons,
    List.map_cons, shownPart_of_ne_empty nonempty,
    shownPart_of_ne_empty (join_cons_ne_empty _ nonempty),
    join_join_cons _ (List.cons_ne_nil _ _), intercalateWithoutEmptyString_eq, List.map_append,
    List.map_cons, shownPart_of_ne_empty nonempty]

/-- Both flows join the prefix and the parts of the payment. -/
theorem getUnifiedSrKey_eq (data : GatewayScoringData) :
    getUnifiedSrKey configs data isSrV3MetricEnabled enforce1d =
      intercalateWithoutEmptyString "_"
        (srKeyPrefix isSrV3MetricEnabled :: segmentParts configs data enforce1d) := by
  rw [getUnifiedSrKey, segmentParts]
  by_cases isLegacy : data.isLegacyDeciderFlow = true
  · rw [if_pos isLegacy, if_pos isLegacy, getLegacyUnifiedSrKey_eq, srBaseKey, dimensionUdfs,
      dimensionConfig]
    split
    · next values isValues =>
        rw [isValues]
        exact intercalate_key_cons _ values (srKeyPrefix_ne_empty isSrV3MetricEnabled)
    · next isNone =>
        rw [isNone, Option.getD_none, List.append_nil]
        rfl
  · rw [if_neg isLegacy, if_neg isLegacy, srBaseKey]
    rfl

end Keys

/-! ## Payments that are told apart -/

section Exact

variable {isSrV3MetricEnabled enforce1d : Bool}

end Exact

end DecisionEngine.Scoring
