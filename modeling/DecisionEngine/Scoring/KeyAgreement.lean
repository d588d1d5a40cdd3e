import DecisionEngine.Scoring.ScoreKeys

/-!
# Agreement of the score keys

The decider and the feedback put the same placeholder where a payment has no
reference id for a gateway.  The snapshot passes the missing id on, and the key
builder then puts its own placeholder for an empty text.  An empty id is none for
the decider alone.
-/

namespace DecisionEngine.Scoring

open Map Text

/-! ## One gateway at a time -/

/-- Reference ids are part of a key of this type. -/
def isGriEnabled (data : GatewayScoringData) : ScoreKeyType → Bool
  | .eliminationMerchantKey => data.isGriEnabledForElimination
  | .srV2Key => data.isGriEnabledForSrRouting
  | .srV3Key => data.isGriEnabledForSrRouting
  | _ => false

/-- The key for a gateway in a map of keys: its own, or the one for all gateways. -/
def keyFor (keys : GatewayRedisKeyMap) (gateway : Gateway) : Option RedisKey :=
  (keys.lookup gateway).or (keys.lookup "")

variable {gateway : Gateway}

theorem keyFor_mapEntries {references : GatewayReferenceIdMap} {referenceId : Option String}
    (found : references.lookup gateway = some referenceId)
    (key : Gateway → Option String → RedisKey) :
    keyFor (mapEntries references key) gateway = some (key gateway referenceId) := by
  rw [keyFor, lookup_mapEntries, found]
  rfl

variable {data : GatewayScoringData} {scoreKeyType : ScoreKeyType}

/-- The key for a gateway depends on no other gateway, and on its reference id only
where reference ids are enabled. -/
theorem keyFor_getUnifiedKey_congr (configs : ServiceConfigs) (enforce1d : Bool)
    {first second : GatewayReferenceIdMap} {firstId secondId : Option String}
    (firstFound : first.lookup gateway = some firstId)
    (secondFound : second.lookup gateway = some secondId)
    (same : isGriEnabled data scoreKeyType = true → firstId.getD "" = secondId.getD "") :
    keyFor (getUnifiedKey configs data scoreKeyType enforce1d first) gateway =
      keyFor (getUnifiedKey configs data scoreKeyType enforce1d second) gateway := by
  cases scoreKeyType with
  | eliminationGlobalKey =>
      simp only [getUnifiedKey, keyFor_mapEntries firstFound, keyFor_mapEntries secondFound]
  | eliminationMerchantKey =>
      simp only [getUnifiedKey, keyFor_mapEntries firstFound, keyFor_mapEntries secondFound]
      by_cases enabled : data.isGriEnabledForElimination = true
      · simp only [same enabled]
      · simp only [if_neg enabled]
  | srV2Key =>
      simp only [getUnifiedKey]
      by_cases enabled : data.isGriEnabledForSrRouting = true
      · simp only [if_pos enabled, keyFor_mapEntries firstFound, keyFor_mapEntries secondFound,
          same enabled]
      · simp only [if_neg enabled]
  | srV3Key =>
      simp only [getUnifiedKey, keyFor_mapEntries firstFound, keyFor_mapEntries secondFound]
      by_cases enabled : data.isGriEnabledForSrRouting = true
      · simp only [same enabled]
      · simp only [if_neg enabled]
  | outageGlobalKey => rfl
  | outageMerchantKey => rfl

/-- Where reference ids are enabled, the key for a gateway has its reference id as a part. -/
theorem exists_keyFor_eq (configs : ServiceConfigs) (enforce1d : Bool) (gateway : Gateway)
    (enabled : isGriEnabled data scoreKeyType = true) :
    ∃ before after, ∀ (references : GatewayReferenceIdMap) (referenceId : Option String),
      references.lookup gateway = some referenceId →
        keyFor (getUnifiedKey configs data scoreKeyType enforce1d references) gateway =
          some (intercalateWithoutEmptyString "_" (before ++ referenceId.getD "" :: after)) := by
  cases scoreKeyType with
  | eliminationMerchantKey =>
      have isEnabled : data.isGriEnabledForElimination = true := enabled
      refine ⟨[eliminationBasedRoutingKeyPrefix, data.merchantId, data.orderType] ++ [gateway] ++
        eliminationSuffix data, [], fun references referenceId found => ?_⟩
      simp only [getUnifiedKey, isEnabled, if_true, keyFor_mapEntries found]
  | srV2Key =>
      have isEnabled : data.isGriEnabledForSrRouting = true := enabled
      refine ⟨[getUnifiedSrKey configs data false enforce1d], [],
        fun references referenceId found => ?_⟩
      simp only [getUnifiedKey, isEnabled, if_true, keyFor_mapEntries found]
      rfl
  | srV3Key =>
      have isEnabled : data.isGriEnabledForSrRouting = true := enabled
      refine ⟨[getUnifiedSrKey configs data true enforce1d], [gateway],
        fun references referenceId found => ?_⟩
      simp only [getUnifiedKey, isEnabled, if_true, keyFor_mapEntries found]
      rfl
  | eliminationGlobalKey => cases enabled
  | outageGlobalKey => cases enabled
  | outageMerchantKey => cases enabled

/-- With one gateway the first key is the key for the gateway. -/
theorem head_getUnifiedKey_singleton (configs : ServiceConfigs) (data : GatewayScoringData)
    (scoreKeyType : ScoreKeyType) (enforce1d : Bool) (gateway : Gateway)
    (referenceId : Option String) :
    ((getUnifiedKey configs data scoreKeyType enforce1d
      (AList.singleton gateway referenceId)).entries.head?.map Sigma.snd) =
        keyFor (getUnifiedKey configs data scoreKeyType enforce1d
          (AList.singleton gateway referenceId)) gateway := by
  have sole : ∀ key, ((AList.singleton gateway key : GatewayRedisKeyMap).entries.head?.map
      Sigma.snd) = keyFor (AList.singleton gateway key) gateway := by
    intro key
    rw [keyFor, lookup_singleton]
    rfl
  have shared : ∀ key, ((sharedKey key).entries.head?.map Sigma.snd) =
      keyFor (sharedKey key) gateway := by
    intro key
    rw [keyFor, sharedKey, lookup_singleton]
    by_cases isEmpty : gateway = ""
    · rw [isEmpty, lookup_singleton]
      rfl
    · have notFound : (AList.singleton "" key : GatewayRedisKeyMap).lookup gateway = none :=
        AList.lookup_eq_none.mpr (by simpa [AList.mem_keys] using isEmpty)
      rw [notFound]
      rfl
  cases scoreKeyType with
  | eliminationGlobalKey => exact sole _
  | eliminationMerchantKey => exact sole _
  | srV2Key =>
      simp only [getUnifiedKey]
      split
      · exact sole _
      · exact shared _
  | srV3Key => exact sole _
  | outageGlobalKey => exact shared _
  | outageMerchantKey => exact shared _

/-! ## Agreement -/

/-- The key under which the decider reads the score of a gateway. -/
def consumerKey (configs : ServiceConfigs) (data : GatewayScoringData)
    (scoreKeyType : ScoreKeyType) (enforce1d : Bool) (gatewayList : List Gateway)
    (referenceId : Gateway → Option String) (gateway : Gateway) : Option RedisKey :=
  keyFor (getConsumerKey configs data scoreKeyType enforce1d gatewayList referenceId) gateway

variable {gatewayList : List Gateway}

theorem lookup_gwRefIdMap (data : GatewayScoringData) (referenceId : Gateway → Option String)
    (listed : gateway ∈ gatewayList) :
    (gwRefIdMap data gatewayList referenceId).lookup gateway =
      some (if data.isGriEnabledForElimination || data.isGriEnabledForSrRouting then
        some ((getGatewayReferenceId (referenceId gateway)).getD "NULL") else none) := by
  unfold gwRefIdMap
  split
  · rw [lookup_insertKeys, if_pos listed]
  · rw [lookup_insertKeys, if_pos listed]

theorem gri_of_isGriEnabled (enabled : isGriEnabled data scoreKeyType = true) :
    (data.isGriEnabledForElimination || data.isGriEnabledForSrRouting) = true := by
  cases scoreKeyType <;> simp_all [isGriEnabled]

/-- The feedback makes the choice of the key builder. -/
theorem getProducerKey_eq (configs : ServiceConfigs) (data : GatewayScoringData)
    (scoreKeyType : ScoreKeyType) (enforce1d : Bool) (gateway : Gateway)
    (referenceId : Option String) :
    getProducerKey configs (some gateway) (some data) scoreKeyType enforce1d referenceId =
      keyFor (getUnifiedKey configs data scoreKeyType enforce1d (AList.singleton gateway
        (if isGriEnabled data scoreKeyType then some (referenceId.getD "NULL") else none)))
          gateway := by
  rw [← head_getUnifiedKey_singleton]
  cases scoreKeyType with
  | eliminationGlobalKey => rfl
  | eliminationMerchantKey =>
      cases enabled : data.isGriEnabledForElimination <;>
        simp [getProducerKey, isGriEnabled, enabled]
  | srV2Key =>
      cases enabled : data.isGriEnabledForSrRouting <;>
        simp [getProducerKey, isGriEnabled, enabled]
  | srV3Key =>
      cases enabled : data.isGriEnabledForSrRouting <;>
        simp [getProducerKey, isGriEnabled, enabled]
  | outageGlobalKey => rfl
  | outageMerchantKey => rfl

theorem getGatewayReferenceId_of_ne_empty {metaRes : Option String}
    (nonempty : metaRes ≠ some "") : getGatewayReferenceId metaRes = metaRes := by
  cases metaRes with
  | none => rfl
  | some id => exact Option.filter_eq_some_iff.mpr ⟨rfl, by simpa using nonempty⟩

/-- The feedback writes the key that the decider reads, unless it has an empty reference id
to put into it. -/
theorem getProducerKey_eq_consumerKey (configs : ServiceConfigs) (data : GatewayScoringData)
    (scoreKeyType : ScoreKeyType) (enforce1d : Bool) (referenceId : Gateway → Option String)
    (listed : gateway ∈ gatewayList)
    (nonempty : isGriEnabled data scoreKeyType = true → referenceId gateway ≠ some "") :
    getProducerKey configs (some gateway) (some data) scoreKeyType enforce1d
        (referenceId gateway) =
      consumerKey configs data scoreKeyType enforce1d gatewayList referenceId gateway := by
  rw [getProducerKey_eq, consumerKey, getConsumerKey]
  apply keyFor_getUnifiedKey_congr configs enforce1d (lookup_singleton _ _)
    (lookup_gwRefIdMap data referenceId listed)
  intro enabled
  rw [if_pos enabled, if_pos (gri_of_isGriEnabled enabled),
    getGatewayReferenceId_of_ne_empty (nonempty enabled)]

/-- The keys that the three paths have for a gateway. -/
structure KeysAgree (configs : ServiceConfigs) (data : GatewayScoringData)
    (scoreKeyType : ScoreKeyType) (gatewayList : List Gateway)
    (referenceId : Gateway → Option String) (gateway : Gateway) : Prop where
  producer : ∀ enforce1d,
    getProducerKey configs (some gateway) (some data) scoreKeyType enforce1d
        (referenceId gateway) =
      consumerKey configs data scoreKeyType enforce1d gatewayList referenceId gateway
  snapshot : scoreKeyType = .srV3Key → ∀ key,
    snapshotKey configs (some gateway) data (referenceId gateway) = some key →
      consumerKey configs data scoreKeyType false gatewayList referenceId gateway = some key

/-- Two paths put different placeholders: for an empty reference id the decider and the
feedback, and for a missing one the decider and the snapshot. -/
def isMisreported (data : GatewayScoringData) (scoreKeyType : ScoreKeyType)
    (gateway : Gateway) (referenceId : Option String) : Bool :=
  isGriEnabled data scoreKeyType &&
    (referenceId = some "" ||
      (scoreKeyType = .srV3Key && !gateway.isEmpty && referenceId.isNone))

/-- The two placeholders for a missing reference id give different keys. -/
theorem placeholders_differ (before after : List String) :
    intercalateWithoutEmptyString "_" (before ++ "NULL" :: after) ≠
      intercalateWithoutEmptyString "_" (before ++ "" :: after) := by
  intro same
  have joined : join (String.singleton '_') ((before ++ "NULL" :: after).map _) =
      join (String.singleton '_') ((before ++ "" :: after).map _) := same
  have samePieces := (join_eq_join_iff (by simp) (by simp)).mp joined
  rw [List.map_append, List.map_append, List.flatMap_append, List.flatMap_append,
    List.append_cancel_left_eq, List.map_cons, List.map_cons, List.flatMap_cons,
    List.flatMap_cons, List.append_cancel_right_eq] at samePieces
  exact absurd samePieces (by decide)

section Snapshot

variable {configs : ServiceConfigs} {data : GatewayScoringData} {gatewayList : List Gateway}
  {referenceId : Gateway → Option String} {gateway : Gateway}

theorem snapshotKey_eq_keyFor (named : gateway.isEmpty = false) :
    snapshotKey configs (some gateway) data (referenceId gateway) =
      keyFor (getUnifiedKey configs data .srV3Key false
        (AList.singleton gateway (referenceId gateway))) gateway := by
  have own : keyFor (getUnifiedKey configs data .srV3Key false
      (AList.singleton gateway (referenceId gateway))) gateway =
      (getUnifiedKey configs data .srV3Key false
        (AList.singleton gateway (referenceId gateway))).lookup gateway := by
    rw [getUnifiedKey, keyFor, mapEntries_singleton, lookup_singleton]
    rfl
  rw [own, snapshotKey]
  simp only [Option.getD_some, named, Bool.false_eq_true, if_false]

/-- An empty reference id is in the key that the feedback writes, and not in the one that the
decider reads. -/
theorem getProducerKey_ne_consumerKey {scoreKeyType : ScoreKeyType} (enforce1d : Bool)
    (listed : gateway ∈ gatewayList) (enabled : isGriEnabled data scoreKeyType = true)
    (isEmpty : referenceId gateway = some "") :
    getProducerKey configs (some gateway) (some data) scoreKeyType enforce1d
        (referenceId gateway) ≠
      consumerKey configs data scoreKeyType enforce1d gatewayList referenceId gateway := by
  have found := lookup_gwRefIdMap data referenceId listed
  rw [if_pos (gri_of_isGriEnabled enabled), isEmpty] at found
  rcases exists_keyFor_eq configs enforce1d gateway enabled with ⟨before, after, isKey⟩
  rw [getProducerKey_eq, consumerKey, getConsumerKey, if_pos enabled, isEmpty,
    isKey _ _ (lookup_singleton _ _), isKey _ _ found]
  intro same
  exact placeholders_differ before after (Option.some.inj same).symm

/-- The snapshot reports another key when the reference id is missing where
reference ids are enabled. -/
theorem snapshotKey_ne_consumerKey (listed : gateway ∈ gatewayList)
    (named : gateway.isEmpty = false) (enabled : data.isGriEnabledForSrRouting = true)
    (missing : referenceId gateway = none) :
    snapshotKey configs (some gateway) data (referenceId gateway) ≠
      consumerKey configs data .srV3Key false gatewayList referenceId gateway := by
  have found := lookup_gwRefIdMap data referenceId listed
  rw [if_pos (by simp [enabled]), missing] at found
  have isEnabled : isGriEnabled data .srV3Key = true := enabled
  rcases exists_keyFor_eq configs false gateway isEnabled with ⟨before, after, isKey⟩
  rw [snapshotKey_eq_keyFor named, consumerKey, getConsumerKey, missing,
    isKey _ _ (lookup_singleton _ _), isKey _ _ found]
  intro same
  exact placeholders_differ before after (Option.some.inj same).symm

/-- Elsewhere it reports the key that the decider reads. -/
theorem snapshotKey_eq_consumerKey (listed : gateway ∈ gatewayList)
    (named : gateway.isEmpty = false)
    (present : data.isGriEnabledForSrRouting = false ∨
      referenceId gateway ≠ none ∧ referenceId gateway ≠ some "") :
    snapshotKey configs (some gateway) data (referenceId gateway) =
      consumerKey configs data .srV3Key false gatewayList referenceId gateway := by
  rw [snapshotKey_eq_keyFor named, consumerKey, getConsumerKey]
  apply keyFor_getUnifiedKey_congr configs false (lookup_singleton _ _)
    (lookup_gwRefIdMap data referenceId listed)
  intro enabled
  rw [if_pos (gri_of_isGriEnabled enabled)]
  rcases present with disabled | found
  · rw [isGriEnabled, disabled] at enabled
    cases enabled
  · rcases Option.ne_none_iff_exists'.mp found.1 with ⟨id, isId⟩
    rw [getGatewayReferenceId_of_ne_empty found.2, isId]
    rfl

/-- The three paths agree exactly when none of them has to put a placeholder of its own for
a missing or an empty reference id. -/
theorem keysAgree_iff (scoreKeyType : ScoreKeyType) (listed : gateway ∈ gatewayList) :
    KeysAgree configs data scoreKeyType gatewayList referenceId gateway ↔
      isMisreported data scoreKeyType gateway (referenceId gateway) = false := by
  constructor
  · intro agree
    by_contra misreported
    simp only [isMisreported, Bool.not_eq_false, Bool.and_eq_true, Bool.or_eq_true,
      decide_eq_true_eq, Bool.not_eq_true', Option.isNone_iff_eq_none] at misreported
    rcases misreported with ⟨enabled, isEmpty | ⟨⟨isSrV3, named⟩, missing⟩⟩
    · exact getProducerKey_ne_consumerKey false listed enabled isEmpty (agree.producer false)
    · subst isSrV3
      apply snapshotKey_ne_consumerKey listed named enabled missing
      have reports : (snapshotKey configs (some gateway) data (referenceId gateway)).isSome := by
        rw [snapshotKey_eq_keyFor named, getUnifiedKey,
          keyFor_mapEntries (lookup_singleton gateway _)]
        rfl
      rcases Option.isSome_iff_exists.mp reports with ⟨key, isKey⟩
      rw [isKey, ← agree.snapshot rfl key isKey]
  · intro reported
    have nonempty : isGriEnabled data scoreKeyType = true → referenceId gateway ≠ some "" := by
      intro enabled isEmpty
      simp [isMisreported, enabled, isEmpty] at reported
    constructor
    · intro enforce1d
      exact getProducerKey_eq_consumerKey configs data scoreKeyType enforce1d referenceId listed
        nonempty
    · intro isSrV3 key isKey
      subst isSrV3
      have named : gateway.isEmpty = false := by
        by_contra unnamed
        rw [Bool.not_eq_false] at unnamed
        simp [snapshotKey, unnamed] at isKey
      have present : data.isGriEnabledForSrRouting = false ∨
          referenceId gateway ≠ none ∧ referenceId gateway ≠ some "" := by
        refine or_iff_not_imp_left.mpr fun disabled => ?_
        have enabled : data.isGriEnabledForSrRouting = true := by simpa using disabled
        refine ⟨fun missing => ?_, nonempty enabled⟩
        simp [isMisreported, isGriEnabled, enabled, named, missing] at reported
      rw [← snapshotKey_eq_consumerKey listed named present]
      exact isKey

end Snapshot

/-- No service configuration is set. -/
def noConfigs : ServiceConfigs :=
  ⟨fun _ => none, none, none, none⟩

/-- A card payment with reference ids in the success-rate keys. -/
def cardData : GatewayScoringData :=
  { cardOrder with isGriEnabledForSrRouting := true }

theorem keysAgree_iff_stripe :
    KeysAgree noConfigs cardData .srV3Key ["STRIPE", "ADYEN"] (fun _ => some "mga_1") "STRIPE" ↔
      isMisreported cardData .srV3Key "STRIPE" (some "mga_1") = false :=
  keysAgree_iff .srV3Key List.mem_cons_self

/-- Without a reference id the decider reads and the feedback writes one key, and
the snapshot reports another one. -/
theorem not_keysAgree_missing_reference :
    consumerKey noConfigs cardData .srV3Key false ["STRIPE"] (fun _ => none) "STRIPE" =
        some "\x7bgw_sr_v3_score_m_ORDER_PAYMENT_CARD_VISA_NULL_STRIPE" ∧
      getProducerKey noConfigs (some "STRIPE") (some cardData) .srV3Key false none =
        some "\x7bgw_sr_v3_score_m_ORDER_PAYMENT_CARD_VISA_NULL_STRIPE" ∧
      snapshotKey noConfigs (some "STRIPE") cardData none =
        some "\x7bgw_sr_v3_score_m_ORDER_PAYMENT_CARD_VISA_UNKNOWN_STRIPE" ∧
      ¬KeysAgree noConfigs cardData .srV3Key ["STRIPE"] (fun _ => none) "STRIPE" := by
  have reads : consumerKey noConfigs cardData .srV3Key false ["STRIPE"] (fun _ => none)
      "STRIPE" = some "\x7bgw_sr_v3_score_m_ORDER_PAYMENT_CARD_VISA_NULL_STRIPE" := by decide
  have reports : snapshotKey noConfigs (some "STRIPE") cardData none =
      some "\x7bgw_sr_v3_score_m_ORDER_PAYMENT_CARD_VISA_UNKNOWN_STRIPE" := by decide
  refine ⟨reads, by decide, reports, fun agree => ?_⟩
  have same := agree.snapshot rfl _ reports
  rw [reads] at same
  exact absurd same (by decide)

end DecisionEngine.Scoring
