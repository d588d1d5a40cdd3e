import DecisionEngine.Feedback.MovingWindow
import DecisionEngine.Number.Machine
import DecisionEngine.Scoring.ScoreKeys

/-!
# Elimination scores

The score record of a gateway under one key, how the feedback of a payment updates it,
and how the decider resets it.  Both read the record, compute a new one and write that
back.  A key for all merchants holds a score for each merchant instead of one score.
-/

namespace DecisionEngine.Feedback

open Number Scoring

section EliminationScore

/-! ## The record -/

structure MerchantScoringDetails (F : Type) where
  merchantId : String
  transactionCount : Int
  score : F
  lastResetTimestamp : Int

structure CachedGatewayScore (F : Type) where
  merchants : Option (List (MerchantScoringDetails F))
  score : Option F
  timestamp : Nat
  lastResetTimestamp : Option Nat
  transactionCount : Option Int

def isGlobalKey (scoreKeyType : ScoreKeyType) : Bool :=
  scoreKeyType = .eliminationGlobalKey || scoreKeyType = .outageGlobalKey

def isKeyOutage (scoreKeyType : ScoreKeyType) : Bool :=
  scoreKeyType = .outageGlobalKey || scoreKeyType = .outageMerchantKey

/-- Subtraction of unsigned numbers of 128 bits, which wraps around. -/
def subU128 (left right : Nat) : Nat :=
  (left + 2 ^ 128 - right) % 2 ^ 128

/-- The low 32 bits as a signed number. -/
def truncateToI32 (value : Int) : Int :=
  value.bmod (2 ^ 32)

/-- The signed numbers of 32 bits. -/
abbrev I32 : Type := { value : Int // -2 ^ 31 ≤ value ∧ value < 2 ^ 31 }

theorem truncateToI32_of_lt {value : Nat} (small : (value : Int) < 2 ^ 31) :
    truncateToI32 value = value := by
  rw [truncateToI32, Int.bmod_def]
  omega

/-! ## Constants -/

def defaultScoreKeysTTL : Nat := 9000000

def defaultScoreGlobalKeysTTL : Nat := 1800000

def defaultMerchantArrMaxLength : I32 := ⟨40, by decide⟩

section Factors

variable {F : Type} [MachineNumber F]

def defaultGWScoringRewardFactor : F := ofRat 5.26

def defaultGWScoringPenaltyFactor : F := ofRat 5

def defaultMinimumGatewayScore : F := ofRat 0

end Factors

/-! ## Feedback -/

/-- The configurations that an update reads. -/
structure ScoreUpdateReads (F : Type) where
  enableEliminationV2 : Bool
  enableOutageV2 : Bool
  /-- The factor of the second version, where its rates are known. -/
  eliminationV2RewardFactor : Option F
  gatewayPenaltyFactor : Option F
  outagePenaltyFactor : Option F
  outageRewardFactor : Option F
  minimumGatewayScore : Option F
  merchantArrMaxLength : Option I32
  /-- The time to live that is configured for the type of the key, in milliseconds. -/
  keyTtl : Option Nat

/-- The feedback of one payment for one key, with the times at which it looks at the clock. -/
structure FeedbackUpdate (F : Type) where
  scoreKeyType : ScoreKeyType
  gatewayScoringType : GatewayScoringType
  merchantId : String
  timestamp : Nat
  creationTimestamp : Nat
  detailsTimestamp : Nat
  reads : ScoreUpdateReads F

variable {F : Type}

def getTTLForKey (reads : ScoreUpdateReads F) (scoreKeyType : ScoreKeyType) : Nat :=
  reads.keyTtl.getD
    (if isGlobalKey scoreKeyType then defaultScoreGlobalKeysTTL else defaultScoreKeysTTL)

def getMerchantArrMaxLength (reads : ScoreUpdateReads F) : I32 :=
  reads.merchantArrMaxLength.getD defaultMerchantArrMaxLength

def getTransactionCount (previousTransactionCount : Option Int) (scoreKeyType : ScoreKeyType)
    (gatewayScoringType : GatewayScoringType) : Option Int :=
  if isGlobalKey scoreKeyType then none
  else
    match previousTransactionCount with
    | none => some 1
    | some transactionCount =>
        if gatewayScoringType = .penalise then some (transactionCount + 1)
        else some transactionCount

section Scores

variable [MachineNumber F]

def getSuccessKeyScore (useEliminationV2 : Bool) (currentScore rewardFactor : F) : F :=
  let score :=
    if useEliminationV2 then currentScore + rewardFactor
    else currentScore + currentScore * (rewardFactor / ofRat 100)
  if gt score (ofRat 1) then ofRat 1 else score

variable (reads : ScoreUpdateReads F)

def getFailureKeyScore (useEliminationV2 : Bool) (currentScore penaltyFactor : F) : F :=
  let minimumFailureScore := reads.minimumGatewayScore.getD defaultMinimumGatewayScore
  let score :=
    if useEliminationV2 then currentScore * penaltyFactor
    else currentScore - currentScore * (penaltyFactor / ofRat 100)
  if lt score minimumFailureScore then minimumFailureScore else score

def getPenaltyFactor (scoreKeyType : ScoreKeyType) : F :=
  if isKeyOutage scoreKeyType then
    reads.outagePenaltyFactor.getD defaultGWScoringPenaltyFactor
  else reads.gatewayPenaltyFactor.getD defaultGWScoringPenaltyFactor

/-- The reward factor of the outages is used for every key. -/
def getRewardFactor (scoreKeyType : ScoreKeyType) : F :=
  if isKeyOutage scoreKeyType then
    reads.outageRewardFactor.getD defaultGWScoringRewardFactor
  else reads.outageRewardFactor.getD defaultGWScoringRewardFactor

def updateScoreWithPenalty (scoreKeyType : ScoreKeyType) (currentKeyScore : F) : F :=
  match reads.enableEliminationV2, isKeyOutage scoreKeyType, reads.enableOutageV2 with
  | true, _, _ =>
      match reads.eliminationV2RewardFactor with
      | none =>
          getFailureKeyScore reads false currentKeyScore (getPenaltyFactor reads scoreKeyType)
      | some factor => getFailureKeyScore reads true currentKeyScore (ofRat 1 - factor)
  | _, _, _ =>
      getFailureKeyScore reads false currentKeyScore (getPenaltyFactor reads scoreKeyType)

def updateScoreWithReward (scoreKeyType : ScoreKeyType) (currentKeyScore : F) : F :=
  match reads.enableEliminationV2, isKeyOutage scoreKeyType, reads.enableOutageV2 with
  | true, _, _ =>
      match reads.eliminationV2RewardFactor with
      | none => getSuccessKeyScore false currentKeyScore (getRewardFactor reads scoreKeyType)
      | some factor => getSuccessKeyScore true currentKeyScore factor
  | _, _, _ => getSuccessKeyScore false currentKeyScore (getRewardFactor reads scoreKeyType)

variable (update : FeedbackUpdate F)

def updateKeyScoreForTxnStatus (currentKeyScore : F) : F :=
  match update.gatewayScoringType with
  | .penalise => updateScoreWithPenalty update.reads update.scoreKeyType currentKeyScore
  | .reward => updateScoreWithReward update.reads update.scoreKeyType currentKeyScore
  | .penaliseSrv3 => currentKeyScore

def getDefaultMerchantScoringDetailsArray (score : F) (transactionCount : Int) :
    MerchantScoringDetails F where
  merchantId := update.merchantId
  transactionCount := transactionCount
  score := score
  lastResetTimestamp := truncateToI32 update.detailsTimestamp

def getNewCachedGatewayScore (update : FeedbackUpdate F) : CachedGatewayScore F :=
  if isGlobalKey update.scoreKeyType then
    { merchants := some [getDefaultMerchantScoringDetailsArray update (ofRat 1) 0]
      score := none
      timestamp := update.creationTimestamp
      lastResetTimestamp := none
      transactionCount := none }
  else
    { merchants := none
      score := some (ofRat 1)
      timestamp := update.creationTimestamp
      lastResetTimestamp := some update.creationTimestamp
      transactionCount := some 0 }

def replaceTransactionCount (details : MerchantScoringDetails F) :
    MerchantScoringDetails F :=
  if details.merchantId = update.merchantId then
    { details with
      score := updateKeyScoreForTxnStatus update details.score
      transactionCount :=
        if update.gatewayScoringType = .penalise then details.transactionCount + 1
        else details.transactionCount }
  else details

def findMerchantFromMerchantArray (merchantId : String)
    (merchants : List (MerchantScoringDetails F)) : List (MerchantScoringDetails F) :=
  merchants.filter fun details => details.merchantId == merchantId

/-- A merchant that is not in the list yet enters it with a score of its own, and the
list is full at its greatest length. -/
def getUpdatedMerchantDetailsForGlobalKey (cached : CachedGatewayScore F) :
    Option (List (MerchantScoringDetails F)) :=
  if isGlobalKey update.scoreKeyType then
    match cached.merchants with
    | some merchants =>
        if (findMerchantFromMerchantArray update.merchantId merchants).isEmpty then
          if (getMerchantArrMaxLength update.reads).val ≤ truncateToI32 merchants.length then
            some merchants
          else
            some (merchants ++ [getDefaultMerchantScoringDetailsArray update (ofRat 1) 1])
        else some (merchants.map (replaceTransactionCount update))
    | none => some [getDefaultMerchantScoringDetailsArray update (ofRat 1) 1]
  else none

/-- The record has outlived the time to live of its key. -/
def hasPersistedLongerThanHardTtl (cached : CachedGatewayScore F) :
    Bool :=
  subU128 (getTTLForKey update.reads update.scoreKeyType) 1000 <
    subU128 update.timestamp cached.timestamp

def gwScoreToBeUpdated (cached : Option (CachedGatewayScore F)) :
    CachedGatewayScore F :=
  match cached with
  | none => getNewCachedGatewayScore update
  | some cached =>
      if hasPersistedLongerThanHardTtl update cached then getNewCachedGatewayScore update
      else cached

/-- The record that the feedback writes back. -/
def updateKeyScoreForKeysFromConsumer (cached : Option (CachedGatewayScore F)) :
    CachedGatewayScore F :=
  let toBeUpdated := gwScoreToBeUpdated update cached
  { merchants := getUpdatedMerchantDetailsForGlobalKey update toBeUpdated
    score := toBeUpdated.score.map (updateKeyScoreForTxnStatus update)
    timestamp := toBeUpdated.timestamp
    lastResetTimestamp := toBeUpdated.lastResetTimestamp
    transactionCount :=
      getTransactionCount toBeUpdated.transactionCount update.scoreKeyType
        update.gatewayScoringType }

/-! ## Reset by the decider -/

/-- What the decider reads of the record. -/
structure EliminationGatewayScore (F : Type) where
  timestamp : Nat
  score : F
  transactionCount : Int
  lastResetTimestamp : Nat

/-- The reset of one key, with the time at which it looks at the clock. -/
structure ResetGatewayInput (F : Type) where
  eliminationThreshold : Option F
  eliminationMaxCount : Option Int
  penaltyFactor : F
  softTtl : Nat
  currentTimestamp : Nat
  /-- The power of the standard library. -/
  powf : F → F → F

/-- The record is only read when nothing is missing in it. -/
def getMerchantEliminationGatewayScore (cached : Option (CachedGatewayScore F)) :
    Option (EliminationGatewayScore F) :=
  match cached with
  | some ⟨_, some score, timestamp, some lastResetTimestamp, some transactionCount⟩ =>
      some ⟨timestamp, score, transactionCount, lastResetTimestamp⟩
  | _ => none

variable (input : ResetGatewayInput F)

/-- Whether the score may be reset; `none` when the program stops, because the soft time
to live reaches back before the start of the clock. -/
def isResetEligible (threshold : F) (score : EliminationGatewayScore F) : Option Bool :=
  if lt score.score threshold then
    if subU128 input.currentTimestamp input.softTtl < 2 ^ 63 then
      some (score.lastResetTimestamp < subU128 input.currentTimestamp input.softTtl)
    else none
  else some false

def getResetScore (minThreshold penaltyFactor : F) (maxAllowedFailures : Int) : F :=
  let reductionFactor := ofRat 1 - penaltyFactor / ofRat 100
  let power : F := ofInt (maxAllowedFailures - 1)
  let denominator := input.powf reductionFactor power
  min (minThreshold / denominator) (ofRat 1)

/-- A record with one score, as it is written. -/
def EliminationGatewayScore.toCached (score : EliminationGatewayScore F) :
    CachedGatewayScore F where
  merchants := none
  score := some score.score
  timestamp := score.timestamp
  lastResetTimestamp := some score.lastResetTimestamp
  transactionCount := some score.transactionCount

/-- The record that the reset writes back: also when it resets nothing, and a new one when
there was none.  Nothing is written without a threshold and a count. -/
def resetGatewayScore (cached : Option (CachedGatewayScore F)) :
    Option (CachedGatewayScore F) :=
  match input.eliminationThreshold, input.eliminationMaxCount with
  | some threshold, some maxCount =>
      match getMerchantEliminationGatewayScore cached with
      | some score =>
          (isResetEligible input threshold score).map fun eligible =>
            if eligible then
              EliminationGatewayScore.toCached
                { timestamp := score.timestamp
                  score :=
                    getResetScore input threshold input.penaltyFactor (truncateToI32 maxCount)
                  transactionCount := score.transactionCount
                  lastResetTimestamp := input.currentTimestamp }
            else score.toCached
      | none =>
          some (EliminationGatewayScore.toCached
            { timestamp := input.currentTimestamp
              score := ofRat 1
              transactionCount := 0
              lastResetTimestamp := input.currentTimestamp })
  | _, _ => none

end Scores

/-- No configuration is set. -/
def noUpdateReads {F : Type} : ScoreUpdateReads F where
  enableEliminationV2 := false
  enableOutageV2 := false
  eliminationV2RewardFactor := none
  gatewayPenaltyFactor := none
  outagePenaltyFactor := none
  outageRewardFactor := none
  minimumGatewayScore := none
  merchantArrMaxLength := none
  keyTtl := none

end EliminationScore

/-! ## Expiry of elimination scores

The feedback of a payment discards a record whose age exceeds the time to live of its key,
less a margin of one second.  The age and the limit are differences of unsigned numbers, and
the record may have been written by a clock that is ahead.
-/

/-! ## Differences of unsigned numbers -/

/-- The difference is the one of the integers. -/
def ExactSub (left right : Nat) : Prop :=
  (subU128 left right : Int) = left - right

theorem subU128_of_le {left right : Nat} (small : left < 2 ^ 128) (ordered : right ≤ left) :
    subU128 left right = left - right := by
  rw [subU128, Nat.add_comm, Nat.add_sub_assoc ordered, Nat.add_mod_left]
  exact Nat.mod_eq_of_lt (lt_of_le_of_lt (Nat.sub_le left right) small)

theorem exactSub_iff {left right : Nat} (small : left < 2 ^ 128) :
    ExactSub left right ↔ right ≤ left := by
  constructor
  · intro exact
    have nonneg : (0 : Int) ≤ subU128 left right := Int.natCast_nonneg _
    rw [ExactSub] at exact
    omega
  · intro ordered
    rw [ExactSub, subU128_of_le small ordered]
    omega

/-! ## The records that are kept -/

section Expiry

variable {F : Type} [MachineNumber F]

/-- Neither difference wraps around, and a record is discarded only when its age exceeds the
time to live less the margin. -/
structure ExpiresSafely (update : FeedbackUpdate F) (cached : CachedGatewayScore F) : Prop where
  age : ExactSub update.timestamp cached.timestamp
  limit : ExactSub (getTTLForKey update.reads update.scoreKeyType) 1000
  discarded : gwScoreToBeUpdated update (some cached) ≠ cached →
    (getTTLForKey update.reads update.scoreKeyType : Int) - 1000 <
      update.timestamp - cached.timestamp

theorem hasPersisted_of_discarded {update : FeedbackUpdate F} {cached : CachedGatewayScore F}
    (discarded : gwScoreToBeUpdated update (some cached) ≠ cached) :
    subU128 (getTTLForKey update.reads update.scoreKeyType) 1000 <
      subU128 update.timestamp cached.timestamp := by
  by_contra notLonger
  apply discarded
  rw [gwScoreToBeUpdated, hasPersistedLongerThanHardTtl, decide_eq_false notLonger]
  rfl

/-- A record expires safely when it is not from the future and the time to live is not shorter
than the margin. -/
theorem expiresSafely_iff {update : FeedbackUpdate F} {cached : CachedGatewayScore F}
    (now : update.timestamp < 2 ^ 128)
    (ttl : getTTLForKey update.reads update.scoreKeyType < 2 ^ 128) :
    ExpiresSafely update cached ↔
      cached.timestamp ≤ update.timestamp ∧
        1000 ≤ getTTLForKey update.reads update.scoreKeyType := by
  constructor
  · intro safe
    exact ⟨(exactSub_iff now).mp safe.age, (exactSub_iff ttl).mp safe.limit⟩
  · rintro ⟨notLater, notShort⟩
    have age := (exactSub_iff now).mpr notLater
    have limit := (exactSub_iff ttl).mpr notShort
    refine ⟨age, limit, ?_⟩
    intro discarded
    have longer := hasPersisted_of_discarded discarded
    rw [ExactSub] at age limit
    omega

end Expiry

/-! ## A clock that is behind -/

/-- A record of a host whose clock is ahead by a millisecond. -/
def aheadRecord : CachedGatewayScore ℚ where
  merchants := none
  score := some (1 / 2)
  timestamp := 1001
  lastResetTimestamp := some 1001
  transactionCount := some 5

/-- A failure of a payment at the clock of another host. -/
def behindUpdate (timestamp : Nat) : FeedbackUpdate ℚ where
  scoreKeyType := .eliminationMerchantKey
  gatewayScoringType := .penalise
  merchantId := "merchant"
  timestamp := timestamp
  creationTimestamp := timestamp
  detailsTimestamp := timestamp
  reads := noUpdateReads

/-- The age of a record from the future is taken for a long one, and the score starts anew. -/
theorem expiresSafely_counterexample :
    ¬ExpiresSafely (behindUpdate 1000) aheadRecord ∧
      (gwScoreToBeUpdated (behindUpdate 1000) (some aheadRecord)).score = some 1 := by
  constructor
  · intro safe
    have notLater := (exactSub_iff (by decide)).mp safe.age
    exact absurd notLater (by decide)
  · decide +kernel

theorem expiresSafely_sameClock : ExpiresSafely (behindUpdate 1001) aheadRecord :=
  (expiresSafely_iff (by decide) (by decide)).mpr ⟨le_refl _, by decide⟩

end DecisionEngine.Feedback
