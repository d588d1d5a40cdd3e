import DecisionEngine.Scoring.FunctionalGateways

/-!
# Agreement of the bucket sizes

The decider resolves the bucket size of a payment, and the feedback resolves it again
for the payment that it rebuilds from the stored data.
-/

namespace DecisionEngine.Scoring

open Map Number Search

variable {F : Type}

/-! ## What settles a bucket size -/

/-- The configurations that give a bucket size and match. -/
def sizingConfigs (config : SrV3InputConfig F) (pmt pm : String)
    (dimensions : SrRoutingDimensions) : List (SrV3SubLevelInputConfig F) :=
  (config.subLevelInputConfig.getD []).filter fun sub =>
    isSrV3ConfigMatch sub (some pmt) (some pm) dimensions && sub.bucketSize.isSome

/-- The size that one input configuration gives: of the first of its most specific
matching sub-level configurations, or its default where none matches. -/
inductive LevelSize (config : Option (SrV3InputConfig F)) (pmt pm : String)
    (dimensions : SrRoutingDimensions) (size : Int) : Prop where
  | subLevel (input : SrV3InputConfig F) (sub : SrV3SubLevelInputConfig F)
      (given : config = some input)
      (mostSpecific : IsFirstBest configSpecificity (sizingConfigs input pmt pm dimensions) sub)
      (sized : sub.bucketSize = some size) (positive : 0 < size)
  | default (input : SrV3InputConfig F) (given : config = some input)
      (unmatched : sizingConfigs input pmt pm dimensions = [])
      (sized : input.defaultBucketSize = some size) (positive : 0 < size)

/-- The size for the dimensions: of the merchant, else of the service, else built in. -/
inductive SettledSize (merchant service : Option (SrV3InputConfig F)) (pmt pm : String)
    (dimensions : SrRoutingDimensions) (size : Int) : Prop where
  | merchant (sized : LevelSize merchant pmt pm dimensions size)
  | service (unsized : ∀ other, ¬ LevelSize merchant pmt pm dimensions other)
      (sized : LevelSize service pmt pm dimensions size)
  | builtIn (unsizedMerchant : ∀ other, ¬ LevelSize merchant pmt pm dimensions other)
      (unsizedService : ∀ other, ¬ LevelSize service pmt pm dimensions other)
      (isDefault : size = defaultSrV3BasedBucketSize)

section Search

variable {pmt pm : String} {dimensions : SrRoutingDimensions}

theorem getSrV3SubLevelInputConfig_eq (input : SrV3InputConfig F) :
    getSrV3SubLevelInputConfig input.subLevelInputConfig pmt pm dimensions
        (fun sub => sub.bucketSize.isSome && (true || !isAutopilotSourced sub)) =
      firstBest configSpecificity (sizingConfigs input pmt pm dimensions) := by
  simp only [getSrV3SubLevelInputConfig_eq_firstBest, sizingConfigs, Bool.true_or, Bool.and_true]

variable {config : Option (SrV3InputConfig F)}

/-- The resolution of one level computes its size. -/
theorem getSrV3BucketSize_eq_some_iff {size : Int} :
    getSrV3BucketSize config pmt pm dimensions true = some size ↔
      LevelSize config pmt pm dimensions size := by
  cases config with
  | none =>
      apply iff_of_false (by simp [getSrV3BucketSize, getSrV3Input])
      rintro (⟨_, _, ⟨⟩, _⟩ | ⟨_, ⟨⟩, _⟩)
  | some input =>
      have resolves : getSrV3BucketSize (some input) pmt pm dimensions true =
          (((firstBest configSpecificity (sizingConfigs input pmt pm dimensions)).bind
            (·.bucketSize)).or input.defaultBucketSize).filter fun size => decide (0 < size) := by
        rw [← getSrV3SubLevelInputConfig_eq]
        rfl
      rw [resolves, Option.filter_eq_some_iff, decide_eq_true_eq]
      cases found : firstBest configSpecificity (sizingConfigs input pmt pm dimensions) with
      | none =>
          have unmatched := firstBest_eq_none_iff.mp found
          constructor
          · rintro ⟨sized, positive⟩
            exact LevelSize.default input rfl unmatched sized positive
          · rintro (⟨_, sub, ⟨⟩, best, _, _⟩ | ⟨_, ⟨⟩, _, sized, positive⟩)
            · rw [unmatched] at best
              exact absurd best (not_isFirstBest_nil sub)
            · exact ⟨sized, positive⟩
      | some sub =>
          have best := firstBest_eq_some_iff.mp found
          rcases Option.isSome_iff_exists.mp
            (Bool.and_eq_true_iff.mp (List.mem_filter.mp best.mem).2).2 with ⟨own, isOwn⟩
          have sizedIff : ((some sub).bind fun sub : SrV3SubLevelInputConfig F =>
              sub.bucketSize).or input.defaultBucketSize = some own := by
            rw [Option.bind_some, isOwn, Option.some_or]
          rw [sizedIff, Option.some.injEq]
          constructor
          · rintro ⟨rfl, positive⟩
            exact LevelSize.subLevel input sub rfl best isOwn positive
          · rintro (⟨_, other, ⟨⟩, otherBest, sized, positive⟩ | ⟨_, ⟨⟩, unmatched, _, _⟩)
            · have same : other = sub := by
                rw [firstBest_eq_some_iff.mpr otherBest, Option.some.injEq] at found
                exact found
              rw [same, isOwn, Option.some.injEq] at sized
              exact ⟨sized, positive⟩
            · rw [firstBest_eq_none_iff.mpr unmatched] at found
              cases found

theorem getSrV3BucketSize_eq_none_iff :
    getSrV3BucketSize config pmt pm dimensions true = none ↔
      ∀ size, ¬ LevelSize config pmt pm dimensions size := by
  rw [Option.eq_none_iff_forall_ne_some]
  exact forall_congr' fun size => not_congr getSrV3BucketSize_eq_some_iff

/-- The resolution over the levels computes the settled size. -/
theorem settledSize_iff {merchant service : Option (SrV3InputConfig F)} {size : Int} :
    SettledSize merchant service pmt pm dimensions size ↔
      ((getSrV3BucketSize merchant pmt pm dimensions true).or
        (getSrV3BucketSize service pmt pm dimensions true)).getD defaultSrV3BasedBucketSize =
          size := by
  cases merchantSize : getSrV3BucketSize merchant pmt pm dimensions true with
  | some own =>
      have sizedMerchant := getSrV3BucketSize_eq_some_iff.mp merchantSize
      rw [Option.some_or, Option.getD_some]
      constructor
      · rintro (sized | ⟨unsized, _⟩ | ⟨unsized, _, _⟩)
        · rw [getSrV3BucketSize_eq_some_iff.mpr sized, Option.some.injEq] at merchantSize
          exact merchantSize.symm
        · exact absurd sizedMerchant (unsized own)
        · exact absurd sizedMerchant (unsized own)
      · rintro rfl
        exact SettledSize.merchant sizedMerchant
  | none =>
      have unsizedMerchant := getSrV3BucketSize_eq_none_iff.mp merchantSize
      rw [Option.none_or]
      cases serviceSize : getSrV3BucketSize service pmt pm dimensions true with
      | some own =>
          have sizedService := getSrV3BucketSize_eq_some_iff.mp serviceSize
          rw [Option.getD_some]
          constructor
          · rintro (sized | ⟨_, sized⟩ | ⟨_, unsized, _⟩)
            · exact absurd sized (unsizedMerchant size)
            · rw [getSrV3BucketSize_eq_some_iff.mpr sized, Option.some.injEq] at serviceSize
              exact serviceSize.symm
            · exact absurd sizedService (unsized own)
          · rintro rfl
            exact SettledSize.service unsizedMerchant sizedService
      | none =>
          have unsizedService := getSrV3BucketSize_eq_none_iff.mp serviceSize
          rw [Option.getD_none]
          constructor
          · rintro (sized | ⟨_, sized⟩ | ⟨_, _, isDefault⟩)
            · exact absurd sized (unsizedMerchant size)
            · exact absurd sized (unsizedService size)
            · exact isDefault.symm
          · intro isDefault
            exact SettledSize.builtIn unsizedMerchant unsizedService isDefault.symm

end Search

/-! ## The two resolutions -/

/-- The payment method that the configurations are searched with. -/
def Payment.routedMethod (payment : Payment) : String :=
  getPaymentMethod payment.txnCardInfo.paymentMethodType payment.txnCardInfo.paymentMethod
    (payment.txnDetail.sourceObject.getD "")

variable (reads : ScoringReads F)

/-- The bucket size that the decider resolves. -/
def decidedBucketSize (payment : Payment) : Int :=
  srV3BucketSize reads.srV3 payment.txnCardInfo.paymentMethodType payment.routedMethod
    payment.srRoutingDimensions (abUseAutopilot reads)

/-- The bucket size that the feedback resolves. -/
def getSrV3MerchantBucketSize (merchantConfig defaultConfig : Option (SrV3InputConfig F))
    (payment : Payment) : Int :=
  let pmt := payment.txnCardInfo.paymentMethodType
  let pm := getPaymentMethod pmt payment.txnCardInfo.paymentMethod
    (payment.txnDetail.sourceObject.getD "")
  match getSrV3BucketSize merchantConfig pmt pm payment.srRoutingDimensions true with
  | none =>
      (getSrV3BucketSize defaultConfig pmt pm payment.srRoutingDimensions true).getD
        defaultSrV3BasedBucketSize
  | some bucketSize => bucketSize

/-- The same reads with other input configurations. -/
def ScoringReads.withInputConfigs (merchantConfig defaultConfig : Option (SrV3InputConfig F)) :
    ScoringReads F :=
  { reads with
    srV3 := { reads.srV3 with
      merchantSrV3InputConfig := merchantConfig
      defaultSrV3InputConfig := defaultConfig } }

variable (dataReads : ScoringDataReads)

/-- The feedback rebuilds the payment and resolves the size that the decider resolved. -/
def BucketSizesAgree (reads : ScoringReads F) (payment : Payment) : Prop :=
  (paymentFromApiPayload payment.merchantId (getGatewayScoringData dataReads payment)).map
      (getSrV3MerchantBucketSize reads.srV3.merchantSrV3InputConfig
        reads.srV3.defaultSrV3InputConfig) =
    .ok (decidedBucketSize reads payment)

variable (payment : Payment)

/-- The size that the configurations settle for a payment. -/
def SettledFor (size : Int) : Prop :=
  SettledSize reads.srV3.merchantSrV3InputConfig reads.srV3.defaultSrV3InputConfig
    payment.txnCardInfo.paymentMethodType payment.routedMethod payment.srRoutingDimensions size

theorem settledFor_iff_decided {reads : ScoringReads F} (noOverride : reads.abTestSrOverride = none)
    {payment : Payment} {size : Int} :
    SettledFor reads payment size ↔ decidedBucketSize reads payment = size := by
  have honored : abUseAutopilot reads = true := by
    rw [abUseAutopilot, noOverride]
    rfl
  rw [SettledFor, settledSize_iff, decidedBucketSize, honored]
  rfl

theorem settledFor_iff_feedback {reads : ScoringReads F} {payment : Payment} {size : Int} :
    SettledFor reads payment size ↔
      getSrV3MerchantBucketSize reads.srV3.merchantSrV3InputConfig
        reads.srV3.defaultSrV3InputConfig payment = size := by
  rw [SettledFor, settledSize_iff, getSrV3MerchantBucketSize]
  simp only [Payment.routedMethod]
  cases getSrV3BucketSize reads.srV3.merchantSrV3InputConfig
      payment.txnCardInfo.paymentMethodType _ payment.srRoutingDimensions true <;> rfl

/-- The sizes agree when one size is settled for the payment and the rebuilt one. -/
theorem bucketSizesAgree_iff_settled {reads : ScoringReads F}
    (noOverride : reads.abTestSrOverride = none) (payment : Payment) :
    BucketSizesAgree dataReads reads payment ↔
      ∃ size, SettledFor reads payment size ∧
        SettledFor reads (rebuiltPayment dataReads payment) size := by
  rw [BucketSizesAgree, paymentFromApiPayload_getGatewayScoringData, Except.map,
    Except.ok.injEq]
  simp only [settledFor_iff_decided noOverride, exists_eq_left']
  constructor
  · intro same
    exact (settledFor_iff_decided noOverride).mp (settledFor_iff_feedback.mpr same)
  · intro same
    exact settledFor_iff_feedback.mp ((settledFor_iff_decided noOverride).mpr same)

/-! ## The dimensions that the stored data keep -/

/-- The payment comes back from the stored data with its dimensions. -/
structure KeepsDimensions (dataReads : ScoringDataReads) (payment : ReceivedPayment) : Prop where
  upperCase : dataReads.toUppercase payment.txnCardInfo.paymentMethodType =
    payment.txnCardInfo.paymentMethodType
  sourceObject : payment.txnCardInfo.paymentMethod = upi →
    payment.txnCardInfo.paymentMethodType = upi ∨
      payment.txnDetail.sourceObject.getD "" = upi
  noNetwork : payment.txnCardInfo.cardSwitchProvider = none
  noIsin : payment.txnCardInfo.cardIsin = none
  cardAuthType : payment.txnCardInfo.paymentMethodType = card →
    payment.authType = none ∨ payment.authType = some .threeDs ∨ payment.authType = some .otp

/-- The dimensions and the methods that the configurations are searched with. -/
def Payment.searchedWith (payment : Payment) : String × String × SrRoutingDimensions :=
  (payment.txnCardInfo.paymentMethodType, payment.routedMethod, payment.srRoutingDimensions)

theorem routedMethod_rebuiltPayment :
    (rebuiltPayment dataReads payment).routedMethod =
      if payment.txnCardInfo.paymentMethod == upi then payment.txnDetail.sourceObject.getD ""
      else payment.txnCardInfo.paymentMethod := by
  rw [← getGatewayScoringData_paymentMethod dataReads payment]
  simp only [Payment.routedMethod, getPaymentMethod, rebuiltPayment,
    getTxnCardInfoFromApiPayload, Option.getD_some]
  exact ite_self _

theorem srRoutingDimensions_rebuiltPayment :
    (rebuiltPayment dataReads payment).srRoutingDimensions =
      { payment.srRoutingDimensions with
        cardNetwork := none
        cardIsin := none
        authType := rebuiltAuthType payment } := by
  simp only [Payment.srRoutingDimensions, rebuiltPayment, getTxnCardInfoFromApiPayload,
    getGatewayScoringData_authType, rebuiltAuthType]

/-- The rebuilt payment is searched with the same dimensions exactly when they are kept. -/
theorem searchedWith_rebuiltPayment_iff (payment : ReceivedPayment) :
    (rebuiltPayment dataReads payment.toPayment).searchedWith = payment.searchedWith ↔
      KeepsDimensions dataReads payment := by
  have pmtIs : (rebuiltPayment dataReads payment.toPayment).txnCardInfo.paymentMethodType =
      dataReads.toUppercase payment.txnCardInfo.paymentMethodType :=
    getGatewayScoringData_paymentMethodType dataReads payment.toPayment
  have methodKept : (if payment.txnCardInfo.paymentMethod == upi then
        payment.txnDetail.sourceObject.getD "" else payment.txnCardInfo.paymentMethod) =
          payment.routedMethod ↔
      (payment.txnCardInfo.paymentMethod = upi →
        payment.txnCardInfo.paymentMethodType = upi ∨
          payment.txnDetail.sourceObject.getD "" = upi) := by
    rw [Payment.routedMethod, getPaymentMethod]
    by_cases isUpi : payment.txnCardInfo.paymentMethod = upi
    · by_cases typeIsUpi : payment.txnCardInfo.paymentMethodType = upi
      · simp [isUpi, typeIsUpi, upi]
      · rw [upi] at isUpi typeIsUpi
        simp [isUpi, typeIsUpi, upi]
    · have notUpi : payment.txnCardInfo.paymentMethod ≠ "UPI" := isUpi
      simp [notUpi, upi]
  rw [Payment.searchedWith, Payment.searchedWith, pmtIs, routedMethod_rebuiltPayment,
    srRoutingDimensions_rebuiltPayment, Prod.mk.injEq, Prod.mk.injEq, methodKept,
    Payment.srRoutingDimensions, SrRoutingDimensions.mk.injEq, rebuiltAuthType_eq_iff]
  constructor
  · rintro ⟨upperCase, sourceObject, network, isin, -, -, cardAuthType⟩
    exact ⟨upperCase, sourceObject, network.symm, isin.symm, cardAuthType⟩
  · intro kept
    exact ⟨kept.upperCase, kept.sourceObject, kept.noNetwork.symm, kept.noIsin.symm, rfl, rfl,
      kept.cardAuthType⟩

/-! ## Configurations that tell dimensions apart -/

/-- The sub-level configuration for exactly these dimensions. -/
def configFor (searched : String × String × SrRoutingDimensions) : SrV3SubLevelInputConfig F where
  paymentMethodType := some searched.1
  paymentMethod := some searched.2.1
  cardNetwork := searched.2.2.cardNetwork
  cardIsIn := searched.2.2.cardIsin
  currency := searched.2.2.currency
  country := searched.2.2.country
  authType := searched.2.2.authType
  bucketSize := some 1
  hedgingPercent := none
  lowerResetFactor := none
  upperResetFactor := none
  gatewayExtraScore := none
  source := none

/-- An input configuration with one sub-level configuration and no defaults. -/
def onlyConfig (sub : SrV3SubLevelInputConfig F) : SrV3InputConfig F where
  defaultBucketSize := none
  defaultHedgingPercent := none
  defaultLowerResetFactor := none
  defaultUpperResetFactor := none
  defaultGatewayExtraScore := none
  subLevelInputConfig := some [sub]

def configMatches (sub : SrV3SubLevelInputConfig F)
    (searched : String × String × SrRoutingDimensions) : Bool :=
  isSrV3ConfigMatch sub (some searched.1) (some searched.2.1) searched.2.2

variable (searched : String × String × SrRoutingDimensions)

theorem configMatches_configFor_self :
    configMatches (configFor searched : SrV3SubLevelInputConfig F) searched = true := by
  simp [configMatches, isSrV3ConfigMatch, configFor, dimensionMatches]

theorem eq_of_dimensionMatches {first second : Option String}
    (firstMatches : dimensionMatches first second = true)
    (secondMatches : dimensionMatches second first = true) : first = second := by
  cases first with
  | none =>
      cases second with
      | none => rfl
      | some value => simp [dimensionMatches] at secondMatches
  | some value =>
      simp only [dimensionMatches, Option.isNone_some, Bool.false_or, beq_iff_eq] at firstMatches
      exact firstMatches

/-- Dimensions that match each other's configuration are the same. -/
theorem eq_of_configMatches {first second : String × String × SrRoutingDimensions}
    (forward : configMatches (configFor first : SrV3SubLevelInputConfig F) second = true)
    (backward : configMatches (configFor second : SrV3SubLevelInputConfig F) first = true) :
    first = second := by
  rcases first with ⟨firstType, firstMethod, firstDimensions⟩
  rcases second with ⟨secondType, secondMethod, secondDimensions⟩
  simp only [configMatches, isSrV3ConfigMatch, configFor, Bool.and_eq_true, beq_iff_eq,
    Option.some.injEq] at forward backward
  rcases forward with ⟨⟨⟨⟨⟨⟨sameType, sameMethod⟩, network⟩, isin⟩, currency⟩, auth⟩, country⟩
  rcases backward with ⟨⟨⟨⟨⟨⟨-, -⟩, network'⟩, isin'⟩, currency'⟩, auth'⟩, country'⟩
  have methods : firstMethod = secondMethod := by
    simpa [dimensionMatches] using sameMethod
  have dimensions : firstDimensions = secondDimensions := by
    rw [SrRoutingDimensions.mk.injEq]
    exact ⟨eq_of_dimensionMatches network network', eq_of_dimensionMatches isin isin',
      eq_of_dimensionMatches currency currency', eq_of_dimensionMatches country country',
      eq_of_dimensionMatches auth auth'⟩
  rw [sameType, methods, dimensions]

theorem settledFor_congr {reads : ScoringReads F} {first second : Payment}
    (same : first.searchedWith = second.searchedWith) (size : Int) :
    SettledFor reads first size ↔ SettledFor reads second size := by
  simp only [Payment.searchedWith, Prod.mk.injEq] at same
  rw [SettledFor, SettledFor, same.1, same.2.1, same.2.2]

/-- A single configuration of size 1 settles that size where it matches. -/
theorem settledFor_onlyConfig :
    SettledFor (reads.withInputConfigs (some (onlyConfig (configFor searched))) none) payment 1 ↔
      configMatches (configFor searched : SrV3SubLevelInputConfig F) payment.searchedWith =
        true := by
  have sizing : sizingConfigs (onlyConfig (configFor searched : SrV3SubLevelInputConfig F))
      payment.txnCardInfo.paymentMethodType payment.routedMethod payment.srRoutingDimensions =
        if configMatches (configFor searched : SrV3SubLevelInputConfig F) payment.searchedWith
          then [configFor searched] else [] := by
    cases isMatch : configMatches (configFor searched : SrV3SubLevelInputConfig F)
        payment.searchedWith with
    | true =>
        apply List.filter_cons_of_pos
        rw [Bool.and_eq_true]
        exact ⟨isMatch, rfl⟩
    | false =>
        apply List.filter_cons_of_neg
        rw [Bool.and_eq_true]
        rintro ⟨matched, -⟩
        rw [configMatches, Payment.searchedWith, matched] at isMatch
        cases isMatch
  cases isMatch : configMatches (configFor searched : SrV3SubLevelInputConfig F)
      payment.searchedWith with
  | true =>
      rw [isMatch, if_pos rfl] at sizing
      apply iff_of_true _ rfl
      apply SettledSize.merchant
      apply LevelSize.subLevel _ (configFor searched) rfl _ rfl one_pos
      rw [sizing]
      exact ⟨[], [], rfl, by simp, by simp⟩
  | false =>
      rw [isMatch, if_neg Bool.false_ne_true] at sizing
      apply iff_of_false _ Bool.false_ne_true
      have unsized : ∀ size, ¬ LevelSize (some (onlyConfig (configFor searched :
          SrV3SubLevelInputConfig F))) payment.txnCardInfo.paymentMethodType
            payment.routedMethod payment.srRoutingDimensions size := by
        rintro size (⟨_, sub, ⟨⟩, best, _, _⟩ | ⟨_, ⟨⟩, _, sized, _⟩)
        · rw [sizing] at best
          exact not_isFirstBest_nil sub best
        · cases sized
      rintro (sized | ⟨_, ⟨_, _, ⟨⟩, _⟩ | ⟨_, ⟨⟩, _⟩⟩ | ⟨_, _, isDefault⟩)
      · exact unsized 1 sized
      · exact absurd isDefault (by decide)

theorem settledFor_unique {reads : ScoringReads F} (noOverride : reads.abTestSrOverride = none)
    {payment : Payment} {first second : Int} (settledFirst : SettledFor reads payment first)
    (settledSecond : SettledFor reads payment second) : first = second := by
  rw [← (settledFor_iff_decided noOverride).mp settledFirst]
  exact (settledFor_iff_decided noOverride).mp settledSecond

/-- For a transaction without an experiment's override the two sizes agree under every
configuration exactly when the stored data keep its dimensions; under one configuration
they agree exactly when it settles one size for the stored dimensions and its own. -/
theorem bucketSizesAgree_iff {reads : ScoringReads F} (noOverride : reads.abTestSrOverride = none)
    (payment : ReceivedPayment) :
    ((∀ merchantConfig defaultConfig,
        BucketSizesAgree dataReads (reads.withInputConfigs merchantConfig defaultConfig)
          payment.toPayment) ↔ KeepsDimensions dataReads payment) ∧
      (BucketSizesAgree dataReads reads payment.toPayment ↔
        ∃ size, SettledFor reads payment.toPayment size ∧
          SettledFor reads (rebuiltPayment dataReads payment.toPayment) size) := by
  apply And.intro _ (bucketSizesAgree_iff_settled dataReads noOverride payment.toPayment)
  rw [← searchedWith_rebuiltPayment_iff]
  constructor
  · intro agree
    -- The configurations for either side's dimensions settle size 1 on both sides.
    have crossed : ∀ searched first second, (first = payment.toPayment ∧
          second = rebuiltPayment dataReads payment.toPayment ∨
        first = rebuiltPayment dataReads payment.toPayment ∧ second = payment.toPayment) →
        configMatches (configFor searched : SrV3SubLevelInputConfig F) first.searchedWith = true →
        configMatches (configFor searched : SrV3SubLevelInputConfig F) second.searchedWith =
          true := by
      intro searched first second sides matched
      let probed := reads.withInputConfigs (some (onlyConfig (configFor searched))) none
      have probedOverride : probed.abTestSrOverride = none := noOverride
      rcases (bucketSizesAgree_iff_settled dataReads probedOverride payment.toPayment).mp
        (agree _ _) with ⟨size, own, rebuilt⟩
      have settled := (settledFor_onlyConfig reads first searched).mpr matched
      rw [← settledFor_onlyConfig reads]
      rcases sides with ⟨rfl, rfl⟩ | ⟨rfl, rfl⟩
      · rw [settledFor_unique probedOverride settled own]
        exact rebuilt
      · rw [settledFor_unique probedOverride settled rebuilt]
        exact own
    apply eq_of_configMatches (F := F)
    · exact crossed _ _ _ (Or.inr ⟨rfl, rfl⟩) (configMatches_configFor_self _)
    · exact crossed _ _ _ (Or.inl ⟨rfl, rfl⟩) (configMatches_configFor_self _)
  · intro same merchantConfig defaultConfig
    let configured := reads.withInputConfigs merchantConfig defaultConfig
    have configuredOverride : configured.abTestSrOverride = none := noOverride
    apply (bucketSizesAgree_iff_settled dataReads configuredOverride payment.toPayment).mpr
    have own : SettledFor configured payment.toPayment
        (decidedBucketSize configured payment.toPayment) :=
      (settledFor_iff_decided configuredOverride).mpr rfl
    exact ⟨_, own, (settledFor_congr same _).mpr own⟩

/-- Every feature is off. -/
def plainDataReads : ScoringDataReads where
  toUppercase := Text.toAsciiUppercase
  isGriEnabledForElimination := false
  isGriEnabledForSrRouting := false
  useServiceConfigForGri := true
  handlePackageBasedRouting := false
  srEvaluationAtAuthLevel := false
  srEvaluationAtBankLevel := false
  juspayBankCode := none
  udfs := ∅
  isLegacyDeciderFlow := false

/-- A payment with a card of a known network. -/
def networkPayment : ReceivedPayment where
  toPayment := { visaPayment with
    txnCardInfo := { visaPayment.txnCardInfo with cardSwitchProvider := some "VISA" } }
  authType := none
  authType_text := rfl

/-- A bucket size of 20 for the network, and of 200 for everything else. -/
def networkConfig : SrV3InputConfig ℚ :=
  { onlyConfig { configFor networkPayment.searchedWith with bucketSize := some 20 } with
    defaultBucketSize := some 200 }

theorem bucketSizesAgree_iff_network :
    ((∀ merchantConfig defaultConfig,
        BucketSizesAgree plainDataReads
          ((priorityReads []).withInputConfigs merchantConfig defaultConfig)
          networkPayment.toPayment) ↔ KeepsDimensions plainDataReads networkPayment) ∧
      (BucketSizesAgree plainDataReads (priorityReads []) networkPayment.toPayment ↔
        ∃ size, SettledFor (priorityReads []) networkPayment.toPayment size ∧
          SettledFor (priorityReads []) (rebuiltPayment plainDataReads networkPayment.toPayment)
            size) :=
  bucketSizesAgree_iff plainDataReads rfl networkPayment

/-- The stored data hold the network of the card, the rebuilt payment does not. -/
theorem not_bucketSizesAgree_network :
    decidedBucketSize ((priorityReads []).withInputConfigs (some networkConfig) none)
        networkPayment.toPayment = 20 ∧
      (getGatewayScoringData plainDataReads networkPayment.toPayment).cardSwitchProvider =
        some "VISA" ∧
      getSrV3MerchantBucketSize (some networkConfig) none
        (rebuiltPayment plainDataReads networkPayment.toPayment) = 200 ∧
      ¬ BucketSizesAgree plainDataReads
        ((priorityReads []).withInputConfigs (some networkConfig) none)
        networkPayment.toPayment := by
  have decided : decidedBucketSize ((priorityReads []).withInputConfigs (some networkConfig) none)
      networkPayment.toPayment = 20 := by decide +kernel
  have feedback : getSrV3MerchantBucketSize (some networkConfig) none
      (rebuiltPayment plainDataReads networkPayment.toPayment) = 200 := by decide +kernel
  have rebuilt := paymentFromApiPayload_getGatewayScoringData plainDataReads
    networkPayment.toPayment
  have stored : (getGatewayScoringData plainDataReads networkPayment.toPayment).cardSwitchProvider =
      some "VISA" := by decide +kernel
  apply And.intro decided (And.intro stored (And.intro feedback _))
  intro agree
  rw [BucketSizesAgree, rebuilt, decided] at agree
  exact absurd (feedback.symm.trans (Except.ok.inj agree)) (by decide)

end DecisionEngine.Scoring
