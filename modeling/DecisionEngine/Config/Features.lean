import DecisionEngine.Text.Basic

/-!
# The features of merchants

The merchants that have a feature are listed in one configuration for all of them.  A toggle
takes the merchant out of the list and puts it back in if the feature is enabled; merchants
are compared without their letter case.

What a configuration says of one merchant is its view.  A toggle leaves the views of the
merchants that differ in more than letter case.
-/

namespace DecisionEngine.Config

open Text

inductive KnownFeature where
  | gsmScoringFilter
  | exploreExploitSrv3
  | abTestRealPayments
  | multiObjectiveRouting
  | elimination
  | srAutoCalibration
  | autopilot
  deriving DecidableEq

namespace KnownFeature

def all : List KnownFeature :=
  [.gsmScoringFilter, .exploreExploitSrv3, .abTestRealPayments, .multiObjectiveRouting,
    .elimination, .srAutoCalibration, .autopilot]

def slug : KnownFeature → String
  | .gsmScoringFilter => "gsm-scoring-filter"
  | .exploreExploitSrv3 => "explore-exploit-srv3"
  | .abTestRealPayments => "ab-test-real-payments"
  | .multiObjectiveRouting => "multi-objective-routing"
  | .elimination => "elimination"
  | .srAutoCalibration => "auto-calibration"
  | .autopilot => "autopilot"

def fromSlug (slug : String) : Option KnownFeature :=
  all.find? fun feature => feature.slug = slug

/-- The name of the configuration that has the merchants of a feature. -/
def featureConfKey : KnownFeature → String
  | .gsmScoringFilter => "gsm_based_scoring_filter_enabled_merchant"
  | .exploreExploitSrv3 => "ENABLE_EXPLORE_AND_EXPLOIT_ON_SRV3_CARD"
  | .abTestRealPayments => "ab_test_real_payments_enabled"
  | .multiObjectiveRouting => "multi_objective_routing_enabled"
  | .elimination => "enable_gateway_level_sr_elimination"
  | .srAutoCalibration => "sr_auto_calibration_enabled"
  | .autopilot => "autopilot_enabled"

end KnownFeature

structure MerchantFeature where
  merchantId : String
  rollout : Int

structure FeatureConf where
  enableAll : Bool
  enableAllRollout : Option Int
  disableAny : Option (List String)
  merchants : Option (List MerchantFeature)

/-- What a toggle starts from when nothing is stored. -/
def FeatureConf.default : FeatureConf :=
  ⟨false, none, none, some []⟩

section Merchants

variable [LetterCase]

/-- Whether two ids are of one merchant in a list of merchants. -/
def SameLetters (first second : String) : Prop :=
  LetterCase.toLowercase first = LetterCase.toLowercase second

instance : DecidableRel SameLetters :=
  fun _ _ => inferInstanceAs (Decidable (_ = _))

/-- A draw between 1 and 100 decides about a rollout. -/
def roller (draw rollout : Int) : Bool :=
  decide (draw ≤ rollout)

def checkMerchantEnabled (conf : Option FeatureConf) (merchantId : String) (draw : Int) : Bool :=
  match conf with
  | none => false
  | some conf =>
      if conf.enableAll then
        match conf.disableAny with
        | some disableAny => !disableAny.contains merchantId
        | none =>
            match conf.enableAllRollout with
            | some rollout => roller draw rollout
            | none => true
      else
        match conf.merchants with
        | some merchants =>
            match merchants.find? fun merchant => SameLetters merchant.merchantId merchantId with
            | some merchant => roller draw merchant.rollout
            | none => false
        | none => false

variable (conf : FeatureConf) (merchantId : String)

/-- The configuration after a toggle for a merchant. -/
def FeatureConf.toggled (enabled : Bool) :
    FeatureConf :=
  let others := (conf.merchants.getD []).filter
    fun merchant => ¬SameLetters merchant.merchantId merchantId
  { conf with
    merchants := some (if enabled then others ++ [⟨merchantId, 100⟩] else others) }

/-! ## What a configuration says of a merchant -/

structure FeatureView where
  enableAll : Bool
  enableAllRollout : Option Int
  /-- Whether the merchant is one that the feature is disabled for. -/
  disabled : Option Bool
  /-- The rollout of the merchant's entry. -/
  rollout : Option Int
  deriving DecidableEq

def FeatureView.enabled (view : FeatureView) (draw : Int) : Bool :=
  if view.enableAll then
    match view.disabled with
    | some disabled => !disabled
    | none =>
        match view.enableAllRollout with
        | some rollout => roller draw rollout
        | none => true
  else
    match view.rollout with
    | some rollout => roller draw rollout
    | none => false

def FeatureConf.view (merchantId : String) : FeatureView where
  enableAll := conf.enableAll
  enableAllRollout := conf.enableAllRollout
  disabled := conf.disableAny.map fun disableAny => disableAny.contains merchantId
  rollout := ((conf.merchants.getD []).find? fun merchant =>
    SameLetters merchant.merchantId merchantId).map MerchantFeature.rollout

/-- What no configuration says of a merchant is what the default says. -/
theorem checkMerchantEnabled_eq_view (conf : Option FeatureConf) (merchantId : String)
    (draw : Int) :
    checkMerchantEnabled conf merchantId draw =
      ((conf.getD .default).view merchantId).enabled draw := by
  rcases conf with _ | ⟨enableAll, enableAllRollout, disableAny, merchants⟩
  · rfl
  · cases enableAll with
    | true => cases disableAny <;> rfl
    | false =>
        cases merchants with
        | none => rfl
        | some merchants =>
            cases found : merchants.find? fun merchant =>
                decide (SameLetters merchant.merchantId merchantId) <;>
              simp [checkMerchantEnabled, FeatureView.enabled, FeatureConf.view, found]

/-- A toggle for another merchant leaves the view. -/
theorem view_toggled_of_ne {conf : FeatureConf} {merchantId other : String} {enabled : Bool}
    (differ : ¬SameLetters other merchantId) :
    (conf.toggled other enabled).view merchantId = conf.view merchantId := by
  have others : ((conf.merchants.getD []).filter
        fun merchant => ¬SameLetters merchant.merchantId other).find?
          (fun merchant => SameLetters merchant.merchantId merchantId) =
      (conf.merchants.getD []).find?
        fun merchant => SameLetters merchant.merchantId merchantId := by
    rw [List.find?_filter]
    congr 1
    funext merchant
    by_cases isMerchant : SameLetters merchant.merchantId merchantId
    · have notOther : ¬SameLetters merchant.merchantId other := fun isOther =>
        differ (isOther.symm.trans isMerchant)
      simp [isMerchant, notOther]
    · simp [isMerchant]
  rw [FeatureConf.view, FeatureConf.view, FeatureConf.toggled]
  congr 2
  cases enabled with
  | false => exact others
  | true =>
      change List.find? _ (_ ++ _) = _
      rw [List.find?_append, others, List.find?_singleton, if_neg, Option.or_none]
      simpa using differ

/-- After a toggle the view has what the toggle says, and the rest of the view before. -/
theorem view_toggled_self (enabled : Bool) :
    (conf.toggled merchantId enabled).view merchantId =
      { conf.view merchantId with rollout := if enabled then some 100 else none } := by
  have none : ((conf.merchants.getD []).filter
        fun merchant => ¬SameLetters merchant.merchantId merchantId).find?
          (fun merchant => SameLetters merchant.merchantId merchantId) = none := by
    rw [List.find?_filter, List.find?_eq_none]
    intro merchant _
    simp
  rw [FeatureConf.view, FeatureConf.view, FeatureConf.toggled]
  congr 1
  cases enabled with
  | false => exact congrArg _ none
  | true =>
      change Option.map _ (List.find? _ (_ ++ _)) = _
      rw [List.find?_append, none, List.find?_singleton, if_pos]
      · rfl
      · exact decide_eq_true rfl

end Merchants

end DecisionEngine.Config
