import DecisionEngine.Number.Machine
import DecisionEngine.Scoring.ScoreKeys
import DecisionEngine.Search.FirstBest

/-!
# Configuration of the success-rate scores

The inputs that a merchant, and the service by default, give for the success-rate
scores, and the search for the most specific of them.
-/

namespace DecisionEngine.Scoring

open Number Search

structure GatewayWiseExtraScore (F : Type) where
  gatewayName : Gateway
  gatewaySigmaFactor : F

structure SrV3SubLevelInputConfig (F : Type) where
  paymentMethodType : Option String
  paymentMethod : Option String
  cardNetwork : Option String
  cardIsIn : Option String
  currency : Option String
  country : Option String
  authType : Option String
  bucketSize : Option Int
  hedgingPercent : Option F
  lowerResetFactor : Option F
  upperResetFactor : Option F
  gatewayExtraScore : Option (List (GatewayWiseExtraScore F))
  source : Option String

structure SrV3InputConfig (F : Type) where
  defaultBucketSize : Option Int
  defaultHedgingPercent : Option F
  defaultLowerResetFactor : Option F
  defaultUpperResetFactor : Option F
  defaultGatewayExtraScore : Option (List (GatewayWiseExtraScore F))
  subLevelInputConfig : Option (List (SrV3SubLevelInputConfig F))

structure SrRoutingDimensions where
  cardNetwork : Option String
  cardIsin : Option String
  currency : Option String
  country : Option String
  authType : Option String

def autopilotSource : String := "autopilot"

def defaultSrV3BasedBucketSize : Int := 125

section Search

variable {F : Type}

/-- The sub-level configuration was written by the calibration job. -/
def isAutopilotSourced (config : SrV3SubLevelInputConfig F) : Bool :=
  config.source == some autopilotSource

/-- The number of dimensions that a sub-level configuration constrains. -/
def configSpecificity (config : SrV3SubLevelInputConfig F) : Nat :=
  [config.paymentMethod, config.cardNetwork, config.cardIsIn, config.currency, config.country,
    config.authType].countP Option.isSome

/-- A dimension matches when it is not constrained or has the value. -/
def dimensionMatches (constraint value : Option String) : Bool :=
  constraint.isNone || constraint == value

def isSrV3ConfigMatch (config : SrV3SubLevelInputConfig F) (pmt pm : Option String)
    (dimensions : SrRoutingDimensions) : Bool :=
  config.paymentMethodType == pmt &&
    dimensionMatches config.paymentMethod pm &&
    dimensionMatches config.cardNetwork dimensions.cardNetwork &&
    dimensionMatches config.cardIsIn dimensions.cardIsin &&
    dimensionMatches config.currency dimensions.currency &&
    dimensionMatches config.authType dimensions.authType &&
    dimensionMatches config.country dimensions.country

variable (configs : Option (List (SrV3SubLevelInputConfig F))) (pmt pm : String)
  (dimensions : SrRoutingDimensions)

/-- The most specific of the matching configurations; the first one on a tie. -/
def getSrV3SubLevelInputConfig (isInputNonNull : SrV3SubLevelInputConfig F → Bool) :
    Option (SrV3SubLevelInputConfig F) :=
  configs.bind fun configs =>
    (configs.filter fun config =>
        isSrV3ConfigMatch config (some pmt) (some pm) dimensions && isInputNonNull config).foldl
      (fun best config =>
        match best with
        | some chosen =>
            if configSpecificity config ≤ configSpecificity chosen then some chosen
            else some config
        | none => some config)
      none

theorem getSrV3SubLevelInputConfig_eq_firstBest
    (configs : Option (List (SrV3SubLevelInputConfig F))) (pmt pm : String)
    (dimensions : SrRoutingDimensions) (isInputNonNull : SrV3SubLevelInputConfig F → Bool) :
    getSrV3SubLevelInputConfig configs pmt pm dimensions isInputNonNull =
      firstBest configSpecificity ((configs.getD []).filter fun config =>
        isSrV3ConfigMatch config (some pmt) (some pm) dimensions && isInputNonNull config) := by
  cases configs with
  | none => rfl
  | some configs =>
      rw [getSrV3SubLevelInputConfig, Option.bind_some, Option.getD_some, firstBest]
      congr 1
      funext best config
      cases best <;> rfl

/-- The value of an input: the one of the most specific configuration that gives it,
else the default, if it is valid. -/
def getSrV3Input {α : Type} (config : Option (SrV3InputConfig F)) (pmt pm : String)
    (dimensions : SrRoutingDimensions) (input : SrV3SubLevelInputConfig F → Option α)
    (admitted : SrV3SubLevelInputConfig F → Bool) (default : SrV3InputConfig F → Option α)
    (valid : α → Bool) : Option α :=
  config.bind fun config =>
    (((getSrV3SubLevelInputConfig config.subLevelInputConfig pmt pm dimensions fun sub =>
        (input sub).isSome && admitted sub).bind input).or (default config)).filter valid

variable (config : Option (SrV3InputConfig F))

def getSrV3BucketSize (pmt pm : String) (dimensions : SrRoutingDimensions) (useAutopilot : Bool) :
    Option Int :=
  getSrV3Input config pmt pm dimensions (·.bucketSize)
    (fun sub => useAutopilot || !isAutopilotSourced sub) (·.defaultBucketSize) fun size =>
      decide (0 < size)

theorem getSrV3BucketSize_pos {config : Option (SrV3InputConfig F)} {pmt pm : String}
    {dimensions : SrRoutingDimensions} {useAutopilot : Bool} {size : Int}
    (found : getSrV3BucketSize config pmt pm dimensions useAutopilot = some size) : 0 < size := by
  rcases Option.bind_eq_some_iff.mp found with ⟨_, _, filtered⟩
  exact of_decide_eq_true (Option.filter_eq_some_iff.mp filtered).2

def findGatewaySigmaFactor (scores : Option (List (GatewayWiseExtraScore F)))
    (gateway : Gateway) : Option F :=
  scores.bind fun scores =>
    (scores.find? fun score => score.gatewayName == gateway).map (·.gatewaySigmaFactor)

/-- The factor of a gateway; unlike the other inputs it may be negative. -/
def getSrV3GatewaySigmaFactor (pmt pm : String) (gateway : Gateway)
    (dimensions : SrRoutingDimensions) : Option F :=
  config.bind fun config =>
    ((getSrV3SubLevelInputConfig config.subLevelInputConfig pmt pm dimensions fun sub =>
        (sub.gatewayExtraScore.getD []).any fun score => score.gatewayName == gateway).bind
      fun sub => findGatewaySigmaFactor sub.gatewayExtraScore gateway).or
      (findGatewaySigmaFactor config.defaultGatewayExtraScore gateway)

end Search

section Factors

variable {F : Type} [MachineNumber F]

def defaultSrV3BasedHedgingPercent : F := ofRat 5

def defaultSrV3BasedUpperResetFactor : F := ofRat 3

def defaultSrV3BasedLowerResetFactor : F := ofRat 3

def defaultSrV3BasedGatewaySigmaFactor : F := ofRat 0

def getSrV3HedgingPercent (config : Option (SrV3InputConfig F)) (pmt pm : String)
    (dimensions : SrRoutingDimensions) (useAutopilot : Bool) : Option F :=
  getSrV3Input config pmt pm dimensions (·.hedgingPercent)
    (fun sub => useAutopilot || !isAutopilotSourced sub) (·.defaultHedgingPercent) fun percent =>
      ge percent (ofRat 0)

variable (config : Option (SrV3InputConfig F))

def getSrV3LowerResetFactor (pmt pm : String) (dimensions : SrRoutingDimensions) : Option F :=
  getSrV3Input config pmt pm dimensions (·.lowerResetFactor) (fun _ => true)
    (·.defaultLowerResetFactor) fun factor => ge factor (ofRat 0)

def getSrV3UpperResetFactor (pmt pm : String) (dimensions : SrRoutingDimensions) : Option F :=
  getSrV3Input config pmt pm dimensions (·.upperResetFactor) (fun _ => true)
    (·.defaultUpperResetFactor) fun factor => ge factor (ofRat 0)

end Factors

end DecisionEngine.Scoring
