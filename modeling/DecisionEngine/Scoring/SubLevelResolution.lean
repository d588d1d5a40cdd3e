import DecisionEngine.Scoring.SrV3Config

/-!
# Resolution of sub-level configurations

A sub-level configuration constrains some dimensions of a payment.  Of the configurations that
match a payment the one that constrains the most dimensions is used, and of several such ones
the first.
-/

namespace DecisionEngine.Scoring

open Search

/-- The dimensions of a payment that a sub-level configuration may constrain. -/
inductive SubLevelDimension where
  | paymentMethodType
  | paymentMethod
  | cardNetwork
  | cardIsIn
  | currency
  | country
  | authType
  deriving DecidableEq

def SubLevelDimension.all : List SubLevelDimension :=
  [.paymentMethodType, .paymentMethod, .cardNetwork, .cardIsIn, .currency, .country, .authType]

theorem SubLevelDimension.mem_all (dimension : SubLevelDimension) : dimension ∈ all := by
  cases dimension <;> decide

/-- The values of a payment. -/
def dimensionValue (pmt pm : String) (dimensions : SrRoutingDimensions) :
    SubLevelDimension → Option String
  | .paymentMethodType => some pmt
  | .paymentMethod => some pm
  | .cardNetwork => dimensions.cardNetwork
  | .cardIsIn => dimensions.cardIsin
  | .currency => dimensions.currency
  | .country => dimensions.country
  | .authType => dimensions.authType

section Resolution

variable {F : Type}

/-- The values that a configuration asks for. -/
def SrV3SubLevelInputConfig.constraint (config : SrV3SubLevelInputConfig F) :
    SubLevelDimension → Option String
  | .paymentMethodType => config.paymentMethodType
  | .paymentMethod => config.paymentMethod
  | .cardNetwork => config.cardNetwork
  | .cardIsIn => config.cardIsIn
  | .currency => config.currency
  | .country => config.country
  | .authType => config.authType

/-- The number of dimensions that a configuration sets. -/
def specificity (config : SrV3SubLevelInputConfig F) : Nat :=
  SubLevelDimension.all.countP fun dimension => (config.constraint dimension).isSome

/-- Each dimension that the configuration sets has the value of the payment. -/
def MatchesValues (value : SubLevelDimension → Option String)
    (config : SrV3SubLevelInputConfig F) : Prop :=
  ∀ dimension, (config.constraint dimension).isSome →
    config.constraint dimension = value dimension

instance (value : SubLevelDimension → Option String) :
    DecidablePred (MatchesValues (F := F) value) :=
  fun config => decidable_of_iff (∀ dimension ∈ SubLevelDimension.all,
      (config.constraint dimension).isSome → config.constraint dimension = value dimension)
    ⟨fun isMatch dimension => isMatch dimension (SubLevelDimension.mem_all dimension),
      fun isMatch dimension _ => isMatch dimension⟩

/-- The first of the most specific candidates is found, and none where there is no candidate. -/
structure ResolvesTo (candidate : SrV3SubLevelInputConfig F → Bool)
    (configs : List (SrV3SubLevelInputConfig F)) (result : Option (SrV3SubLevelInputConfig F)) :
    Prop where
  chosen : ∀ config, result = some config ↔
    IsFirstBest specificity (configs.filter candidate) config
  nothing : result = none ↔ ∀ config ∈ configs, candidate config = false

/-! ## Candidates -/

variable {pmt pm : String} {dimensions : SrRoutingDimensions}

theorem dimensionMatches_iff {constraint value : Option String} :
    dimensionMatches constraint value = true ↔ (constraint.isSome → constraint = value) := by
  rw [dimensionMatches, Bool.or_eq_true, beq_iff_eq]
  cases constraint with
  | none => simp
  | some text => simp

/-- A configuration that matches sets the payment method type, which is not a wildcard. -/
theorem isSrV3ConfigMatch_iff {config : SrV3SubLevelInputConfig F} :
    isSrV3ConfigMatch config (some pmt) (some pm) dimensions = true ↔
      config.paymentMethodType.isSome ∧
        MatchesValues (dimensionValue pmt pm dimensions) config := by
  simp only [isSrV3ConfigMatch, Bool.and_eq_true, dimensionMatches_iff, beq_iff_eq]
  constructor
  · rintro ⟨⟨⟨⟨⟨⟨isPmt, isPm⟩, isNetwork⟩, isIsin⟩, isCurrency⟩, isAuth⟩, isCountry⟩
    refine ⟨by rw [isPmt]; rfl, ?_⟩
    intro dimension
    cases dimension with
    | paymentMethodType => exact fun _ => isPmt
    | paymentMethod => exact isPm
    | cardNetwork => exact isNetwork
    | cardIsIn => exact isIsin
    | currency => exact isCurrency
    | country => exact isCountry
    | authType => exact isAuth
  · rintro ⟨isSet, isMatch⟩
    exact ⟨⟨⟨⟨⟨⟨isMatch .paymentMethodType isSet, isMatch .paymentMethod⟩, isMatch .cardNetwork⟩,
      isMatch .cardIsIn⟩, isMatch .currency⟩, isMatch .authType⟩, isMatch .country⟩

/-- With the payment method type set, one more dimension is set than is counted. -/
theorem specificity_eq {config : SrV3SubLevelInputConfig F}
    (isSet : config.paymentMethodType.isSome) :
    specificity config = configSpecificity config + 1 := by
  have constraints : SubLevelDimension.all.map config.constraint =
      config.paymentMethodType :: [config.paymentMethod, config.cardNetwork, config.cardIsIn,
        config.currency, config.country, config.authType] := rfl
  have counted := List.countP_map (p := Option.isSome) (f := config.constraint)
    (l := SubLevelDimension.all)
  rw [constraints, List.countP_cons_of_pos isSet] at counted
  exact counted.symm

/-- A rank that orders the candidates in the same way finds the same one. -/
theorem isFirstBest_congr {α : Type} {first second : α → Nat} {candidates : List α} {chosen : α}
    (same : ∀ left ∈ candidates, ∀ right ∈ candidates, first left ≤ first right ↔
      second left ≤ second right) :
    IsFirstBest first candidates chosen ↔ IsFirstBest second candidates chosen := by
  have oneWay : ∀ {first second : α → Nat}, (∀ left ∈ candidates, ∀ right ∈ candidates,
      first left ≤ first right ↔ second left ≤ second right) →
      IsFirstBest first candidates chosen → IsFirstBest second candidates chosen := by
    rintro first second same ⟨before, after, split, better, atLeast⟩
    have chosenMem : chosen ∈ candidates := by simp [split]
    refine ⟨before, after, split, ?_, ?_⟩
    · intro other isBefore
      have otherMem : other ∈ candidates := by simp [split, isBefore]
      rw [← not_le, ← same chosen chosenMem other otherMem, not_le]
      exact better other isBefore
    · intro other isAfter
      have otherMem : other ∈ candidates := by simp [split, isAfter]
      exact (same other otherMem chosen chosenMem).mp (atLeast other isAfter)
  exact ⟨oneWay same, oneWay fun left leftMem right rightMem =>
    (same left leftMem right rightMem).symm⟩

/-- The configurations that give an input, set the payment method type and match. -/
def isCandidate (pmt pm : String) (dimensions : SrRoutingDimensions)
    (isInputNonNull : SrV3SubLevelInputConfig F → Bool) (config : SrV3SubLevelInputConfig F) :
    Bool :=
  decide (config.paymentMethodType.isSome ∧
    MatchesValues (dimensionValue pmt pm dimensions) config) && isInputNonNull config

theorem getSrV3SubLevelInputConfig_eq_candidates (configs : List (SrV3SubLevelInputConfig F))
    (isInputNonNull : SrV3SubLevelInputConfig F → Bool) :
    getSrV3SubLevelInputConfig (some configs) pmt pm dimensions isInputNonNull =
      firstBest configSpecificity
        (configs.filter (isCandidate pmt pm dimensions isInputNonNull)) := by
  rw [getSrV3SubLevelInputConfig_eq_firstBest, Option.getD_some]
  congr 1
  apply List.filter_congr
  intro config _
  rw [isCandidate, Bool.eq_iff_iff, Bool.and_eq_true, Bool.and_eq_true, decide_eq_true_eq,
    isSrV3ConfigMatch_iff]

/-- The search resolves to the first of the most specific candidates; without autopilot, what it
finds has not been written by the calibration job. -/
theorem resolvesTo_getSrV3SubLevelInputConfig (configs : List (SrV3SubLevelInputConfig F))
    (pmt pm : String) (dimensions : SrRoutingDimensions)
    (isInputNonNull : SrV3SubLevelInputConfig F → Bool) :
    ResolvesTo (isCandidate pmt pm dimensions isInputNonNull) configs
        (getSrV3SubLevelInputConfig (some configs) pmt pm dimensions isInputNonNull) ∧
      ∀ config, getSrV3SubLevelInputConfig (some configs) pmt pm dimensions
          (fun sub => isInputNonNull sub && (false || !isAutopilotSourced sub)) = some config →
        config.source ≠ some autopilotSource := by
  refine ⟨⟨?_, ?_⟩, ?_⟩
  · intro config
    rw [getSrV3SubLevelInputConfig_eq_candidates, firstBest_eq_some_iff]
    apply isFirstBest_congr
    intro left leftMem right rightMem
    have isSet : ∀ {sub}, sub ∈ configs.filter (isCandidate pmt pm dimensions isInputNonNull) →
        sub.paymentMethodType.isSome := by
      intro sub subMem
      rw [List.mem_filter, isCandidate, Bool.and_eq_true, decide_eq_true_eq] at subMem
      exact subMem.2.1.1
    rw [specificity_eq (isSet leftMem), specificity_eq (isSet rightMem), Nat.add_le_add_iff_right]
  · rw [getSrV3SubLevelInputConfig_eq_candidates, firstBest_eq_none_iff, List.filter_eq_nil_iff]
    exact forall₂_congr fun config _ => iff_of_eq (Bool.not_eq_true _)
  · intro config found
    rw [getSrV3SubLevelInputConfig_eq_candidates, firstBest_eq_some_iff] at found
    have listed := List.mem_filter.mp found.mem
    rw [isCandidate, Bool.and_eq_true, Bool.and_eq_true, Bool.false_or, Bool.not_eq_true',
      isAutopilotSourced] at listed
    exact fun isAutopilot => by simp [isAutopilot] at listed

end Resolution

/-! ## A configuration for every payment method type -/

/-- A configuration that sets no dimension. -/
def anyPayment : SrV3SubLevelInputConfig ℚ where
  paymentMethodType := none
  paymentMethod := none
  cardNetwork := none
  cardIsIn := none
  currency := none
  country := none
  authType := none
  bucketSize := some 20
  hedgingPercent := none
  lowerResetFactor := none
  upperResetFactor := none
  gatewayExtraScore := none
  source := none

/-- A configuration without dimensions is not found, though nothing in it differs from the
payment. -/
theorem resolvesTo_counterexample :
    ¬ResolvesTo
      (fun config => decide (MatchesValues
        (dimensionValue "CARD" "DEBIT" ⟨none, none, none, none, none⟩) config) &&
          config.bucketSize.isSome)
      [anyPayment]
      (getSrV3SubLevelInputConfig (some [anyPayment]) "CARD" "DEBIT"
        ⟨none, none, none, none, none⟩ fun config => config.bucketSize.isSome) := by
  intro resolves
  have noCandidate := resolves.nothing.mp rfl anyPayment List.mem_cons_self
  exact absurd noCandidate (by decide)

end DecisionEngine.Scoring
