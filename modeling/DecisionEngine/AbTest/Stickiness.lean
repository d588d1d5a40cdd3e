import DecisionEngine.AbTest.Assignment
import DecisionEngine.Config.Features
import DecisionEngine.Euclid.SplitOutputs
import DecisionEngine.Scoring.ScoringFlow

/-!
# Sticky arms

A payment of a merchant with an active experiment is assigned to an arm by its id, and a static
arm answers for it.  Two things are left to chance: the rollout of the feature, and the split of
an output that a rule program selects.  The answer is the same for every call exactly when
neither makes a difference.
-/

namespace DecisionEngine.AbTest

open Euclid Scoring Text DecisionEngine.Config

/-! ## Static arms -/

/-- The attributes of a payment that an experiment looks at. -/
structure ArmRequest where
  merchantId : String
  paymentId : String
  paymentMethod : String
  paymentMethodType : String
  cardType : Option String

structure StaticArmResult where
  decidedGateway : String
  fallbackGateways : List String
  ruleName : Option String

section Arms

variable [LetterCase]

/-- The parameters of a rule program; values are compared with their letter case, so they are
lowercased here. -/
def buildCardContext (request : ArmRequest) : Context := fun key =>
  if key = "payment_method" then
    some (some (.enumVariant (LetterCase.toLowercase request.paymentMethod)))
  else if key = "payment_method_type" then
    some (some (.enumVariant (LetterCase.toLowercase request.paymentMethodType)))
  else if key = "card_type" ∨ key = "card" then
    request.cardType.map fun cardType => some (.enumVariant (LetterCase.toLowercase cardType))
  else none

/-- The first gateway decides, and the others are its fallbacks. -/
def armResult (ruleName : String) : List String → Option StaticArmResult
  | [] => none
  | decidedGateway :: fallbackGateways => some ⟨decidedGateway, fallbackGateways, some ruleName⟩

def evaluateStaticArm (sample : WeightedIndex) (algorithm : Option StaticRoutingAlgorithm)
    (request : ArmRequest) : Option StaticArmResult :=
  match algorithm with
  | none => none
  | some (.single conn) => some ⟨conn.gatewayName, [], some "ab_test_static_single"⟩
  | some (.priority connectors) =>
      armResult "ab_test_static_priority" (connectors.map ConnectorInfo.gatewayName)
  | some (.volumeSplit splits) =>
      (volumeSplitOutput request.paymentId splits).map fun connector =>
        ⟨connector.gatewayName, [], some "ab_test_static_volume_split"⟩
  | some (.advanced program) =>
      match evalProgram sample program (buildCardContext request) with
      | .error _ => none
      | .ok result =>
          armResult (result.ruleName.getD "ab_test_rule_based")
            (result.evaluatedOutput.map ConnectorInfo.gatewayName)
  | some (.abTest _ _ _) => none

end Arms

/-! ## The intercept -/

/-- A stored algorithm, with the overrides that an experiment has for its arms. -/
structure StoredAlgorithm (F : Type) where
  algorithm : StaticRoutingAlgorithm
  variantSrConfig : Option (SrConfigOverride F)
  controlSrConfig : Option (SrConfigOverride F)

structure RoutingAlgorithmMapper where
  createdBy : String
  routingAlgorithmId : String

/-- What an intercepted call reads: the feature, the mappers in the order in which they are
found, and the algorithms that are there and can be read. -/
structure ExperimentStore (F : Type) where
  featureConf : Option FeatureConf
  mappers : List RoutingAlgorithmMapper
  algorithms : String → Option (StoredAlgorithm F)

structure AbTestConfig (F : Type) where
  experimentId : String
  controlAlgorithmId : String
  variantAlgorithmId : String
  variantSplitPct : UInt8
  variantSrConfig : Option (SrConfigOverride F)
  controlSrConfig : Option (SrConfigOverride F)

inductive AbTestIntercept (F : Type) where
  | disabled
  | srArm (experimentId : String) (variantArm : Arm)
      (srConfigOverride : Option (SrConfigOverride F))
  | staticArm (result : StaticArmResult) (experimentId : String) (variantArm : Arm)

section Intercept

variable {F : Type}

def loadActiveAbTest (store : ExperimentStore F) (merchantId : String) :
    Option (AbTestConfig F) := do
  let mapper ← store.mappers.find? fun mapper => mapper.createdBy = merchantId
  let stored ← store.algorithms mapper.routingAlgorithmId
  match stored.algorithm with
  | .abTest controlAlgorithmId variantAlgorithmId variantSplitPct =>
      some ⟨mapper.routingAlgorithmId, controlAlgorithmId, variantAlgorithmId, variantSplitPct,
        stored.variantSrConfig, stored.controlSrConfig⟩
  | _ => none

def AbTestConfig.algorithmId (config : AbTestConfig F) : Arm → String
  | .variant => config.variantAlgorithmId
  | .control => config.controlAlgorithmId

def AbTestConfig.srConfig (config : AbTestConfig F) : Arm → Option (SrConfigOverride F)
  | .variant => config.variantSrConfig
  | .control => config.controlSrConfig

/-- The name that stands for success-rate routing in place of an algorithm. -/
def srRouting : String := "sr_routing"

variable [LetterCase]

/-- What the arm of a payment comes to. -/
def interceptArm (sample : WeightedIndex) (store : ExperimentStore F) (request : ArmRequest)
    (config : AbTestConfig F) : AbTestIntercept F :=
  let arm := assignArm request.paymentId config.variantSplitPct
  let armAlgorithmId := config.algorithmId arm
  if armAlgorithmId = srRouting then
    .srArm config.experimentId arm (config.srConfig arm)
  else
    match evaluateStaticArm sample
        ((store.algorithms armAlgorithmId).map StoredAlgorithm.algorithm) request with
    | some result => .staticArm result config.experimentId arm
    | none => .disabled

/-- One call; the draws are those of the rollout and of a split. -/
def intercept (draw : Int) (sample : WeightedIndex) (store : ExperimentStore F)
    (request : ArmRequest) : AbTestIntercept F :=
  if checkMerchantEnabled store.featureConf request.merchantId draw then
    match loadActiveAbTest store request.merchantId with
    | some config => interceptArm sample store request config
    | none => .disabled
  else .disabled

end Intercept

/-! ## Draws -/

/-- A split that can be drawn by its weight. -/
def Drawable (weights : List UInt8) (index : ℕ) : Prop :=
  ∃ weight, weights[index]? = some weight ∧ weight ≠ 0

variable {weights : List UInt8} {index : ℕ}

theorem Drawable.lt_length (drawable : Drawable weights index) :
    index < weights.length := by
  obtain ⟨weight, listed, -⟩ := drawable
  exact (List.getElem?_eq_some_iff.mp listed).1

/-- What the sampler draws when the sum of the weights is no byte, where nothing is promised. -/
structure OverflowDraws where
  draws : List UInt8 → Option ℕ → Prop
  exists_draws : ∀ weights, ∃ outcome, draws weights outcome

variable (overflow : OverflowDraws)

/-- The possible outcomes of one draw.  A split that has a weight is drawn, and none if no split
has a weight. -/
def Outcome (weights : List UInt8) (outcome : Option ℕ) : Prop :=
  if ValidWeights weights then ∃ index, outcome = some index ∧ Drawable weights index
  else if weights.all (· = 0) then outcome = none
  else overflow.draws weights outcome

/-- A sampler that can be the draws of one call. -/
def PossibleDraw (sample : WeightedIndex) : Prop :=
  ∀ weights, Outcome overflow weights (sample weights)

/-- Some draw succeeds. -/
def CanDraw (weights : List UInt8) (index : ℕ) : Prop :=
  index < weights.length ∧ Outcome overflow weights (some index)

/-- No draw fails. -/
def AlwaysDraws (weights : List UInt8) : Prop :=
  ∀ outcome, Outcome overflow weights outcome → ∃ index < weights.length, outcome = some index

theorem canDraw_iff_drawable (valid : ValidWeights weights) (index : ℕ) :
    CanDraw overflow weights index ↔ Drawable weights index := by
  rw [CanDraw, Outcome, if_pos valid]
  simp only [Option.some.injEq, exists_eq_left']
  exact and_iff_right_of_imp Drawable.lt_length

theorem alwaysDraws_of_valid (valid : ValidWeights weights) :
    AlwaysDraws overflow weights := by
  intro outcome isOutcome
  rw [Outcome, if_pos valid] at isOutcome
  obtain ⟨index, rfl, drawable⟩ := isOutcome
  exact ⟨index, drawable.lt_length, rfl⟩

variable {overflow}

theorem exists_outcome (weights : List UInt8) : ∃ outcome, Outcome overflow weights outcome := by
  by_cases valid : ValidWeights weights
  · obtain ⟨weight, listed, nonzero⟩ := valid.2.1
    obtain ⟨index, inRange, rfl⟩ := List.getElem_of_mem listed
    refine ⟨some index, ?_⟩
    rw [Outcome, if_pos valid]
    exact ⟨index, rfl, weights[index], List.getElem?_eq_getElem inRange, nonzero⟩
  · by_cases weightless : weights.all (· = 0)
    · exact ⟨none, by rw [Outcome, if_neg valid, if_pos weightless]⟩
    · obtain ⟨outcome, drawn⟩ := overflow.exists_draws weights
      exact ⟨outcome, by rwa [Outcome, if_neg valid, if_neg weightless]⟩

/-- Every outcome is one of a call. -/
theorem exists_possible {outcome : Option ℕ} (isOutcome : Outcome overflow weights outcome) :
    ∃ sample, PossibleDraw overflow sample ∧ sample weights = outcome := by
  choose other isOther using fun others => @exists_outcome overflow others
  refine ⟨Function.update other weights outcome, fun others => ?_, Function.update_self ..⟩
  by_cases same : others = weights
  · rw [same, Function.update_self]
    exact isOutcome
  · rw [Function.update_of_ne same]
    exact isOther others

/-! ## Outputs that leave nothing to chance -/

/-- A list with one of its items in front. -/
def withFront {α : Type} (items : List α) (index : ℕ) : List α :=
  items[index]?.toList ++ items.eraseIdx index

/-- Two items in front make no difference when they and the items between them are all the
same. -/
theorem withFront_eq_iff {α : Type} {items : List α} {first last : ℕ} (ordered : first ≤ last)
    (inRange : last < items.length) :
    withFront items first = withFront items last ↔
      ∀ place, first ≤ place → place ≤ last → items[place]? = items[last]? := by
  have firstInRange : first < items.length := by omega
  have inFront : ∀ place (below : place < items.length),
      withFront items place = items[place] :: items.eraseIdx place := by
    intro place below
    simp [withFront, below]
  rw [inFront first firstInRange, inFront last inRange, List.cons.injEq]
  constructor
  · rintro ⟨-, sameTail⟩
    -- One place on, the first list has the item that the other has here.
    have next : ∀ place, first ≤ place → place < last → items[place]? = items[place + 1]? := by
      intro place above below
      have here := congrArg (fun rest : List α => rest[place]?) sameTail
      simp only [List.getElem?_eraseIdx, if_neg (not_lt.mpr above), if_pos below] at here
      exact here.symm
    intro place above below
    induction rest : last - place generalizing place with
    | zero => rw [show place = last by omega]
    | succ distance ih =>
        rw [next place above (by omega)]
        exact ih (place + 1) (by omega) (by omega) (by omega)
  · intro alike
    refine ⟨?_, ?_⟩
    · have same := alike first le_rfl ordered
      rw [List.getElem?_eq_getElem firstInRange, List.getElem?_eq_getElem inRange] at same
      exact Option.some.inj same
    · apply List.ext_getElem?
      intro place
      simp only [List.getElem?_eraseIdx]
      by_cases above : first ≤ place
      · by_cases below : place < last
        · rw [if_neg (not_lt.mpr above), if_pos below, alike (place + 1) (by omega) below,
            alike place above below.le]
        · rw [if_neg (by omega), if_neg below]
      · rw [if_pos (by omega), if_pos (by omega)]

/-- The gateways of an output in order, with the split that was drawn in front. -/
def frontGateways (output : Output) (index : ℕ) : List String :=
  match output with
  | .single connector => [connector.gatewayName]
  | .priority connectors => connectors.map ConnectorInfo.gatewayName
  | .volumeSplit splits => withFront (splits.map fun split => split.output.gatewayName) index
  | .volumeSplitPriority splits =>
      ((withFront splits index).flatMap VolumeSplit.output).eraseDups.map
        ConnectorInfo.gatewayName

variable (overflow) in
/-- The draw of a split never fails and makes no difference: from the first to the last split
that can be drawn all go to one gateway, or put in front they give the same gateways in the same
order. -/
def SplitsAlike : Output → Prop
  | .single _ => True
  | .priority _ => True
  | .volumeSplit splits =>
      AlwaysDraws overflow (splits.map VolumeSplit.split) ∧
        ∀ first last place, CanDraw overflow (splits.map VolumeSplit.split) first →
          CanDraw overflow (splits.map VolumeSplit.split) last → first ≤ place → place ≤ last →
          (splits.map fun split => split.output.gatewayName)[place]? =
            (splits.map fun split => split.output.gatewayName)[last]?
  | .volumeSplitPriority splits =>
      AlwaysDraws overflow (splits.map VolumeSplit.split) ∧
        ∀ first second, CanDraw overflow (splits.map VolumeSplit.split) first →
          CanDraw overflow (splits.map VolumeSplit.split) second →
          frontGateways (.volumeSplitPriority splits) first =
            frontGateways (.volumeSplitPriority splits) second

variable (overflow) in
/-- An output that evaluates to some gateway, by some draw. -/
def HasGateway : Output → Prop
  | .single _ => True
  | .priority connectors => connectors ≠ []
  | .volumeSplit splits => ∃ index, CanDraw overflow (splits.map VolumeSplit.split) index
  | .volumeSplitPriority splits =>
      (∃ index, CanDraw overflow (splits.map VolumeSplit.split) index) ∧
        ∃ split ∈ splits, split.output ≠ []

/-- The gateways that an output is evaluated to. -/
def outputGateways (sample : WeightedIndex) (output : Output) : List String :=
  match evaluateOutput sample output with
  | .ok connectors => connectors.map ConnectorInfo.gatewayName
  | .error _ => []

variable {sample : WeightedIndex} {output : Output}

theorem outputGateways_of_drawn (isSplit : output.weights = some weights)
    (drawn : sample weights = some index) (inRange : index < weights.length) :
    outputGateways sample output = frontGateways output index := by
  cases output with
  | single connector => cases isSplit
  | priority connectors => cases isSplit
  | volumeSplit splits =>
      cases isSplit
      rw [List.length_map] at inRange
      have evaluated := sampleSplitWinnerFirst_eq_ok drawn inRange
      simp [outputGateways, evaluateOutput, performVolumeSplit, evaluated, frontGateways,
        withFront, inRange, List.eraseIdx_map]
  | volumeSplitPriority splits =>
      cases isSplit
      rw [List.length_map] at inRange
      have evaluated := sampleSplitWinnerFirst_eq_ok drawn inRange
      have once := Search.foldl_pushUnique_nil
        ((splits[index] :: splits.eraseIdx index).flatMap VolumeSplit.output)
      rw [outputGateways, evaluateOutput, performVolumeSplitPriority, evaluated, frontGateways,
        withFront, List.getElem?_eq_getElem inRange, Option.toList_some, List.singleton_append,
        ← once, List.flatMap_def]
      rfl

/-- Without a draw there is no split in front. -/
theorem sampleSplitWinnerFirst_of_failed {T : Type} {sample : WeightedIndex}
    {splits : List (VolumeSplit T)}
    (failed : ∀ index < (splits.map VolumeSplit.split).length,
      sample (splits.map VolumeSplit.split) ≠ some index) :
    sampleSplitWinnerFirst sample splits = .error volumeSplitFailed := by
  rw [sampleSplitWinnerFirst]
  cases drawn : sample (splits.map VolumeSplit.split) with
  | none => rfl
  | some index =>
      have outside : splits.length ≤ index := by
        by_contra inside
        exact failed index (by simpa using inside) drawn
      dsimp only
      rw [List.getElem?_eq_none outside]

/-- When the draw fails a split has no gateway. -/
theorem outputGateways_of_failed (isSplit : output.weights = some weights)
    (failed : ∀ index < weights.length, sample weights ≠ some index) :
    outputGateways sample output = [] := by
  cases output with
  | single connector => cases isSplit
  | priority connectors => cases isSplit
  | volumeSplit splits =>
      cases isSplit
      rw [outputGateways, evaluateOutput, performVolumeSplit,
        sampleSplitWinnerFirst_of_failed failed]
  | volumeSplitPriority splits =>
      cases isSplit
      rw [outputGateways, evaluateOutput, performVolumeSplitPriority,
        sampleSplitWinnerFirst_of_failed failed]
      rfl

/-- What is drawn is in front, unless the draw fails. -/
theorem front_or_failed (possible : PossibleDraw overflow sample)
    (isSplit : output.weights = some weights) :
    (∃ index, CanDraw overflow weights index ∧
        outputGateways sample output = frontGateways output index) ∨
      outputGateways sample output = [] ∧ ¬AlwaysDraws overflow weights := by
  by_cases succeeds : ∃ index < weights.length, sample weights = some index
  · obtain ⟨index, inRange, drawn⟩ := succeeds
    refine .inl ⟨index, ⟨inRange, ?_⟩, outputGateways_of_drawn isSplit drawn inRange⟩
    rw [← drawn]
    exact possible weights
  · refine .inr ⟨outputGateways_of_failed isSplit fun index inRange drawn =>
      succeeds ⟨index, inRange, drawn⟩, fun always => ?_⟩
    exact succeeds (always _ (possible weights))

/-- Some call puts a split in front that can be drawn. -/
theorem exists_sample_front (isSplit : output.weights = some weights)
    (canDraw : CanDraw overflow weights index) :
    ∃ sample, PossibleDraw overflow sample ∧
      outputGateways sample output = frontGateways output index := by
  obtain ⟨sample, possible, drawn⟩ := exists_possible canDraw.2
  exact ⟨sample, possible, outputGateways_of_drawn isSplit drawn canDraw.1⟩

/-- A split has a gateway by some draw when some draw succeeds and puts one in front. -/
theorem exists_outputGateways_iff {hasFront : Prop} (isSplit : output.weights = some weights)
    (fronts : ∀ index < weights.length, frontGateways output index ≠ [] ↔ hasFront) :
    (∃ sample, PossibleDraw overflow sample ∧ outputGateways sample output ≠ []) ↔
      (∃ index, CanDraw overflow weights index) ∧ hasFront := by
  constructor
  · rintro ⟨sample, possible, someGateway⟩
    rcases front_or_failed possible isSplit with ⟨index, canDraw, front⟩ | ⟨failed, -⟩
    · rw [front] at someGateway
      exact ⟨⟨index, canDraw⟩, (fronts index canDraw.1).mp someGateway⟩
    · exact absurd failed someGateway
  · rintro ⟨⟨index, canDraw⟩, isFront⟩
    obtain ⟨sample, possible, front⟩ := exists_sample_front isSplit canDraw
    refine ⟨sample, possible, ?_⟩
    rw [front]
    exact (fronts index canDraw.1).mpr isFront

/-- The draw of a split makes no difference when it never fails and no split in front makes
one. -/
theorem outputGateways_same_iff_fronts (isSplit : output.weights = some weights)
    (canDraw : ∃ index, CanDraw overflow weights index)
    (fronts : ∀ index < weights.length, frontGateways output index ≠ []) :
    (∀ first second, PossibleDraw overflow first → PossibleDraw overflow second →
      outputGateways first output = outputGateways second output) ↔
    AlwaysDraws overflow weights ∧
      ∀ first second, CanDraw overflow weights first → CanDraw overflow weights second →
        frontGateways output first = frontGateways output second := by
  constructor
  · intro same
    constructor
    · intro outcome isOutcome
      by_contra failed
      obtain ⟨index, drawn⟩ := canDraw
      obtain ⟨first, firstPossible, front⟩ := exists_sample_front isSplit drawn
      obtain ⟨second, secondPossible, isSecond⟩ := exists_possible isOutcome
      have nothing : outputGateways second output = [] := by
        apply outputGateways_of_failed isSplit
        intro other inRange isOther
        exact failed ⟨other, inRange, isSecond.symm.trans isOther⟩
      apply fronts index drawn.1
      rw [← front, same first second firstPossible secondPossible, nothing]
    · intro first second firstDrawn secondDrawn
      obtain ⟨_, firstPossible, firstFront⟩ := exists_sample_front isSplit firstDrawn
      obtain ⟨_, secondPossible, secondFront⟩ := exists_sample_front isSplit secondDrawn
      rw [← firstFront, ← secondFront]
      exact same _ _ firstPossible secondPossible
  · rintro ⟨always, alike⟩ first second firstPossible secondPossible
    have isFront : ∀ sample, PossibleDraw overflow sample → ∃ index,
        CanDraw overflow weights index ∧
          outputGateways sample output = frontGateways output index :=
      fun sample possible =>
        (front_or_failed possible isSplit).resolve_right fun failed => failed.2 always
    obtain ⟨firstIndex, firstDrawn, firstFront⟩ := isFront first firstPossible
    obtain ⟨secondIndex, secondDrawn, secondFront⟩ := isFront second secondPossible
    rw [firstFront, secondFront]
    exact alike _ _ firstDrawn secondDrawn

variable {splits : List (VolumeSplit ConnectorInfo)}

theorem frontGateways_volumeSplit_ne_nil (inRange : index < (splits.map VolumeSplit.split).length) :
    frontGateways (.volumeSplit splits) index ≠ [] := by
  rw [List.length_map] at inRange
  simp [frontGateways, withFront, inRange]

theorem frontGateways_ne_nil_iff {splits : List (VolumeSplit (List ConnectorInfo))}
    (inRange : index < (splits.map VolumeSplit.split).length) :
    frontGateways (.volumeSplitPriority splits) index ≠ [] ↔
      ∃ split ∈ splits, split.output ≠ [] := by
  rw [List.length_map] at inRange
  have everySplit : (withFront splits index).Perm splits := by
    rw [withFront, List.getElem?_eq_getElem inRange, Option.toList_some, List.singleton_append]
    exact List.getElem_cons_eraseIdx_perm inRange
  rw [frontGateways, ne_eq, List.map_eq_nil_iff, List.eq_nil_iff_forall_not_mem, not_forall]
  simp only [not_not, List.mem_eraseDups, List.mem_flatMap, everySplit.mem_iff]
  constructor
  · rintro ⟨connector, split, listed, isOutput⟩
    exact ⟨split, listed, List.ne_nil_of_mem isOutput⟩
  · rintro ⟨split, listed, someOutput⟩
    obtain ⟨connector, isOutput⟩ := List.exists_mem_of_ne_nil _ someOutput
    exact ⟨connector, split, listed, isOutput⟩

theorem exists_possibleDraw : ∃ sample, PossibleDraw overflow sample := by
  obtain ⟨outcome, isOutcome⟩ := @exists_outcome overflow []
  obtain ⟨sample, possible, -⟩ := exists_possible isOutcome
  exact ⟨sample, possible⟩

/-- Whether some draw leads to a gateway. -/
theorem exists_outputGateways_ne_nil_iff (output : Output) :
    (∃ sample, PossibleDraw overflow sample ∧ outputGateways sample output ≠ []) ↔
      HasGateway overflow output := by
  obtain ⟨sample, possible⟩ := @exists_possibleDraw overflow
  cases output with
  | single connector => exact iff_of_true ⟨sample, possible, List.cons_ne_nil _ _⟩ trivial
  | priority connectors =>
      have own : ∀ sample, outputGateways sample (.priority connectors) =
          connectors.map ConnectorInfo.gatewayName := fun _ => rfl
      simp only [own, ne_eq, List.map_eq_nil_iff, HasGateway]
      exact ⟨fun some => some.choose_spec.2, fun isSome => ⟨sample, possible, isSome⟩⟩
  | volumeSplit splits =>
      rw [exists_outputGateways_iff rfl fun index inRange =>
        iff_true_intro (frontGateways_volumeSplit_ne_nil inRange), and_true]
      rfl
  | volumeSplitPriority splits =>
      rw [exists_outputGateways_iff rfl fun index inRange => frontGateways_ne_nil_iff inRange]
      rfl

/-- Splits of one gateway each are alike in front when no gateway changes between them. -/
theorem frontGateways_alike_iff (splits : List (VolumeSplit ConnectorInfo)) :
    (∀ first second, CanDraw overflow (splits.map VolumeSplit.split) first →
      CanDraw overflow (splits.map VolumeSplit.split) second →
      frontGateways (.volumeSplit splits) first = frontGateways (.volumeSplit splits) second) ↔
    ∀ first last place, CanDraw overflow (splits.map VolumeSplit.split) first →
      CanDraw overflow (splits.map VolumeSplit.split) last → first ≤ place → place ≤ last →
      (splits.map fun split => split.output.gatewayName)[place]? =
        (splits.map fun split => split.output.gatewayName)[last]? := by
  have inRange : ∀ {index}, CanDraw overflow (splits.map VolumeSplit.split) index →
      index < (splits.map fun split => split.output.gatewayName).length := by
    intro index canDraw
    simpa using canDraw.1
  constructor
  · intro alike first last place firstDrawn lastDrawn above below
    exact (withFront_eq_iff (above.trans below) (inRange lastDrawn)).mp
      (alike first last firstDrawn lastDrawn) place above below
  · intro alike first second firstDrawn secondDrawn
    rcases le_total first second with ordered | ordered
    · exact (withFront_eq_iff ordered (inRange secondDrawn)).mpr fun place above below =>
        alike first second place firstDrawn secondDrawn above below
    · exact ((withFront_eq_iff ordered (inRange firstDrawn)).mpr fun place above below =>
        alike second first place secondDrawn firstDrawn above below).symm

/-- An output with a gateway leaves nothing to chance exactly when its splits are alike. -/
theorem outputGateways_same_iff (hasGateway : HasGateway overflow output) :
    (∀ first second, PossibleDraw overflow first → PossibleDraw overflow second →
      outputGateways first output = outputGateways second output) ↔
      SplitsAlike overflow output := by
  cases output with
  | single connector => exact iff_of_true (fun _ _ _ _ => rfl) trivial
  | priority connectors => exact iff_of_true (fun _ _ _ _ => rfl) trivial
  | volumeSplit splits =>
      rw [outputGateways_same_iff_fronts rfl hasGateway fun index inRange =>
        frontGateways_volumeSplit_ne_nil inRange, frontGateways_alike_iff]
      rfl
  | volumeSplitPriority splits =>
      rw [outputGateways_same_iff_fronts rfl hasGateway.1 fun index inRange =>
        (frontGateways_ne_nil_iff inRange).mpr hasGateway.2]
      rfl

/-! ## Arms that leave nothing to chance -/

/-- The output of the rule that a program selects, or its default. -/
def selectOutput (ctx : Context) (program : Program) :
    List Rule → Except InterpreterError (Option String × Output)
  | [] => .ok (none, program.defaultSelection)
  | rule :: rest =>
      match evalRule rule ctx program.globals with
      | .ok true => .ok (some rule.name, rule.output)
      | .ok false => selectOutput ctx program rest
      | .error failure => .error failure

theorem evalRules_eq_selectOutput (sample : WeightedIndex) (ctx : Context) (program : Program)
    (rules : List Rule) :
    evalRules sample ctx program.globals program.defaultSelection rules =
      match selectOutput ctx program rules with
      | .ok (ruleName, output) => backendOutput sample ruleName output
      | .error failure => .error failure := by
  induction rules with
  | nil => rfl
  | cons rule rest ih =>
      rw [evalRules, selectOutput]
      cases evalRule rule ctx program.globals with
      | error failure => rfl
      | ok holds =>
          cases holds with
          | true => rfl
          | false => exact ih

def StaticArmResult.gateways (result : StaticArmResult) : List String :=
  result.decidedGateway :: result.fallbackGateways

variable {ruleName : String}

theorem armResult_isSome_iff {gateways : List String} :
    (armResult ruleName gateways).isSome ↔ gateways ≠ [] := by
  cases gateways <;> simp [armResult]

/-- An answer has the gateways that it was made of. -/
theorem armResult_gateways_inj {first second : List String} :
    (armResult ruleName first).map StaticArmResult.gateways =
      (armResult ruleName second).map StaticArmResult.gateways ↔ first = second := by
  cases first <;> cases second <;> simp [armResult, StaticArmResult.gateways]

section StaticArms

variable [LetterCase]

/-- The output that an arm's program selects for a payment. -/
def armOutput (request : ArmRequest) (program : Program) :
    Except InterpreterError (Option String × Output) :=
  selectOutput (buildCardContext request) program program.rules

variable (overflow) in
/-- An arm that answers with some gateway, by some draw. -/
def ArmHasGateway (request : ArmRequest) : StaticRoutingAlgorithm → Prop
  | .single _ => True
  | .priority connectors => connectors ≠ []
  | .volumeSplit splits => totalWeight splits ≠ 0
  | .advanced program =>
      ∃ ruleName output, armOutput request program = .ok (ruleName, output) ∧
        HasGateway overflow output
  | .abTest _ _ _ => False

variable (overflow) in
/-- An arm whose program selects no output with splits that differ. -/
def ArmAlike (request : ArmRequest) : StaticRoutingAlgorithm → Prop
  | .advanced program =>
      ∀ ruleName output, armOutput request program = .ok (ruleName, output) →
        SplitsAlike overflow output
  | _ => True

variable {request : ArmRequest} {program : Program}

theorem evaluateStaticArm_advanced {ruleName : Option String} {output : Output}
    (selected : armOutput request program = .ok (ruleName, output)) (sample : WeightedIndex) :
    evaluateStaticArm sample (some (.advanced program)) request =
      armResult (ruleName.getD "ab_test_rule_based") (outputGateways sample output) := by
  rw [armOutput] at selected
  rw [evaluateStaticArm, evalProgram, evalRules_eq_selectOutput, selected]
  dsimp only
  rw [backendOutput, outputGateways]
  cases evaluateOutput sample output <;> rfl

theorem evaluateStaticArm_advanced_of_error {failure : InterpreterError}
    (failed : armOutput request program = .error failure) (sample : WeightedIndex) :
    evaluateStaticArm sample (some (.advanced program)) request = none := by
  rw [armOutput] at failed
  rw [evaluateStaticArm, evalProgram, evalRules_eq_selectOutput, failed]

/-- Whether some draw leads to an answer of the arm. -/
theorem exists_evaluateStaticArm_iff (algorithm : StaticRoutingAlgorithm) (request : ArmRequest) :
    (∃ sample, PossibleDraw overflow sample ∧
        (evaluateStaticArm sample (some algorithm) request).isSome) ↔
      ArmHasGateway overflow request algorithm := by
  obtain ⟨any, possible⟩ := @exists_possibleDraw overflow
  have undrawn : ∀ {answers : Prop},
      (∃ sample, PossibleDraw overflow sample ∧ answers) ↔ answers :=
    ⟨fun some => some.choose_spec.2, fun holds => ⟨any, possible, holds⟩⟩
  cases algorithm with
  | single connector => exact iff_of_true (undrawn.mpr rfl) trivial
  | priority connectors =>
      simp only [evaluateStaticArm, armResult_isSome_iff, undrawn, ArmHasGateway, ne_eq,
        List.map_eq_nil_iff]
  | volumeSplit splits =>
      simp only [evaluateStaticArm, Option.isSome_map, volumeSplitOutput_isSome_iff, undrawn,
        ArmHasGateway]
  | advanced program =>
      rw [ArmHasGateway]
      cases selected : armOutput request program with
      | error failure => simp [evaluateStaticArm_advanced_of_error selected]
      | ok choice =>
          obtain ⟨ruleName, output⟩ := choice
          simp only [evaluateStaticArm_advanced selected, armResult_isSome_iff,
            exists_outputGateways_ne_nil_iff]
          simp
  | abTest => simp [evaluateStaticArm, ArmHasGateway]

/-- An arm with a gateway always answers with the same ones exactly when its splits are
alike. -/
theorem evaluateStaticArm_same_iff {algorithm : StaticRoutingAlgorithm}
    (hasGateway : ArmHasGateway overflow request algorithm) :
    (∀ first second, PossibleDraw overflow first → PossibleDraw overflow second →
      (evaluateStaticArm first (some algorithm) request).map StaticArmResult.gateways =
        (evaluateStaticArm second (some algorithm) request).map StaticArmResult.gateways) ↔
    ArmAlike overflow request algorithm := by
  cases algorithm with
  | single connector => exact iff_of_true (fun _ _ _ _ => rfl) trivial
  | priority connectors => exact iff_of_true (fun _ _ _ _ => rfl) trivial
  | volumeSplit splits => exact iff_of_true (fun _ _ _ _ => rfl) trivial
  | abTest => exact hasGateway.elim
  | advanced program =>
      obtain ⟨ruleName, output, selected, outputHas⟩ := hasGateway
      have alike : ArmAlike overflow request (.advanced program) ↔
          SplitsAlike overflow output := by
        simp [ArmAlike, selected]
      rw [alike, ← outputGateways_same_iff outputHas]
      simp only [evaluateStaticArm_advanced selected, armResult_gateways_inj]

end StaticArms

/-! ## Two calls for one payment -/

/-- The percentage of the calls of a merchant that the feature lets in. -/
def rolloutOf [LetterCase] (conf : Option FeatureConf) (merchantId : String) : Int :=
  match conf with
  | none => 0
  | some conf =>
      if conf.enableAll then
        match conf.disableAny with
        | some disableAny => if disableAny.contains merchantId then 0 else 100
        | none => conf.enableAllRollout.getD 100
      else
        (((conf.merchants.getD []).find? fun merchant =>
          SameLetters merchant.merchantId merchantId).map MerchantFeature.rollout).getD 0

section Calls

variable [LetterCase] {F : Type}

theorem checkMerchantEnabled_iff {conf : Option FeatureConf} {merchantId : String} {draw : Int}
    (positive : 1 ≤ draw) (percent : draw ≤ 100) :
    checkMerchantEnabled conf merchantId draw = true ↔ draw ≤ rolloutOf conf merchantId := by
  cases conf with
  | none => simp [checkMerchantEnabled, rolloutOf]; omega
  | some conf =>
      rw [checkMerchantEnabled, rolloutOf]
      split
      · cases conf.disableAny with
        | some disableAny =>
            by_cases listed : merchantId ∈ disableAny
            · simp [listed]; omega
            · simp [listed, percent]
        | none =>
            cases conf.enableAllRollout with
            | none => simpa using percent
            | some rollout => simp [roller]
      · cases conf.merchants with
        | none => simp; omega
        | some merchants =>
            cases found : merchants.find? fun merchant =>
                SameLetters merchant.merchantId merchantId with
            | none => simp [found]; omega
            | some merchant => simp [found, roller]

/-- The arm that a call is assigned to, with the gateways of a static one in order. -/
def AbTestIntercept.chosen : AbTestIntercept F → Option (Arm × Option (List String))
  | .disabled => none
  | .srArm _ variantArm _ => some (variantArm, none)
  | .staticArm result _ variantArm => some (variantArm, some result.gateways)

variable (overflow) in
/-- Every two calls for a payment come to the same arm, and to the same gateways in the same
order. -/
def Sticky (store : ExperimentStore F) (request : ArmRequest) : Prop :=
  ∀ firstDraw secondDraw, 1 ≤ firstDraw → firstDraw ≤ 100 → 1 ≤ secondDraw → secondDraw ≤ 100 →
    ∀ firstSample secondSample, PossibleDraw overflow firstSample →
      PossibleDraw overflow secondSample →
      (intercept firstDraw firstSample store request).chosen =
        (intercept secondDraw secondSample store request).chosen

/-- The algorithm of the arm that a payment is assigned to. -/
def armAlgorithm (store : ExperimentStore F) (request : ArmRequest)
    (config : AbTestConfig F) : Option StaticRoutingAlgorithm :=
  (store.algorithms
    (config.algorithmId (assignArm request.paymentId config.variantSplitPct))).map
    StoredAlgorithm.algorithm

def IsSrArm (request : ArmRequest) (config : AbTestConfig F) : Prop :=
  config.algorithmId (assignArm request.paymentId config.variantSplitPct) = srRouting

variable (overflow) in
/-- The merchant has an experiment, and the arm of the payment answers by some draw. -/
def HasArm (store : ExperimentStore F) (request : ArmRequest) : Prop :=
  ∃ config, loadActiveAbTest store request.merchantId = some config ∧
    (IsSrArm request config ∨ ∃ algorithm, armAlgorithm store request config = some algorithm ∧
      ArmHasGateway overflow request algorithm)

variable (overflow) in
/-- The arm of the payment leaves nothing to chance. -/
def HasArmAlike (store : ExperimentStore F) (request : ArmRequest) : Prop :=
  ∀ config algorithm, loadActiveAbTest store request.merchantId = some config →
    ¬IsSrArm request config → armAlgorithm store request config = some algorithm →
    ArmAlike overflow request algorithm

variable {store : ExperimentStore F} {request : ArmRequest} {config : AbTestConfig F}

theorem chosen_interceptArm_of_sr (isSr : IsSrArm request config) (sample : WeightedIndex) :
    (interceptArm sample store request config).chosen =
      some (assignArm request.paymentId config.variantSplitPct, none) := by
  rw [IsSrArm] at isSr
  rw [interceptArm, if_pos isSr]
  rfl

theorem chosen_interceptArm_of_static (notSr : ¬IsSrArm request config) (sample : WeightedIndex) :
    (interceptArm sample store request config).chosen =
      ((evaluateStaticArm sample (armAlgorithm store request config) request).map
        StaticArmResult.gateways).map fun gateways =>
          (assignArm request.paymentId config.variantSplitPct, some gateways) := by
  rw [IsSrArm] at notSr
  rw [interceptArm, if_neg notSr, ← armAlgorithm]
  cases evaluateStaticArm sample (armAlgorithm store request config) request <;> rfl

/-- What a call comes to that is let in. -/
def letIn (sample : WeightedIndex) (store : ExperimentStore F) (request : ArmRequest) :
    Option (Arm × Option (List String)) :=
  (loadActiveAbTest store request.merchantId).bind fun config =>
    (interceptArm sample store request config).chosen

theorem chosen_intercept {draw : Int} (positive : 1 ≤ draw) (percent : draw ≤ 100)
    (sample : WeightedIndex) :
    (intercept draw sample store request).chosen =
      if draw ≤ rolloutOf store.featureConf request.merchantId then letIn sample store request
      else none := by
  rw [intercept, letIn]
  simp only [checkMerchantEnabled_iff positive percent]
  split
  · cases loadActiveAbTest store request.merchantId <;> rfl
  · rfl

/-- Whether some call comes to an arm. -/
theorem exists_letIn_iff (store : ExperimentStore F) (request : ArmRequest) :
    (∃ sample, PossibleDraw overflow sample ∧ (letIn sample store request).isSome) ↔
      HasArm overflow store request := by
  obtain ⟨any, possible⟩ := @exists_possibleDraw overflow
  simp only [letIn, HasArm]
  cases loadActiveAbTest store request.merchantId with
  | none => simp
  | some config =>
      simp only [Option.bind_some, Option.some.injEq, exists_eq_left']
      by_cases isSr : IsSrArm request config
      · simp only [chosen_interceptArm_of_sr isSr, isSr, true_or, Option.isSome_some, and_true,
          iff_true]
        exact ⟨any, possible⟩
      · simp only [chosen_interceptArm_of_static isSr, Option.isSome_map, isSr, false_or]
        cases found : armAlgorithm store request config with
        | none => simp [evaluateStaticArm]
        | some algorithm => simp [exists_evaluateStaticArm_iff]

/-- Calls that are let in come to the same exactly when the arm leaves nothing to chance. -/
theorem letIn_same_iff (hasArm : HasArm overflow store request) :
    (∀ first second, PossibleDraw overflow first → PossibleDraw overflow second →
      letIn first store request = letIn second store request) ↔
      HasArmAlike overflow store request := by
  obtain ⟨config, loaded, arm⟩ := hasArm
  by_cases isSr : IsSrArm request config
  · refine iff_of_true ?_ ?_
    · intro first second _ _
      rw [letIn, letIn, loaded, Option.bind_some, Option.bind_some,
        chosen_interceptArm_of_sr isSr, chosen_interceptArm_of_sr isSr]
    · intro other algorithm otherLoaded notSr
      rw [loaded, Option.some.injEq] at otherLoaded
      exact absurd (otherLoaded ▸ isSr) notSr
  · obtain ⟨algorithm, found, hasGateway⟩ := arm.resolve_left isSr
    have alike : HasArmAlike overflow store request ↔ ArmAlike overflow request algorithm := by
      constructor
      · intro everyAlike
        exact everyAlike config algorithm loaded isSr found
      · intro thisAlike other otherAlgorithm otherLoaded _ otherFound
        rw [loaded, Option.some.injEq] at otherLoaded
        rw [← otherLoaded, found, Option.some.injEq] at otherFound
        exact otherFound ▸ thisAlike
    have answers : ∀ sample, letIn sample store request =
        ((evaluateStaticArm sample (some algorithm) request).map StaticArmResult.gateways).map
          fun gateways => (assignArm request.paymentId config.variantSplitPct, some gateways) := by
      intro sample
      rw [letIn, loaded, Option.bind_some, chosen_interceptArm_of_static isSr, found]
    have injective : Function.Injective fun gateways : List String =>
        (assignArm request.paymentId config.variantSplitPct, some gateways) := by
      intro first second same
      simpa using same
    rw [alike, ← evaluateStaticArm_same_iff hasGateway]
    simp only [answers, (Option.map_injective injective).eq_iff]

/-- Calls are sticky exactly when none is let in, none comes to an arm, or all are let in and
the arm leaves nothing to chance. -/
theorem sticky_iff (overflow : OverflowDraws) (store : ExperimentStore F) (request : ArmRequest) :
    Sticky overflow store request ↔
      rolloutOf store.featureConf request.merchantId ≤ 0 ∨ ¬HasArm overflow store request ∨
        (100 ≤ rolloutOf store.featureConf request.merchantId ∧
          HasArmAlike overflow store request) := by
  constructor
  · intro sticky
    by_cases never : rolloutOf store.featureConf request.merchantId ≤ 0
    · exact .inl never
    by_cases hasArm : HasArm overflow store request
    · obtain ⟨sample, possible, arrived⟩ := (exists_letIn_iff store request).mpr hasArm
      refine .inr (.inr ⟨?_, (letIn_same_iff hasArm).mp ?_⟩)
      · by_contra rolled
        have same := sticky 1 100 le_rfl (by decide) (by decide) le_rfl sample sample possible
          possible
        rw [chosen_intercept le_rfl (by decide), chosen_intercept (by decide) le_rfl,
          if_pos (by omega), if_neg rolled] at same
        simp [same] at arrived
      · intro first second firstPossible secondPossible
        have same := sticky 1 1 le_rfl (by decide) le_rfl (by decide) first second
          firstPossible secondPossible
        rwa [chosen_intercept le_rfl (by decide), chosen_intercept le_rfl (by decide),
          if_pos (by omega), if_pos (by omega)] at same
    · exact .inr (.inl hasArm)
  · intro condition firstDraw secondDraw firstPositive firstPercent secondPositive secondPercent
      firstSample secondSample firstPossible secondPossible
    rw [chosen_intercept firstPositive firstPercent,
      chosen_intercept secondPositive secondPercent]
    by_cases hasArm : HasArm overflow store request
    · rcases condition with never | noArm | ⟨always, alike⟩
      · rw [if_neg (by omega), if_neg (by omega)]
      · exact absurd hasArm noArm
      · rw [if_pos (by omega), if_pos (by omega)]
        exact (letIn_same_iff hasArm).mpr alike firstSample secondSample firstPossible
          secondPossible
    · have nowhere : ∀ sample, PossibleDraw overflow sample →
          letIn sample store request = none := by
        intro sample possible
        by_contra arrived
        exact hasArm ((exists_letIn_iff store request).mp
          ⟨sample, possible, Option.ne_none_iff_isSome.mp arrived⟩)
      rw [nowhere firstSample firstPossible, nowhere secondSample secondPossible, ite_self,
        ite_self]

end Calls

/-! ## A payment that changes its gateway -/

/-- Half of the payments to each of two gateways. -/
def halvedProgram : Program where
  globals := fun _ => none
  defaultSelection := .volumeSplit [⟨50, ⟨"adyen", none⟩⟩, ⟨50, ⟨"stripe", none⟩⟩]
  rules := []

/-- An experiment for everybody, both of whose arms are that program. -/
def halvedStore : ExperimentStore Int where
  featureConf := some ⟨true, none, none, none⟩
  mappers := [⟨"m1", "experiment"⟩]
  algorithms := fun id =>
    if id = "experiment" then some ⟨.abTest "halves" "halves" 50, none, none⟩
    else if id = "halves" then some ⟨.advanced halvedProgram, none, none⟩
    else none

local instance stickyCase : LetterCase := LetterCase.ascii

/-- A sampler that draws nothing from weights whose sum is no byte. -/
def noOverflowDraws : OverflowDraws :=
  ⟨fun _ outcome => outcome = none, fun _ => ⟨none, rfl⟩⟩

/-- The sampler that draws a certain split of the halves. -/
def halving (index : ℕ) : WeightedIndex := fun weights =>
  if weights = [50, 50] then some index else firstPositive weights

theorem possibleDraw_halving (isHalf : index < 2) :
    PossibleDraw noOverflowDraws (halving index) := by
  intro weights
  by_cases halves : weights = [50, 50]
  · have valid : ValidWeights [50, 50] := by decide
    have half : [50, 50][index]? = some (50 : UInt8) :=
      match index, isHalf with
      | 0, _ => rfl
      | 1, _ => rfl
    rw [halving, if_pos halves, Outcome, halves, if_pos valid]
    exact ⟨index, rfl, 50, half, by decide⟩
  · rw [halving, if_neg halves, firstPositive, Outcome]
    by_cases valid : ValidWeights weights
    · obtain ⟨weight, listed, nonzero⟩ := valid.2.1
      have inRange : weights.findIdx (· ≠ 0) < weights.length :=
        List.findIdx_lt_length.mpr ⟨weight, listed, decide_eq_true nonzero⟩
      rw [if_pos valid, if_pos valid]
      exact ⟨_, rfl, _, List.getElem?_eq_getElem inRange,
        of_decide_eq_true (List.findIdx_getElem (w := inRange))⟩
    · rw [if_neg valid, if_neg valid]
      split
      · rfl
      · rfl

theorem sticky_counterexample :
    ¬Sticky noOverflowDraws halvedStore ⟨"m1", "pay_1", "CARD", "CARD", some "CREDIT"⟩ := by
  intro sticky
  have same := sticky 1 1 le_rfl (by decide) le_rfl (by decide) (halving 0) (halving 1)
    (possibleDraw_halving (by decide)) (possibleDraw_halving (by decide))
  revert same
  decide +kernel

end DecisionEngine.AbTest
