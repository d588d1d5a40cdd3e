import DecisionEngine.Euclid.Acceptance
import DecisionEngine.Euclid.PmFilterGraph
import DecisionEngine.Search.FirstBest
import Mathlib.Algebra.GroupWithZero.Nat
import Mathlib.Data.List.Perm.Basic

/-!
# Outputs of accepted rules

A rule is accepted by its comparisons alone.  Its outputs are not looked at, although a split
can be sampled only from weights that are not all zero and whose sum is a byte.
-/

namespace DecisionEngine.Euclid

open DecisionEngine.Euclid.PmFilter Search

/-! ## Weights that can be sampled -/

/-- There is a weight to draw by, and the sum of the weights is a byte. -/
def ValidWeights (weights : List UInt8) : Prop :=
  weights ≠ [] ∧ (∃ weight ∈ weights, weight ≠ 0) ∧
    (weights.map UInt8.toNat).sum < UInt8.size

instance (weights : List UInt8) : Decidable (ValidWeights weights) :=
  inferInstanceAs (Decidable (_ ∧ _ ∧ _))

/-- A sampler draws one of the weights, and only from weights that can be sampled. -/
structure WeightedIndex.Lawful (sample : WeightedIndex) : Prop where
  isSome_iff : ∀ weights, (sample weights).isSome ↔ ValidWeights weights
  lt_length : ∀ weights index, sample weights = some index → index < weights.length

/-- The sampler that draws the first weight that is not zero. -/
def firstPositive : WeightedIndex := fun weights =>
  if ValidWeights weights then some (weights.findIdx (· ≠ 0)) else none

theorem firstPositive_lawful : WeightedIndex.Lawful firstPositive := by
  constructor
  · intro weights
    by_cases valid : ValidWeights weights
    · simp [firstPositive, valid]
    · simp [firstPositive, valid]
  · intro weights index drawn
    by_cases valid : ValidWeights weights
    · simp only [firstPositive, if_pos valid, Option.some.injEq] at drawn
      rcases valid.2.1 with ⟨weight, present, positive⟩
      rw [← drawn, List.findIdx_lt_length]
      exact ⟨weight, present, by simpa using positive⟩
    · simp [firstPositive, valid] at drawn

/-! ## Outputs that evaluate -/

/-- The weights of a split can be sampled. -/
def Output.ValidSplits : Output → Prop
  | .single _ => True
  | .priority _ => True
  | .volumeSplit splits => ValidWeights (splits.map VolumeSplit.split)
  | .volumeSplitPriority splits => ValidWeights (splits.map VolumeSplit.split)

def Evaluates (sample : WeightedIndex) (output : Output) : Prop :=
  ∃ connectors, evaluateOutput sample output = .ok connectors

section Sampling

variable {sample : WeightedIndex}

theorem sampleSplitWinnerFirst_eq_ok {T : Type} {splits : List (VolumeSplit T)} {index : Nat}
    (drawn : sample (splits.map VolumeSplit.split) = some index)
    (inRange : index < splits.length) :
    sampleSplitWinnerFirst sample splits =
      .ok (splits[index].output :: (splits.eraseIdx index).map VolumeSplit.output) := by
  rw [sampleSplitWinnerFirst, drawn]
  dsimp only
  rw [List.getElem?_eq_getElem inRange]
  rfl

theorem sampleSplitWinnerFirst_iff {T : Type} (lawful : sample.Lawful)
    (splits : List (VolumeSplit T)) :
    (∃ outputs, sampleSplitWinnerFirst sample splits = .ok outputs) ↔
      ValidWeights (splits.map VolumeSplit.split) := by
  rw [← lawful.isSome_iff, Option.isSome_iff_exists]
  constructor
  · rintro ⟨outputs, evaluated⟩
    cases drawn : sample (splits.map VolumeSplit.split) with
    | none => simp [sampleSplitWinnerFirst, drawn] at evaluated
    | some index => exact ⟨index, rfl⟩
  · rintro ⟨index, drawn⟩
    have inRange := lawful.lt_length _ _ drawn
    rw [List.length_map] at inRange
    exact ⟨_, sampleSplitWinnerFirst_eq_ok drawn inRange⟩

theorem evaluates_iff (lawful : sample.Lawful) (output : Output) :
    Evaluates sample output ↔ output.ValidSplits := by
  cases output with
  | single connector => exact ⟨fun _ => trivial, fun _ => ⟨_, rfl⟩⟩
  | priority connectors => exact ⟨fun _ => trivial, fun _ => ⟨_, rfl⟩⟩
  | volumeSplit splits => exact sampleSplitWinnerFirst_iff lawful splits
  | volumeSplitPriority splits =>
      rw [Output.ValidSplits, ← sampleSplitWinnerFirst_iff lawful splits, Evaluates,
        evaluateOutput, performVolumeSplitPriority]
      cases sampleSplitWinnerFirst sample splits with
      | error failure => simp [Except.map]
      | ok outputs => simp [Except.map]

end Sampling

/-! ## Rules -/

/-- The outputs that the evaluation of a rule may end with.  An experiment has none of its
own. -/
def RoutingRule.outputs (rule : RoutingRule) : List Output :=
  match rule.algorithm with
  | .single connector => [.single connector]
  | .priority connectors => [.priority connectors]
  | .volumeSplit splits => [.volumeSplit splits]
  | .advanced program => program.defaultSelection :: program.rules.map Rule.output
  | .abTest _ _ _ => []

/-- The outputs of an accepted rule evaluate exactly when all of its splits can be sampled. -/
theorem outputs_evaluate_iff_validSplits {externals : Externals} {rule : RoutingRule}
    {config : TomlConfig} {sample : WeightedIndex} (lawful : sample.Lawful)
    (_accepted : Accepted externals rule config) :
    (∀ output ∈ rule.outputs, Evaluates sample output) ↔
      ∀ output ∈ rule.outputs, output.ValidSplits :=
  forall₂_congr fun output _ => evaluates_iff lawful output

/-- Splits the volume of every payment between two connectors that both weigh nothing. -/
def weightlessRule : RoutingRule :=
  ⟨"weightless", "merchant", .advanced
    { globals := fun _ => none
      defaultSelection := .volumeSplit [⟨0, ⟨"stripe", none⟩⟩, ⟨0, ⟨"adyen", none⟩⟩]
      rules := [] }⟩

/-- Splits the volume of every payment between two connectors. -/
def evenRule : RoutingRule :=
  ⟨"even", "merchant", .volumeSplit [⟨50, ⟨"stripe", none⟩⟩, ⟨50, ⟨"adyen", none⟩⟩]⟩

theorem outputs_evaluate_iff_validSplits_even :
    (∀ output ∈ evenRule.outputs, Evaluates firstPositive output) ↔
      ∀ output ∈ evenRule.outputs, output.ValidSplits := by
  have accepted : Accepted literalExternals evenRule issuerConfig := ⟨.success, rfl, rfl⟩
  exact outputs_evaluate_iff_validSplits firstPositive_lawful accepted

/-- The rule is accepted, and no payment can be routed by it. -/
theorem not_evaluates_weightlessRule :
    Accepted literalExternals weightlessRule issuerConfig ∧
      ¬∀ output ∈ weightlessRule.outputs, Evaluates firstPositive output := by
  refine ⟨⟨.success, rfl, rfl⟩, ?_⟩
  intro evaluate
  rcases evaluate _ List.mem_cons_self with ⟨connectors, evaluated⟩
  cases evaluated

/-! ## Connectors of split outputs

A split is evaluated by moving the split that was drawn to the front.  The connectors of the
output are then asked for their eligibility, and the evaluated ones are narrowed to those that
are eligible.
-/

/-! ## Eligibility -/

/-- Every connector of an output once. -/
def extractConnectorsForEligibility : Output → List ConnectorInfo
  | .single connector => pushUnique [] connector
  | .priority priorityConnectors => priorityConnectors.foldl pushUnique []
  | .volumeSplit splits =>
      splits.foldl (fun connectors split => pushUnique connectors split.output) []
  | .volumeSplitPriority splits =>
      splits.foldl (fun connectors split => split.output.foldl pushUnique connectors) []

variable (bundle : Option PmFilterGraphBundle)

def applyPmFilterEligibility (fuel : Nat) (parameters : Context)
    (eligibleConnectors : List ConnectorInfo) :
    Option (List ConnectorInfo) :=
  match bundle with
  | none => some eligibleConnectors
  | some bundle => filterEligibleConnectors bundle fuel parameters eligibleConnectors

def eligibilityForOutput (fuel : Nat) (parameters : Context) (connectors : List ConnectorInfo) :
    Option (List ConnectorInfo) :=
  if !hasPaymentMethodType parameters then some connectors
  else applyPmFilterEligibility bundle fuel parameters connectors

def narrowEvaluatedOutputToEligible (evaluatedOutput eligibleConnectors : List ConnectorInfo) :
    List ConnectorInfo :=
  evaluatedOutput.filter fun connector => eligibleConnectors.contains connector

/-- The eligibility of one connector. -/
def isEligible (fuel : Nat) (parameters : Context) (connector : ConnectorInfo) : Bool :=
  !hasPaymentMethodType parameters ||
    bundle.all fun bundle =>
      (buildPmFilterContext parameters bundle.billingCountryToIso2).all fun baseCtx =>
        connectorIsEligible bundle fuel baseCtx connector == some true

theorem filterConnectors_eq_some {eligible : ConnectorInfo → Option Bool}
    {connectors kept : List ConnectorInfo}
    (returned : filterConnectors eligible connectors = some kept) :
    kept = connectors.filter fun connector => eligible connector == some true := by
  induction connectors generalizing kept with
  | nil =>
      cases returned
      rfl
  | cons connector rest ih =>
      rw [filterConnectors] at returned
      split at returned
      · next answer restKept =>
          cases returned
          simp [answer, ← ih restKept]
      · next answer restKept =>
          cases returned
          simp [answer, ← ih restKept]
      · cases returned

variable {parameters : Context}

/-- The eligible connectors of a list are those that are eligible one by one. -/
theorem eligibilityForOutput_eq_filter {bundle : Option PmFilterGraphBundle} {fuel : Nat}
    {connectors eligible : List ConnectorInfo}
    (returned : eligibilityForOutput bundle fuel parameters connectors = some eligible) :
    eligible = connectors.filter (isEligible bundle fuel parameters) := by
  have all : connectors = connectors.filter fun _ => true := by simp
  rw [eligibilityForOutput] at returned
  unfold isEligible
  split at returned
  · next noType =>
      cases returned
      simp [noType]
  · next hasType =>
      simp only [Bool.not_eq_true', Bool.not_eq_false] at hasType
      cases bundle with
      | none =>
          cases returned
          simp
      | some bundle =>
          change filterEligibleConnectors bundle fuel parameters connectors = _ at returned
          rw [filterEligibleConnectors] at returned
          simp only [hasType, Bool.not_true, Bool.false_or, Option.all_some]
          split at returned
          · next noContext =>
              cases returned
              simp [noContext]
          · next baseCtx context =>
              simpa [context] using filterConnectors_eq_some returned

/-! ## Connectors of an output -/

def Output.connectors : Output → List ConnectorInfo
  | .single connector => [connector]
  | .priority connectors => connectors
  | .volumeSplit splits => splits.map VolumeSplit.output
  | .volumeSplitPriority splits => splits.flatMap VolumeSplit.output

theorem extractConnectorsForEligibility_eq (output : Output) :
    extractConnectorsForEligibility output = output.connectors.eraseDups := by
  rw [← foldl_pushUnique_nil]
  cases output with
  | single connector => rfl
  | priority connectors => rfl
  | volumeSplit splits => rw [Output.connectors, List.foldl_map, extractConnectorsForEligibility]
  | volumeSplitPriority splits =>
      rw [Output.connectors, List.foldl_flatMap, extractConnectorsForEligibility]

/-- What an evaluated output is narrowed to. -/
structure NarrowsTo (output : Output) (evaluated eligible : List ConnectorInfo)
    (eligibleAlone : ConnectorInfo → Bool) (narrowed : List ConnectorInfo) : Prop where
  eligible_iff : ∀ connector,
    connector ∈ eligible ↔ connector ∈ output.connectors ∧ eligibleAlone connector = true
  filtered : narrowed = evaluated.filter eligibleAlone
  sublist : narrowed.Sublist evaluated
  count_eq : ∀ connector, narrowed.count connector =
    if connector ∈ eligible then evaluated.count connector else 0

/-- Narrowing keeps the evaluated connectors that are eligible, each as often as it was there
and in its order. -/
theorem narrowEvaluatedOutputToEligible_narrowsTo {bundle : Option PmFilterGraphBundle}
    {fuel : Nat} {parameters : Context} {output : Output}
    {evaluated eligible : List ConnectorInfo}
    (fromOutput : ∀ connector ∈ evaluated, connector ∈ output.connectors)
    (returned : eligibilityForOutput bundle fuel parameters
      (extractConnectorsForEligibility output) = some eligible) :
    NarrowsTo output evaluated eligible (isEligible bundle fuel parameters)
      (narrowEvaluatedOutputToEligible evaluated eligible) := by
  have isFilter := eligibilityForOutput_eq_filter returned
  rw [extractConnectorsForEligibility_eq] at isFilter
  have eligible_iff : ∀ connector, connector ∈ eligible ↔
      connector ∈ output.connectors ∧ isEligible bundle fuel parameters connector = true := by
    intro connector
    rw [isFilter, List.mem_filter, List.mem_eraseDups]
  refine ⟨eligible_iff, ?_, List.filter_sublist, ?_⟩
  · apply List.filter_congr
    intro connector isEvaluated
    have present := fromOutput connector isEvaluated
    rw [Bool.eq_iff_iff, List.contains_iff_mem, eligible_iff]
    simp [present]
  · intro connector
    rw [narrowEvaluatedOutputToEligible]
    split
    · next present => exact List.count_filter (by simpa using present)
    · next absent =>
        rw [List.count_eq_zero, List.mem_filter]
        rintro ⟨-, present⟩
        exact absent (by simpa using present)

/-! ## The winner of a split -/

/-- The connectors of a volume split, the winner's first and the others in their order. -/
structure SplitWinnerFirst (splits : List (VolumeSplit ConnectorInfo)) (index : Nat)
    (evaluated : List ConnectorInfo) : Prop where
  winner : ∃ winner, splits[index]? = some winner ∧ evaluated.head? = some winner.output
  others : evaluated.tail = (splits.eraseIdx index).map VolumeSplit.output
  perm : evaluated.Perm (splits.map VolumeSplit.output)

/-- The connectors of a priority split once each, those of the winner first and the others in
their order. -/
structure PriorityWinnerFirst (splits : List (VolumeSplit (List ConnectorInfo))) (index : Nat)
    (evaluated : List ConnectorInfo) : Prop where
  winner : ∃ winner, splits[index]? = some winner ∧
    evaluated = winner.output.eraseDups ++
      (((splits.eraseIdx index).flatMap VolumeSplit.output).removeAll winner.output).eraseDups ∧
    (winner.output.Nodup → winner.output <+: evaluated)
  mem_iff : ∀ connector, connector ∈ evaluated ↔
    ∃ split ∈ splits, connector ∈ split.output
  nodup : evaluated.Nodup

variable {sample : WeightedIndex} {index : Nat}

theorem performVolumeSplit_winnerFirst {splits : List (VolumeSplit ConnectorInfo)}
    (drawn : sample (splits.map VolumeSplit.split) = some index) (inRange : index < splits.length) :
    ∃ evaluated, performVolumeSplit sample splits = .ok evaluated ∧
      SplitWinnerFirst splits index evaluated := by
  refine ⟨_, sampleSplitWinnerFirst_eq_ok drawn inRange, ?_, rfl, ?_⟩
  · exact ⟨splits[index], List.getElem?_eq_getElem inRange, rfl⟩
  · exact (List.getElem_cons_eraseIdx_perm inRange).map VolumeSplit.output

theorem performVolumeSplitPriority_winnerFirst {splits : List (VolumeSplit (List ConnectorInfo))}
    (drawn : sample (splits.map VolumeSplit.split) = some index) (inRange : index < splits.length) :
    ∃ evaluated, performVolumeSplitPriority sample splits = .ok evaluated ∧
      PriorityWinnerFirst splits index evaluated := by
  have evaluates : performVolumeSplitPriority sample splits =
      .ok ((splits[index].output ++
        (splits.eraseIdx index).flatMap VolumeSplit.output).eraseDups) := by
    rw [performVolumeSplitPriority, sampleSplitWinnerFirst_eq_ok drawn inRange,
      ← foldl_pushUnique_nil, List.flatMap_def]
    rfl
  refine ⟨_, evaluates, ?_, ?_, nodup_eraseDups _⟩
  · refine ⟨splits[index], List.getElem?_eq_getElem inRange, List.eraseDups_append, ?_⟩
    intro unique
    rw [List.eraseDups_append, eraseDups_eq_self unique]
    exact List.prefix_append _ _
  · intro connector
    rw [List.mem_eraseDups, ← List.flatMap_cons, List.mem_flatMap]
    simp only [(List.getElem_cons_eraseIdx_perm inRange).mem_iff]

/-- The weights of a split output. -/
def Output.weights : Output → Option (List UInt8)
  | .volumeSplit splits => some (splits.map VolumeSplit.split)
  | .volumeSplitPriority splits => some (splits.map VolumeSplit.split)
  | _ => none

/-- The winner of a split output is first in what it evaluates to. -/
def WinnerFirst (index : Nat) (evaluated : List ConnectorInfo) : Output → Prop
  | .volumeSplit splits => SplitWinnerFirst splits index evaluated
  | .volumeSplitPriority splits => PriorityWinnerFirst splits index evaluated
  | _ => False

theorem WinnerFirst.mem_connectors {evaluated : List ConnectorInfo} {output : Output}
    (first : WinnerFirst index evaluated output) {connector : ConnectorInfo}
    (isEvaluated : connector ∈ evaluated) : connector ∈ output.connectors := by
  cases output with
  | single connector => exact first.elim
  | priority connectors => exact first.elim
  | volumeSplit splits => exact first.perm.mem_iff.mp isEvaluated
  | volumeSplitPriority splits =>
      exact List.mem_flatMap.mpr ((first.mem_iff connector).mp isEvaluated)

/-- A split output evaluates to all of its connectors with those of the winner first, and is
narrowed to the eligible ones in that order. -/
theorem evaluateOutput_winnerFirst_narrowsTo {sample : WeightedIndex} {output : Output}
    {weights : List UInt8} {index : Nat} (isSplit : output.weights = some weights)
    (drawn : sample weights = some index) (inRange : index < weights.length) :
    ∃ evaluated, evaluateOutput sample output = .ok evaluated ∧
      WinnerFirst index evaluated output ∧
      ∀ bundle fuel parameters eligible,
        eligibilityForOutput bundle fuel parameters (extractConnectorsForEligibility output) =
          some eligible →
        NarrowsTo output evaluated eligible (isEligible bundle fuel parameters)
          (narrowEvaluatedOutputToEligible evaluated eligible) := by
  have evaluates : ∃ evaluated, evaluateOutput sample output = .ok evaluated ∧
      WinnerFirst index evaluated output := by
    cases output with
    | single connector => cases isSplit
    | priority connectors => cases isSplit
    | volumeSplit splits =>
        cases isSplit
        rw [List.length_map] at inRange
        exact performVolumeSplit_winnerFirst drawn inRange
    | volumeSplitPriority splits =>
        cases isSplit
        rw [List.length_map] at inRange
        exact performVolumeSplitPriority_winnerFirst drawn inRange
  rcases evaluates with ⟨evaluated, isOk, first⟩
  refine ⟨evaluated, isOk, first, ?_⟩
  intro bundle fuel parameters eligible returned
  exact narrowEvaluatedOutputToEligible_narrowsTo (fun _ => first.mem_connectors) returned

/-- Two lists of connectors, one of which names a connector twice. -/
def repeatingSplits : List (VolumeSplit (List ConnectorInfo)) :=
  [⟨60, [⟨"stripe", none⟩, ⟨"stripe", none⟩]⟩, ⟨40, [⟨"adyen", none⟩]⟩]

theorem evaluateOutput_winnerFirst_narrowsTo_repeating :
    ∃ evaluated, evaluateOutput firstPositive (.volumeSplitPriority repeatingSplits) =
        .ok evaluated ∧
      WinnerFirst 0 evaluated (.volumeSplitPriority repeatingSplits) ∧
      ∀ bundle fuel parameters eligible,
        eligibilityForOutput bundle fuel parameters
          (extractConnectorsForEligibility (.volumeSplitPriority repeatingSplits)) =
          some eligible →
        NarrowsTo (.volumeSplitPriority repeatingSplits) evaluated eligible
          (isEligible bundle fuel parameters)
          (narrowEvaluatedOutputToEligible evaluated eligible) := by
  have isSplit : Output.weights (.volumeSplitPriority repeatingSplits) = some [60, 40] := rfl
  exact evaluateOutput_winnerFirst_narrowsTo isSplit (by decide) (by decide)

/-- A connector that the winner names twice is there once, so that the winner's list is not a
prefix. -/
theorem not_prefix_repeatingSplits :
    evaluateOutput firstPositive (.volumeSplitPriority repeatingSplits) =
        .ok [⟨"stripe", none⟩, ⟨"adyen", none⟩] ∧
      repeatingSplits.head?.map VolumeSplit.output = some [⟨"stripe", none⟩, ⟨"stripe", none⟩] ∧
      ¬[⟨"stripe", none⟩, ⟨"stripe", none⟩] <+:
        ([⟨"stripe", none⟩, ⟨"adyen", none⟩] : List ConnectorInfo) := by
  refine ⟨rfl, rfl, by decide⟩

end DecisionEngine.Euclid
