import DecisionEngine.Euclid.Cgraph
import DecisionEngine.Euclid.Interpreter

/-!
# Agreement of the two evaluators

The constraint graph and the interpreter each have a table of truth values for
a context value, an operator and a literal.  On the combinations that both
support the tables differ in one cell only, inequality of strings.

The evaluators differ in a second way that the tables do not show: the
interpreter looks a metadata literal up under its own key before it looks at
the left-hand side, while a clause of the graph is always read under its key.
-/

namespace DecisionEngine.Euclid

open Cgraph

namespace Comparison

/-- The clause of a constraint graph that states the same comparison. -/
def toClause (comparison : Comparison) : Clause :=
  ⟨comparison.lhs, comparison.comparison, comparison.value⟩

/-- Whenever both evaluators answer, the answers are equal. -/
def EvaluatorsAgree (comparison : Comparison) (strength : Strength) (ctx : Context)
    (globals : Globals) : Prop :=
  ∀ graphAnswer answer,
    (CheckCtx.ofParameters ctx).check (.value comparison.toClause) strength = .ok graphAnswer →
    evalComparison comparison ctx globals = .ok answer →
    graphAnswer = answer

/-- The comparison states that a string differs from the string in the
context. -/
def IsStringInequality (comparison : Comparison) (ctxValue : ValueType) : Prop :=
  comparison.comparison = .notEqual ∧
    ∃ literal found, comparison.value = .strValue literal ∧ ctxValue = .strValue found

/-- The comparison is about metadata, and exactly one of the metadata under the
literal's own key and the metadata under the left-hand side is the literal. -/
def IsRedirected (comparison : Comparison) (ctx : Context) (ctxValue : ValueType) : Prop :=
  (comparison.comparison = .equal ∨ comparison.comparison = .notEqual) ∧
    ∃ literal own found, comparison.value = .metadataVariant literal ∧
      ctx literal.key = some (some (.metadataVariant own)) ∧
      ctxValue = .metadataVariant found ∧
      ¬(own = literal ↔ found = literal)

end Comparison

/-! ## The two tables -/

variable {comparison : ComparisonType} {answer : Bool}

theorem checkClause_eq_compareValues {globals : Globals} {ctxValue value : ValueType}
    {graphAnswer : Bool}
    (notStrings : ¬(comparison = .notEqual ∧ ∃ literal found, value = .strValue literal ∧
      ctxValue = .strValue found))
    (graphSupports : CheckCtx.checkClause ctxValue comparison value = some graphAnswer)
    (supports : compareValues globals ctxValue comparison value = some answer) :
    graphAnswer = answer := by
  unfold CheckCtx.checkClause at graphSupports
  split at graphSupports
  case h_12 literal found =>
      exact absurd ⟨rfl, _, _, rfl, rfl⟩ notStrings
  case h_13 => simp at graphSupports
  all_goals
    rw [← Option.some.inj graphSupports]
    exact Option.some.inj supports

/-- On metadata both tables say whether the operator is equality when the two
values are equal, and whether it is not otherwise. -/
theorem checkClause_metadataVariant (isEquality : comparison = .equal ∨ comparison = .notEqual)
    (found literal : MetadataValue) :
    CheckCtx.checkClause (.metadataVariant found) comparison (.metadataVariant literal) =
      some (decide (found = literal ↔ comparison = .equal)) := by
  rcases isEquality with rfl | rfl <;>
    by_cases equal : found = literal <;> simp [CheckCtx.checkClause, equal]

theorem compareValues_metadataVariant (globals : Globals)
    (isEquality : comparison = .equal ∨ comparison = .notEqual) (found literal : MetadataValue) :
    compareValues globals (.metadataVariant found) comparison (.metadataVariant literal) =
      some (decide (found = literal ↔ comparison = .equal)) := by
  rcases isEquality with rfl | rfl <;>
    by_cases equal : found = literal <;> simp [compareValues, equal]

theorem checkClause_metadataVariant_eq_some {ctxValue : ValueType} {literal : MetadataValue}
    (supports : CheckCtx.checkClause ctxValue comparison (.metadataVariant literal) = some answer) :
    (comparison = .equal ∨ comparison = .notEqual) ∧
      ∃ found, ctxValue = .metadataVariant found := by
  unfold CheckCtx.checkClause at supports
  split at supports <;> simp_all

/-! ## What each evaluator reads -/

variable {ctx : Context} {globals : Globals} {comparison : Comparison}
  {ctxValue : ValueType}

theorem check_eq_ok_iff (strength : Strength) {answer : Bool}
    (present : ctx comparison.lhs = some (some ctxValue)) :
    (CheckCtx.ofParameters ctx).check (.value comparison.toClause) strength = .ok answer ↔
      CheckCtx.checkClause ctxValue comparison.comparison comparison.value =
        some answer := by
  simp only [CheckCtx.check, CheckCtx.ofParameters, Comparison.toClause, present,
    Option.join_some]
  cases CheckCtx.checkClause ctxValue comparison.comparison comparison.value <;> simp

/-! ## Agreement -/

variable {strength : Strength}

theorem not_evaluatorsAgree_of_isStringInequality
    (present : ctx comparison.lhs = some (some ctxValue))
    (strings : comparison.IsStringInequality ctxValue) :
    ¬comparison.EvaluatorsAgree strength ctx globals := by
  obtain ⟨isNotEqual, literal, found, valueEq, rfl⟩ := strings
  have entry : contextEntry comparison ctx = some (some (.strValue found)) := by
    rw [contextEntry_eq_lhs (by simp [valueEq]), present]
  intro agree
  have graphAnswer := (check_eq_ok_iff strength present).mpr (show _ = some (found == literal) by
    rw [isNotEqual, valueEq]; rfl)
  have answer := (evalComparison_eq_ok_iff globals entry).mpr (show _ = some (found != literal) by
    rw [isNotEqual, valueEq]; rfl)
  have same := agree _ _ graphAnswer answer
  exact absurd same.symm (by simp [bne])

theorem not_evaluatorsAgree_of_isRedirected (present : ctx comparison.lhs = some (some ctxValue))
    (redirected : comparison.IsRedirected ctx ctxValue) :
    ¬comparison.EvaluatorsAgree strength ctx globals := by
  obtain ⟨isEquality, literal, own, found, valueEq, ownPresent, rfl, differ⟩ := redirected
  have entry := contextEntry_of_own valueEq ownPresent
  intro agree
  have graphAnswer := (check_eq_ok_iff strength present).mpr (by
    rw [valueEq]; exact checkClause_metadataVariant isEquality found literal)
  have answer := (evalComparison_eq_ok_iff globals entry).mpr (by
    rw [valueEq]; exact compareValues_metadataVariant globals isEquality own literal)
  have same := agree _ _ graphAnswer answer
  rw [decide_eq_decide] at same
  apply differ
  tauto

theorem evaluatorsAgree_of_metadata {literal own : MetadataValue}
    (present : ctx comparison.lhs = some (some ctxValue))
    (valueEq : comparison.value = .metadataVariant literal)
    (ownPresent : ctx literal.key = some (some (.metadataVariant own)))
    (notRedirected : ¬comparison.IsRedirected ctx ctxValue) :
    comparison.EvaluatorsAgree strength ctx globals := by
  intro graphAnswer answer graphSupports supports
  rw [check_eq_ok_iff _ present, valueEq] at graphSupports
  rw [evalComparison_eq_ok_iff _ (contextEntry_of_own valueEq ownPresent), valueEq] at supports
  obtain ⟨isEquality, found, rfl⟩ := checkClause_metadataVariant_eq_some graphSupports
  rw [checkClause_metadataVariant isEquality] at graphSupports
  rw [compareValues_metadataVariant globals isEquality] at supports
  have same : own = literal ↔ found = literal := by
    by_contra differ
    exact notRedirected ⟨isEquality, literal, own, found, valueEq, ownPresent, rfl, differ⟩
  rw [← Option.some.inj graphSupports, ← Option.some.inj supports, decide_eq_decide, same]

/-- With a value present under the key, the evaluators agree exactly when the
comparison is neither an inequality of strings nor redirected to metadata that
answers differently. -/
theorem evaluatorsAgree_iff (strength : Strength)
    (present : ctx comparison.lhs = some (some ctxValue)) :
    comparison.EvaluatorsAgree strength ctx globals ↔
      ¬comparison.IsStringInequality ctxValue ∧ ¬comparison.IsRedirected ctx ctxValue := by
  constructor
  · intro agree
    exact ⟨fun strings => not_evaluatorsAgree_of_isStringInequality present strings agree,
      fun redirected => not_evaluatorsAgree_of_isRedirected present redirected agree⟩
  · rintro ⟨notStrings, notRedirected⟩
    by_cases own : ∃ literal own, comparison.value = .metadataVariant literal ∧
        ctx literal.key = some (some (.metadataVariant own))
    · obtain ⟨literal, own, valueEq, ownPresent⟩ := own
      exact evaluatorsAgree_of_metadata present valueEq ownPresent notRedirected
    · have entry : contextEntry comparison ctx = some (some ctxValue) := by
        rw [contextEntry_eq_lhs, present]
        intro literal other valueEq ownPresent
        exact own ⟨literal, other, valueEq, ownPresent⟩
      intro graphAnswer answer graphSupports supports
      rw [check_eq_ok_iff _ present] at graphSupports
      rw [evalComparison_eq_ok_iff _ entry] at supports
      exact checkClause_eq_compareValues notStrings graphSupports supports

/-- Equality of strings meets both conditions. -/
theorem evaluatorsAgree_iff_at_equal :
    Comparison.EvaluatorsAgree ⟨"card_bin", .equal, .strValue "424242", []⟩ .normal
        (fun _ => some (some (.strValue "424242"))) (fun _ => none) ↔
      ¬Comparison.IsStringInequality ⟨"card_bin", .equal, .strValue "424242", []⟩
          (.strValue "424242") ∧
        ¬Comparison.IsRedirected ⟨"card_bin", .equal, .strValue "424242", []⟩
          (fun _ => some (some (.strValue "424242"))) (.strValue "424242") :=
  evaluatorsAgree_iff .normal rfl

/-- The graph takes a card bin for different from itself. -/
theorem not_evaluatorsAgree_at_notEqual :
    ¬Comparison.EvaluatorsAgree ⟨"card_bin", .notEqual, .strValue "424242", []⟩ .normal
        (fun _ => some (some (.strValue "424242"))) (fun _ => none) := by
  intro agree
  have same := agree true false rfl rfl
  simp at same

end DecisionEngine.Euclid
