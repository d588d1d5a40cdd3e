import DecisionEngine.Euclid.Acceptance
import Mathlib.Algebra.Group.Int.Defs
import Mathlib.Algebra.Group.Nat.Defs

/-!
# Numbers of accepted rules

The literals that a rule compares with an integer key are checked against the bounds of the
key.  A literal is not signed and a bound is, so the check reads the literal modulo the size of
a word, and a key whose pattern does not compile is not checked.
-/

namespace DecisionEngine.Euclid

/-! ## The check of a number -/

/-- The signed reading of a literal. -/
theorem toInt_toInt64 (number : UInt64) :
    number.toInt64.toInt =
      if number.toNat < 2 ^ 63 then (number.toNat : Int) else (number.toNat : Int) - 2 ^ 64 := by
  change number.toBitVec.toInt = _
  rw [BitVec.toInt_eq_toNat_cond, UInt64.toNat_toBitVec]
  by_cases small : number.toNat < 2 ^ 63
  · rw [if_pos small, if_pos (by omega)]
  · rw [if_neg small, if_neg (by omega)]
    rfl

variable {field : String} {rules : FieldValidationRules}

theorem validateNumericRange_eq_ok_iff {value : Int64} :
    validateNumericRange field value rules = .ok () ↔
      (∀ min ∈ rules.minValue, min ≤ value) ∧ ∀ max ∈ rules.maxValue, value ≤ max := by
  unfold validateNumericRange
  cases rules.minValue with
  | none =>
      cases rules.maxValue with
      | none => simp
      | some max =>
          by_cases above : max < value
          · simp [above, Option.filter]
          · simpa [above, Option.filter] using Int64.not_lt.mp above
  | some min =>
      by_cases below : value < min
      · simp [below, Option.filter, Int64.not_le.mpr below]
      · cases rules.maxValue with
        | none => simpa [below, Option.filter] using Int64.not_lt.mp below
        | some max =>
            by_cases above : max < value
            · simp [below, above, Option.filter]
            · simpa [below, above, Option.filter] using
                ⟨Int64.not_lt.mp below, Int64.not_lt.mp above⟩

variable (keyConfig : KeyConfig)

/-- The literal, as an integer, is within the bounds of the key. -/
def KeyConfig.InRange (number : UInt64) : Prop :=
  (∀ min ∈ keyConfig.minValue, min.toInt ≤ number.toNat) ∧
    ∀ max ∈ keyConfig.maxValue, (number.toNat : Int) ≤ max.toInt

/-- The check of a literal is that of its signed reading, where the rules of the key can be
built. -/
def KeyConfig.Passes (externals : Externals) (keyConfig : KeyConfig) (field : String)
    (number : UInt64) : Prop :=
  ∀ rules, keyConfig.hasValidationConstraints = true →
    keyConfig.buildValidationRules externals = .ok rules →
    validateNumericRange field number.toInt64 rules = .ok ()

theorem failures_eq_nil_iff {check : Except String Unit} :
    failures check = [] ↔ check = .ok () := by
  cases check with
  | error failure => simp [failures]
  | ok done => simp [failures]

variable {externals : Externals}

theorem underRules_eq_nil_iff {keyConfig : KeyConfig}
    {check : FieldValidationRules → List ValidationErrorDetails} :
    underRules externals keyConfig check = [] ↔
      ∀ rules, keyConfig.hasValidationConstraints = true →
        keyConfig.buildValidationRules externals = .ok rules → check rules = [] := by
  unfold underRules
  by_cases constrained : keyConfig.hasValidationConstraints = true
  · rw [if_pos constrained]
    cases keyConfig.buildValidationRules externals with
    | error failure => simp
    | ok rules => simp [constrained]
  · simp [constrained]

theorem buildValidationRules_bounds {keyConfig : KeyConfig}
    (built : keyConfig.buildValidationRules externals = .ok rules) :
    rules.minValue = keyConfig.minValue ∧ rules.maxValue = keyConfig.maxValue := by
  unfold KeyConfig.buildValidationRules at built
  split at built
  · cases built
    exact ⟨rfl, rfl⟩
  · split at built
    · cases built
      exact ⟨rfl, rfl⟩
    · cases built

/-- The check of a literal is that of its value: a key with a maximum has a literal with the
sign bit clear, and a key that is not checked has a literal within the bounds. -/
def KeyConfig.CheckExact (externals : Externals) (keyConfig : KeyConfig)
    (number : UInt64) : Prop :=
  (keyConfig.maxValue.isSome → number.toNat < 2 ^ 63) ∧
    ∀ failure, keyConfig.buildValidationRules externals = .error failure →
      keyConfig.InRange number

theorem KeyConfig.inRange_of_unconstrained {keyConfig : KeyConfig} (number : UInt64)
    (unconstrained : keyConfig.hasValidationConstraints = false) : keyConfig.InRange number := by
  simp only [hasValidationConstraints, Bool.or_eq_false_iff, Option.isSome_eq_false_iff,
    Option.isNone_iff_eq_none] at unconstrained
  simp [InRange, unconstrained]

variable {number : UInt64}

/-- A literal that passes is within the bounds exactly when its check is that of its value. -/
theorem KeyConfig.Passes.inRange_iff {keyConfig : KeyConfig}
    (passes : keyConfig.Passes externals field number) :
    keyConfig.InRange number ↔ keyConfig.CheckExact externals number := by
  constructor
  · intro inRange
    refine ⟨?_, fun _ _ => inRange⟩
    intro hasMax
    rcases Option.isSome_iff_exists.mp hasMax with ⟨max, isMax⟩
    have below := inRange.2 max isMax
    have word := max.toInt_lt
    omega
  · rintro ⟨signClear, unchecked⟩
    cases constrained : keyConfig.hasValidationConstraints with
    | false => exact inRange_of_unconstrained number constrained
    | true =>
        cases built : keyConfig.buildValidationRules externals with
        | error failure => exact unchecked failure built
        | ok rules =>
            have checked := validateNumericRange_eq_ok_iff.mp (passes rules constrained built)
            rw [(buildValidationRules_bounds built).1, (buildValidationRules_bounds built).2]
              at checked
            refine ⟨?_, ?_⟩
            · intro min isMin
              have above := Int64.le_iff_toInt_le.mp (checked.1 min isMin)
              rw [toInt_toInt64] at above
              split at above <;> omega
            · intro max isMax
              have below := Int64.le_iff_toInt_le.mp (checked.2 max isMax)
              rw [toInt_toInt64, if_pos (signClear (by rw [isMax]; rfl))] at below
              exact below

/-! ## The literals of a rule -/

/-- The numbers that a comparison with a value is about. -/
def numberLiterals : ValueType → List UInt64
  | .number number => [number]
  | .numberArray numbers => numbers
  | _ => []

/-- The number stands in a comparison of the rule with the integer key. -/
structure IntegerLiteral (rule : RoutingRule) (config : TomlConfig) (field : String)
    (keyConfig : KeyConfig) (number : UInt64) : Prop where
  occurs : ∃ program, rule.algorithm = .advanced program ∧ ∃ inner ∈ program.rules,
    ∃ comparison, Occurs inner.statements comparison ∧ comparison.lhs = field ∧
      number ∈ numberLiterals comparison.value
  configured : config.keys field = some keyConfig
  isInteger : keyConfig.dataType = .integer

/-- Every literal of an accepted comparison with an integer key passes. -/
theorem passes_of_validateCondition {externals : Externals} {config : TomlConfig}
    {comparison : Comparison} {keyConfig : KeyConfig} {number : UInt64}
    (valid : validateCondition externals config comparison = [])
    (configured : config.keys comparison.lhs = some keyConfig)
    (isInteger : keyConfig.dataType = .integer)
    (literal : number ∈ numberLiterals comparison.value) :
    keyConfig.Passes externals comparison.lhs number := by
  simp only [validateCondition, configured, List.append_eq_nil_iff] at valid
  have valueValid := valid.2
  unfold validateValue at valueValid
  rw [isInteger] at valueValid
  intro rules constrained built
  cases isValue : comparison.value with
  | number single =>
      simp only [isValue, underRules_eq_nil_iff] at valueValid
      obtain rfl : number = single := by simpa [numberLiterals, isValue] using literal
      have checked := valueValid rules constrained built
      rw [List.map_eq_nil_iff, failures_eq_nil_iff] at checked
      exact checked
  | numberArray numbers =>
      simp only [isValue, List.append_eq_nil_iff, underRules_eq_nil_iff] at valueValid
      have checked := List.flatMap_eq_nil_iff.mp (valueValid.2 rules constrained built)
      rw [isValue, numberLiterals] at literal
      rcases List.mem_iff_getElem.mp literal with ⟨index, inRange, isNumber⟩
      have numbered : (number, index) ∈ numbers.zipIdx := by
        rw [List.mk_mem_zipIdx_iff_getElem?, List.getElem?_eq_getElem inRange, isNumber]
      have element := checked (number, index) numbered
      dsimp only at element
      rw [List.map_eq_nil_iff, failures_eq_nil_iff] at element
      exact element
  | _ => simp [numberLiterals, isValue] at literal

variable {config : TomlConfig}

theorem IntegerLiteral.passes {rule : RoutingRule} {keyConfig : KeyConfig}
    (accepted : Accepted externals rule config)
    (literal : IntegerLiteral rule config field keyConfig number) :
    keyConfig.Passes externals field number := by
  rcases literal.occurs with ⟨program, isAdvanced, inner, mem, comparison, occurs, rfl, isLiteral⟩
  have valid := (accepted_iff isAdvanced).mp accepted inner mem comparison occurs
  exact passes_of_validateCondition valid literal.configured literal.isInteger isLiteral

/-- The literals of an accepted rule are within the bounds of their keys exactly when the check
of each of them is that of its value. -/
theorem literals_inRange_iff_checkExact {rule : RoutingRule} {config : TomlConfig}
    (accepted : Accepted externals rule config) :
    (∀ field keyConfig number, IntegerLiteral rule config field keyConfig number →
        keyConfig.InRange number) ↔
      ∀ field keyConfig number, IntegerLiteral rule config field keyConfig number →
        keyConfig.CheckExact externals number :=
  forall₃_congr fun _ _ _ => forall_congr' fun literal =>
    (literal.passes accepted).inRange_iff

/-- One integer key with a maximum. -/
def amountConfig : TomlConfig :=
  ⟨fun key =>
    if key = "amount" then
      some ⟨.integer, none, some 0, some 10000, none, none, none, none⟩
    else none⟩

/-- The same key without a minimum. -/
def cappedAmountConfig : TomlConfig :=
  ⟨fun key =>
    if key = "amount" then some ⟨.integer, none, none, some 10000, none, none, none, none⟩
    else none⟩

/-- Routes by comparing the amount with a number. -/
def amountRule (number : UInt64) : RoutingRule :=
  ⟨"by_amount", "merchant", .advanced
    { globals := fun _ => none
      defaultSelection := .single ⟨"stripe", none⟩
      rules :=
        [⟨"small", .single ⟨"adyen", none⟩,
          [⟨[⟨"amount", .lessThan, .number number, []⟩], none⟩]⟩] }⟩

theorem accepted_amountRule : Accepted literalExternals (amountRule 500) amountConfig :=
  ⟨.success, rfl, rfl⟩

theorem literals_inRange_iff_checkExact_amount :
    (∀ field keyConfig number,
        IntegerLiteral (amountRule 500) amountConfig field keyConfig number →
          keyConfig.InRange number) ↔
      ∀ field keyConfig number,
        IntegerLiteral (amountRule 500) amountConfig field keyConfig number →
          keyConfig.CheckExact literalExternals number :=
  literals_inRange_iff_checkExact accepted_amountRule

/-- The literal of the rule is one of its key. -/
theorem integerLiteral_amountRule (number : UInt64) :
    IntegerLiteral (amountRule number) cappedAmountConfig "amount"
      ⟨.integer, none, none, some 10000, none, none, none, none⟩ number :=
  ⟨⟨_, rfl, _, List.mem_cons_self, _,
    .condition List.mem_cons_self List.mem_cons_self, rfl, List.mem_cons_self⟩, rfl, rfl⟩

/-- A literal with the sign bit set passes the check of a maximum. -/
theorem not_inRange_cappedAmount :
    Accepted literalExternals (amountRule 9223372036854775808) cappedAmountConfig ∧
      ¬∀ field keyConfig number,
        IntegerLiteral (amountRule 9223372036854775808) cappedAmountConfig field keyConfig
          number → keyConfig.InRange number := by
  refine ⟨⟨.success, rfl, rfl⟩, ?_⟩
  intro inRange
  have below := (inRange _ _ _ (integerLiteral_amountRule _)).2 10000 rfl
  exact absurd below (by decide +kernel)

end DecisionEngine.Euclid
