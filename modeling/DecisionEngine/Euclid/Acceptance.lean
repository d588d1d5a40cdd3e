import DecisionEngine.Euclid.SearchOrder
import DecisionEngine.Euclid.Validator

/-!
# Accepted rules at evaluation time

Acceptance puts every comparison of a rule, at any depth, into one of a few
shapes.  Against a context that carries the configured kind of value under each
key the interpreter has an answer for every such shape but one: an inequality
with a named set of values.  An evaluation of an accepted rule ends with an
invalid comparison exactly when the search gets to a comparison of that shape.
-/

namespace DecisionEngine.Euclid

/-! ## Comparisons of a forest -/

/-- The comparison stands somewhere in the forest. -/
inductive Occurs : List IfStatement → Comparison → Prop
  | condition {forest : List IfStatement} {condition : IfCondition}
      {nested : Option (List IfStatement)} {comparison : Comparison}
      (mem : ⟨condition, nested⟩ ∈ forest) (comparisonMem : comparison ∈ condition) :
      Occurs forest comparison
  | nested {forest : List IfStatement} {condition : IfCondition}
      {nested : List IfStatement} {comparison : Comparison}
      (mem : ⟨condition, some nested⟩ ∈ forest) (inner : Occurs nested comparison) :
      Occurs forest comparison

variable {ctx : Context} {globals : Globals} {forest : List IfStatement} {comparison : Comparison}

theorem Visits.occurs (visits : Visits ctx globals forest comparison) :
    Occurs forest comparison := by
  induction visits with
  | @condition forest _ _ condition nested _ split refuted reached =>
      have mem : ⟨condition, nested⟩ ∈ forest := by simp [split]
      exact .condition mem reached.mem
  | @nested forest _ _ condition nested _ split refuted holds visits ih =>
      have mem : ⟨condition, some nested⟩ ∈ forest := by simp [split]
      exact .nested mem ih

/-- A comparison of a statement is one of its condition or one of its nested forest. -/
theorem occurs_singleton_iff {condition : IfCondition} {nested : Option (List IfStatement)} :
    Occurs [⟨condition, nested⟩] comparison ↔
      comparison ∈ condition ∨ ∃ inner, nested = some inner ∧ Occurs inner comparison := by
  constructor
  · intro occurs
    cases occurs with
    | condition mem comparisonMem =>
        rw [(IfStatement.mk.inj (List.mem_singleton.mp mem)).1] at comparisonMem
        exact Or.inl comparisonMem
    | nested mem inner =>
        exact Or.inr ⟨_, (IfStatement.mk.inj (List.mem_singleton.mp mem)).2.symm, inner⟩
  · intro occurs
    rcases occurs with comparisonMem | ⟨inner, rfl, occursInner⟩
    · exact .condition List.mem_cons_self comparisonMem
    · exact .nested List.mem_cons_self occursInner

/-- A comparison of a forest is one of a statement of the forest. -/
theorem occurs_iff_exists_statement :
    Occurs forest comparison ↔ ∃ stmt ∈ forest, Occurs [stmt] comparison := by
  constructor
  · intro occurs
    cases occurs with
    | condition mem comparisonMem =>
        exact ⟨_, mem, .condition List.mem_cons_self comparisonMem⟩
    | nested mem inner => exact ⟨_, mem, .nested List.mem_cons_self inner⟩
  · intro occurs
    rcases occurs with ⟨⟨condition, nested⟩, mem, occurs⟩
    rcases occurs_singleton_iff.mp occurs with comparisonMem | ⟨inner, rfl, occursInner⟩
    · exact .condition mem comparisonMem
    · exact .nested mem occursInner

theorem forall_occurs_iff {property : Comparison → Prop} :
    (∀ comparison, Occurs forest comparison → property comparison) ↔
      ∀ stmt ∈ forest, ∀ comparison, Occurs [stmt] comparison → property comparison := by
  constructor
  · intro holds stmt mem comparison occurs
    exact holds comparison (occurs_iff_exists_statement.mpr ⟨stmt, mem, occurs⟩)
  · intro holds comparison occurs
    rcases occurs_iff_exists_statement.mp occurs with ⟨stmt, mem, occursThere⟩
    exact holds stmt mem comparison occursThere

section Validation

variable {externals : Externals} {config : TomlConfig}

theorem validateStatements_eq_nil_iff_forall (forest : List IfStatement) :
    validateStatements externals config forest = [] ↔
      ∀ stmt ∈ forest, validateStatement externals config stmt = [] := by
  induction forest with
  | nil => simp [validateStatements]
  | cons stmt rest ih => simp [validateStatements, ih]

theorem validateStatement_eq_nil_iff (stmt : IfStatement) :
    validateStatement externals config stmt = [] ↔
      ∀ comparison, Occurs [stmt] comparison →
        validateCondition externals config comparison = [] := by
  induction stmt using IfStatement.induction with
  | leaf condition =>
      rw [validateStatement, List.flatMap_eq_nil_iff]
      simp [occurs_singleton_iff]
  | node condition nested ih =>
      have nestedIff : (∀ stmt ∈ nested, validateStatement externals config stmt = []) ↔
          ∀ comparison, Occurs nested comparison →
            validateCondition externals config comparison = [] := by
        rw [forall_occurs_iff]
        exact forall₂_congr ih
      rw [validateStatement, List.append_eq_nil_iff, List.flatMap_eq_nil_iff,
        validateStatements_eq_nil_iff_forall, nestedIff]
      simp [occurs_singleton_iff, or_imp, forall_and]

theorem validateStatements_eq_nil_iff (forest : List IfStatement) :
    validateStatements externals config forest = [] ↔
      ∀ comparison, Occurs forest comparison →
        validateCondition externals config comparison = [] := by
  rw [validateStatements_eq_nil_iff_forall, forall_occurs_iff]
  exact forall₂_congr fun stmt _ => validateStatement_eq_nil_iff stmt

end Validation

/-- The validator lets the rule through. -/
def Accepted (externals : Externals) (rule : RoutingRule) (config : TomlConfig) : Prop :=
  ∃ result, validateRoutingRule externals rule (some config) = .ok result ∧
    result.isValid = true

variable {externals : Externals} {config : TomlConfig}

/-- An advanced rule is accepted exactly when no comparison of it has an
error. -/
theorem accepted_iff {rule : RoutingRule} {program : Program}
    (isAdvanced : rule.algorithm = .advanced program) :
    Accepted externals rule config ↔
      ∀ rule ∈ program.rules, ∀ comparison, Occurs rule.statements comparison →
        validateCondition externals config comparison = [] := by
  simp only [← validateStatements_eq_nil_iff]
  change _ ↔ ∀ rule ∈ program.rules, validateRule externals config rule = []
  rw [← List.flatMap_eq_nil_iff]
  simp only [Accepted, validateRoutingRule, isAdvanced]
  cases program.rules.flatMap (validateRule externals config) with
  | nil => simp [ValidationResult.success]
  | cons failure rest => simp [ValidationResult.failure]

/-! ## Shapes of accepted comparisons -/

/-- The operator and literal that acceptance leaves to a key of the given
type. -/
inductive Admissible : KeyDataType → ComparisonType → ValueType → Prop
  | number (comparison : ComparisonType) (number : UInt64) :
      Admissible .integer comparison (.number number)
  | numberArray {comparison : ComparisonType} (numbers : List UInt64)
      (isEquality : comparison = .equal ∨ comparison = .notEqual) :
      Admissible .integer comparison (.numberArray numbers)
  | numberComparisonArray (comparisons : List NumberComparison) :
      Admissible .integer .equal (.numberComparisonArray comparisons)
  | enumVariant {comparison : ComparisonType} (variant : String)
      (isEquality : comparison = .equal ∨ comparison = .notEqual) :
      Admissible .enum comparison (.enumVariant variant)
  | enumVariantArray {comparison : ComparisonType} (variants : List String)
      (isEquality : comparison = .equal ∨ comparison = .notEqual) :
      Admissible .enum comparison (.enumVariantArray variants)
  | metadataVariant {comparison : ComparisonType} (metadata : MetadataValue)
      (isEquality : comparison = .equal ∨ comparison = .notEqual) :
      Admissible .udf comparison (.metadataVariant metadata)
  | strValue {comparison : ComparisonType} (value : String)
      (isEquality : comparison = .equal ∨ comparison = .notEqual) :
      Admissible .strValue comparison (.strValue value)
  | globalRef {comparison : ComparisonType} (name : String)
      (isEquality : comparison = .equal ∨ comparison = .notEqual) :
      Admissible .globalRef comparison (.globalRef name)

variable {dataType : KeyDataType}

theorem Admissible.dataType_eq_udf {comparison : ComparisonType} {metadata : MetadataValue}
    (admissible : Admissible dataType comparison (.metadataVariant metadata)) :
    dataType = .udf := by
  cases admissible
  rfl

theorem validateComparisonType_eq_nil_iff (condition : Comparison) (keyConfig : KeyConfig) :
    validateComparisonType condition keyConfig = [] ↔
      keyConfig.dataType = .integer ∨ condition.comparison = .equal ∨
        condition.comparison = .notEqual := by
  unfold validateComparisonType
  cases keyConfig.dataType <;> cases condition.comparison <;> simp

/-- Two types share a name only for strings and for named sets. -/
theorem toString_eq_asStr_iff (dataType : DataType) (keyDataType : KeyDataType) :
    dataType.toString = keyDataType.asStr ↔
      dataType = .strValue ∧ keyDataType = .strValue ∨
        dataType = .globalRef ∧ keyDataType = .globalRef := by
  cases dataType <;> cases keyDataType <;> simp [DataType.toString, KeyDataType.asStr]

theorem admissible_of_validateCondition {externals : Externals} {config : TomlConfig}
    {comparison : Comparison}
    (valid : validateCondition externals config comparison = []) :
    ∃ keyConfig, config.keys comparison.lhs = some keyConfig ∧
      Admissible keyConfig.dataType comparison.comparison comparison.value := by
  unfold validateCondition at valid
  cases known : config.keys comparison.lhs with
  | none => simp [known] at valid
  | some keyConfig =>
      simp only [known, List.append_eq_nil_iff, validateComparisonType_eq_nil_iff] at valid
      obtain ⟨operatorValid, valueValid⟩ := valid
      refine ⟨keyConfig, rfl, ?_⟩
      unfold validateValue at valueValid
      split at valueValid
      case h_1 variant dataTypeEq valueEq =>
          rw [dataTypeEq, valueEq]
          exact .enumVariant variant (by simpa [dataTypeEq] using operatorValid)
      case h_2 variants dataTypeEq valueEq =>
          rw [dataTypeEq, valueEq]
          exact .enumVariantArray variants (by simpa [dataTypeEq] using operatorValid)
      case h_3 => simp at valueValid
      case h_4 number dataTypeEq valueEq =>
          rw [dataTypeEq, valueEq]
          exact .number _ number
      case h_5 numbers dataTypeEq valueEq =>
          rw [dataTypeEq, valueEq]
          refine .numberArray numbers ?_
          by_contra notEquality
          simp [notEquality] at valueValid
      case h_6 comparisons dataTypeEq valueEq =>
          have isEqual : comparison.comparison = .equal := by
            by_contra notEqual
            simp [notEqual] at valueValid
          rw [dataTypeEq, valueEq, isEqual]
          exact .numberComparisonArray comparisons
      case h_7 => simp at valueValid
      case h_8 metadata dataTypeEq valueEq =>
          rw [dataTypeEq, valueEq]
          exact .metadataVariant metadata (by simpa [dataTypeEq] using operatorValid)
      case h_9 => simp at valueValid
      case h_10 value dataTypeEq valueEq =>
          rw [dataTypeEq, valueEq]
          exact .strValue value (by simpa [dataTypeEq] using operatorValid)
      -- what is left is decided by the names of the two types
      case h_11 _ _ _ _ _ _ _ _ _ notStrValue =>
          have sameName : comparison.value.getType.toString = keyConfig.dataType.asStr := by
            by_contra differ
            simp [differ] at valueValid
          rcases (toString_eq_asStr_iff _ _).mp sameName with
            ⟨typeEq, dataTypeEq⟩ | ⟨typeEq, dataTypeEq⟩
          · obtain ⟨value, valueEq⟩ := ValueType.getType_eq_strValue_iff.mp typeEq
            exact absurd valueEq (notStrValue value dataTypeEq)
          · obtain ⟨name, valueEq⟩ := ValueType.getType_eq_globalRef_iff.mp typeEq
            rw [dataTypeEq, valueEq]
            exact .globalRef name (by simpa [dataTypeEq] using operatorValid)

/-! ## Evaluation of accepted comparisons -/

/-- The kind of value that a context carries under a key of the given type. -/
inductive Prescribes : KeyDataType → ValueType → Prop
  | integer (number : UInt64) : Prescribes .integer (.number number)
  | enum (variant : String) : Prescribes .enum (.enumVariant variant)
  | udf (metadata : MetadataValue) : Prescribes .udf (.metadataVariant metadata)
  | strValue (value : String) : Prescribes .strValue (.strValue value)
  | globalRef (name : String) : Prescribes .globalRef (.globalRef name)

/-- Every configured key that has a value in the context has one of the
prescribed kind. -/
def WellTyped (config : TomlConfig) (ctx : Context) : Prop :=
  ∀ key keyConfig value, config.keys key = some keyConfig → ctx key = some (some value) →
    Prescribes keyConfig.dataType value

/-- The comparison states that the value of a key is not in a named set, and
the context has a value for the key. -/
def IsGlobalInequality (config : TomlConfig) (ctx : Context) (comparison : Comparison) :
    Prop :=
  comparison.comparison = .notEqual ∧
    ∃ keyConfig value, config.keys comparison.lhs = some keyConfig ∧
      keyConfig.dataType = .globalRef ∧ ctx comparison.lhs = some (some value)

theorem compareValues_eq_none_iff {globals : Globals} {dataType : KeyDataType}
    {ctxValue value : ValueType} {comparison : ComparisonType}
    (admissible : Admissible dataType comparison value)
    (prescribed : Prescribes dataType ctxValue) :
    compareValues globals ctxValue comparison value = none ↔
      dataType = .globalRef ∧ comparison = .notEqual := by
  cases admissible with
  | number comparison number =>
      obtain ⟨found⟩ := prescribed
      cases comparison <;> simp [compareValues]
  | numberComparisonArray comparisons =>
      obtain ⟨found⟩ := prescribed
      simp [compareValues]
  | numberArray _ isEquality | enumVariant _ isEquality | enumVariantArray _ isEquality
  | metadataVariant _ isEquality | strValue _ isEquality | globalRef _ isEquality =>
      obtain ⟨found⟩ := prescribed
      rcases isEquality with rfl | rfl <;> simp [compareValues]

/-- A metadata literal reads metadata, under its own key or under a key that
is configured to carry it. -/
theorem prescribes_of_contextEntry {keyConfig : KeyConfig} {ctxValue : ValueType}
    (wellTyped : WellTyped config ctx) (known : config.keys comparison.lhs = some keyConfig)
    (admissible : Admissible keyConfig.dataType comparison.comparison comparison.value)
    (entry : contextEntry comparison ctx = some (some ctxValue)) :
    Prescribes keyConfig.dataType ctxValue := by
  by_cases own : ∃ literal own, comparison.value = .metadataVariant literal ∧
      ctx literal.key = some (some (.metadataVariant own))
  · obtain ⟨literal, own, valueEq, ownPresent⟩ := own
    rw [contextEntry_of_own valueEq ownPresent] at entry
    obtain rfl := Option.some.inj (Option.some.inj entry)
    rw [valueEq] at admissible
    rw [admissible.dataType_eq_udf]
    exact .udf own
  · rw [contextEntry_eq_lhs fun literal other valueEq ownPresent =>
      own ⟨literal, other, valueEq, ownPresent⟩] at entry
    exact wellTyped _ _ _ known entry

/-- An accepted comparison is undecidable exactly when it is an inequality with
a named set. -/
theorem evalComparison_eq_error_iff_of_valid {externals : Externals} {config : TomlConfig}
    {ctx : Context} (globals : Globals) {comparison : Comparison}
    (valid : validateCondition externals config comparison = [])
    (wellTyped : WellTyped config ctx) :
    evalComparison comparison ctx globals =
        .error ⟨.invalidComparison, comparison.metadata⟩ ↔
      IsGlobalInequality config ctx comparison := by
  obtain ⟨keyConfig, known, admissible⟩ := admissible_of_validateCondition valid
  have readsLhs : keyConfig.dataType = .globalRef →
      contextEntry comparison ctx = ctx comparison.lhs := by
    intro dataTypeEq
    apply contextEntry_eq_lhs
    intro literal own valueEq
    rw [dataTypeEq, valueEq] at admissible
    exact absurd admissible.dataType_eq_udf (by simp)
  rw [evalComparison_eq_error_iff]
  constructor
  · rintro ⟨value, entry, unsupported, -⟩
    have prescribed := prescribes_of_contextEntry wellTyped known admissible entry
    obtain ⟨dataTypeEq, isNotEqual⟩ :=
      (compareValues_eq_none_iff admissible prescribed).mp unsupported
    rw [readsLhs dataTypeEq] at entry
    exact ⟨isNotEqual, keyConfig, value, known, dataTypeEq, entry⟩
  · rintro ⟨isNotEqual, other, value, otherKnown, dataTypeEq, present⟩
    obtain rfl := Option.some.inj (known.symm.trans otherKnown)
    have prescribed := wellTyped _ _ _ known present
    refine ⟨value, (readsLhs dataTypeEq).trans present, ?_, rfl⟩
    exact (compareValues_eq_none_iff admissible prescribed).mpr ⟨dataTypeEq, isNotEqual⟩

/-- The evaluation of an accepted rule meets no invalid comparison exactly when
the search gets to no inequality with a named set of values. -/
theorem evalProgram_ne_invalidComparison_iff (externals : Externals)
    (sample : WeightedIndex) {rule : RoutingRule} {config : TomlConfig} {program : Program}
    {ctx : Context} (isAdvanced : rule.algorithm = .advanced program)
    (accepted : Accepted externals rule config) (wellTyped : WellTyped config ctx) :
    (∀ metadata, evalProgram sample program ctx ≠ .error ⟨.invalidComparison, metadata⟩) ↔
      ∀ rule, ReachesRule program ctx rule →
        ∀ comparison, Visits ctx program.globals rule.statements comparison →
          ¬IsGlobalInequality config ctx comparison := by
  have valid := (accepted_iff isAdvanced).mp accepted
  constructor
  · intro noError rule reaches comparison visits inequality
    have comparisonValid := valid rule reaches.mem comparison visits.occurs
    have erred := (evalComparison_eq_error_iff_of_valid program.globals comparisonValid
      wellTyped).mpr inequality
    apply noError comparison.metadata
    rw [evalProgram_eq_invalidComparison_iff]
    exact ⟨rule, reaches, comparison, visits, erred⟩
  · intro noInequality metadata failed
    obtain ⟨rule, reaches, comparison, visits, erred⟩ :=
      (evalProgram_eq_invalidComparison_iff _ _ _).mp failed
    have comparisonValid := valid rule reaches.mem comparison visits.occurs
    obtain ⟨-, -, -, failureEq⟩ := evalComparison_eq_error_iff.mp erred
    rw [failureEq] at erred
    exact noInequality rule reaches comparison visits
      ((evalComparison_eq_error_iff_of_valid _ comparisonValid wellTyped).mp erred)

/-! ## A rule about a named set -/

/-- One key that refers to named sets. -/
def issuerConfig : TomlConfig :=
  ⟨fun key =>
    if key = "issuer" then some ⟨.globalRef, none, none, none, none, none, none, none⟩
    else none⟩

def issuerContext : Context := fun key =>
  if key = "issuer" then some (some (.globalRef "hdfc")) else none

/-- Routes by comparing the issuer with a named set. -/
def issuerProgram (comparison : ComparisonType) : Program :=
  { globals := fun name => if name = "banks" then some [.globalRef "hdfc"] else none
    defaultSelection := .single ⟨"stripe", none⟩
    rules :=
      [⟨"by_issuer", .single ⟨"adyen", none⟩,
        [⟨[⟨"issuer", comparison, .globalRef "banks", []⟩], none⟩]⟩] }

def issuerRule (comparison : ComparisonType) : RoutingRule :=
  ⟨"by_issuer", "merchant", .advanced (issuerProgram comparison)⟩

def literalExternals : Externals :=
  ⟨fun pattern => .ok fun text => text == pattern, fun texts => Text.join ", " texts⟩

theorem issuerContext_wellTyped : WellTyped issuerConfig issuerContext := by
  intro key keyConfig value known present
  by_cases isIssuer : key = "issuer"
  · simp only [issuerConfig, issuerContext, isIssuer, if_true, Option.some.injEq] at known present
    rw [← known, ← present]
    exact .globalRef "hdfc"
  · simp [issuerConfig, isIssuer] at known

/-- Membership in the set is accepted and never undecidable. -/
theorem evalProgram_ne_invalidComparison_iff_at_equal :
    (∀ metadata, evalProgram (fun _ => some 0) (issuerProgram .equal) issuerContext ≠
        .error ⟨.invalidComparison, metadata⟩) ↔
      ∀ rule, ReachesRule (issuerProgram .equal) issuerContext rule →
        ∀ comparison, Visits issuerContext (issuerProgram .equal).globals rule.statements
            comparison →
          ¬IsGlobalInequality issuerConfig issuerContext comparison := by
  have isAdvanced : (issuerRule .equal).algorithm = .advanced (issuerProgram .equal) := rfl
  have accepted : Accepted literalExternals (issuerRule .equal) issuerConfig :=
    ⟨.success, rfl, rfl⟩
  exact evalProgram_ne_invalidComparison_iff literalExternals (fun _ => some 0) isAdvanced
    accepted issuerContext_wellTyped

/-- The opposite comparison is accepted too, and every evaluation fails. -/
theorem evalProgram_issuerRule_notEqual :
    Accepted literalExternals (issuerRule .notEqual) issuerConfig ∧
      WellTyped issuerConfig issuerContext ∧
      evalProgram (fun _ => some 0) (issuerProgram .notEqual) issuerContext =
        .error ⟨.invalidComparison, []⟩ :=
  ⟨⟨.success, rfl, rfl⟩, issuerContext_wellTyped, rfl⟩

end DecisionEngine.Euclid
