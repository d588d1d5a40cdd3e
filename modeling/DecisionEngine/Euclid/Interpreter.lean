import DecisionEngine.Euclid.Ast
import DecisionEngine.Search.ShortCircuit

/-!
# Interpreter of routing programs

Rules are tried in order; a rule matches when one of its if statements does,
and a nested if statement is tried only after the condition around it holds.
An unsupported comparison aborts the whole evaluation, and so does an output
that cannot be evaluated.

Volume splits draw a random index from a weighted distribution of another
crate.  The draw is a parameter here: `none` when the weights are rejected.
-/

namespace DecisionEngine.Euclid

open Search

inductive InterpreterErrorType where
  | invalidKey (key : String)
  | invalidComparison
  | outputEvaluationFailed (reason : String)

structure InterpreterError where
  errorType : InterpreterErrorType
  metadata : Metadata

/-- The decision of a program together with the output it was read from. -/
structure BackendOutput where
  ruleName : Option String
  output : Output
  evaluatedOutput : List ConnectorInfo

/-! ## Comparisons -/

/-- The order relation that a comparison operator stands for on numbers. -/
def numberHolds (number : UInt64) (comparison : ComparisonType) (other : UInt64) : Bool :=
  match comparison with
  | .greaterThan => number > other
  | .lessThan => number < other
  | .lessThanEqual => number ≤ other
  | .greaterThanEqual => number ≥ other
  | .equal => number == other
  | .notEqual => number != other

/-- All bounds of a refined number literal have to hold. -/
def evalNumberComparisonArray (number : UInt64) : List NumberComparison → Bool
  | [] => true
  | comparison :: rest =>
      if numberHolds number comparison.comparisonType comparison.number then
        evalNumberComparisonArray number rest
      else
        false

/-- The context entry a comparison reads.  A metadata literal is looked up
under its own key first, and under the left-hand side when that key carries no
metadata. -/
def contextEntry (comparison : Comparison) (ctx : Context) : Option (Option ValueType) :=
  match comparison.value with
  | .metadataVariant metadata =>
      ((ctx metadata.key).filter fun value => value.any ValueType.isMetadata).or
        (ctx comparison.lhs)
  | _ => ctx comparison.lhs

/-- The comparison table; `none` marks an unsupported combination. -/
def compareValues (globals : Globals) :
    ValueType → ComparisonType → ValueType → Option Bool
  | .enumVariant e1, .equal, .enumVariant e2 => some (e1 == e2)
  | .enumVariant e1, .notEqual, .enumVariant e2 => some (e1 != e2)
  | .enumVariant e, .equal, .enumVariantArray evec => some (evec.any fun v => e == v)
  | .enumVariant e, .notEqual, .enumVariantArray evec => some (evec.all fun v => e != v)
  | .number n1, .equal, .number n2 => some (n1 == n2)
  | .number n1, .notEqual, .number n2 => some (n1 != n2)
  | .number n1, .lessThanEqual, .number n2 => some (n1 ≤ n2)
  | .number n1, .greaterThanEqual, .number n2 => some (n1 ≥ n2)
  | .number n1, .lessThan, .number n2 => some (n1 < n2)
  | .number n1, .greaterThan, .number n2 => some (n1 > n2)
  | .number n, .equal, .numberArray nvec => some (nvec.any fun v => v == n)
  | .number n, .notEqual, .numberArray nvec => some (nvec.all fun v => v != n)
  | .number n, .equal, .numberComparisonArray ncvec =>
      some (evalNumberComparisonArray n ncvec)
  | .metadataVariant m1, .equal, .metadataVariant m2 => some (m1 == m2)
  | .metadataVariant m1, .notEqual, .metadataVariant m2 => some (m1 != m2)
  | .strValue s1, .equal, .strValue s2 => some (s1 == s2)
  | .strValue s1, .notEqual, .strValue s2 => some (s1 != s2)
  | value, .equal, .globalRef name =>
      some (((globals name).map fun set => set.contains value).getD false)
  | _, _, _ => none

/-- Evaluate one comparison.  A missing key and a key without a value both
make it false. -/
def evalComparison (comparison : Comparison) (ctx : Context) (globals : Globals) :
    Except InterpreterError Bool :=
  match contextEntry comparison ctx with
  | none => .ok false
  | some none => .ok false
  | some (some value) =>
      match compareValues globals value comparison.comparison comparison.value with
      | some result => .ok result
      | none => .error ⟨.invalidComparison, comparison.metadata⟩

section Entries

variable {ctx : Context} {globals : Globals} {comparison : Comparison}
  {ctxValue : ValueType}

theorem contextEntry_of_own {literal own : MetadataValue}
    (isMetadata : comparison.value = .metadataVariant literal)
    (ownPresent : ctx literal.key = some (some (.metadataVariant own))) :
    contextEntry comparison ctx = some (some (.metadataVariant own)) := by
  simp [contextEntry, isMetadata, ownPresent, ValueType.isMetadata]

/-- Unless a metadata literal finds metadata under its own key, the entry is
the one under the left-hand side. -/
theorem contextEntry_eq_lhs
    (noOwn : ∀ literal own, comparison.value = .metadataVariant literal →
      ctx literal.key ≠ some (some (.metadataVariant own))) :
    contextEntry comparison ctx = ctx comparison.lhs := by
  unfold contextEntry
  split
  case h_1 literal isMetadata =>
      have rejected : (ctx literal.key).filter
          (fun value => value.any ValueType.isMetadata) = none := by
        rw [Option.filter_eq_none_iff]
        intro value found holds
        cases value with
        | none => simp at holds
        | some inner =>
            obtain ⟨own, rfl⟩ := ValueType.isMetadata_iff.mp holds
            exact noOwn literal own isMetadata found
      rw [rejected, Option.none_or]
  case h_2 => rfl

theorem evalComparison_eq_ok_iff (globals : Globals) {answer : Bool}
    (entry : contextEntry comparison ctx = some (some ctxValue)) :
    evalComparison comparison ctx globals = .ok answer ↔
      compareValues globals ctxValue comparison.comparison comparison.value =
        some answer := by
  simp only [evalComparison, entry]
  cases compareValues globals ctxValue comparison.comparison comparison.value <;> simp

theorem evalComparison_eq_error_iff {failure : InterpreterError} :
    evalComparison comparison ctx globals = .error failure ↔
      ∃ value, contextEntry comparison ctx = some (some value) ∧
        compareValues globals value comparison.comparison comparison.value = none ∧
        failure = ⟨.invalidComparison, comparison.metadata⟩ := by
  unfold evalComparison
  cases entry : contextEntry comparison ctx with
  | none => simp
  | some found =>
      cases found with
      | none => simp
      | some value =>
          cases supported : compareValues globals value comparison.comparison
              comparison.value with
          | none => simp [supported, eq_comm]
          | some answer => simp [supported]

end Entries

/-! ## Conditions, statements and rules -/

/-- A condition holds when all of its comparisons do. -/
def evalIfCondition (condition : IfCondition) (ctx : Context) (globals : Globals) :
    Except InterpreterError Bool :=
  scan true (fun comparison => evalComparison comparison ctx globals) condition

mutual

/-- Evaluate one if statement.  With nested statements present, one of them
has to match; an empty list of them never does. -/
def evalIfStatement (ctx : Context) (globals : Globals) :
    IfStatement → Except InterpreterError Bool
  | ⟨condition, none⟩ => evalIfCondition condition ctx globals
  | ⟨condition, some nested⟩ =>
      match evalIfCondition condition ctx globals with
      | .ok true => evalRuleStatements ctx globals nested
      | .ok false => .ok false
      | .error failure => .error failure

/-- Statements are alternatives; the first match ends the loop. -/
def evalRuleStatements (ctx : Context) (globals : Globals) :
    List IfStatement → Except InterpreterError Bool
  | [] => .ok false
  | stmt :: rest =>
      match evalIfStatement ctx globals stmt with
      | .ok true => .ok true
      | .ok false => evalRuleStatements ctx globals rest
      | .error failure => .error failure

end

def evalRule (rule : Rule) (ctx : Context) (globals : Globals) :
    Except InterpreterError Bool :=
  evalRuleStatements ctx globals rule.statements

/-! ## Outputs -/

/-- The debug text of the only routing error. -/
def volumeSplitFailed : String := "VolumeSplitFailed"

/-- A draw from the weighted distribution over the given weights. -/
abbrev WeightedIndex := List UInt8 → Option Nat

/-- Move the drawn split to the front and keep the others in order. -/
def sampleSplitWinnerFirst {T : Type} (sample : WeightedIndex)
    (splits : List (VolumeSplit T)) : Except String (List T) :=
  match sample (splits.map VolumeSplit.split) with
  | none => .error volumeSplitFailed
  | some index =>
      match splits[index]? with
      | none => .error volumeSplitFailed
      | some winner =>
          .ok ((winner :: splits.eraseIdx index).map VolumeSplit.output)

variable (sample : WeightedIndex)

def performVolumeSplit (splits : List (VolumeSplit ConnectorInfo)) :
    Except String (List ConnectorInfo) :=
  sampleSplitWinnerFirst sample splits

/-- The connectors of all splits, winner first, each connector once. -/
def performVolumeSplitPriority (splits : List (VolumeSplit (List ConnectorInfo))) :
    Except String (List ConnectorInfo) :=
  (sampleSplitWinnerFirst sample splits).map fun outputs =>
    outputs.flatten.foldl
      (fun ordered connector =>
        if ordered.contains connector then ordered else ordered ++ [connector]) []

def evaluateOutput (sample : WeightedIndex) : Output → Except String (List ConnectorInfo)
  | .single connector => .ok [connector]
  | .priority connectors => .ok connectors
  | .volumeSplit splits => performVolumeSplit sample splits
  | .volumeSplitPriority splits => performVolumeSplitPriority sample splits

/-- Evaluate an output and report a failure as an interpreter error. -/
def backendOutput (ruleName : Option String) (output : Output) :
    Except InterpreterError BackendOutput :=
  match evaluateOutput sample output with
  | .ok evaluatedOutput => .ok ⟨ruleName, output, evaluatedOutput⟩
  | .error reason => .error ⟨.outputEvaluationFailed reason, []⟩

/-! ## Programs -/

/-- Try the rules in order and fall back to `defaultSelection`. -/
def evalRules (sample : WeightedIndex) (ctx : Context) (globals : Globals)
    (defaultSelection : Output) : List Rule → Except InterpreterError BackendOutput
  | [] => backendOutput sample none defaultSelection
  | rule :: rest =>
      match evalRule rule ctx globals with
      | .ok true => backendOutput sample (some rule.name) rule.output
      | .ok false => evalRules sample ctx globals defaultSelection rest
      | .error failure => .error failure

def evalProgram (program : Program) (ctx : Context) :
    Except InterpreterError BackendOutput :=
  evalRules sample ctx program.globals program.defaultSelection program.rules

end DecisionEngine.Euclid
