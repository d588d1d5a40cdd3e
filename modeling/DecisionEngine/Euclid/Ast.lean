import Mathlib.Data.List.Basic

/-!
# Syntax of the routing language

The data model of a routing program: values, comparisons, nested if
statements, rules and their outputs.  Hash maps that are only looked up are
functions into `Option`; a hash set is the list of its elements.  A JSON value
that is carried along without being inspected is its text.
-/

namespace DecisionEngine.Euclid

/-- Metadata attached to a comparison for the frontend: field name and JSON
text. -/
abbrev Metadata := List (String × String)

structure MetadataValue where
  key : String
  value : String
  deriving DecidableEq

/-- Comparison operators. -/
inductive ComparisonType where
  | equal
  | notEqual
  | lessThan
  | lessThanEqual
  | greaterThan
  | greaterThanEqual
  deriving DecidableEq

/-- One bound of a refined number literal such as `(> 500, < 1000)`. -/
structure NumberComparison where
  comparisonType : ComparisonType
  number : UInt64
  deriving DecidableEq

/-- A value of the language. -/
inductive ValueType where
  | number (number : UInt64)
  | enumVariant (variant : String)
  | metadataVariant (metadata : MetadataValue)
  | strValue (value : String)
  | globalRef (name : String)
  | numberArray (numbers : List UInt64)
  | enumVariantArray (variants : List String)
  | numberComparisonArray (comparisons : List NumberComparison)
  deriving DecidableEq

/-- The type of a value as error messages name it. -/
inductive DataType where
  | number
  | enumVariant
  | metadataValue
  | strValue
  | globalRef
  deriving DecidableEq

namespace DataType

/-- The displayed name, in snake case. -/
def toString : DataType → String
  | number => "number"
  | enumVariant => "enum_variant"
  | metadataValue => "metadata_value"
  | strValue => "str_value"
  | globalRef => "global_ref"

end DataType

namespace ValueType

def isMetadata : ValueType → Bool
  | metadataVariant _ => true
  | _ => false

def getType : ValueType → DataType
  | number _ => .number
  | strValue _ => .strValue
  | metadataVariant _ => .metadataValue
  | enumVariant _ => .enumVariant
  | globalRef _ => .globalRef
  | numberComparisonArray _ => .number
  | numberArray _ => .number
  | enumVariantArray _ => .enumVariant

variable {value : ValueType}

theorem isMetadata_iff :
    value.isMetadata ↔ ∃ metadata, value = .metadataVariant metadata := by
  cases value <;> simp [isMetadata]

theorem getType_eq_strValue_iff :
    value.getType = .strValue ↔ ∃ text, value = .strValue text := by
  cases value <;> simp [getType]

theorem getType_eq_globalRef_iff :
    value.getType = .globalRef ↔ ∃ name, value = .globalRef name := by
  cases value <;> simp [getType]

end ValueType

/-- A single comparison; the left-hand side is always an input key. -/
structure Comparison where
  lhs : String
  comparison : ComparisonType
  value : ValueType
  metadata : Metadata

/-- All comparisons of one if statement, read as a conjunction. -/
abbrev IfCondition := List Comparison

/-- An if statement with its condition and optional nested if statements. -/
structure IfStatement where
  condition : IfCondition
  nested : Option (List IfStatement)

/-- Induction on nested if statements. -/
@[elab_as_elim]
theorem IfStatement.induction {motive : IfStatement → Prop}
    (leaf : ∀ condition, motive ⟨condition, none⟩)
    (node : ∀ condition nested, (∀ stmt ∈ nested, motive stmt) →
      motive ⟨condition, some nested⟩) : ∀ stmt, motive stmt
  | ⟨condition, none⟩ => leaf condition
  | ⟨condition, some nested⟩ =>
      node condition nested fun stmt _ => IfStatement.induction leaf node stmt
termination_by stmt => sizeOf stmt
decreasing_by
  have smaller := List.sizeOf_lt_of_mem ‹stmt ∈ nested›
  simp only [IfStatement.mk.sizeOf_spec, Option.some.sizeOf_spec]
  omega

structure ConnectorInfo where
  gatewayName : String
  gatewayId : Option String
  deriving DecidableEq

structure VolumeSplit (T : Type) where
  split : UInt8
  output : T

/-- What a matched rule routes to. -/
inductive Output where
  | single (connector : ConnectorInfo)
  | priority (connectors : List ConnectorInfo)
  | volumeSplit (splits : List (VolumeSplit ConnectorInfo))
  | volumeSplitPriority (splits : List (VolumeSplit (List ConnectorInfo)))

structure Rule where
  name : String
  output : Output
  statements : List IfStatement

/-- Named sets of values that `globalRef` literals refer to. -/
abbrev Globals := String → Option (List ValueType)

structure Program where
  globals : Globals
  defaultSelection : Output
  rules : List Rule

/-- Request parameters; a parameter can be sent without a value. -/
abbrev Context := String → Option (Option ValueType)

end DecisionEngine.Euclid
