import DecisionEngine.Euclid.Ast
import DecisionEngine.Text.Basic

/-!
# Validation of routing rules

A rule is checked against the configured keys before it is stored.  Every
comparison of an advanced rule is visited, and each visit appends the errors it
finds; the rule is accepted when no error was appended.  The other kinds of
rules have no comparisons.

Regular expressions come from another crate and the debug text of a list of
strings escapes by Unicode tables; both are parameters.
-/

namespace DecisionEngine.Euclid

open Text

/-! ## Configuration -/

inductive KeyDataType where
  | integer
  | enum
  | udf
  | strValue
  | globalRef
  deriving DecidableEq

namespace KeyDataType

def asStr : KeyDataType → String
  | integer => "integer"
  | enum => "enum"
  | udf => "udf"
  | strValue => "str_value"
  | globalRef => "global_ref"

def debug : KeyDataType → String
  | integer => "Integer"
  | enum => "Enum"
  | udf => "Udf"
  | strValue => "StrValue"
  | globalRef => "GlobalRef"

end KeyDataType

def DataType.debug : DataType → String
  | .number => "Number"
  | .enumVariant => "EnumVariant"
  | .metadataValue => "MetadataValue"
  | .strValue => "StrValue"
  | .globalRef => "GlobalRef"

def ComparisonType.debug : ComparisonType → String
  | .equal => "Equal"
  | .notEqual => "NotEqual"
  | .lessThan => "LessThan"
  | .lessThanEqual => "LessThanEqual"
  | .greaterThan => "GreaterThan"
  | .greaterThanEqual => "GreaterThanEqual"

/-- A compiled regular expression, by the texts it matches. -/
abbrev Regex := String → Bool

structure Externals where
  regexNew : String → Except String Regex
  debugStrings : List String → String

structure KeyConfig where
  dataType : KeyDataType
  values : Option String
  minValue : Option Int64
  maxValue : Option Int64
  minLength : Option Nat
  maxLength : Option Nat
  exactLength : Option Nat
  regex : Option String

structure FieldValidationRules where
  minValue : Option Int64
  maxValue : Option Int64
  minLength : Option Nat
  maxLength : Option Nat
  exactLength : Option Nat
  regexPattern : Option Regex

namespace KeyConfig

def hasValidationConstraints (config : KeyConfig) : Bool :=
  config.minValue.isSome || config.maxValue.isSome || config.minLength.isSome ||
    config.maxLength.isSome || config.exactLength.isSome || config.regex.isSome

/-- The rules of a key; they cannot be built from a malformed pattern. -/
def buildValidationRules (externals : Externals) (config : KeyConfig) :
    Except String FieldValidationRules :=
  match config.regex with
  | none =>
      .ok ⟨config.minValue, config.maxValue, config.minLength, config.maxLength,
        config.exactLength, none⟩
  | some pattern =>
      match externals.regexNew pattern with
      | .ok regex =>
          .ok ⟨config.minValue, config.maxValue, config.minLength, config.maxLength,
            config.exactLength, some regex⟩
      | .error failure =>
          .error ("Invalid regex pattern '" ++ pattern ++ "': " ++ failure)

end KeyConfig

/-- The configured keys. -/
structure TomlConfig where
  keys : String → Option KeyConfig

def parseEnumValues (keyConfig : KeyConfig) : List String :=
  match keyConfig.values with
  | some values => (split ',' values).map trim
  | none => []

variable (config : TomlConfig)

def isValidEnumValue (key value : String) : Bool :=
  match config.keys key with
  | some keyConfig => keyConfig.dataType = .enum && (parseEnumValues keyConfig).contains value
  | none => false

/-! ## Field checks -/

structure ValidationErrorDetails where
  field : String
  errorType : String
  message : String

def validateNumericRange (field : String) (value : Int64) (rules : FieldValidationRules) :
    Except String Unit :=
  match rules.minValue.filter (value < ·), rules.maxValue.filter (value > ·) with
  | some min, _ =>
      .error ("Invalid field '" ++ field ++ "': value " ++ toString value ++
        " is below minimum " ++ toString min)
  | none, some max =>
      .error ("Invalid field '" ++ field ++ "': value " ++ toString value ++
        " exceeds maximum " ++ toString max)
  | none, none => .ok ()

variable (field value : String)

/-- Lengths are counted in bytes. -/
def validateStringLength (minLength maxLength : Option Nat) :
    Except String Unit :=
  match minLength.filter (value.utf8ByteSize < ·), maxLength.filter (value.utf8ByteSize > ·) with
  | some min, _ =>
      .error ("Invalid field '" ++ field ++ "': length " ++ toString value.utf8ByteSize ++
        " is below minimum " ++ toString min)
  | none, some max =>
      .error ("Invalid field '" ++ field ++ "': length " ++ toString value.utf8ByteSize ++
        " exceeds maximum " ++ toString max)
  | none, none => .ok ()

def validateExactLength (expectedLength : Nat) : Except String Unit :=
  if value.utf8ByteSize ≠ expectedLength then
    .error ("Invalid field '" ++ field ++ "': expected " ++ toString expectedLength ++
      " characters, got " ++ toString value.utf8ByteSize ++ " characters")
  else
    .ok ()

def validateRegexPattern (pattern : Option Regex) :
    Except String Unit :=
  if pattern.all (· value) then
    .ok ()
  else
    .error ("Invalid field '" ++ field ++ "': value does not match required pattern")

/-- The failure of a check as a list of at most one message. -/
def failures : Except String Unit → List String
  | .ok () => []
  | .error failure => [failure]

/-- An exact length takes the place of the bounds; the pattern is checked in
any case, and the messages are joined. -/
def validateStringValue (rules : FieldValidationRules) :
    Except String Unit :=
  let lengthErrors :=
    match rules.exactLength with
    | some exact => failures (validateExactLength field value exact)
    | none =>
        if rules.minLength.isSome || rules.maxLength.isSome then
          failures (validateStringLength field value rules.minLength rules.maxLength)
        else
          []
  let errors := lengthErrors ++ failures (validateRegexPattern field value rules.regexPattern)
  if errors.isEmpty then .ok () else .error (join "; " errors)

/-! ## Comparisons -/

variable (condition : Comparison)

/-- Errors about the operator of a comparison. -/
def validateComparisonType (keyConfig : KeyConfig) :
    List ValidationErrorDetails :=
  match keyConfig.dataType, condition.comparison with
  | .integer, _ => []
  | _, .equal => []
  | _, .notEqual => []
  | .enum, comparison =>
      [⟨condition.lhs, "invalid_comparison",
        "Invalid comparison type '" ++ condition.lhs ++
          "': expected Equal or NotEqual, got " ++ comparison.debug⟩]
  | dataType, comparison =>
      [⟨condition.lhs, "comparison_warning",
        "Comparison type '" ++ comparison.debug ++ "' may not be appropriate for key '" ++
          condition.lhs ++ "' of type '" ++ dataType.debug ++ "'"⟩]

/-- Run a check under the rules of a key.  A key without constraints and a key
whose rules cannot be built are not checked. -/
def underRules (externals : Externals) (keyConfig : KeyConfig)
    (check : FieldValidationRules → List ValidationErrorDetails) :
    List ValidationErrorDetails :=
  if keyConfig.hasValidationConstraints then
    match keyConfig.buildValidationRules externals with
    | .ok rules => check rules
    | .error _ => []
  else
    []

def typeMismatch (message : String) : ValidationErrorDetails :=
  ⟨condition.lhs, "type_mismatch", message⟩

variable (externals : Externals)

/-- Errors about the literal of a comparison.  A number is compared to the
configured bounds after a wrapping conversion to a signed integer. -/
def validateValue (config : TomlConfig) (condition : Comparison) (keyConfig : KeyConfig) :
    List ValidationErrorDetails :=
  match keyConfig.dataType, condition.value with
  | .enum, .enumVariant value =>
      if isValidEnumValue config condition.lhs value then []
      else [⟨condition.lhs, "invalid_enum_value",
        "Invalid enum value '" ++ condition.lhs ++ "': expected one of " ++
          externals.debugStrings (parseEnumValues keyConfig) ++ ", got '" ++ value ++ "'"⟩]
  | .enum, .enumVariantArray variants =>
      let invalid := variants.filter fun variant =>
        !isValidEnumValue config condition.lhs variant
      if invalid.isEmpty then []
      else [⟨condition.lhs, "invalid_enum_values",
        "Invalid enum values '" ++ condition.lhs ++ "': expected values from " ++
          externals.debugStrings (parseEnumValues keyConfig) ++ ", got " ++
          externals.debugStrings invalid⟩]
  | .enum, value =>
      [typeMismatch condition ("Invalid enum variant '" ++ condition.lhs ++
        "': expected enum variant, got " ++ value.getType.debug)]
  | .integer, .number number =>
      underRules externals keyConfig fun rules =>
        (failures (validateNumericRange condition.lhs number.toInt64 rules)).map
          fun message => ⟨condition.lhs, "value_out_of_range", message⟩
  | .integer, .numberArray numbers =>
      (if condition.comparison = .equal ∨ condition.comparison = .notEqual then []
        else [⟨condition.lhs, "invalid_comparison",
          "Only '==' or '!=' allowed with number arrays for key '" ++ condition.lhs ++ "'"⟩]) ++
      underRules externals keyConfig fun rules =>
        numbers.zipIdx.flatMap fun (number, index) =>
          (failures (validateNumericRange condition.lhs number.toInt64 rules)).map
            fun message => ⟨condition.lhs, "value_out_of_range",
              "Element " ++ toString (index + 1) ++ ": " ++ message⟩
  | .integer, .numberComparisonArray _ =>
      if condition.comparison = .equal then []
      else [⟨condition.lhs, "invalid_comparison",
        "Only '==' allowed with number comparison arrays for key '" ++ condition.lhs ++ "'"⟩]
  | .integer, value =>
      [typeMismatch condition ("Invalid key '" ++ condition.lhs ++
        "': expected number, got " ++ value.getType.debug)]
  | .udf, .metadataVariant metadata =>
      underRules externals keyConfig fun rules =>
        (failures (validateStringValue condition.lhs metadata.value rules)).map
          fun message => ⟨condition.lhs, "length_invalid", message⟩
  | .udf, value =>
      [typeMismatch condition ("Invalid key '" ++ condition.lhs ++
        "': expected metadata variant, got " ++ value.getType.debug)]
  | .strValue, .strValue value =>
      underRules externals keyConfig fun rules =>
        (failures (validateStringValue condition.lhs value rules)).map
          fun message => ⟨condition.lhs, "length_invalid", message⟩
  | dataType, value =>
      if value.getType.toString ≠ dataType.asStr then
        [typeMismatch condition ("Invalid key '" ++ condition.lhs ++ "': expected " ++
          dataType.asStr ++ ", got " ++ value.getType.toString)]
      else
        []

/-- The errors that a comparison appends. -/
def validateCondition (config : TomlConfig) (condition : Comparison) :
    List ValidationErrorDetails :=
  match config.keys condition.lhs with
  | none =>
      [⟨condition.lhs, "unknown_key",
        "Invalid key '" ++ condition.lhs ++ "': Unknown key in condition"⟩]
  | some keyConfig =>
      validateComparisonType condition keyConfig ++
        validateValue externals config condition keyConfig

/-! ## Rules -/

mutual

def validateStatement (externals : Externals) (config : TomlConfig) :
    IfStatement → List ValidationErrorDetails
  | ⟨condition, none⟩ => condition.flatMap (validateCondition externals config)
  | ⟨condition, some nested⟩ =>
      condition.flatMap (validateCondition externals config) ++
        validateStatements externals config nested

def validateStatements (externals : Externals) (config : TomlConfig) :
    List IfStatement → List ValidationErrorDetails
  | [] => []
  | stmt :: rest =>
      validateStatement externals config stmt ++ validateStatements externals config rest

end

def validateRule (config : TomlConfig) (rule : Rule) :
    List ValidationErrorDetails :=
  validateStatements externals config rule.statements

/-- What a stored routing rule runs; an experiment refers to two other rules. -/
inductive StaticRoutingAlgorithm where
  | single (connector : ConnectorInfo)
  | priority (connectors : List ConnectorInfo)
  | volumeSplit (splits : List (VolumeSplit ConnectorInfo))
  | advanced (program : Program)
  | abTest (controlAlgorithmId variantAlgorithmId : String) (variantSplitPct : UInt8)

structure RoutingRule where
  name : String
  createdBy : String
  algorithm : StaticRoutingAlgorithm

structure ValidationResult where
  isValid : Bool
  errors : List ValidationErrorDetails
  errorSummary : Option String

namespace ValidationResult

def success : ValidationResult :=
  ⟨true, [], none⟩

def failure (errors : List ValidationErrorDetails) : ValidationResult :=
  ⟨false, errors,
    if errors.isEmpty then none
    else some (join "; " (errors.map ValidationErrorDetails.message))⟩

end ValidationResult

inductive EuclidErrors where
  | invalidRequest (message : String)
  | globalRoutingConfigsUnavailable
  | activeRoutingAlgorithmNotFound (createdBy : String)
  | routingAlgorithmNotFound (routingAlgorithmId : String)
  | storageError
  deriving DecidableEq

def validateRoutingRule (rule : RoutingRule) (config : Option TomlConfig) :
    Except EuclidErrors ValidationResult :=
  match config with
  | none => .error .globalRoutingConfigsUnavailable
  | some config =>
      match rule.algorithm with
      | .advanced program =>
          let errors := program.rules.flatMap (validateRule externals config)
          if errors.isEmpty then .ok .success else .ok (.failure errors)
      | _ => .ok .success

end DecisionEngine.Euclid
