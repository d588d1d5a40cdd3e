import DecisionEngine.Euclid.Cgraph
import DecisionEngine.Euclid.Validator

/-!
# Payment-method filters

A filter configuration names, for a connector and a payment method type, the
countries and currencies a payment may have and a capture method it may not
have.  It is compiled to one constraint graph; a connector of a request is kept
when the clause that names it holds in the graph.

The configuration comes from hash maps.  It is the list of their entries here,
in the order in which the compiler iterates over them.
-/

namespace DecisionEngine.Euclid.PmFilter

open Text Cgraph

/-! ## Configuration -/

structure NotAvailableFlows where
  captureMethod : Option String

structure CurrencyCountryFlowFilter where
  country : Option (List String)
  currency : Option (List String)
  notAvailableFlows : Option NotAvailableFlows

/-- The filters of one connector by payment method type. -/
abbrev PaymentMethodFilters := List (String × CurrencyCountryFlowFilter)

/-- The filters by connector name. -/
abbrev ConnectorFilters := List (String × PaymentMethodFilters)

def pmFilterDefaultOutputSentinel : String := "__pm_default__"

/-- The form in which connector names and payment method types are compared. -/
def normalize (name : String) : String :=
  toAsciiLowercase (trim name)

/-- The listed values of a filter: trimmed, in upper case, without blanks. -/
def allowedValues (values : List String) : List String :=
  (values.map fun value => toAsciiUppercase (trim value)).filter (· ≠ "")

/-! ## Graph compiler -/

structure GraphCompiler where
  nodes : List Node
  edges : List Edge
  valueNodes : List (NodeValue × NodeId)

namespace GraphCompiler

def empty : GraphCompiler :=
  ⟨[], [], []⟩

variable (compiler : GraphCompiler)

/-- The clause node that asks for an enum value under a key. -/
def enumClause (key value : String) : NodeValue :=
  .value ⟨key, .equal, .enumVariant value⟩

end GraphCompiler

variable (compiler : GraphCompiler) (filter : CurrencyCountryFlowFilter)

/-- The capture method that a filter rules out. -/
def notAvailableCaptureMethod (filter : CurrencyCountryFlowFilter) : Option String :=
  (((filter.notAvailableFlows.bind NotAvailableFlows.captureMethod).map trim).filter
    (· ≠ "")).map toAsciiLowercase

structure PmFilterGraphBundle where
  graph : ConstraintGraph
  explicitConnectors : List String
  hasDefaultRules : Bool
  explicitConnectorPaymentMethodTypes : String → Option (List String)
  defaultPaymentMethodTypes : List String
  billingCountryToIso2 : String → Option String
  nodeCount : Nat
  edgeCount : Nat

/-- What has been built while the configuration is read. -/
structure Builder where
  compiler : GraphCompiler
  explicitConnectors : List String
  hasDefaultRules : Bool
  explicitConnectorPaymentMethodTypes : String → Option (List String)
  defaultPaymentMethodTypes : List String

def Builder.empty : Builder :=
  ⟨.empty, [], false, fun _ => none, []⟩

/-- A country code of two ASCII letters. -/
def isIso2 (country : String) : Bool :=
  country.utf8ByteSize == 2 && country.toList.all Char.isAlpha

variable (parameters : Context)

def getParameterString (key : String) : Option String :=
  match parameters key with
  | some (some (.enumVariant inner)) => some inner
  | some (some (.strValue inner)) => some inner
  | _ => none

def hasPaymentMethodType (parameters : Context) : Bool :=
  (getParameterString parameters "payment_method_type").isSome

/-- A parameter without the white space around it, if anything is left. -/
def trimmedParameter (key : String) : Option String :=
  ((getParameterString parameters key).map trim).filter (· ≠ "")

/-- The two-letter code of a country; `none` for a country that is not known. -/
def normalizeBillingCountryIso2 (billingCountry : String)
    (billingCountryToIso2 : String → Option String) : Option String :=
  let trimmed := trim billingCountry
  if trimmed.isEmpty then none
  else
    let normalized := toAsciiUppercase trimmed
    if isIso2 normalized then some normalized
    else
      (billingCountryToIso2 trimmed).or (billingCountryToIso2 (toAsciiLowercase trimmed))

/-- The context values of the graph. -/
abbrev ContextValues := String → Option ValueType

def insertValue (ctx : ContextValues) (key : String) (value : Option String) :
    ContextValues :=
  match value with
  | none => ctx
  | some value => Function.update ctx key (some (.enumVariant value))

def buildPmFilterContext (billingCountryToIso2 : String → Option String) : Option ContextValues :=
  match (trimmedParameter parameters "payment_method_type").map toAsciiLowercase with
  | none => none
  | some paymentMethodType =>
      let ctx := insertValue (fun _ => none) "payment_method_type" (some paymentMethodType)
      let ctx := insertValue ctx "currency"
        ((trimmedParameter parameters "currency").map toAsciiUppercase)
      let ctx := insertValue ctx "capture_method"
        ((trimmedParameter parameters "capture_method").map toAsciiLowercase)
      some (insertValue ctx "billing_country"
        ((getParameterString parameters "billing_country").bind fun country =>
          normalizeBillingCountryIso2 country billingCountryToIso2))

def getContextEnumValue (ctx : ContextValues) (key : String) : Option String :=
  match ctx key with
  | some (.enumVariant inner) => some inner
  | some (.strValue inner) => some inner
  | _ => none

/-! ## Filtering -/

variable (bundle : PmFilterGraphBundle) (baseCtx : ContextValues)

/-- The output whose rules decide about a connector: its own, else the default
one, else none. -/
def outputClauseValue (connector : ConnectorInfo) : Option String :=
  let normalizedConnector := normalize connector.gatewayName
  let paymentMethodType := getContextEnumValue baseCtx "payment_method_type"
  if paymentMethodType.any fun pmt =>
      (bundle.explicitConnectorPaymentMethodTypes normalizedConnector).any (·.contains pmt) then
    some normalizedConnector
  else if paymentMethodType.any bundle.defaultPaymentMethodTypes.contains then
    some pmFilterDefaultOutputSentinel
  else
    none

/-- The graph evaluation for one output. -/
def checkOutput (fuel : Nat) (baseCtx : ContextValues) (outputValue : String) :
    Option (Except CgraphError Bool) :=
  bundle.graph.checkClauseValidity fuel ⟨"output", .equal, .enumVariant outputValue⟩
    ⟨insertValue baseCtx "output" (some outputValue)⟩

/-- A connector without a rule is kept, and so is one whose evaluation fails. -/
def connectorIsEligible (fuel : Nat) (baseCtx : ContextValues) (connector : ConnectorInfo) :
    Option Bool :=
  match outputClauseValue bundle baseCtx connector with
  | none => some true
  | some outputValue =>
      match checkOutput bundle fuel baseCtx outputValue with
      | none => none
      | some (.ok eligible) => some eligible
      | some (.error _) => some true

/-- Filter by a test that may run out of fuel. -/
def filterConnectors (eligible : ConnectorInfo → Option Bool) :
    List ConnectorInfo → Option (List ConnectorInfo)
  | [] => some []
  | connector :: rest =>
      match eligible connector, filterConnectors eligible rest with
      | some true, some kept => some (connector :: kept)
      | some false, some kept => some kept
      | _, _ => none

def filterEligibleConnectors (fuel : Nat) (parameters : Context) (connectors : List ConnectorInfo) :
    Option (List ConnectorInfo) :=
  match buildPmFilterContext parameters bundle.billingCountryToIso2 with
  | none => some connectors
  | some baseCtx => filterConnectors (connectorIsEligible bundle fuel baseCtx) connectors

end DecisionEngine.Euclid.PmFilter
