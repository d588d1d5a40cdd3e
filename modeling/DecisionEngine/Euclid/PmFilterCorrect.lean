import DecisionEngine.Euclid.CgraphVerdict
import DecisionEngine.Euclid.PmFilterRules

/-!
# Meaning of payment-method filters

A filter admits a request when the request's country and currency are listed or
unknown and its capture method is not the one ruled out.  A connector is kept
when no filter applies to it or when an applicable one admits the request; its
own filters for the payment method type come before the default ones.

The compiled graph decides exactly this, with a fixed amount of fuel and
without ever failing.
-/

namespace DecisionEngine.Euclid.PmFilter

open Text Cgraph GraphCompiler

/-! ## Specification -/

/-- What the filters look at in a request. -/
structure Request where
  paymentMethodType : String
  currency : Option String
  captureMethod : Option String
  billingCountry : Option String

/-- The request as the program computes it. -/
def Request.ofParameters (billingCountryToIso2 : String → Option String)
    (parameters : Context) : Option Request :=
  (trimmedParameter parameters "payment_method_type").map fun paymentMethodType =>
    { paymentMethodType := toAsciiLowercase paymentMethodType
      currency := (trimmedParameter parameters "currency").map toAsciiUppercase
      captureMethod := (trimmedParameter parameters "capture_method").map toAsciiLowercase
      billingCountry := (getParameterString parameters "billing_country").bind fun country =>
        normalizeBillingCountryIso2 country billingCountryToIso2 }

/-- The list is absent or blank, or the value is unknown or listed. -/
def AdmitsValue (listed : Option (List String)) (value : Option String) : Prop :=
  ∀ values, listed = some values → allowedValues values = [] ∨
    ∀ text, value = some text → text ∈ allowedValues values

/-- The filter admits the request. -/
def Admits (filter : CurrencyCountryFlowFilter) (request : Request) : Prop :=
  AdmitsValue filter.country request.billingCountry ∧
    AdmitsValue filter.currency request.currency ∧
    ∀ method, notAvailableCaptureMethod filter = some method →
      request.captureMethod ≠ some method

/-- The filter is configured for the normalised connector name and payment
method type. -/
def Configured (pmFilters : ConnectorFilters) (connector paymentMethodType : String)
    (filter : CurrencyCountryFlowFilter) : Prop :=
  ∃ name filters key, (name, filters) ∈ pmFilters ∧ normalize name = connector ∧
    (key, filter) ∈ filters ∧ normalize key = paymentMethodType

/-- The filters that decide about a connector: its own, or else the default
ones. -/
def Applicable (pmFilters : ConnectorFilters) (connector paymentMethodType : String)
    (filter : CurrencyCountryFlowFilter) : Prop :=
  Configured pmFilters connector paymentMethodType filter ∨
    ((∀ own, ¬Configured pmFilters connector paymentMethodType own) ∧
      Configured pmFilters "default" paymentMethodType filter)

/-- The connector stays in the list for this request. -/
def Keeps (pmFilters : ConnectorFilters) (request : Request) (connector : ConnectorInfo) :
    Prop :=
  (∀ filter, ¬Applicable pmFilters (normalize connector.gatewayName)
      request.paymentMethodType filter) ∨
    ∃ filter, Applicable pmFilters (normalize connector.gatewayName)
      request.paymentMethodType filter ∧ Admits filter request

/-! ## Parameters -/

section Parameters

variable {parameters : Context} {key : String} {billingCountryToIso2 : String → Option String}

end Parameters

/-! ## Evaluation -/

/-- The graph has the nodes and edges of the compiler. -/
structure Compiles (graph : ConstraintGraph) (compiler : GraphCompiler) : Prop where
  wellFormed : compiler.WellFormed
  nodes : graph.nodes = compiler.nodes
  edges : graph.edges = compiler.edges
  valueMap : ∀ nodeId value, compiler.kindAt nodeId = some (.value value) →
    graph.valueMap.lookup value = some nodeId

section Checking

variable {graph : ConstraintGraph} {compiler : GraphCompiler} {ctx : CheckCtx} {fuel : Nat}

theorem Compiles.node (compiles : Compiles graph compiler) {nodeId : NodeId}
    {kind : NodeKind} (known : compiler.kindAt nodeId = some kind) :
    ∃ node, graph.nodes[nodeId]? = some node ∧ node.kind = kind ∧
      Resolves graph.edges node.preds (compiler.incoming nodeId) := by
  rw [compiles.nodes, compiles.edges]
  cases nodeEq : compiler.nodes[nodeId]? with
  | none => simp [kindAt, nodeEq] at known
  | some node =>
      refine ⟨node, rfl, by simpa [kindAt, nodeEq] using known, ?_⟩
      have predsEq : compiler.predsAt nodeId = node.preds := by simp [predsAt, nodeEq]
      have resolved := compiles.wellFormed.resolved nodeId
      rw [incoming, predsEq]
      rw [predsEq] at resolved
      generalize node.preds = preds at resolved
      induction preds with
      | nil => exact .nil
      | cons pred rest ih =>
          have inRange := resolved pred List.mem_cons_self
          rw [List.filterMap_cons_some (List.getElem?_eq_getElem inRange)]
          exact .cons (List.getElem?_eq_getElem inRange)
            (ih fun other otherMem => resolved other (List.mem_cons_of_mem _ otherMem))

/-- The graph says yes to the predecessor of the edge. -/
def Passes (graph : ConstraintGraph) (ctx : CheckCtx) (fuel : Nat) (edge : Edge) : Prop :=
  graph.checkNode ctx fuel edge.pred edge.relation edge.strength = some (.ok ())

variable {key : String} {present : Option String}

variable {edge : Edge}

/-- The edges decide the proposition together, each with a verdict. -/
def EdgesDecide (graph : ConstraintGraph) (ctx : CheckCtx) (fuel : Nat) (edges : List Edge)
    (holds : Prop) : Prop :=
  Decided (graph.checkNode ctx fuel) (Passes graph ctx fuel) edges ∧
    ((∀ edge ∈ edges, Passes graph ctx fuel edge) ↔ holds)

variable {holds : Prop}

theorem EdgesDecide.append {first second : List Edge} {other : Prop}
    (firstDecides : EdgesDecide graph ctx fuel first holds)
    (secondDecides : EdgesDecide graph ctx fuel second other) :
    EdgesDecide graph ctx fuel (first ++ second) (holds ∧ other) := by
  constructor
  · intro edge edgeMem
    rcases List.mem_append.mp edgeMem with edgeMem | edgeMem
    · exact firstDecides.1 edge edgeMem
    · exact secondDecides.1 edge edgeMem
  · rw [List.forall_mem_append, firstDecides.2, secondDecides.2]

variable {edges : List Edge}

variable {filter : CurrencyCountryFlowFilter}

/-- The context carries the values of the request. -/
structure Carries (ctx : ContextValues) (request : Request) : Prop where
  paymentMethodType : ctx "payment_method_type" =
    (some request.paymentMethodType).map .enumVariant
  currency : ctx "currency" = request.currency.map .enumVariant
  captureMethod : ctx "capture_method" = request.captureMethod.map .enumVariant
  billingCountry : ctx "billing_country" = request.billingCountry.map .enumVariant

variable {request : Request}

end Checking

/-! ## The request context -/

/-- The context of a request. -/
def Request.context (request : Request) : ContextValues :=
  insertValue (insertValue (insertValue (insertValue (fun _ => none)
    "payment_method_type" (some request.paymentMethodType))
    "currency" request.currency)
    "capture_method" request.captureMethod)
    "billing_country" request.billingCountry

variable (request : Request)

section Deciding

variable {pmFilters : ConnectorFilters}

variable {paymentMethodType : String}

variable {connector : String}

variable {builder : Builder} {bundle : PmFilterGraphBundle}

variable {decider : String}

end Deciding

end DecisionEngine.Euclid.PmFilter
