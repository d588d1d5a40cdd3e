import DecisionEngine.Euclid.PmFilterGraph

/-!
# Growth of the compiled graph

The compiler only adds: a node keeps its kind, and the edges into a node change
only when an edge is added to it.  A part of the graph that has been built
therefore keeps its shape while later filters are compiled.  The shape of a
filter is the aggregator over its payment method type, its lists and its capture
method.
-/

namespace DecisionEngine.Euclid.PmFilter

open Cgraph

namespace GraphCompiler

/-! ## Reading the graph -/

def kindAt (compiler : GraphCompiler) (nodeId : NodeId) : Option NodeKind :=
  (compiler.nodes[nodeId]?).map Node.kind

def predsAt (compiler : GraphCompiler) (nodeId : NodeId) : List EdgeId :=
  (compiler.nodes[nodeId]?).elim [] Node.preds

/-- The edges into a node. -/
def incoming (compiler : GraphCompiler) (nodeId : NodeId) : List Edge :=
  (compiler.predsAt nodeId).filterMap (compiler.edges[·]?)

/-- The incoming edges exist, the value nodes are indexed, and only outputs
among the value nodes have incoming edges. -/
structure WellFormed (compiler : GraphCompiler) : Prop where
  resolved : ∀ nodeId, ∀ pred ∈ compiler.predsAt nodeId, pred < compiler.edges.length
  indexed : ∀ value nodeId, compiler.valueNodes.lookup value = some nodeId ↔
    compiler.kindAt nodeId = some (.value value)
  leaves : ∀ nodeId key value, compiler.kindAt nodeId = some (.value (enumClause key value)) →
    key ≠ "output" → compiler.incoming nodeId = []

variable {succ nodeId : NodeId}

variable {kind : NodeKind}

variable {compiler : GraphCompiler}

/-- The graph has grown: kinds are kept, and so are the edges into every node
but the targets. -/
structure Grows (targets : NodeId → Prop) (compiler larger : GraphCompiler) : Prop where
  wellFormed : larger.WellFormed
  kindAt : ∀ {nodeId kind}, compiler.kindAt nodeId = some kind →
    larger.kindAt nodeId = some kind
  incoming : ∀ {nodeId kind}, compiler.kindAt nodeId = some kind → ¬targets nodeId →
    larger.incoming nodeId = compiler.incoming nodeId

/-- Growth without new outputs. -/
structure Extends (targets : NodeId → Prop) (compiler larger : GraphCompiler) : Prop
    extends Grows targets compiler larger where
  outputs : ∀ {nodeId value},
    larger.kindAt nodeId = some (.value (enumClause "output" value)) →
      compiler.kindAt nodeId = some (.value (enumClause "output" value))

theorem Extends.refl (wellFormed : compiler.WellFormed) (targets : NodeId → Prop) :
    Extends targets compiler compiler :=
  ⟨⟨wellFormed, fun known => known, fun _ _ => rfl⟩, fun known => known⟩

/-- Targets of the second step that are new nodes do not count. -/
theorem Extends.trans {targets later : NodeId → Prop} {middle larger : GraphCompiler}
    (first : Extends targets compiler middle) (second : Extends later middle larger)
    (within : ∀ nodeId kind, compiler.kindAt nodeId = some kind → later nodeId →
      targets nodeId) :
    Extends targets compiler larger := by
  refine ⟨⟨second.wellFormed, fun known => second.kindAt (first.kindAt known), ?_⟩,
    fun known => first.outputs (second.outputs known)⟩
  intro nodeId kind known notTarget
  rw [second.incoming (first.kindAt known) fun isLater =>
    notTarget (within nodeId kind known isLater)]
  exact first.incoming known notTarget

end GraphCompiler

/-! ## Shapes -/

section Shapes

variable (compiler : GraphCompiler)

/-- An aggregator over the values of a key. -/
structure AnyNode (nodeId : NodeId) (key : String) (values : List String) : Prop where
  kindAt : compiler.kindAt nodeId = some .anyAggregator
  sound : ∀ edge ∈ compiler.incoming nodeId,
    edge.strength = .weak ∧ edge.relation = .positive ∧
      ∃ value ∈ values,
        compiler.kindAt edge.pred = some (.value (GraphCompiler.enumClause key value))
  complete : ∀ value ∈ values, ∃ edge ∈ compiler.incoming nodeId,
    compiler.kindAt edge.pred = some (.value (GraphCompiler.enumClause key value))

/-- The edges that a list contributes to its filter. -/
def ListEdges (key : String) (listed : Option (List String)) (edges : List Edge) : Prop :=
  match listed with
  | none => edges = []
  | some values =>
      if (allowedValues values).isEmpty then edges = []
      else ∃ edge, edges = [edge] ∧ edge.relation = .positive ∧
        AnyNode compiler edge.pred key (allowedValues values)

/-- The edges that the capture method contributes to its filter. -/
def FlowEdges (filter : CurrencyCountryFlowFilter) (edges : List Edge) : Prop :=
  match notAvailableCaptureMethod filter with
  | none => edges = []
  | some captureMethod => ∃ edge, edges = [edge] ∧ edge.strength = .strong ∧
      edge.relation = .negative ∧ compiler.kindAt edge.pred =
        some (.value (GraphCompiler.enumClause "capture_method" captureMethod))

/-- The aggregator of a filter. -/
structure RuleNode (nodeId : NodeId) (paymentMethodType : String)
    (filter : CurrencyCountryFlowFilter) : Prop where
  kindAt : compiler.kindAt nodeId = some .allAggregator
  incoming : ∃ typeEdge countryEdges currencyEdges flowEdges,
    compiler.incoming nodeId = [typeEdge] ++ countryEdges ++ currencyEdges ++ flowEdges ∧
      (typeEdge.strength = .strong ∧ typeEdge.relation = .positive ∧
        compiler.kindAt typeEdge.pred = some (.value
          (GraphCompiler.enumClause "payment_method_type" paymentMethodType))) ∧
      ListEdges compiler "billing_country" filter.country countryEdges ∧
      ListEdges compiler "currency" filter.currency currencyEdges ∧
      FlowEdges compiler filter flowEdges

end Shapes

section Stability

variable {compiler larger : GraphCompiler} {targets : NodeId → Prop}

theorem AnyNode.mono {nodeId : NodeId} {key : String} {values : List String}
    (shape : AnyNode compiler nodeId key values)
    (grows : GraphCompiler.Grows targets compiler larger) (notTarget : ¬targets nodeId) :
    AnyNode larger nodeId key values := by
  have same := grows.incoming shape.kindAt notTarget
  refine ⟨grows.kindAt shape.kindAt, ?_, ?_⟩
  · intro edge edgeMem
    rw [same] at edgeMem
    obtain ⟨isWeak, isPositive, value, valueMem, known⟩ := shape.sound edge edgeMem
    exact ⟨isWeak, isPositive, value, valueMem, grows.kindAt known⟩
  · intro value valueMem
    obtain ⟨edge, edgeMem, known⟩ := shape.complete value valueMem
    rw [same]
    exact ⟨edge, edgeMem, grows.kindAt known⟩

theorem ListEdges.mono {key : String} {listed : Option (List String)} {edges : List Edge}
    (shape : ListEdges compiler key listed edges)
    (grows : GraphCompiler.Grows targets compiler larger)
    (notTarget : ∀ nodeId, targets nodeId → compiler.kindAt nodeId ≠ some .anyAggregator) :
    ListEdges larger key listed edges := by
  cases listed with
  | none => exact shape
  | some values =>
      unfold ListEdges at shape ⊢
      by_cases blank : (allowedValues values).isEmpty = true
      · simpa [blank] using shape
      · simp only [if_neg blank] at shape ⊢
        obtain ⟨edge, equal, isPositive, anyNode⟩ := shape
        have standing : ¬targets edge.pred :=
          fun isTarget => notTarget _ isTarget anyNode.kindAt
        exact ⟨edge, equal, isPositive, anyNode.mono grows standing⟩

theorem FlowEdges.mono {filter : CurrencyCountryFlowFilter} {edges : List Edge}
    (shape : FlowEdges compiler filter edges)
    (grows : GraphCompiler.Grows targets compiler larger) :
    FlowEdges larger filter edges := by
  unfold FlowEdges at shape ⊢
  cases captureMethod : notAvailableCaptureMethod filter with
  | none => simpa [captureMethod] using shape
  | some method =>
      simp only [captureMethod] at shape ⊢
      obtain ⟨edge, equal, isStrong, isNegative, known⟩ := shape
      exact ⟨edge, equal, isStrong, isNegative, grows.kindAt known⟩

/-- A filter keeps its shape while edges are added to value nodes. -/
theorem RuleNode.mono {nodeId : NodeId} {paymentMethodType : String}
    {filter : CurrencyCountryFlowFilter}
    (shape : RuleNode compiler nodeId paymentMethodType filter)
    (grows : GraphCompiler.Grows targets compiler larger)
    (valueTargets : ∀ nodeId, targets nodeId →
      ∃ value, compiler.kindAt nodeId = some (.value value)) :
    RuleNode larger nodeId paymentMethodType filter := by
  have notRule : ¬targets nodeId := by
    intro isTarget
    obtain ⟨value, known⟩ := valueTargets nodeId isTarget
    simp [shape.kindAt] at known
  have notAny : ∀ nodeId, targets nodeId →
      compiler.kindAt nodeId ≠ some .anyAggregator := by
    intro other isTarget isAny
    obtain ⟨value, known⟩ := valueTargets other isTarget
    simp [isAny] at known
  obtain ⟨typeEdge, countryEdges, currencyEdges, flowEdges, equal,
    ⟨isStrong, isPositive, known⟩, country, currency, flow⟩ := shape.incoming
  refine ⟨grows.kindAt shape.kindAt, typeEdge, countryEdges, currencyEdges, flowEdges, ?_,
    ⟨isStrong, isPositive, grows.kindAt known⟩, country.mono grows notAny,
    currency.mono grows notAny, flow.mono grows⟩
  rw [grows.incoming shape.kindAt notRule, equal]

end Stability

/-! ## Compiling a filter -/

open GraphCompiler

section Compiling

variable {compiler : GraphCompiler}

end Compiling

end DecisionEngine.Euclid.PmFilter
