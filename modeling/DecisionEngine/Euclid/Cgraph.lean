import DecisionEngine.Euclid.Ast

/-!
# Constraint graph

Nodes are clauses or aggregators; an edge carries the strength and the sense in
which its predecessor is required.  Checking a node follows its incoming edges.

Graphs can also be read from a configuration, so nothing rules out a cycle and
the check takes fuel; `none` means that it ran out.
-/

namespace DecisionEngine.Euclid.Cgraph

/-! ## Data -/

abbrev NodeId := Nat

abbrev EdgeId := Nat

structure Clause where
  key : String
  comparison : ComparisonType
  value : ValueType
  deriving DecidableEq

inductive NodeValue where
  | key (key : String)
  | value (clause : Clause)
  deriving DecidableEq

inductive NodeKind where
  | allAggregator
  | anyAggregator
  | value (value : NodeValue)

structure Node where
  kind : NodeKind
  preds : List EdgeId
  succs : List EdgeId

inductive Strength where
  | weak
  | normal
  | strong
  deriving DecidableEq

inductive Relation where
  | positive
  | negative
  deriving DecidableEq

namespace Relation

def toBool : Relation → Bool
  | positive => true
  | negative => false

end Relation

structure Edge where
  strength : Strength
  relation : Relation
  pred : NodeId
  succ : NodeId

mutual

/-- Why a node is not satisfied. -/
inductive AnalysisTrace where
  | value (value : NodeValue) (relation : Relation)
      (predecessors : Option ValueTracePredecessor)
  | allAggregation (unsatisfied : List AnalysisTrace)
  | anyAggregation (unsatisfied : List AnalysisTrace)

inductive ValueTracePredecessor where
  | mandatory (trace : AnalysisTrace)
  | oneOf (traces : List AnalysisTrace)

end

inductive CgraphError where
  | invalidOperation
  | nodeNotFound
  | edgeNotFound
  | checkFailure (trace : AnalysisTrace)

namespace CgraphError

/-- The trace of a failed check; every other error is passed on. -/
def getTrace : CgraphError → Except CgraphError AnalysisTrace
  | checkFailure trace => .ok trace
  | failure => .error failure

end CgraphError

/-! ## Clauses -/

/-- The values a clause is checked against. -/
structure CheckCtx where
  ctxVals : String → Option ValueType

namespace CheckCtx

/-- Request parameters without a value are dropped. -/
def ofParameters (parameters : Context) : CheckCtx :=
  ⟨fun key => (parameters key).join⟩

/-- The truth table of a clause against the value under its key; `none` marks
an unsupported combination. -/
def checkClause : ValueType → ComparisonType → ValueType → Option Bool
  | .enumVariant e1, .equal, .enumVariant e2 => some (e1 == e2)
  | .enumVariant e1, .notEqual, .enumVariant e2 => some (e1 != e2)
  | .number n1, .equal, .number n2 => some (n1 == n2)
  | .number n1, .notEqual, .number n2 => some (n1 != n2)
  | .number n1, .greaterThanEqual, .number n2 => some (n1 ≥ n2)
  | .number n1, .lessThanEqual, .number n2 => some (n1 ≤ n2)
  | .number n1, .greaterThan, .number n2 => some (n1 > n2)
  | .number n1, .lessThan, .number n2 => some (n1 < n2)
  | .metadataVariant m1, .equal, .metadataVariant m2 => some (m1 == m2)
  | .metadataVariant m1, .notEqual, .metadataVariant m2 => some (m1 != m2)
  | .strValue s1, .equal, .strValue s2 => some (s1 == s2)
  -- the sense of this arm is the one of the arm above
  | .strValue s1, .notEqual, .strValue s2 => some (s1 == s2)
  | _, _, _ => none

/-- A key that is missing from the context satisfies weak edges only. -/
def check (ctx : CheckCtx) (value : NodeValue) (strength : Strength) :
    Except CgraphError Bool :=
  match value with
  | .key key => .ok ((ctx.ctxVals key).isSome || strength == .weak)
  | .value clause =>
      match ctx.ctxVals clause.key with
      | none => .ok (strength == .weak)
      | some ctxValue =>
          match checkClause ctxValue clause.comparison clause.value with
          | some result => .ok result
          | none => .error .invalidOperation

end CheckCtx

/-! ## Graphs -/

structure ConstraintGraph where
  nodes : List Node
  edges : List Edge
  valueMap : List (NodeValue × NodeId)

namespace ConstraintGraph

/-- Index the value nodes; two nodes with one value are rejected. -/
def indexValues : List Node → NodeId → List (NodeValue × NodeId) →
    Except String (List (NodeValue × NodeId))
  | [], _, valueMap => .ok valueMap
  | node :: rest, nodeId, valueMap =>
      match node.kind with
      | .value value =>
          if (valueMap.lookup value).isSome then
            .error "duplicate key/value node found"
          else
            indexValues rest (nodeId + 1) ((value, nodeId) :: valueMap)
      | _ => indexValues rest (nodeId + 1) valueMap

def tryFrom (nodes : List Node) (edges : List Edge) : Except String ConstraintGraph :=
  (indexValues nodes 0 []).map fun valueMap => ⟨nodes, edges, valueMap⟩

end ConstraintGraph

/-! ## Checking -/

/-- The outcome of checking a node within the given fuel. -/
abbrev Outcome := Option (Except CgraphError Unit)

/-- A check of a predecessor, as the loops over incoming edges call it. -/
abbrev NodeCheck := NodeId → Relation → Strength → Outcome

section Loops

variable (edges : List Edge) (checkNode : NodeCheck)

/-- Every predecessor has to be satisfied; all of them are checked. -/
def validateAllAggregator : List EdgeId → List AnalysisTrace → Outcome
  | [], unsatisfied =>
      if unsatisfied.isEmpty then some (.ok ())
      else some (.error (.checkFailure (.allAggregation unsatisfied)))
  | pred :: rest, unsatisfied =>
      match edges[pred]? with
      | none => some (.error .edgeNotFound)
      | some edge =>
          match checkNode edge.pred edge.relation edge.strength with
          | none => none
          | some (.ok ()) => validateAllAggregator rest unsatisfied
          | some (.error failure) =>
              match failure.getTrace with
              | .ok trace => validateAllAggregator rest (unsatisfied ++ [trace])
              | .error other => some (.error other)

/-- One satisfied predecessor is enough, and so is having none at all. -/
def validateAnyAggregator (noPreds : Bool) :
    List EdgeId → Bool → List AnalysisTrace → Outcome
  | [], matchedOne, unsatisfied =>
      if matchedOne || noPreds then some (.ok ())
      else some (.error (.checkFailure (.anyAggregation unsatisfied)))
  | pred :: rest, matchedOne, unsatisfied =>
      match edges[pred]? with
      | none => some (.error .edgeNotFound)
      | some edge =>
          match checkNode edge.pred edge.relation edge.strength with
          | none => none
          | some (.ok ()) => validateAnyAggregator noPreds rest true unsatisfied
          | some (.error failure) =>
              match failure.getTrace with
              | .ok trace =>
                  validateAnyAggregator noPreds rest matchedOne (unsatisfied ++ [trace])
              | .error other => some (.error other)

/-- The predecessors of a value node: a failing strong edge is fatal, and one
edge has to succeed. -/
def validateValuePreds (value : NodeValue) (relation : Relation) (noPreds : Bool) :
    List EdgeId → Bool → List AnalysisTrace → Outcome
  | [], matchedOne, unsatisfied =>
      if matchedOne || noPreds then some (.ok ())
      else some (.error (.checkFailure
        (.value value relation (some (.oneOf unsatisfied)))))
  | pred :: rest, matchedOne, unsatisfied =>
      match edges[pred]? with
      | none => some (.error .edgeNotFound)
      | some edge =>
          match checkNode edge.pred edge.relation edge.strength with
          | none => none
          | some (.ok ()) => validateValuePreds value relation noPreds rest true unsatisfied
          | some (.error failure) =>
              match edge.strength, failure.getTrace with
              | _, .error other => some (.error other)
              | .strong, .ok trace =>
                  some (.error (.checkFailure
                    (.value value relation (some (.mandatory trace)))))
              | _, .ok trace =>
                  validateValuePreds value relation noPreds rest matchedOne
                    (unsatisfied ++ [trace])

/-- A value node has to hold in the wanted sense before its predecessors are
looked at. -/
def validateValue (ctx : CheckCtx) (value : NodeValue) (strength : Strength)
    (relation : Relation) (preds : List EdgeId) : Outcome :=
  match ctx.check value strength with
  | .error failure => some (.error failure)
  | .ok inContext =>
      if inContext != relation.toBool then
        some (.error (.checkFailure (.value value relation none)))
      else
        validateValuePreds edges checkNode value relation preds.isEmpty preds false []

end Loops

namespace ConstraintGraph

/-- Check one node of the graph. -/
def checkNode (graph : ConstraintGraph) (ctx : CheckCtx) : Nat → NodeCheck
  | 0, _, _, _ => none
  | fuel + 1, nodeId, relation, strength =>
      match graph.nodes[nodeId]? with
      | none => some (.error .nodeNotFound)
      | some node =>
          match node.kind with
          | .allAggregator =>
              validateAllAggregator graph.edges (checkNode graph ctx fuel) node.preds []
          | .anyAggregator =>
              validateAnyAggregator graph.edges (checkNode graph ctx fuel)
                node.preds.isEmpty node.preds false []
          | .value value =>
              validateValue graph.edges (checkNode graph ctx fuel) ctx value strength
                relation node.preds

/-- Whether a clause of the graph holds; a clause without a node does not. -/
def checkClauseValidity (graph : ConstraintGraph) (fuel : Nat) (clause : Clause)
    (ctx : CheckCtx) : Option (Except CgraphError Bool) :=
  match graph.valueMap.lookup (.value clause) with
  | none => some (.ok false)
  | some nodeId =>
      match graph.checkNode ctx fuel nodeId .positive .strong with
      | none => none
      | some (.ok ()) => some (.ok true)
      | some (.error failure) =>
          match failure.getTrace with
          | .ok _ => some (.ok false)
          | .error other => some (.error other)

end ConstraintGraph

end DecisionEngine.Euclid.Cgraph
