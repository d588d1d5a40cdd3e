import DecisionEngine.Euclid.Cgraph
import Mathlib.Data.List.Forall2

/-!
# Verdicts of the constraint graph

A check that neither fails nor runs out of fuel says yes, or no with a trace.
The three loops over incoming edges turn verdicts about the predecessors into a
verdict about the node, so the meaning of a node can be read off its incoming
edges.
-/

namespace DecisionEngine.Euclid.Cgraph

/-- The check ends, with a yes when `holds` and with an explained no
otherwise. -/
def Verdict (holds : Prop) (outcome : Outcome) : Prop :=
  (holds ∧ outcome = some (.ok ())) ∨
    (¬holds ∧ ∃ trace, outcome = some (.error (.checkFailure trace)))

variable {holds : Prop} {outcome : Outcome}

theorem Verdict.congr {other : Prop} (same : holds ↔ other) (verdict : Verdict holds outcome) :
    Verdict other outcome := by
  rwa [Verdict, ← same]

theorem Verdict.no (isFalse : ¬holds) (trace : AnalysisTrace) :
    Verdict holds (some (.error (.checkFailure trace))) :=
  Or.inr ⟨isFalse, trace, rfl⟩

/-- The edge ids `preds` name the edges `incoming`. -/
def Resolves (edges : List Edge) (preds : List EdgeId) (incoming : List Edge) : Prop :=
  List.Forall₂ (fun pred edge => edges[pred]? = some edge) preds incoming

/-- The check of each incoming edge has a verdict. -/
def Decided (checkNode : NodeCheck) (holds : Edge → Prop) (incoming : List Edge) : Prop :=
  ∀ edge ∈ incoming, Verdict (holds edge) (checkNode edge.pred edge.relation edge.strength)

theorem Resolves.isEmpty_iff {edges : List Edge} {preds : List EdgeId}
    {incoming : List Edge} (resolves : Resolves edges preds incoming) :
    preds.isEmpty = true ↔ incoming = [] := by
  cases resolves <;> simp

section Loops

variable {edges : List Edge} {checkNode : NodeCheck} {holds : Edge → Prop}
  {preds : List EdgeId} {incoming : List Edge}

theorem Decided.head {edge : Edge} (decided : Decided checkNode holds (edge :: incoming)) :
    Verdict (holds edge) (checkNode edge.pred edge.relation edge.strength) :=
  decided edge List.mem_cons_self

theorem Decided.tail {edge : Edge} (decided : Decided checkNode holds (edge :: incoming)) :
    Decided checkNode holds incoming :=
  fun other otherMem => decided other (List.mem_cons_of_mem _ otherMem)

end Loops

/-! ## Nodes -/

namespace ConstraintGraph

variable {graph : ConstraintGraph} {ctx : CheckCtx} {fuel : Nat} {nodeId : NodeId}
  {node : Node} {incoming : List Edge} {holds : Edge → Prop}

end ConstraintGraph

/-! ## The value index -/

namespace ConstraintGraph

/-- The value of a node that is not an aggregator. -/
def valueOf (node : Node) : Option NodeValue :=
  match node.kind with
  | .value value => some value
  | _ => none

variable {rest : List Node} {valueMap : List (NodeValue × NodeId)}

end ConstraintGraph

end DecisionEngine.Euclid.Cgraph
