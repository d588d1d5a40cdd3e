import DecisionEngine.Scoring.ScoreMap
import Mathlib.Data.String.Basic

/-!
# Cost-aware reordering

The choice of a gateway by expected value: the score, times the margin less the cost.
A gateway without cost data has no expected value.
-/

namespace DecisionEngine.Scoring

open Map Number

inductive CostSource where
  | inHouse
  | seed
  | hypersense
  deriving DecidableEq

structure CostModel (F : Type) where
  brand : Option String
  variant : Option String
  issuer : Option String
  ccy : Option String
  icCategory : Option String
  pctBps : Option F
  fixedFee : Option F

structure PspCost (F : Type) where
  available : Bool
  effectiveCostBps : F
  source : CostSource
  costModel : Option (CostModel F)

inductive MultiObjectiveOutcome where
  | costWon
  | authWon
  deriving DecidableEq

/-- The explanation of an outcome, with the values that its text shows. -/
inductive MultiObjectiveReason (F : Type) where
  /-- Only one PSP available; nothing to reorder. -/
  | onlyOnePsp
  /-- SR head has no finite score; cannot evaluate cost. -/
  | noFiniteHeadScore
  /-- No cost data for the SR head; cannot rank it on expected value. -/
  | noHeadCost
  /-- SR head retained: it is the highest expected-value PSP. -/
  | headRetained (ranked : Nat)
  /-- Promoted on expected value, with the basis points saved and the score given up. -/
  | promoted (chosen head : Gateway) (costSavedBps authGivenUp : F)

structure PspSummary (F : Type) where
  psp : Gateway
  authRate : F
  costBps : Option F
  costSource : Option CostSource
  costModel : Option (CostModel F)

structure RankedPsp (F : Type) where
  summary : PspSummary F
  ev : F
  isSrHead : Bool
  isChosen : Bool

structure MultiObjectiveInfo (F : Type) where
  outcome : MultiObjectiveOutcome
  reason : MultiObjectiveReason F
  costSavedBps : Option F
  qualifiedCount : Nat
  margin : F
  evGapTop2 : Option F
  ranked : List (RankedPsp F)

structure CostDecision where
  chosen : Gateway
  fallbacks : List Gateway
  deriving DecidableEq

structure ReorderOutcome (F : Type) where
  headMoved : Bool
  info : MultiObjectiveInfo F
  costDecision : Option CostDecision

section Reorder

variable {F : Type} [MachineNumber F]

/-! ## Costs and expected values -/

/-- The distance of one from the next number of 64 bits. -/
def epsilon : F := ofRat (1 / 2 ^ 52)

variable (costs : HashMap Gateway (PspCost F))

/-- The finite cost of a gateway; the program takes infinity where there is none. -/
def costBps (gateway : Gateway) : Option F :=
  match costs.lookup gateway with
  | some cost =>
      if cost.available && MachineNumber.isFinite cost.effectiveCostBps then
        some cost.effectiveCostBps
      else none
  | none => none

def expectedValue (margin score cost : F) : F :=
  score * (margin - cost / ofRat 10000)

variable (order : IterationOrder Gateway F)

/-- The first of the gateways with the greatest score. -/
def currentHead (scoreMap : GatewayScoreMap F) :
    Option (Gateway × F) :=
  (order.entries scoreMap).foldl
    (fun best entry =>
      match best with
      | none => some entry
      | some head => if gt entry.2 head.2 then some entry else some head)
    none

variable (scoreMap : GatewayScoreMap F)

/-- The least name among the gateways whose score is the best one. -/
def headPsp (bestAuth : F) :
    Option Gateway :=
  (((order.entries scoreMap).filter fun entry =>
    lt (abs (entry.2 - bestAuth)) epsilon).map Prod.fst).min?

theorem mem_of_headPsp {order : IterationOrder Gateway F} {scoreMap : GatewayScoreMap F}
    {bestAuth : F} {head : Gateway} (found : headPsp order scoreMap bestAuth = some head) :
    head ∈ scoreMap := by
  rcases List.mem_map.mp (List.min?_mem found) with ⟨entry, kept, rfl⟩
  exact IterationOrder.mem_of_mem_entries (List.mem_of_mem_filter kept)

/-! ## Promotion -/

/-- The gateway that the loop has chosen, and the values of those that it has ranked. -/
structure Promotion (F : Type) where
  chosenPsp : Gateway
  chosenScore : F
  chosenCost : F
  chosenEv : F
  rankedEvs : List F

/-- Promote on a strict gain; the head and the gateways without cost are passed over. -/
def Promotion.visit (head : Gateway) (margin : F) (costs : HashMap Gateway (PspCost F))
    (promotion : Promotion F) (entry : Gateway × F) : Promotion F :=
  if entry.1 = head then promotion
  else
    match costBps costs entry.1 with
    | none => promotion
    | some cost =>
        let candEv := expectedValue margin entry.2 cost
        let rankedEvs := promotion.rankedEvs ++ [candEv]
        if gt candEv (promotion.chosenEv + epsilon) then
          ⟨entry.1, entry.2, cost, candEv, rankedEvs⟩
        else { promotion with rankedEvs }

theorem Promotion.chosen_visit (head : Gateway) (margin : F)
    (costs : HashMap Gateway (PspCost F)) (promotion : Promotion F) (entry : Gateway × F) :
    (promotion.visit head margin costs entry).chosenPsp = promotion.chosenPsp ∨
      (promotion.visit head margin costs entry).chosenPsp = entry.1 := by
  unfold Promotion.visit
  split
  · exact Or.inl rfl
  · split
    · exact Or.inl rfl
    · dsimp only
      split
      · exact Or.inr rfl
      · exact Or.inl rfl

/-- The choice stays, or it is one of the gateways that the loop met. -/
theorem Promotion.chosen_foldl_visit (head : Gateway) (margin : F)
    (costs : HashMap Gateway (PspCost F)) (entries : List (Gateway × F))
    (promotion : Promotion F) :
    (entries.foldl (visit head margin costs) promotion).chosenPsp = promotion.chosenPsp ∨
      (entries.foldl (visit head margin costs) promotion).chosenPsp ∈ entries.map Prod.fst := by
  induction entries generalizing promotion with
  | nil => exact Or.inl rfl
  | cons entry rest ih =>
      rw [List.foldl_cons, List.map_cons, List.mem_cons]
      rcases ih (promotion.visit head margin costs entry) with same | later
      · rcases promotion.chosen_visit head margin costs entry with kept | promoted
        · exact Or.inl (same.trans kept)
        · exact Or.inr (Or.inl (same.trans promoted))
      · exact Or.inr (Or.inr later)

/-! ## Fallbacks and the ranked list -/

variable (margin : F)

/-- The other gateways: those with a cost by expected value, then the rest by score. -/
def buildEvOrderedFallbacks (costs : HashMap Gateway (PspCost F)) (chosen : Gateway) :
    List Gateway :=
  let others := (order.entries scoreMap).filter fun entry => entry.1 != chosen
  let withCost := others.filterMap fun entry =>
    (costBps costs entry.1).map fun cost => (entry.1, expectedValue margin entry.2 cost)
  let withoutCost := others.filter fun entry => (costBps costs entry.1).isNone
  (sortDescending Prod.snd withCost).map Prod.fst ++
    (sortDescending Prod.snd withoutCost).map Prod.fst

def makeSummary (psp : Gateway) (authRate cost : F) :
    PspSummary F :=
  { psp
    authRate
    costBps := some cost
    costSource := (costs.lookup psp).map (·.source)
    costModel := (costs.lookup psp).bind (·.costModel) }

/-- The gateways with a cost, the best expected value first and the lesser name first
on ties. -/
def buildRanked (costs : HashMap Gateway (PspCost F)) (head chosen : Gateway) :
    List (RankedPsp F) :=
  let ranked := (order.entries scoreMap).filterMap fun entry =>
    (costBps costs entry.1).map fun cost =>
      { summary := makeSummary costs entry.1 entry.2 cost
        ev := expectedValue margin entry.2 cost
        isSrHead := head == entry.1
        isChosen := chosen == entry.1 }
  ranked.insertionSort fun left right =>
    (compareOrEqual right.ev left.ev).then (compare left.summary.psp right.summary.psp) ≠ .gt

/-- The difference of the two greatest values. -/
def top2Gap (evs : List F) : Option F :=
  match sortDescending id evs with
  | first :: second :: _ => some (first - second)
  | _ => none

/-! ## The reordering -/

def authWon (reason : MultiObjectiveReason F) : ReorderOutcome F where
  headMoved := false
  info :=
    { outcome := .authWon
      reason
      costSavedBps := none
      qualifiedCount := 0
      margin
      evGapTop2 := none
      ranked := [] }
  costDecision := none

/-- The outcome of the loop, with the head that it started from and the cost of the head. -/
def Promotion.outcome (promotion : Promotion F) (order : IterationOrder Gateway F)
    (scoreMap : GatewayScoreMap F) (margin : F) (costs : HashMap Gateway (PspCost F))
    (head : Gateway) (bestAuth headCost : F) : ReorderOutcome F :=
  let moved := decide (promotion.chosenPsp ≠ head)
  let costSavedBps := headCost - promotion.chosenCost
  { headMoved := moved
    info :=
      { outcome := if moved then .costWon else .authWon
        reason :=
          if moved then
            .promoted promotion.chosenPsp head costSavedBps
              ((bestAuth - promotion.chosenScore) * ofRat 100)
          else .headRetained promotion.rankedEvs.length
        costSavedBps := if moved then some costSavedBps else none
        qualifiedCount := promotion.rankedEvs.length
        margin
        evGapTop2 := top2Gap promotion.rankedEvs
        ranked := buildRanked order scoreMap margin costs head promotion.chosenPsp }
    costDecision :=
      some
        { chosen := promotion.chosenPsp
          fallbacks := buildEvOrderedFallbacks order scoreMap margin costs promotion.chosenPsp } }

def reorderForCost (costs : HashMap Gateway (PspCost F)) : ReorderOutcome F :=
  match currentHead order scoreMap with
  | none => authWon margin .noFiniteHeadScore
  | some (_, bestAuth) =>
      if !MachineNumber.isFinite bestAuth then authWon margin .noFiniteHeadScore
      else
        match headPsp order scoreMap bestAuth with
        | none => authWon margin .noHeadCost
        | some head =>
            match costBps costs head with
            | none => authWon margin .noHeadCost
            | some headCost =>
                let headEv := expectedValue margin bestAuth headCost
                let promotion := (order.entries scoreMap).foldl
                  (Promotion.visit head margin costs) ⟨head, bestAuth, headCost, headEv, [headEv]⟩
                promotion.outcome order scoreMap margin costs head bestAuth headCost

def tryApplyMultiObjectivePostStep (costs : HashMap Gateway (PspCost F)) :
    ReorderOutcome F :=
  if scoreMap.keys.length < 2 then authWon margin .onlyOnePsp
  else reorderForCost order scoreMap margin costs

/-- A cost decision chooses one of the scored gateways. -/
theorem mem_of_reorderForCost {order : IterationOrder Gateway F}
    {scoreMap : GatewayScoreMap F} {margin : F} {costs : HashMap Gateway (PspCost F)}
    {decision : CostDecision}
    (decided : (reorderForCost order scoreMap margin costs).costDecision = some decision) :
    decision.chosen ∈ scoreMap := by
  unfold reorderForCost at decided
  split at decided
  · cases decided
  · split at decided
    · cases decided
    · split at decided
      · cases decided
      case h_2 head isHead =>
        split at decided
        · cases decided
        · cases decided
          dsimp only
          rcases Promotion.chosen_foldl_visit head margin costs (order.entries scoreMap) _ with
            kept | met
          · rw [kept]
            exact mem_of_headPsp isHead
          · exact IterationOrder.mem_keys.mp met

theorem mem_of_tryApplyMultiObjectivePostStep {order : IterationOrder Gateway F}
    {scoreMap : GatewayScoreMap F} {margin : F} {costs : HashMap Gateway (PspCost F)}
    {decision : CostDecision}
    (decided : (tryApplyMultiObjectivePostStep order scoreMap margin costs).costDecision =
      some decision) :
    decision.chosen ∈ scoreMap := by
  rw [tryApplyMultiObjectivePostStep] at decided
  split at decided
  · cases decided
  · exact mem_of_reorderForCost decided

end Reorder

end DecisionEngine.Scoring
