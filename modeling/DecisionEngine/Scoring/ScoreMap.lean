import DecisionEngine.Number.Machine
import DecisionEngine.Scoring.ScoreKeys

/-!
# Score maps

The map from gateways to scores, the ways to build one from lists of gateways, and
the choices of a gateway from one.
-/

namespace DecisionEngine.Scoring

open Map Number

abbrev GatewayScoreMap (F : Type) := HashMap Gateway F

/-- What stops the program. -/
inductive Panic where
  | clampBounds
  | invalidDistribution
  | splitOutOfBounds
  deriving DecidableEq

variable {F : Type} [MachineNumber F]

/-! ## Choices -/

variable (order : IterationOrder Gateway F)

/-- The last of the gateways with the greatest score. -/
def getMaxScoreGateway (scoreMap : GatewayScoreMap F) :
    Option (Gateway × F) :=
  maxBy Prod.snd (order.entries scoreMap)

/-- The first of the gateways with the given score. -/
def randomGatewaySelectionForSameScore (scoreMap : GatewayScoreMap F) (maxScore : Option F) :
    Option Gateway :=
  maxScore.bind fun value =>
    (((order.entries scoreMap).filter fun entry => eq entry.2 value).map Prod.fst).head?

variable {gateway : Gateway}

theorem mem_of_randomGatewaySelectionForSameScore {order : IterationOrder Gateway F}
    {scoreMap : GatewayScoreMap F} {maxScore : Option F}
    (selected : randomGatewaySelectionForSameScore order scoreMap maxScore = some gateway) :
    gateway ∈ scoreMap := by
  rcases Option.bind_eq_some_iff.mp selected with ⟨value, -, first⟩
  rcases List.mem_map.mp (List.mem_of_mem_head? first) with ⟨entry, kept, rfl⟩
  exact IterationOrder.mem_of_mem_entries (List.mem_of_mem_filter kept)

/-- The other gateways, from the greatest score to the least. -/
def fallbackGatewaysFromScoreMap (scoreMap : GatewayScoreMap F) (decidedGateway : Gateway) :
    List Gateway :=
  ((sortDescending Prod.snd (order.entries scoreMap)).map Prod.fst).filter
    fun gateway => gateway != decidedGateway

/-! ## Scores without data -/

def createScoreMap (gateways : List Gateway) : GatewayScoreMap F :=
  insertKeys ∅ gateways fun _ => ofRat 1

@[simp]
theorem mem_createScoreMap {gateways : List Gateway} :
    gateway ∈ (createScoreMap gateways : GatewayScoreMap F) ↔ gateway ∈ gateways := by
  simp [createScoreMap, mem_insertKeys]

/-- Score the next gateway of the priority list, if it is functional; the first part of
the state is the score of the next one. -/
def prioritize (functionalGateways : List Gateway) (state : F × GatewayScoreMap F)
    (gateway : Gateway) : F × GatewayScoreMap F :=
  if gateway ∈ functionalGateways then
    (state.1 - ofRat 0.1, state.2.insert gateway state.1)
  else state

/-- The functional gateways that are not in the list share the score after the last one. -/
def getScoreWithPriority (functionalGateways gatewayPriorityList : List Gateway) :
    GatewayScoreMap F :=
  let (p1, im1) := gatewayPriorityList.foldl (prioritize functionalGateways) (ofRat 1, ∅)
  insertKeys im1 (functionalGateways.filter fun gateway => gateway ∉ gatewayPriorityList)
    fun _ => p1

theorem mem_foldl_prioritize {functionalGateways priorities : List Gateway}
    {start : F × GatewayScoreMap F} :
    gateway ∈ (priorities.foldl (prioritize functionalGateways) start).2 ↔
      gateway ∈ priorities ∧ gateway ∈ functionalGateways ∨ gateway ∈ start.2 := by
  induction priorities generalizing start with
  | nil => simp
  | cons first rest ih =>
      rw [List.foldl_cons, ih, List.mem_cons, prioritize]
      by_cases functional : first ∈ functionalGateways
      · rw [if_pos functional, AList.mem_insert]
        constructor
        · rintro (⟨inRest, isFunctional⟩ | rfl | before)
          · exact Or.inl ⟨Or.inr inRest, isFunctional⟩
          · exact Or.inl ⟨Or.inl rfl, functional⟩
          · exact Or.inr before
        · rintro (⟨rfl | inRest, isFunctional⟩ | before)
          · exact Or.inr (Or.inl rfl)
          · exact Or.inl ⟨inRest, isFunctional⟩
          · exact Or.inr (Or.inr before)
      · rw [if_neg functional]
        constructor
        · rintro (⟨inRest, isFunctional⟩ | before)
          · exact Or.inl ⟨Or.inr inRest, isFunctional⟩
          · exact Or.inr before
        · rintro (⟨rfl | inRest, isFunctional⟩ | before)
          · exact absurd isFunctional functional
          · exact Or.inl ⟨inRest, isFunctional⟩
          · exact Or.inr before

/-- The priority list decides the scores but not who is scored. -/
@[simp]
theorem mem_getScoreWithPriority {functionalGateways gatewayPriorityList : List Gateway} :
    gateway ∈ (getScoreWithPriority functionalGateways gatewayPriorityList :
      GatewayScoreMap F) ↔ gateway ∈ functionalGateways := by
  rw [getScoreWithPriority, mem_insertKeys, mem_foldl_prioritize, List.mem_filter]
  by_cases listed : gateway ∈ gatewayPriorityList <;> simp [listed]

/-! ## Random traffic -/

/-- With the hedging probability the head loses its place to the others; the result
says whether it did. -/
def routeRandomTraffic (gws : GatewayScoreMap F) (hedgingPercent num : F) :
    Except Panic (GatewayScoreMap F × Bool) :=
  match sortDescending Prod.snd (order.entries gws) with
  | [] => .error .splitOutOfBounds
  | headGateway :: remainingGateways =>
      if lt num hedgingPercent then
        .ok (collect (remainingGateways.map (fun entry => (entry.1, ofRat 1)) ++
          [(headGateway.1, ofRat 0.5)]), true)
      else .ok (collect (headGateway :: remainingGateways), false)

theorem sameKeys_routeRandomTraffic {order : IterationOrder Gateway F}
    {gws routed : GatewayScoreMap F} {hedgingPercent num : F} {hedged : Bool}
    (returned : routeRandomTraffic order gws hedgingPercent num = .ok (routed, hedged)) :
    SameKeys routed gws := by
  have sortedKeys : ∀ {gateway}, gateway ∈
      (sortDescending Prod.snd (order.entries gws)).map Prod.fst ↔ gateway ∈ gws := by
    intro gateway
    rw [((perm_sortDescending Prod.snd (order.entries gws)).map Prod.fst).mem_iff]
    exact IterationOrder.mem_keys
  intro gateway
  rw [← sortedKeys]
  rw [routeRandomTraffic] at returned
  split at returned
  case h_1 => cases returned
  case h_2 headGateway remainingGateways sorted =>
      rw [sorted]
      by_cases hedges : lt num hedgingPercent
      · rw [if_pos hedges] at returned
        cases returned
        simp [Function.comp_def, or_comm]
      · rw [if_neg hedges] at returned
        cases returned
        exact mem_collect

end DecisionEngine.Scoring
