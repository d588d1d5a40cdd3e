import DecisionEngine.Routing.CacheCoherence

/-!
# References to routing algorithms

A mapping points to the algorithm that is active.  Every request but a deletion keeps the
algorithms that mappings point to, and the algorithms of the other merchants.  A deletion
keeps them as long as it is of an algorithm of the merchant that no merchant has active.
-/

namespace DecisionEngine.Routing

open Database Euclid Transition

/-- The merchant for whom a request is made. -/
def RoutingOp.createdBy : RoutingOp → String
  | .create newAlgo => newAlgo.createdBy
  | .activate createdBy _ => createdBy
  | .deactivate createdBy _ => createdBy
  | .update request _ => request.createdBy
  | .delete createdBy _ => createdBy
  | .evaluate createdBy => createdBy

/-- The algorithms of other merchants stay as they are; what happens without a request
changes no algorithm. -/
def RoutingEvent.RespectsOwners (event : RoutingEvent) (state next : RoutingState) : Prop :=
  match event with
  | .handled operation => ∀ algorithm ∈ state.algorithms,
      algorithm.createdBy ≠ operation.createdBy → algorithm ∈ next.algorithms
  | .expired _ => next.algorithms = state.algorithms
  | .reordered => next.algorithms = state.algorithms

/-- A deletion that is not rejected is of an algorithm of the merchant that is not active
for anyone. -/
def DeletesOwnUnused (state : RoutingState) : RoutingEvent → Prop
  | .handled (.delete createdBy routingAlgorithmId) =>
      state.ensureRoutingAlgorithmInactive createdBy routingAlgorithmId = .ok () →
        ∀ algorithm ∈ state.algorithms, algorithm.id = routingAlgorithmId →
          algorithm.createdBy = createdBy ∧
            ∀ mapping ∈ state.mapper, mapping.routingAlgorithmId ≠ routingAlgorithmId
  | _ => True

namespace RoutingState

/-- Every mapping points to a stored algorithm. -/
def ReferencesStored (state : RoutingState) : Prop :=
  ∀ mapping ∈ state.mapper, ∃ algorithm ∈ state.algorithms,
    algorithm.id = mapping.routingAlgorithmId

theorem referencesStored_empty : empty.ReferencesStored :=
  fun mapping mappingMem => absurd mappingMem (Table.not_mem_empty mapping)

/-! ## Requests that delete nothing -/

/-- No algorithm is lost, and the algorithms of other merchants do not change. -/
structure Keeps (state : RoutingState) (createdBy : String) (next : RoutingState) : Prop where
  mappings : ∀ mapping ∈ next.mapper, mapping ∈ state.mapper ∨
    ∃ algorithm ∈ state.algorithms, algorithm.id = mapping.routingAlgorithmId
  stored : ∀ algorithm ∈ state.algorithms, ∃ later ∈ next.algorithms, later.id = algorithm.id
  others : ∀ algorithm ∈ state.algorithms, algorithm.createdBy ≠ createdBy →
    algorithm ∈ next.algorithms

variable (state : RoutingState)

theorem Keeps.refl (createdBy : String) : state.Keeps createdBy state :=
  ⟨fun _ mappingMem => Or.inl mappingMem,
    fun algorithm algorithmMem => ⟨algorithm, algorithmMem, rfl⟩,
    fun _ algorithmMem _ => algorithmMem⟩

/-- Only the algorithms change, and none is lost. -/
theorem Keeps.of_algorithms {state next : RoutingState} {createdBy : String}
    (sameMapper : next.mapper = state.mapper)
    (stored : ∀ algorithm ∈ state.algorithms, ∃ later ∈ next.algorithms,
      later.id = algorithm.id)
    (others : ∀ algorithm ∈ state.algorithms, algorithm.createdBy ≠ createdBy →
      algorithm ∈ next.algorithms) : state.Keeps createdBy next :=
  ⟨fun _ mappingMem => Or.inl (sameMapper ▸ mappingMem), stored, others⟩

/-- Only the mappings change. -/
theorem Keeps.of_mappings {state next : RoutingState} {createdBy : String}
    (sameAlgorithms : next.algorithms = state.algorithms)
    (mappings : ∀ mapping ∈ next.mapper, mapping ∈ state.mapper ∨
      ∃ algorithm ∈ state.algorithms, algorithm.id = mapping.routingAlgorithmId) :
    state.Keeps createdBy next := by
  refine ⟨mappings, fun algorithm algorithmMem => ⟨algorithm, ?_, rfl⟩,
    fun algorithm algorithmMem _ => ?_⟩
  · rw [sameAlgorithms]
    exact algorithmMem
  · rw [sameAlgorithms]
    exact algorithmMem

theorem Keeps.referencesStored {state next : RoutingState} {createdBy : String}
    (keeps : state.Keeps createdBy next) (holds : state.ReferencesStored) :
    next.ReferencesStored := by
  intro mapping mappingMem
  have reference : ∃ algorithm ∈ state.algorithms,
      algorithm.id = mapping.routingAlgorithmId := by
    rcases keeps.mappings mapping mappingMem with oldMem | reference
    · exact holds mapping oldMem
    · exact reference
  rcases reference with ⟨algorithm, algorithmMem, isMapped⟩
  rcases keeps.stored algorithm algorithmMem with ⟨later, laterMem, sameId⟩
  exact ⟨later, laterMem, sameId.trans isMapped⟩

theorem keeps_create (newAlgo : RoutingAlgorithm) :
    state.Keeps newAlgo.createdBy (state.routingCreate newAlgo).2 := by
  rw [routingCreate]
  cases inserted : state.algorithms.insert newAlgo with
  | none => exact Keeps.refl state _
  | some algorithms =>
      have kept : ∀ algorithm ∈ state.algorithms, algorithm ∈ algorithms :=
        fun algorithm algorithmMem => (Table.mem_insert inserted algorithm).mpr
          (Or.inl algorithmMem)
      exact Keeps.of_algorithms rfl
        (fun algorithm algorithmMem => ⟨algorithm, kept algorithm algorithmMem, rfl⟩)
        fun algorithm algorithmMem _ => kept algorithm algorithmMem

/-- A mapping after an activation was there, or it points to the activated algorithm. -/
theorem reference_of_activateMapping {state next : RoutingState}
    {createdBy routingAlgorithmId : String} {algorithm : RoutingAlgorithm}
    (activated : state.activateMapping createdBy routingAlgorithmId = .ok (algorithm, next))
    {mapping : RoutingAlgorithmMapper} (mappingMem : mapping ∈ next.mapper) :
    mapping ∈ state.mapper ∨ mapping.routingAlgorithmId = routingAlgorithmId := by
  rcases (activateMapping_eq_ok activated).2 with
    inserted | ⟨existing, -, -, ⟨-, rfl⟩ | rfl⟩
  · rw [insertMapping] at inserted
    split at inserted
    · cases inserted
    · cases inserted
      rename_i mapper insertedRow
      rcases (Table.mem_insert insertedRow mapping).mp mappingMem with oldMem | rfl
      · exact Or.inl oldMem
      · exact Or.inr rfl
  · exact Or.inl mappingMem
  · rcases (Table.mem_update (keeps_mapTo createdBy _ _)).mp mappingMem with
      ⟨old, oldMem, rowIs⟩
    by_cases isMapping : isMappingFor createdBy algorithm.algorithmFor old = true
    · rw [if_pos isMapping] at rowIs
      rw [rowIs]
      exact Or.inr rfl
    · rw [if_neg isMapping] at rowIs
      rw [rowIs]
      exact Or.inl oldMem

theorem keeps_activate (createdBy routingAlgorithmId : String) :
    state.Keeps createdBy (state.activateRoutingRule createdBy routingAlgorithmId).2 := by
  rw [activateRoutingRule]
  cases result : state.activateMapping createdBy routingAlgorithmId with
  | error error => exact Keeps.refl state createdBy
  | ok found =>
      rcases found with ⟨algorithm, next⟩
      have activated := activated_of_activateMapping result
      refine Keeps.of_mappings ?_ ?_
      · exact activated.algorithms
      · intro mapping mappingMem
        rcases reference_of_activateMapping result mappingMem with oldMem | isMapped
        · exact Or.inl oldMem
        · exact Or.inr ⟨algorithm, activated.found.1, activated.found.2.trans isMapped.symm⟩

theorem keeps_deactivate (createdBy routingAlgorithmId : String) :
    state.Keeps createdBy (state.deactivateRoutingRule createdBy routingAlgorithmId).2 := by
  rw [deactivateRoutingRule]
  cases foundAlgorithm : state.findAlgorithm routingAlgorithmId with
  | none => exact Keeps.refl state createdBy
  | some algorithm =>
      dsimp only
      cases foundMapping : state.mapper.find fun row => row.createdBy == createdBy &&
          row.routingAlgorithmId == routingAlgorithmId &&
          row.algorithmFor == algorithm.algorithmFor with
      | none => exact Keeps.refl state createdBy
      | some mapping =>
          refine Keeps.of_mappings ?_ ?_
          · rfl
          · intro row rowMem
            exact Or.inl (Table.mem_remove.mp rowMem).1

/-- An edit changes the algorithm of the merchant, under the same id. -/
theorem keeps_update (request : UpdateRoutingConfigRequest) (timestamp : Int) :
    state.Keeps request.createdBy (state.updateRoutingRule request timestamp).2 := by
  rw [updateRoutingRule]
  cases state.ensureRoutingAlgorithmInactive request.createdBy request.routingAlgorithmId with
  | error error => exact Keeps.refl state _
  | ok _ =>
      dsimp only
      cases found : state.findAlgorithm request.routingAlgorithmId with
      | none => exact Keeps.refl state _
      | some existing =>
          dsimp only
          by_cases owned : existing.createdBy = request.createdBy
          · rw [if_neg (not_not.mpr owned)]
            cases updated : state.algorithms.updateSome
                (fun algorithm => algorithm.id == request.routingAlgorithmId)
                (request.change timestamp) (request.keeps_change timestamp _) with
            | none => exact Keeps.refl state _
            | some algorithms =>
                have isUpdate := Table.eq_update_of_updateSome updated
                refine Keeps.of_algorithms ?_ ?_ ?_
                · rfl
                · intro algorithm algorithmMem
                  refine ⟨if algorithm.id == request.routingAlgorithmId then
                    request.change timestamp algorithm else algorithm, ?_, ?_⟩
                  · change _ ∈ algorithms
                    rw [isUpdate]
                    exact (Table.mem_update _).mpr ⟨algorithm, algorithmMem, rfl⟩
                  · split
                    · rfl
                    · rfl
                · intro algorithm algorithmMem notOwned
                  change algorithm ∈ algorithms
                  rw [isUpdate]
                  apply Table.mem_update_of_not _ algorithmMem
                  intro sameId
                  have isExisting := findAlgorithm_eq_some_iff.mpr
                    ⟨algorithmMem, beq_iff_eq.mp sameId⟩
                  rw [found, Option.some.injEq] at isExisting
                  rw [← isExisting] at notOwned
                  exact notOwned owned
          · rw [if_pos owned]
            exact Keeps.refl state _

theorem keeps_evaluate (createdBy : String) :
    state.Keeps createdBy (state.routingEvaluateAlgorithm createdBy).2 := by
  rw [routingEvaluateAlgorithm]
  cases state.cache (routingAlgoCacheKey createdBy) with
  | some cached => exact Keeps.refl state createdBy
  | none =>
      dsimp only
      rw [fetchAlgorithmFromDbAndCache]
      cases state.fetchAlgorithmFromDb createdBy with
      | error error => exact Keeps.refl state createdBy
      | ok algorithm => exact Keeps.of_mappings rfl fun _ mappingMem => Or.inl mappingMem

/-! ## Deletions -/

/-- A deletion does nothing, or it removes the algorithm and nothing else. -/
theorem tables_of_delete (createdBy routingAlgorithmId : String) :
    ((state.ensureRoutingAlgorithmInactive createdBy routingAlgorithmId ≠ .ok () ∨
        ∀ algorithm ∈ state.algorithms, algorithm.id ≠ routingAlgorithmId) ∧
      (state.deleteRoutingRule createdBy routingAlgorithmId).2 = state) ∨
    state.ensureRoutingAlgorithmInactive createdBy routingAlgorithmId = .ok () ∧
      (state.deleteRoutingRule createdBy routingAlgorithmId).2.mapper = state.mapper ∧
      ∀ algorithm, algorithm ∈ (state.deleteRoutingRule createdBy routingAlgorithmId).2.algorithms ↔
        algorithm ∈ state.algorithms ∧ algorithm.id ≠ routingAlgorithmId := by
  rw [deleteRoutingRule]
  cases inactive : state.ensureRoutingAlgorithmInactive createdBy routingAlgorithmId with
  | error error => exact Or.inl ⟨Or.inl (by simp), rfl⟩
  | ok _ =>
      dsimp only
      cases deleted : state.algorithms.delete
          fun algorithm => algorithm.id == routingAlgorithmId with
      | none =>
          refine Or.inl ⟨Or.inr fun algorithm algorithmMem sameId => ?_, rfl⟩
          rw [Table.delete, if_pos] at deleted
          · cases deleted
          · exact List.any_eq_true.mpr ⟨algorithm, algorithmMem, beq_iff_eq.mpr sameId⟩
      | some algorithms =>
          refine Or.inr ⟨rfl, rfl, fun algorithm => ?_⟩
          change algorithm ∈ algorithms ↔ _
          rw [Table.eq_remove_of_delete deleted, Table.mem_remove, beq_eq_false_iff_ne]

/-- A deletion keeps the references and the algorithms of others exactly when it is of an
algorithm of the merchant that is not active for anyone. -/
theorem delete_iff {state : RoutingState} (holds : state.ReferencesStored)
    (createdBy routingAlgorithmId : String) :
    ((state.deleteRoutingRule createdBy routingAlgorithmId).2.ReferencesStored ∧
      (RoutingEvent.handled (.delete createdBy routingAlgorithmId)).RespectsOwners state
        (state.deleteRoutingRule createdBy routingAlgorithmId).2) ↔
    DeletesOwnUnused state (.handled (.delete createdBy routingAlgorithmId)) := by
  rcases tables_of_delete state createdBy routingAlgorithmId with
    ⟨ineffective, same⟩ | ⟨inactive, sameMapper, isStored⟩
  · rw [same]
    constructor
    · intro _ inactive algorithm algorithmMem sameId
      rcases ineffective with rejected | absent
      · exact absurd inactive rejected
      · exact absurd sameId (absent algorithm algorithmMem)
    · intro _
      exact ⟨holds, fun algorithm algorithmMem _ => algorithmMem⟩
  · constructor
    · rintro ⟨references, owners⟩ - algorithm algorithmMem sameId
      constructor
      · by_contra notOwned
        exact ((isStored algorithm).mp (owners algorithm algorithmMem notOwned)).2 sameId
      · intro mapping mappingMem isMapped
        rcases references mapping (sameMapper ▸ mappingMem) with ⟨other, otherMem, isOther⟩
        exact ((isStored other).mp otherMem).2 (isOther.trans isMapped)
    · intro ownUnused
      constructor
      · intro mapping mappingMem
        rw [sameMapper] at mappingMem
        rcases holds mapping mappingMem with ⟨algorithm, algorithmMem, isMapped⟩
        refine ⟨algorithm, (isStored algorithm).mpr ⟨algorithmMem, fun sameId => ?_⟩, isMapped⟩
        exact (ownUnused inactive algorithm algorithmMem sameId).2 mapping mappingMem
          (isMapped.symm.trans sameId)
      · intro algorithm algorithmMem notOwned
        refine (isStored algorithm).mpr ⟨algorithmMem, fun sameId => ?_⟩
        exact notOwned (ownUnused inactive algorithm algorithmMem sameId).1

/-! ## Steps -/

theorem keeps_handle {operation : RoutingOp} (state : RoutingState)
    (deletesNothing : ∀ createdBy routingAlgorithmId,
      operation ≠ .delete createdBy routingAlgorithmId) :
    state.Keeps operation.createdBy (state.handle operation) := by
  cases operation with
  | create newAlgo => exact keeps_create state newAlgo
  | activate createdBy routingAlgorithmId => exact keeps_activate state _ _
  | deactivate createdBy routingAlgorithmId => exact keeps_deactivate state _ _
  | update request timestamp => exact keeps_update state request timestamp
  | delete createdBy routingAlgorithmId => exact absurd rfl (deletesNothing _ _)
  | evaluate createdBy => exact keeps_evaluate state createdBy

/-- One step keeps the references and the algorithms of others exactly when it is not the
deletion of an algorithm of another merchant, or of one that is active. -/
theorem step_iff {state next : RoutingState} {event : RoutingEvent}
    (holds : state.ReferencesStored) (step : RoutingStep state event next) :
    (next.ReferencesStored ∧ event.RespectsOwners state next) ↔
      DeletesOwnUnused state event := by
  cases step with
  | handled operation =>
      by_cases deletes : ∃ createdBy routingAlgorithmId,
          operation = .delete createdBy routingAlgorithmId
      · rcases deletes with ⟨createdBy, routingAlgorithmId, rfl⟩
        exact delete_iff holds createdBy routingAlgorithmId
      · have keeps := keeps_handle state fun createdBy routingAlgorithmId isDelete =>
          deletes ⟨createdBy, routingAlgorithmId, isDelete⟩
        have allowed : DeletesOwnUnused state (.handled operation) := by
          cases operation with
          | delete createdBy routingAlgorithmId => exact absurd ⟨_, _, rfl⟩ deletes
          | _ => trivial
        exact iff_of_true ⟨keeps.referencesStored holds, keeps.others⟩ allowed
  | expired key => exact iff_of_true ⟨holds, rfl⟩ trivial
  | reordered perm =>
      refine iff_of_true ⟨fun mapping mappingMem => ?_, rfl⟩ trivial
      exact holds mapping ((Table.mem_reorder perm).mp mappingMem)

end RoutingState

open RoutingState

/-! ## Runs -/

/-- In every run whose deletions are of own algorithms that nobody has active, every
mapping points to a stored algorithm; and a further step keeps this, and the algorithms of
the other merchants, exactly when it is no other deletion. -/
theorem referencesStored_of_run {state : RoutingState} {trace : List RoutingEvent}
    (run : Run (fun state event next => RoutingStep state event next ∧
      DeletesOwnUnused state event) .empty trace state) :
    state.ReferencesStored ∧
      ∀ event next, RoutingStep state event next →
        ((next.ReferencesStored ∧ event.RespectsOwners state next) ↔
          DeletesOwnUnused state event) := by
  have holds : state.ReferencesStored := by
    apply run.invariant_of_allowed fun _ state => state.ReferencesStored
    · exact referencesStored_empty
    · exact fun _ _ _ _ holds allowed step => ((step_iff holds step).mpr allowed).1
  exact ⟨holds, fun event next step => step_iff holds step⟩

theorem referencesStored_of_run_activated :
    activatedState.ReferencesStored ∧
      ∀ event next, RoutingStep activatedState event next →
        ((next.ReferencesStored ∧ event.RespectsOwners activatedState next) ↔
          DeletesOwnUnused activatedState event) := by
  have step (state : RoutingState) (operation : RoutingOp)
      (allowed : DeletesOwnUnused state (.handled operation)) :
      Run (fun state event next => RoutingStep state event next ∧ DeletesOwnUnused state event)
        state [.handled operation] (state.handle operation) :=
    .single ⟨.handled _ operation, allowed⟩
  have activated := (step .empty (.create paymentAlgorithm) trivial).append
    (step _ (.activate "owner" "routing_a") trivial)
  have edited := (activated.append (step _ (.create unusedAlgorithm) trivial)).append
    (step _ (.update ⟨"owner", "routing_c", "c", "", "[]"⟩ 1) trivial)
  have deleted := edited.append (step _ (.delete "owner" "routing_c") fun _ =>
    List.forall_mem_cons.mpr ⟨fun same => absurd same (by decide), List.forall_mem_singleton.mpr
      fun _ => ⟨rfl, List.forall_mem_singleton.mpr (by decide)⟩⟩)
  have run := (deleted.append (step _ (.evaluate "owner") trivial)).append
    (step _ (.update ⟨"merchant", "routing_a", "a", "", "[]"⟩ 2) trivial)
  exact referencesStored_of_run run

/-- A merchant deletes the algorithm that the owner has active. -/
theorem not_referencesStored_deleted :
    ∃ state, Run RoutingStep .empty
        [.handled (.create paymentAlgorithm), .handled (.activate "owner" "routing_a"),
          .handled (.delete "merchant" "routing_a")] state ∧
      ¬state.ReferencesStored ∧
      ¬(RoutingEvent.handled (.delete "merchant" "routing_a")).RespectsOwners
        (handleAll .empty [.create paymentAlgorithm, .activate "owner" "routing_a"]) state := by
  refine ⟨_, run_handleAll .empty [.create paymentAlgorithm, .activate "owner" "routing_a",
    .delete "merchant" "routing_a"], ?_, ?_⟩
  · intro references
    rcases references ⟨0, "owner", "routing_a", "payment"⟩ (Table.mem_def.mpr (by decide)) with
      ⟨algorithm, algorithmMem, -⟩
    exact absurd algorithmMem List.not_mem_nil
  · intro owners
    exact absurd (owners paymentAlgorithm (Table.mem_def.mpr (by decide)) (by decide))
      List.not_mem_nil

end DecisionEngine.Routing
