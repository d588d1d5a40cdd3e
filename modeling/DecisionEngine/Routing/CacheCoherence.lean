import DecisionEngine.Routing.RoutingRules
import DecisionEngine.Transition.Run

/-!
# Coherence of the routing-algorithm cache

The cache has one entry for each merchant, while a merchant can have an active
algorithm for each kind, and several merchants can have one algorithm active.
Every handler touches the entry of the merchant that calls it and no other.

As long as no merchant activates algorithms of two kinds, and no algorithm is
edited or deleted while another merchant has it active, an entry is what the
database would select.
-/

namespace DecisionEngine.Routing

open Database Euclid Transition

theorem routingAlgoCacheKey_injective {first second : String}
    (same : routingAlgoCacheKey first = routingAlgoCacheKey second) : first = second := by
  have lists := congrArg String.toList same
  simp only [routingAlgoCacheKey, String.toList_append, List.append_cancel_left_eq] at lists
  exact String.toList_inj.mp lists

namespace RoutingState

/-! ## What the database selects -/

variable (state : RoutingState)

/-- The algorithm that is active for a merchant and a kind. -/
def selectAlgorithm (createdBy algorithmFor : String) :
    Option RoutingAlgorithm :=
  (state.mapper.find (isMappingFor createdBy algorithmFor)).bind fun mapping =>
    state.findAlgorithm mapping.routingAlgorithmId

/-- The entry is of an algorithm that is active for the merchant. -/
def Serves (merchantId : String) (cached : CachedRoutingAlgorithm) :
    Prop :=
  ∃ mapping ∈ state.mapper, mapping.createdBy = merchantId ∧
    ∃ algorithm ∈ state.algorithms, algorithm.id = mapping.routingAlgorithmId ∧
      algorithm.cached = cached

/-- The merchant has no active algorithms of two kinds. -/
def SingleKind (merchantId : String) : Prop :=
  ∀ first ∈ state.mapper, ∀ second ∈ state.mapper, first.createdBy = merchantId →
    second.createdBy = merchantId → first.algorithmFor = second.algorithmFor

variable {createdBy : String}

theorem isMappingFor_iff {algorithmFor : String} {row : RoutingAlgorithmMapper} :
    isMappingFor createdBy algorithmFor row = true ↔
      row.createdBy = createdBy ∧ row.algorithmFor = algorithmFor := by
  simp [isMappingFor]

variable {algorithm : RoutingAlgorithm}

theorem findAlgorithm_eq_some_iff {state : RoutingState} {id : String} :
    state.findAlgorithm id = some algorithm ↔
      algorithm ∈ state.algorithms ∧ algorithm.id = id := by
  constructor
  · intro found
    exact ⟨Table.mem_of_find found, by simpa using Table.holds_of_find found⟩
  · rintro ⟨algorithmMem, rfl⟩
    apply Table.find_eq_some_of_unique algorithmMem (by simp)
    intro other otherMem same
    have sameAlgorithm : SameAlgorithm other algorithm := beq_iff_eq.mp same
    exact Table.eq_of_conflict otherMem algorithmMem sameAlgorithm

variable {merchantId : String}

/-- With one kind a merchant has at most one mapping. -/
theorem SingleKind.mapping_unique {state : RoutingState} (singleKind : state.SingleKind merchantId)
    {first second : RoutingAlgorithmMapper} (firstMem : first ∈ state.mapper)
    (secondMem : second ∈ state.mapper) (isFirst : first.createdBy = merchantId)
    (isSecond : second.createdBy = merchantId) :
    first = second :=
  Table.eq_of_conflict firstMem secondMem (Or.inr ⟨isFirst.trans isSecond.symm,
    singleKind first firstMem second secondMem isFirst isSecond⟩)

theorem mapping_of_fetchAlgorithmFromDb {state : RoutingState}
    (fetched : state.fetchAlgorithmFromDb merchantId = .ok algorithm) :
    ∃ mapping ∈ state.mapper, mapping.createdBy = merchantId ∧
      state.findAlgorithm mapping.routingAlgorithmId = some algorithm := by
  unfold fetchAlgorithmFromDb at fetched
  cases foundMapping : state.mapper.find fun row => row.createdBy == merchantId with
  | none =>
      rw [foundMapping] at fetched
      cases fetched
  | some mapping =>
      have isMapping : mapping.createdBy = merchantId := by
        simpa using Table.holds_of_find foundMapping
      cases foundAlgorithm : state.findAlgorithm mapping.routingAlgorithmId with
      | none =>
          simp only [foundMapping, foundAlgorithm] at fetched
          cases fetched
      | some other =>
          simp only [foundMapping, foundAlgorithm, Except.ok.injEq] at fetched
          rw [fetched] at foundAlgorithm
          exact ⟨mapping, Table.mem_of_find foundMapping, isMapping, foundAlgorithm⟩

theorem serves_of_fetchAlgorithmFromDb {state : RoutingState}
    (fetched : state.fetchAlgorithmFromDb merchantId = .ok algorithm) :
    state.Serves merchantId algorithm.cached := by
  rcases mapping_of_fetchAlgorithmFromDb fetched with
    ⟨mapping, mappingMem, isMapping, foundAlgorithm⟩
  rcases findAlgorithm_eq_some_iff.mp foundAlgorithm with ⟨algorithmMem, sameId⟩
  exact ⟨mapping, mappingMem, isMapping, algorithm, algorithmMem, sameId, rfl⟩

variable {cached : CachedRoutingAlgorithm}

/-- The database path selects the algorithm that is served, in whatever order the
mappings are returned. -/
theorem SingleKind.fetchAlgorithmFromDb {state : RoutingState}
    (singleKind : state.SingleKind merchantId) (serves : state.Serves merchantId cached) :
    ∃ algorithm, state.fetchAlgorithmFromDb merchantId = .ok algorithm ∧
      algorithm.cached = cached ∧
      (∃ algorithmFor, state.selectAlgorithm merchantId algorithmFor = some algorithm) ∧
      ∀ algorithmFor other, state.selectAlgorithm merchantId algorithmFor = some other →
        other = algorithm := by
  rcases serves with ⟨mapping, mappingMem, rfl, algorithm, algorithmMem, sameId, rfl⟩
  have foundAlgorithm : state.findAlgorithm mapping.routingAlgorithmId = some algorithm :=
    findAlgorithm_eq_some_iff.mpr ⟨algorithmMem, sameId⟩
  have unique : ∀ other ∈ state.mapper, other.createdBy = mapping.createdBy →
      other = mapping := fun other otherMem same =>
    singleKind.mapping_unique otherMem mappingMem same rfl
  have foundMapping : (state.mapper.find fun row => row.createdBy == mapping.createdBy) =
      some mapping := by
    apply Table.find_eq_some_of_unique mappingMem (by simp)
    intro other otherMem same
    exact unique other otherMem (by simpa using same)
  have foundFor : state.mapper.find (isMappingFor mapping.createdBy mapping.algorithmFor) =
      some mapping := by
    apply Table.find_eq_some_of_unique mappingMem (isMappingFor_iff.mpr ⟨rfl, rfl⟩)
    intro other otherMem same
    exact unique other otherMem (isMappingFor_iff.mp same).1
  refine ⟨algorithm, ?_, rfl, ⟨mapping.algorithmFor, ?_⟩, ?_⟩
  · simp only [RoutingState.fetchAlgorithmFromDb, foundMapping, foundAlgorithm]
  · simp only [selectAlgorithm, foundFor, Option.bind_some, foundAlgorithm]
  · intro algorithmFor other selected
    rcases Option.bind_eq_some_iff.mp selected with ⟨row, foundRow, foundOther⟩
    have rowIs := unique row (Table.mem_of_find foundRow)
      (isMappingFor_iff.mp (Table.holds_of_find foundRow)).1
    rw [rowIs, foundAlgorithm] at foundOther
    exact (Option.some.inj foundOther).symm

/-! ## What activation does to the tables -/

/-- The mapper write leaves the merchant with the algorithm and touches no other
merchant. -/
structure Activated (state : RoutingState) (createdBy routingAlgorithmId : String)
    (algorithm : RoutingAlgorithm) (next : RoutingState) : Prop where
  found : algorithm ∈ state.algorithms ∧ algorithm.id = routingAlgorithmId
  algorithms : next.algorithms = state.algorithms
  cache : next.cache = state.cache
  mapped : ∃ mapping ∈ next.mapper, mapping.createdBy = createdBy ∧
    mapping.routingAlgorithmId = routingAlgorithmId
  rows : ∀ row ∈ next.mapper, row ∈ state.mapper ∨
    (row.createdBy = createdBy ∧ row.algorithmFor = algorithm.algorithmFor)
  others : ∀ row ∈ state.mapper, row.createdBy ≠ createdBy → row ∈ next.mapper

variable {routingAlgorithmId : String}

theorem activated_updateMapping {state : RoutingState} {existing : RoutingAlgorithmMapper}
    (found : algorithm ∈ state.algorithms ∧ algorithm.id = routingAlgorithmId)
    (existingMem : existing ∈ state.mapper)
    (isMapping : isMappingFor createdBy algorithm.algorithmFor existing = true) :
    state.Activated createdBy routingAlgorithmId algorithm
      (state.updateMapping createdBy routingAlgorithmId algorithm.algorithmFor) where
  found := found
  algorithms := rfl
  cache := rfl
  mapped := by
    refine ⟨mapTo routingAlgorithmId algorithm.algorithmFor existing, ?_, ?_, rfl⟩
    · exact (Table.mem_update (keeps_mapTo createdBy _ _)).mpr
        ⟨existing, existingMem, (if_pos isMapping).symm⟩
    · exact (isMappingFor_iff.mp isMapping).1
  rows := by
    intro row rowMem
    rcases (Table.mem_update (keeps_mapTo createdBy _ _)).mp rowMem with ⟨old, oldMem, rowIs⟩
    by_cases oldIs : isMappingFor createdBy algorithm.algorithmFor old = true
    · rw [if_pos oldIs] at rowIs
      rw [rowIs]
      exact Or.inr ⟨(isMappingFor_iff.mp oldIs).1, rfl⟩
    · rw [if_neg oldIs] at rowIs
      rw [rowIs]
      exact Or.inl oldMem
  others := by
    intro row rowMem different
    apply Table.mem_update_of_not (keeps_mapTo createdBy _ _) rowMem
    intro rowIs
    exact different (isMappingFor_iff.mp rowIs).1

theorem activated_insertMapping {state next : RoutingState}
    {createdBy routingAlgorithmId : String} {algorithm : RoutingAlgorithm}
    (found : algorithm ∈ state.algorithms ∧ algorithm.id = routingAlgorithmId)
    (inserted : state.insertMapping createdBy routingAlgorithmId algorithm.algorithmFor =
      some next) :
    state.Activated createdBy routingAlgorithmId algorithm next := by
  unfold insertMapping at inserted
  split at inserted
  · cases inserted
  · rename_i mapper insertedRow
    cases inserted
    have mem := Table.mem_insert insertedRow
    constructor
    · exact found
    · rfl
    · rfl
    · exact ⟨_, (mem _).mpr (Or.inr rfl), rfl, rfl⟩
    · intro row rowMem
      rcases (mem row).mp rowMem with oldMem | rfl
      · exact Or.inl oldMem
      · exact Or.inr ⟨rfl, rfl⟩
    · exact fun row rowMem _ => (mem row).mpr (Or.inl rowMem)

/-- An activation that succeeds inserts a mapping, finds the one that it wants, or updates
the one that is there. -/
theorem activateMapping_eq_ok {state next : RoutingState}
    (activated : state.activateMapping createdBy routingAlgorithmId = .ok (algorithm, next)) :
    (algorithm ∈ state.algorithms ∧ algorithm.id = routingAlgorithmId) ∧
      (state.insertMapping createdBy routingAlgorithmId algorithm.algorithmFor = some next ∨
        ∃ existing ∈ state.mapper,
          isMappingFor createdBy algorithm.algorithmFor existing = true ∧
            (existing.routingAlgorithmId = routingAlgorithmId ∧ next = state ∨
              next =
                state.updateMapping createdBy routingAlgorithmId algorithm.algorithmFor)) := by
  unfold activateMapping at activated
  cases foundAlgorithm : state.findAlgorithm routingAlgorithmId with
  | none =>
      rw [foundAlgorithm] at activated
      cases activated
  | some other =>
      have found := findAlgorithm_eq_some_iff.mp foundAlgorithm
      cases foundMapping : state.mapper.find (isMappingFor createdBy other.algorithmFor) with
      | none =>
          cases inserted : state.insertMapping createdBy routingAlgorithmId
              other.algorithmFor with
          | none =>
              simp only [foundAlgorithm, foundMapping, inserted] at activated
              cases activated
          | some added =>
              simp only [foundAlgorithm, foundMapping, inserted] at activated
              cases activated
              exact ⟨found, Or.inl inserted⟩
      | some existing =>
          have existingMem := Table.mem_of_find foundMapping
          have isMapping := Table.holds_of_find foundMapping
          by_cases same : existing.routingAlgorithmId = routingAlgorithmId
          · simp only [foundAlgorithm, foundMapping, same, ne_eq, not_true_eq_false,
              if_false] at activated
            cases activated
            exact ⟨found, Or.inr ⟨existing, existingMem, isMapping, Or.inl ⟨same, rfl⟩⟩⟩
          · simp only [foundAlgorithm, foundMapping, ne_eq, same, not_false_eq_true,
              if_true] at activated
            cases activated
            exact ⟨found, Or.inr ⟨existing, existingMem, isMapping, Or.inr rfl⟩⟩

theorem activated_of_activateMapping {state next : RoutingState}
    (activated : state.activateMapping createdBy routingAlgorithmId = .ok (algorithm, next)) :
    state.Activated createdBy routingAlgorithmId algorithm next := by
  rcases activateMapping_eq_ok activated with
    ⟨found, inserted | ⟨existing, existingMem, isMapping, ⟨same, rfl⟩ | rfl⟩⟩
  · exact activated_insertMapping found inserted
  · exact ⟨found, rfl, rfl, ⟨existing, existingMem, (isMappingFor_iff.mp isMapping).1, same⟩,
      fun _ => Or.inl, fun _ rowMem _ => rowMem⟩
  · exact activated_updateMapping found existingMem isMapping

/-! ## The invariant -/

/-- Every entry is of an algorithm that the database selects. -/
structure Coherent (state : RoutingState) : Prop where
  singleKind : ∀ merchantId, state.SingleKind merchantId
  served : ∀ merchantId cached, state.cache (routingAlgoCacheKey merchantId) = some cached →
    state.Serves merchantId cached

/-- What is served stays served when the mapping stays and no algorithm that it
may name is lost. -/
theorem Serves.mono {state next : RoutingState} {merchantId : String}
    {cached : CachedRoutingAlgorithm} (serves : state.Serves merchantId cached)
    (mappings : ∀ mapping ∈ state.mapper, mapping.createdBy = merchantId →
      mapping ∈ next.mapper)
    (algorithms : ∀ mapping ∈ state.mapper, ∀ algorithm ∈ state.algorithms,
      algorithm.id = mapping.routingAlgorithmId → algorithm ∈ next.algorithms) :
    next.Serves merchantId cached := by
  rcases serves with ⟨mapping, mappingMem, createdBy, algorithm, algorithmMem, sameId, same⟩
  exact ⟨mapping, mappings mapping mappingMem createdBy, createdBy, algorithm,
    algorithms mapping mappingMem algorithm algorithmMem sameId, sameId, same⟩

theorem SingleKind.activated {state next : RoutingState}
    (sameKind : ∀ mapping ∈ state.mapper, mapping.createdBy = createdBy →
      mapping.algorithmFor = algorithm.algorithmFor)
    (activated : state.Activated createdBy routingAlgorithmId algorithm next) :
    next.SingleKind createdBy := by
  have kind : ∀ row ∈ next.mapper, row.createdBy = createdBy →
      row.algorithmFor = algorithm.algorithmFor := by
    intro row rowMem same
    rcases activated.rows row rowMem with oldMem | added
    · exact sameKind row oldMem same
    · exact added.2
  intro first firstMem second secondMem isFirst isSecond
  rw [kind first firstMem isFirst, kind second secondMem isSecond]

theorem SingleKind.activated_of_ne {state next : RoutingState}
    (singleKind : state.SingleKind merchantId) (different : merchantId ≠ createdBy)
    (activated : state.Activated createdBy routingAlgorithmId algorithm next) :
    next.SingleKind merchantId := by
  have old : ∀ row ∈ next.mapper, row.createdBy = merchantId → row ∈ state.mapper := by
    intro row rowMem isMerchant
    rcases activated.rows row rowMem with oldMem | added
    · exact oldMem
    · exact absurd (isMerchant.symm.trans added.1) different
  intro first firstMem second secondMem isFirst isSecond
  exact singleKind first (old first firstMem isFirst) second (old second secondMem isSecond)
    isFirst isSecond

theorem Activated.serves {state next : RoutingState}
    (activated : state.Activated createdBy routingAlgorithmId algorithm next) :
    next.Serves createdBy algorithm.cached := by
  rcases activated.mapped with ⟨mapping, mappingMem, sameMerchant, sameId⟩
  refine ⟨mapping, mappingMem, sameMerchant, algorithm, ?_, ?_, rfl⟩
  · rw [activated.algorithms]
    exact activated.found.1
  · rw [sameId, activated.found.2]

/-- An entry that is served, or none, keeps the cache coherent where the others are served. -/
theorem Coherent.updateEntry {state : RoutingState}
    (singleKind : ∀ merchantId, state.SingleKind merchantId) {merchantId : String}
    {entry : Option CachedRoutingAlgorithm}
    (serves : ∀ cached, entry = some cached → state.Serves merchantId cached)
    (served : ∀ other cached, other ≠ merchantId →
      state.cache (routingAlgoCacheKey other) = some cached → state.Serves other cached) :
    Coherent { state with
      cache := Function.update state.cache (routingAlgoCacheKey merchantId) entry } where
  singleKind := singleKind
  served := by
    intro other cached hit
    by_cases same : other = merchantId
    · rw [same] at hit ⊢
      simp only [Function.update_self] at hit
      exact serves cached hit
    · have keys : routingAlgoCacheKey other ≠ routingAlgoCacheKey merchantId :=
        fun sameKey => same (routingAlgoCacheKey_injective sameKey)
      simp only [Function.update_of_ne keys] at hit
      exact served other cached same hit

end RoutingState

/-! ## Runs -/

/-- Where an entry of the cache could stop being what the database selects: a
merchant activates an algorithm of another kind than its active one, or an
algorithm that another merchant has active is edited or deleted. -/
def Separate (state : RoutingState) : RoutingEvent → Prop
  | .handled (.activate createdBy routingAlgorithmId) =>
      ∀ algorithm ∈ state.algorithms, algorithm.id = routingAlgorithmId →
        ∀ mapping ∈ state.mapper, mapping.createdBy = createdBy →
          mapping.algorithmFor = algorithm.algorithmFor
  | .handled (.update request _) =>
      ∀ mapping ∈ state.mapper, mapping.routingAlgorithmId = request.routingAlgorithmId →
        mapping.createdBy = request.createdBy
  | .handled (.delete createdBy routingAlgorithmId) =>
      ∀ mapping ∈ state.mapper, mapping.routingAlgorithmId = routingAlgorithmId →
        mapping.createdBy = createdBy
  | _ => True

namespace RoutingState

/-- The guard and the condition together: nobody has the algorithm active. -/
theorem unmapped_of_inactive {state : RoutingState} {createdBy routingAlgorithmId : String}
    (inactive : state.ensureRoutingAlgorithmInactive createdBy routingAlgorithmId = .ok ())
    (separate : ∀ mapping ∈ state.mapper, mapping.routingAlgorithmId = routingAlgorithmId →
      mapping.createdBy = createdBy) :
    ∀ mapping ∈ state.mapper, mapping.routingAlgorithmId ≠ routingAlgorithmId := by
  intro mapping mappingMem same
  unfold ensureRoutingAlgorithmInactive at inactive
  cases found : state.mapper.find fun row => row.createdBy == createdBy &&
      row.routingAlgorithmId == routingAlgorithmId with
  | some row =>
      rw [found] at inactive
      cases inactive
  | none =>
      apply Table.find_eq_none_iff.mp found mapping mappingMem
      simp [separate mapping mappingMem same, same]

variable {state : RoutingState}

theorem Coherent.create (coherent : state.Coherent) (newAlgo : RoutingAlgorithm) :
    (state.routingCreate newAlgo).2.Coherent := by
  unfold routingCreate
  cases inserted : state.algorithms.insert newAlgo with
  | none => exact coherent
  | some algorithms =>
      refine ⟨coherent.singleKind, fun merchantId cached hit => ?_⟩
      exact (coherent.served merchantId cached hit).mono (fun _ mappingMem _ => mappingMem)
        fun _ _ algorithm algorithmMem _ =>
          (Table.mem_insert inserted algorithm).mpr (Or.inl algorithmMem)

theorem Coherent.activate (coherent : state.Coherent) {createdBy routingAlgorithmId : String}
    (separate : Separate state (.handled (.activate createdBy routingAlgorithmId))) :
    (state.activateRoutingRule createdBy routingAlgorithmId).2.Coherent := by
  unfold activateRoutingRule
  cases result : state.activateMapping createdBy routingAlgorithmId with
  | error error => exact coherent
  | ok found =>
      rcases found with ⟨algorithm, next⟩
      have activated := activated_of_activateMapping result
      have sameKind := separate algorithm activated.found.1 activated.found.2
      have singleKind : ∀ merchantId, next.SingleKind merchantId := by
        intro merchantId
        by_cases same : merchantId = createdBy
        · rw [same]
          exact SingleKind.activated sameKind activated
        · exact (coherent.singleKind merchantId).activated_of_ne same activated
      refine Coherent.updateEntry singleKind (fun _ isEntry => ?_) ?_
      · cases isEntry
        exact activated.serves
      intro other cached different hit
      rw [activated.cache] at hit
      apply (coherent.served other cached hit).mono
      · intro mapping mappingMem isOther
        exact activated.others mapping mappingMem fun same => different (isOther ▸ same)
      · intro _ _ algorithm algorithmMem _
        rw [activated.algorithms]
        exact algorithmMem

theorem Coherent.deactivate (coherent : state.Coherent) (createdBy routingAlgorithmId : String) :
    (state.deactivateRoutingRule createdBy routingAlgorithmId).2.Coherent := by
  unfold deactivateRoutingRule
  cases foundAlgorithm : state.findAlgorithm routingAlgorithmId with
  | none => exact coherent
  | some algorithm =>
      cases foundMapping : state.mapper.find fun row => row.createdBy == createdBy &&
          row.routingAlgorithmId == routingAlgorithmId &&
          row.algorithmFor == algorithm.algorithmFor with
      | none =>
          simp only [foundMapping]
          exact coherent
      | some mapping =>
          simp only [foundMapping]
          have mappingMem := Table.mem_of_find foundMapping
          have isMapping := Table.holds_of_find foundMapping
          simp only [Bool.and_eq_true, beq_iff_eq] at isMapping
          refine Coherent.updateEntry ?_ nofun ?_
          · intro merchantId first firstMem second secondMem
            exact coherent.singleKind merchantId first (Table.mem_remove.mp firstMem).1 second
              (Table.mem_remove.mp secondMem).1
          · intro other cached different hit
            apply (coherent.served other cached hit).mono
            · intro row rowMem isOther
              refine Table.mem_remove.mpr ⟨rowMem, ?_⟩
              by_contra sameId
              have sameRow : row = mapping := Table.eq_of_conflict rowMem mappingMem
                (Or.inl (by simpa using sameId))
              exact different (by rw [← isOther, sameRow, isMapping.1.1])
            · exact fun _ _ _ algorithmMem _ => algorithmMem

/-- Changing the algorithms that nobody has active, and the entry of one
merchant with them, keeps the cache coherent. -/
theorem Coherent.changeAlgorithms {state : RoutingState} (coherent : state.Coherent)
    {routingAlgorithmId : String} (createdBy : String)
    {algorithms : Table RoutingAlgorithm SameAlgorithm}
    (unmapped : ∀ mapping ∈ state.mapper, mapping.routingAlgorithmId ≠ routingAlgorithmId)
    (kept : ∀ algorithm ∈ state.algorithms, algorithm.id ≠ routingAlgorithmId →
      algorithm ∈ algorithms) :
    ({ state with algorithms := algorithms }
      |>.invalidateRoutingAlgorithmCache createdBy).Coherent := by
  apply Coherent.updateEntry
  · exact coherent.singleKind
  · nofun
  · intro other cached _ hit
    apply (coherent.served other cached hit).mono
    · exact fun _ mappingMem _ => mappingMem
    · intro mapping mappingMem algorithm algorithmMem isMapped
      exact kept algorithm algorithmMem (isMapped ▸ unmapped mapping mappingMem)

theorem Coherent.update (coherent : state.Coherent) {request : UpdateRoutingConfigRequest}
    {timestamp : Int} (separate : Separate state (.handled (.update request timestamp))) :
    (state.updateRoutingRule request timestamp).2.Coherent := by
  unfold updateRoutingRule
  cases inactive : state.ensureRoutingAlgorithmInactive request.createdBy
      request.routingAlgorithmId with
  | error error => exact coherent
  | ok _ =>
      have unmapped := unmapped_of_inactive inactive separate
      cases found : state.findAlgorithm request.routingAlgorithmId with
      | none => exact coherent
      | some existing =>
          by_cases owned : existing.createdBy = request.createdBy
          · simp only [owned, ne_eq, not_true_eq_false, if_false]
            cases updated : state.algorithms.updateSome
                (fun algorithm => algorithm.id == request.routingAlgorithmId)
                (request.change timestamp) (request.keeps_change timestamp _) with
            | none => exact coherent
            | some algorithms =>
                apply coherent.changeAlgorithms request.createdBy unmapped
                intro algorithm algorithmMem different
                rw [Table.eq_update_of_updateSome updated]
                exact Table.mem_update_of_not _ algorithmMem (by simpa using different)
          · simp only [ne_eq, owned, not_false_eq_true, if_true]
            exact coherent

theorem Coherent.delete (coherent : state.Coherent) {createdBy routingAlgorithmId : String}
    (separate : Separate state (.handled (.delete createdBy routingAlgorithmId))) :
    (state.deleteRoutingRule createdBy routingAlgorithmId).2.Coherent := by
  unfold deleteRoutingRule
  cases inactive : state.ensureRoutingAlgorithmInactive createdBy routingAlgorithmId with
  | error error => exact coherent
  | ok _ =>
      have unmapped := unmapped_of_inactive inactive separate
      cases deleted : state.algorithms.delete
          fun algorithm => algorithm.id == routingAlgorithmId with
      | none => exact coherent
      | some algorithms =>
          apply coherent.changeAlgorithms createdBy unmapped
          intro algorithm algorithmMem different
          rw [Table.eq_remove_of_delete deleted]
          exact Table.mem_remove.mpr ⟨algorithmMem, by simpa using different⟩

theorem Coherent.evaluate (coherent : state.Coherent) (createdBy : String) :
    (state.routingEvaluateAlgorithm createdBy).2.Coherent := by
  unfold routingEvaluateAlgorithm
  cases hit : state.cache (routingAlgoCacheKey createdBy) with
  | some cached => exact coherent
  | none =>
      unfold fetchAlgorithmFromDbAndCache
      cases fetched : state.fetchAlgorithmFromDb createdBy with
      | error error => exact coherent
      | ok algorithm =>
          refine Coherent.updateEntry coherent.singleKind (fun _ isEntry => ?_)
            fun other cached _ hit => coherent.served other cached hit
          cases isEntry
          exact serves_of_fetchAlgorithmFromDb fetched

/-- One step keeps the cache coherent, unless it mixes kinds or changes what
another merchant has active. -/
theorem Coherent.step {state next : RoutingState} {event : RoutingEvent}
    (coherent : state.Coherent) (separate : Separate state event)
    (step : RoutingStep state event next) : next.Coherent := by
  cases step with
  | handled operation =>
      cases operation with
      | create newAlgo => exact coherent.create newAlgo
      | activate createdBy routingAlgorithmId => exact coherent.activate separate
      | deactivate createdBy routingAlgorithmId => exact coherent.deactivate _ _
      | update request timestamp => exact coherent.update separate
      | delete createdBy routingAlgorithmId => exact coherent.delete separate
      | evaluate createdBy => exact coherent.evaluate createdBy
  | expired key =>
      refine ⟨coherent.singleKind, fun merchantId cached hit => ?_⟩
      by_cases same : routingAlgoCacheKey merchantId = key
      · simp [same] at hit
      · simp only [Function.update_of_ne same] at hit
        exact coherent.served merchantId cached hit
  | reordered perm =>
      constructor
      · intro merchantId first firstMem second secondMem
        exact coherent.singleKind merchantId first ((Table.mem_reorder perm).mp firstMem) second
          ((Table.mem_reorder perm).mp secondMem)
      · intro merchantId cached hit
        exact (coherent.served merchantId cached hit).mono
          (fun _ mappingMem _ => (Table.mem_reorder perm).mpr mappingMem)
          fun _ _ _ algorithmMem _ => algorithmMem

/-- Algorithms may be stored, but none is active or cached. -/
structure Fresh (state : RoutingState) : Prop where
  mapper : ∀ row, row ∉ state.mapper
  cache : ∀ key, state.cache key = none

theorem Fresh.coherent (fresh : state.Fresh) : state.Coherent where
  singleKind := fun _ first firstMem => absurd firstMem (fresh.mapper first)
  served := by
    intro merchantId cached hit
    rw [fresh.cache] at hit
    cases hit

theorem fresh_empty : empty.Fresh :=
  ⟨Table.not_mem_empty, fun _ => rfl⟩

end RoutingState

open RoutingState

theorem coherent_of_run {start state : RoutingState} {trace : List RoutingEvent}
    (fresh : start.Fresh)
    (run : Run (fun state event next =>
      RoutingStep state event next ∧ (next ≠ state → Separate state event)) start trace state) :
    state.Coherent := by
  induction run with
  | refl => exact fresh.coherent
  | @snoc _ middle next _ run last ih =>
      rcases last with ⟨step, separate⟩
      by_cases same : next = middle
      · rwa [same]
      · exact ih.step (separate same) step

/-- In every run whose steps keep merchants and kinds apart where they change
anything, an algorithm that is taken from the cache has the id and the rule data
of the one that the database selects, for the merchant alone and for every kind
that it has active. -/
theorem routingEvaluate_from_cache {start state : RoutingState} {trace : List RoutingEvent}
    (fresh : start.Fresh)
    (run : Run (fun state event next =>
      RoutingStep state event next ∧ (next ≠ state → Separate state event)) start trace state)
    {createdBy : String} {cached : CachedRoutingAlgorithm}
    (hit : state.cache (routingAlgoCacheKey createdBy) = some cached) :
    ∃ used algorithm, (state.routingEvaluateAlgorithm createdBy).1 = .ok used ∧
      state.fetchAlgorithmFromDb createdBy = .ok algorithm ∧
      used.id = algorithm.id ∧ used.algorithmData = algorithm.algorithmData ∧
      (∃ algorithmFor, state.selectAlgorithm createdBy algorithmFor = some algorithm) ∧
      ∀ algorithmFor other, state.selectAlgorithm createdBy algorithmFor = some other →
        other = algorithm := by
  have coherent := coherent_of_run fresh run
  rcases (coherent.singleKind createdBy).fetchAlgorithmFromDb
    (coherent.served createdBy cached hit) with ⟨algorithm, fetched, rfl, selected⟩
  refine ⟨algorithm.cached.toAlgorithm createdBy, algorithm, ?_, fetched, rfl, rfl, selected⟩
  simp only [routingEvaluateAlgorithm, hit]

/-- Requests handled one after the other. -/
def handleAll (state : RoutingState) (operations : List RoutingOp) : RoutingState :=
  operations.foldl RoutingState.handle state

theorem run_handleAll (state : RoutingState) (operations : List RoutingOp) :
    Run RoutingStep state (operations.map .handled) (handleAll state operations) := by
  induction operations using List.reverseRecOn with
  | nil => exact .refl
  | append_singleton operations operation ih =>
      rw [List.map_append, handleAll, List.foldl_append]
      exact ih.snoc (.handled _ operation)

def paymentAlgorithm : RoutingAlgorithm :=
  ⟨"routing_a", "owner", "a", "", none, "{}", "payment", 0, 0⟩

def payoutAlgorithm : RoutingAlgorithm :=
  ⟨"routing_b", "owner", "b", "", none, "{}", "payout", 0, 0⟩

def unusedAlgorithm : RoutingAlgorithm :=
  ⟨"routing_c", "owner", "c", "", none, "{}", "payment", 0, 0⟩

/-- The owner has its payment algorithm active, and edits and deletes one that it has not.
Another merchant tries in vain to edit the active one. -/
def activatedOps : List RoutingOp :=
  [.create paymentAlgorithm, .activate "owner" "routing_a", .create unusedAlgorithm,
    .update ⟨"owner", "routing_c", "c", "", "[]"⟩ 1, .delete "owner" "routing_c",
    .evaluate "owner", .update ⟨"merchant", "routing_a", "a", "", "[]"⟩ 2]

def activatedState : RoutingState :=
  handleAll .empty activatedOps

theorem routingEvaluate_from_cache_activated :
    ∃ used algorithm, (activatedState.routingEvaluateAlgorithm "owner").1 = .ok used ∧
      activatedState.fetchAlgorithmFromDb "owner" = .ok algorithm ∧
      used.id = algorithm.id ∧ used.algorithmData = algorithm.algorithmData ∧
      (∃ algorithmFor, activatedState.selectAlgorithm "owner" algorithmFor = some algorithm) ∧
      ∀ algorithmFor other,
        activatedState.selectAlgorithm "owner" algorithmFor = some other →
          other = algorithm := by
  have step (state : RoutingState) (operation : RoutingOp)
      (separate : state.handle operation ≠ state → Separate state (.handled operation)) :
      Run (fun state event next =>
        RoutingStep state event next ∧ (next ≠ state → Separate state event)) state
        [.handled operation] (state.handle operation) :=
    .single ⟨.handled _ operation, separate⟩
  have created := step .empty (.create paymentAlgorithm) fun _ => trivial
  have activated := (created.append (step _ (.activate "owner" "routing_a")
    fun _ _ _ _ mapping mappingMem => absurd mappingMem (Table.not_mem_empty mapping))).append
      (step _ (.create unusedAlgorithm) fun _ => trivial)
  have edited := activated.append (step _ (.update ⟨"owner", "routing_c", "c", "", "[]"⟩ 1)
    fun _ => List.forall_mem_singleton.mpr fun _ => rfl)
  have deleted := edited.append (step _ (.delete "owner" "routing_c")
    fun _ => List.forall_mem_singleton.mpr fun _ => rfl)
  have evaluated := deleted.append (step _ (.evaluate "owner") fun _ => trivial)
  have run := evaluated.append (step _ (.update ⟨"merchant", "routing_a", "a", "", "[]"⟩ 2)
    fun changed => absurd rfl changed)
  have hit : activatedState.cache (routingAlgoCacheKey "owner") =
      some paymentAlgorithm.cached := by decide
  exact routingEvaluate_from_cache fresh_empty run hit

/-- Another merchant activates the algorithm, and then the owner, for whom it is
not active, edits it. -/
def editedState : RoutingState :=
  handleAll .empty
    [.create paymentAlgorithm, .activate "merchant" "routing_a",
      .update ⟨"owner", "routing_a", "a", "", "[]"⟩ 1]

/-- One merchant activates algorithms of two kinds. -/
def twoKindsState : RoutingState :=
  handleAll .empty
    [.create paymentAlgorithm, .create payoutAlgorithm, .activate "owner" "routing_a",
      .activate "owner" "routing_b"]

/-- The cache serves the old rule data to the merchant, and to the owner an
algorithm of a kind that is not the one that the database selects. -/
theorem routingEvaluate_from_cache_counterexample :
    (∃ trace state used algorithm, Run RoutingStep .empty trace state ∧
      state.cache (routingAlgoCacheKey "merchant") ≠ none ∧
      (state.routingEvaluateAlgorithm "merchant").1 = .ok used ∧
      state.selectAlgorithm "merchant" "payment" = some algorithm ∧
      state.fetchAlgorithmFromDb "merchant" = .ok algorithm ∧
      used.id = algorithm.id ∧ used.algorithmData ≠ algorithm.algorithmData) ∧
    ∃ trace state used algorithm, Run RoutingStep .empty trace state ∧
      state.cache (routingAlgoCacheKey "owner") ≠ none ∧
      (state.routingEvaluateAlgorithm "owner").1 = .ok used ∧
      state.selectAlgorithm "owner" "payment" = some algorithm ∧
      state.fetchAlgorithmFromDb "owner" = .ok algorithm ∧ used.id ≠ algorithm.id := by
  constructor
  · exact ⟨_, editedState, (paymentAlgorithm.cached).toAlgorithm "merchant",
      { paymentAlgorithm with algorithmData := "[]", modifiedAt := 1 },
      run_handleAll _ _, by decide, by decide, by decide, by decide, by decide, by decide⟩
  · exact ⟨_, twoKindsState, (payoutAlgorithm.cached).toAlgorithm "owner",
      paymentAlgorithm, run_handleAll _ _, by decide, by decide, by decide, by decide, by decide⟩

end DecisionEngine.Routing
