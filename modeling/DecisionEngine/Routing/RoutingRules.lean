import DecisionEngine.Database.Table
import DecisionEngine.Euclid.Validator

/-!
# Routing algorithms and their cache

The handlers that store, activate and look up the routing algorithms of the
merchants, over the two tables and the cache that they share.  Every call of the
database and of the cache succeeds; a query that finds nothing is not a failed
call.
-/

namespace DecisionEngine.Routing

open Database Euclid

/-! ## Tables and cache -/

/-- A row of `routing_algorithm`. -/
structure RoutingAlgorithm where
  id : String
  createdBy : String
  name : String
  description : String
  metadata : Option String
  algorithmData : String
  algorithmFor : String
  createdAt : Int
  modifiedAt : Int
  deriving DecidableEq

/-- A row of `routing_algorithm_mapper`: the algorithm is active for the merchant. -/
structure RoutingAlgorithmMapper where
  id : Nat
  createdBy : String
  routingAlgorithmId : String
  algorithmFor : String
  deriving DecidableEq

/-- The primary key of `routing_algorithm`. -/
def SameAlgorithm (first second : RoutingAlgorithm) : Prop :=
  first.id = second.id

/-- The primary key of `routing_algorithm_mapper`, and its unique constraint. -/
def SameMapping (first second : RoutingAlgorithmMapper) : Prop :=
  first.id = second.id ∨
    (first.createdBy = second.createdBy ∧ first.algorithmFor = second.algorithmFor)

instance : DecidableRel SameAlgorithm := fun _ _ => inferInstanceAs (Decidable (_ = _))

instance : DecidableRel SameMapping := fun _ _ => inferInstanceAs (Decidable (_ ∨ _ ∧ _))

instance : Std.Symm SameAlgorithm := ⟨fun _ _ same => Eq.symm same⟩

instance : Std.Symm SameMapping :=
  ⟨fun _ _ same => same.imp Eq.symm fun both => ⟨both.1.symm, both.2.symm⟩⟩

structure CachedRoutingAlgorithm where
  id : String
  algorithmData : String
  deriving DecidableEq

def routingAlgoCachePrefix : String := "DE_routing_algo_eval:"

def routingAlgoCacheKey (merchantId : String) : String :=
  routingAlgoCachePrefix ++ merchantId

/-- What is cached of an algorithm. -/
def RoutingAlgorithm.cached (algorithm : RoutingAlgorithm) : CachedRoutingAlgorithm :=
  ⟨algorithm.id, algorithm.algorithmData⟩

/-- `PrimitiveDateTime::MIN` in seconds since the epoch. -/
def primitiveDateTimeMin : Int := -377705116800

/-- The algorithm that `routing_evaluate` takes from a cache entry. -/
def CachedRoutingAlgorithm.toAlgorithm (cached : CachedRoutingAlgorithm) (createdBy : String) :
    RoutingAlgorithm where
  id := cached.id
  createdBy := createdBy
  name := ""
  description := ""
  metadata := none
  algorithmData := cached.algorithmData
  algorithmFor := ""
  createdAt := primitiveDateTimeMin
  modifiedAt := primitiveDateTimeMin

/-- The two tables, the sequence of the mapper's serial key, and the cache. -/
structure RoutingState where
  algorithms : Table RoutingAlgorithm SameAlgorithm
  mapper : Table RoutingAlgorithmMapper SameMapping
  nextMapperId : Nat
  mapperIds : ∀ row ∈ mapper, row.id < nextMapperId
  cache : String → Option CachedRoutingAlgorithm

namespace RoutingState

/-- Nothing is stored. -/
def empty : RoutingState :=
  ⟨.empty, .empty, 0, fun row rowMem => absurd rowMem (Table.not_mem_empty row), fun _ => none⟩

variable (state : RoutingState)

def cacheRoutingAlgorithm (merchantId : String) (algorithm : RoutingAlgorithm) : RoutingState :=
  { state with
    cache := Function.update state.cache (routingAlgoCacheKey merchantId)
      (some algorithm.cached) }

def invalidateRoutingAlgorithmCache (merchantId : String) :
    RoutingState :=
  { state with cache := Function.update state.cache (routingAlgoCacheKey merchantId) none }

/-! ## Queries and changes of the tables -/

def findAlgorithm (id : String) : Option RoutingAlgorithm :=
  state.algorithms.find fun algorithm => algorithm.id == id

/-- `created_by = ? and algorithm_for = ?`. -/
def isMappingFor (createdBy algorithmFor : String) (row : RoutingAlgorithmMapper) : Bool :=
  row.createdBy == createdBy && row.algorithmFor == algorithmFor

/-- Remove mappings. -/
def removeMappings (predicate : RoutingAlgorithmMapper → Bool) :
    RoutingState :=
  { state with
    mapper := state.mapper.remove predicate
    mapperIds := fun row rowMem => state.mapperIds row (Table.mem_remove.mp rowMem).1 }

/-- `RoutingAlgorithmMapperUpdate`. -/
def mapTo (routingAlgorithmId algorithmFor : String) (row : RoutingAlgorithmMapper) :
    RoutingAlgorithmMapper :=
  { row with routingAlgorithmId := routingAlgorithmId, algorithmFor := algorithmFor }

/-- The mapping of a merchant and a kind is changed in place. -/
theorem keeps_mapTo (createdBy routingAlgorithmId algorithmFor : String) :
    Table.Keeps SameMapping (isMappingFor createdBy algorithmFor)
      (mapTo routingAlgorithmId algorithmFor) := by
  intro row isMapping other
  have sameKind : row.algorithmFor = algorithmFor := by
    simp only [isMappingFor, Bool.and_eq_true, beq_iff_eq] at isMapping
    exact isMapping.2
  simp [SameMapping, mapTo, sameKind]

def updateMapping (createdBy routingAlgorithmId algorithmFor : String) :
    RoutingState :=
  { state with
    mapper := state.mapper.update (isMappingFor createdBy algorithmFor)
      (mapTo routingAlgorithmId algorithmFor) (keeps_mapTo createdBy _ algorithmFor)
    mapperIds := by
      intro row rowMem
      rcases (Table.mem_update _).mp rowMem with ⟨old, oldMem, rfl⟩
      split
      · exact state.mapperIds old oldMem
      · exact state.mapperIds old oldMem }

/-- Insert a mapping under the next serial key; `none` when the merchant has one
for this kind. -/
def insertMapping (createdBy routingAlgorithmId algorithmFor : String) :
    Option RoutingState :=
  match inserted : state.mapper.insert
      ⟨state.nextMapperId, createdBy, routingAlgorithmId, algorithmFor⟩ with
  | none => none
  | some mapper => some
      { state with
        mapper := mapper
        nextMapperId := state.nextMapperId + 1
        mapperIds := by
          intro row rowMem
          rcases (Table.mem_insert inserted row).mp rowMem with oldMem | rfl
          · exact Nat.lt_succ_of_lt (state.mapperIds row oldMem)
          · exact Nat.lt_succ_self _ }

/-! ## Handlers -/

/-- The storing part of `routing_create`, after the validation. -/
def routingCreate (newAlgo : RoutingAlgorithm) :
    Except EuclidErrors Unit × RoutingState :=
  match state.algorithms.insert newAlgo with
  | none => (.error .storageError, state)
  | some algorithms => (.ok (), { state with algorithms := algorithms })

/-- The database path of `fetch_algorithm_from_db_and_cache`: the first mapping of
the merchant, of whatever kind, and its algorithm. -/
def fetchAlgorithmFromDb (merchantId : String) :
    Except EuclidErrors RoutingAlgorithm :=
  match state.mapper.find fun row => row.createdBy == merchantId with
  | none => .error (.activeRoutingAlgorithmNotFound merchantId)
  | some mapping =>
      match state.findAlgorithm mapping.routingAlgorithmId with
      | none => .error .storageError
      | some algorithm => .ok algorithm

def fetchAlgorithmFromDbAndCache (merchantId : String) :
    Except EuclidErrors RoutingAlgorithm × RoutingState :=
  match state.fetchAlgorithmFromDb merchantId with
  | .error error => (.error error, state)
  | .ok algorithm => (.ok algorithm, state.cacheRoutingAlgorithm merchantId algorithm)

/-- The algorithm that `routing_evaluate` works with. -/
def routingEvaluateAlgorithm (createdBy : String) :
    Except EuclidErrors RoutingAlgorithm × RoutingState :=
  match state.cache (routingAlgoCacheKey createdBy) with
  | some cached => (.ok (cached.toAlgorithm createdBy), state)
  | none => state.fetchAlgorithmFromDbAndCache createdBy

/-- The queries and the mapper write of `activate_routing_rule`; there is no check
that the algorithm belongs to the merchant. -/
def activateMapping (createdBy routingAlgorithmId : String) :
    Except EuclidErrors (RoutingAlgorithm × RoutingState) :=
  match state.findAlgorithm routingAlgorithmId with
  | none => .error (.routingAlgorithmNotFound routingAlgorithmId)
  | some algorithm =>
      match state.mapper.find (isMappingFor createdBy algorithm.algorithmFor) with
      | some existing =>
          if existing.routingAlgorithmId ≠ routingAlgorithmId then
            .ok (algorithm,
              state.updateMapping createdBy routingAlgorithmId algorithm.algorithmFor)
          else .ok (algorithm, state)
      | none =>
          match state.insertMapping createdBy routingAlgorithmId algorithm.algorithmFor with
          | none => .error .storageError
          | some next => .ok (algorithm, next)

def activateRoutingRule (createdBy routingAlgorithmId : String) :
    Except EuclidErrors Unit × RoutingState :=
  match state.activateMapping createdBy routingAlgorithmId with
  | .error error => (.error error, state)
  | .ok (algorithm, next) => (.ok (), next.cacheRoutingAlgorithm createdBy algorithm)

def deactivateRoutingRule (createdBy routingAlgorithmId : String) :
    Except EuclidErrors Unit × RoutingState :=
  match state.findAlgorithm routingAlgorithmId with
  | none => (.error (.routingAlgorithmNotFound routingAlgorithmId), state)
  | some algorithm =>
      match state.mapper.find fun row => row.createdBy == createdBy &&
          row.routingAlgorithmId == routingAlgorithmId &&
          row.algorithmFor == algorithm.algorithmFor with
      | none => (.ok (), state)
      | some mapping =>
          -- the row to delete is there: the query has just returned it
          (.ok (), (state.removeMappings fun row => row.id == mapping.id)
            |>.invalidateRoutingAlgorithmCache createdBy)

def ensureRoutingAlgorithmInactive (createdBy routingAlgorithmId : String) :
    Except EuclidErrors Unit :=
  match state.mapper.find fun row => row.createdBy == createdBy &&
      row.routingAlgorithmId == routingAlgorithmId with
  | some _ => .error (.invalidRequest
      "This experiment is active. Stop it before editing or deleting.")
  | none => .ok ()

end RoutingState

/-- The payload of an edit, with its algorithm as the string that is stored. -/
structure UpdateRoutingConfigRequest where
  createdBy : String
  routingAlgorithmId : String
  name : String
  description : String
  algorithm : String

structure RoutingDictionaryRecord where
  ruleId : String
  name : String
  algorithmFor : String
  createdAt : Int
  modifiedAt : Int

variable (request : UpdateRoutingConfigRequest)

/-- The changed columns of an edit. -/
def UpdateRoutingConfigRequest.change (timestamp : Int) (algorithm : RoutingAlgorithm) :
    RoutingAlgorithm :=
  { algorithm with
    name := request.name
    description := request.description
    algorithmData := request.algorithm
    modifiedAt := timestamp }

theorem UpdateRoutingConfigRequest.keeps_change (timestamp : Int)
    (predicate : RoutingAlgorithm → Bool) :
    Table.Keeps SameAlgorithm predicate (request.change timestamp) :=
  fun _ _ _ => ⟨Iff.rfl, Iff.rfl⟩

namespace RoutingState

/-- An edit made at a given time. -/
def updateRoutingRule (state : RoutingState) (request : UpdateRoutingConfigRequest)
    (timestamp : Int) : Except EuclidErrors RoutingDictionaryRecord × RoutingState :=
  match state.ensureRoutingAlgorithmInactive request.createdBy request.routingAlgorithmId with
  | .error error => (.error error, state)
  | .ok () =>
      match state.findAlgorithm request.routingAlgorithmId with
      | none => (.error (.routingAlgorithmNotFound request.routingAlgorithmId), state)
      | some existing =>
          if existing.createdBy ≠ request.createdBy then
            (.error (.invalidRequest
              "Routing algorithm does not belong to this merchant"), state)
          else
            match state.algorithms.updateSome
                (fun algorithm => algorithm.id == request.routingAlgorithmId)
                (request.change timestamp) (request.keeps_change timestamp _) with
            | none => (.error .storageError, state)
            | some algorithms =>
                (.ok ⟨request.routingAlgorithmId, request.name, existing.algorithmFor,
                    existing.createdAt, timestamp⟩,
                  { state with algorithms := algorithms }
                    |>.invalidateRoutingAlgorithmCache request.createdBy)

/-- There is no check that the algorithm belongs to the merchant. -/
def deleteRoutingRule (state : RoutingState) (createdBy routingAlgorithmId : String) :
    Except EuclidErrors Unit × RoutingState :=
  match state.ensureRoutingAlgorithmInactive createdBy routingAlgorithmId with
  | .error error => (.error error, state)
  | .ok () =>
      match state.algorithms.delete fun algorithm => algorithm.id == routingAlgorithmId with
      | none => (.error .storageError, state)
      | some algorithms =>
          (.ok (), { state with algorithms := algorithms }
            |>.invalidateRoutingAlgorithmCache createdBy)

end RoutingState

/-! ## Runs -/

/-- A request that reads or changes the tables or the cache. -/
inductive RoutingOp where
  | create (newAlgo : RoutingAlgorithm)
  | activate (createdBy routingAlgorithmId : String)
  | deactivate (createdBy routingAlgorithmId : String)
  | update (request : UpdateRoutingConfigRequest) (timestamp : Int)
  | delete (createdBy routingAlgorithmId : String)
  | evaluate (createdBy : String)

/-- The state that a request leaves. -/
def RoutingState.handle (state : RoutingState) : RoutingOp → RoutingState
  | .create newAlgo => (state.routingCreate newAlgo).2
  | .activate createdBy routingAlgorithmId =>
      (state.activateRoutingRule createdBy routingAlgorithmId).2
  | .deactivate createdBy routingAlgorithmId =>
      (state.deactivateRoutingRule createdBy routingAlgorithmId).2
  | .update request timestamp => (state.updateRoutingRule request timestamp).2
  | .delete createdBy routingAlgorithmId =>
      (state.deleteRoutingRule createdBy routingAlgorithmId).2
  | .evaluate createdBy => (state.routingEvaluateAlgorithm createdBy).2

/-- A request, or what happens without one: a cache entry expires, or the database
comes to return the mappings in another order. -/
inductive RoutingEvent where
  | handled (operation : RoutingOp)
  | expired (key : String)
  | reordered

inductive RoutingStep : RoutingState → RoutingEvent → RoutingState → Prop
  | handled (state : RoutingState) (operation : RoutingOp) :
      RoutingStep state (.handled operation) (state.handle operation)
  | expired (state : RoutingState) (key : String) :
      RoutingStep state (.expired key)
        { state with cache := Function.update state.cache key none }
  | reordered (state : RoutingState) {rows : List RoutingAlgorithmMapper}
      (perm : rows.Perm state.mapper.rows) :
      RoutingStep state .reordered
        { state with
          mapper := state.mapper.reorder rows perm
          mapperIds := fun row rowMem =>
            state.mapperIds row ((Table.mem_reorder perm).mp rowMem) }

end DecisionEngine.Routing
