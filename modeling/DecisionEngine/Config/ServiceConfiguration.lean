import DecisionEngine.Redis.StringLayer
import DecisionEngine.Transition.Run

/-!
# Service configurations and their caches

A configuration is a text under a name in a table.  A find looks into the memory of
the process, then into Redis and then into the table, and leaves what it found in the
layers before.  The empty text stands for no configuration.

The layers hold the text of the table, with two exceptions.  A find with a default
leaves its default there, for every other find of the name; and a text that is a JSON
literal comes out of Redis without its quotation marks.
-/

namespace DecisionEngine.Config

open Json Redis Text Transition

/-- A row of the table; the columns that no find reads are left out. -/
structure ServiceConfiguration where
  name : String
  value : Option String

structure CacheConfig where
  serviceConfigRedisPrefix : String

def CacheConfig.addPrefix (config : CacheConfig) (key : String) : String :=
  config.serviceConfigRedisPrefix ++ key

structure TenantAppState where
  redisConn : RedisConnectionWrapper
  cacheConfig : CacheConfig

/-- The table, in the order in which the database returns its rows, and the two caches. -/
structure ConfigState where
  table : List ServiceConfiguration
  redis : ByteStore
  memory : String → Option String

inductive MeshError where
  | noRowstoUpdate
  | noRowstoDelete
  | others
  deriving DecidableEq

/-- How a type is written as a JSON text and read from one. -/
structure Serde (α : Type) where
  fromStr : String → Option α
  toString : α → Option String

namespace ConfigState

variable (app : TenantAppState)

/-! ## The caches -/

def getFromMemoryCache (state : ConfigState) (prefixedKey : String) : Option String :=
  state.memory prefixedKey

def setToMemoryCache (state : ConfigState) (prefixedKey value : String) : ConfigState :=
  { state with memory := Function.update state.memory prefixedKey (some value) }

def getFromRedisCache (state : ConfigState) (prefixedKey : String) : Option String :=
  (app.redisConn.getKeyString state.redis prefixedKey).toOption

def setToRedisCache (state : ConfigState) (prefixedKey value : String) : ConfigState :=
  { state with redis := app.redisConn.setx state.redis prefixedKey value none .STRING }

/-- Write a text to both caches. -/
def writeThroughServiceConfig (state : ConfigState) (key value : String) : ConfigState :=
  (state.setToRedisCache app (app.cacheConfig.addPrefix key) value).setToMemoryCache
    (app.cacheConfig.addPrefix key) value

/-- Write the empty text to both caches. -/
def evictServiceConfig (state : ConfigState) (key : String) : ConfigState :=
  (state.setToRedisCache app (app.cacheConfig.addPrefix key) "").setToMemoryCache
    (app.cacheConfig.addPrefix key) ""

/-- What both caches are given after a write of the table. -/
def cacheValue (state : ConfigState) (name : String) : Option String → ConfigState
  | some value => state.writeThroughServiceConfig app name value
  | none => state.evictServiceConfig app name

/-! ## The table -/

def findConfigByName (state : ConfigState) (name : String) : Option ServiceConfiguration :=
  state.table.find? fun row => row.name = name

def withTable (state : ConfigState) (table : List ServiceConfiguration) : ConfigState :=
  { state with table := table }

/-- Nothing keeps two rows from having one name. -/
def insertRow (state : ConfigState) (name : String) (value : Option String) : ConfigState :=
  state.withTable (state.table ++ [⟨name, value⟩])

/-- An update without a value names no column to set, which the database layer refuses. -/
def updateRows (state : ConfigState) (name : String) :
    Option String → Except MeshError ConfigState
  | none => .error .others
  | some text =>
      if state.table.any fun row => row.name = name then
        .ok (state.withTable (state.table.map fun row =>
          if row.name = name then { row with value := some text } else row))
      else .error .noRowstoUpdate

def deleteRows (state : ConfigState) (name : String) : Except MeshError ConfigState :=
  if state.table.any fun row => row.name = name then
    .ok (state.withTable (state.table.filter fun row => row.name ≠ name))
  else .error .noRowstoDelete

def insertConfig (state : ConfigState) (name : String) (value : Option String) :
    Except MeshError ConfigState :=
  .ok ((state.insertRow name value).cacheValue app name value)

def updateConfig (state : ConfigState) (name : String) (value : Option String) :
    Except MeshError ConfigState :=
  (state.updateRows name value).map fun updated => updated.cacheValue app name value

def deleteConfig (state : ConfigState) (name : String) : Except MeshError ConfigState :=
  (state.deleteRows name).map fun deleted => deleted.evictServiceConfig app name

/-! ## Finds -/

/-- Find the configuration, with the decoder of the caller. -/
def findByNameFromRedisHelper {α : Type} (state : ConfigState) (key : String)
    (decode : String → Option α) : Option α × ConfigState :=
  let prefixedKey := app.cacheConfig.addPrefix key
  match state.getFromMemoryCache prefixedKey with
  | some cacheValue =>
      (if cacheValue.isEmpty then none else decode cacheValue, state)
  | none =>
      match state.getFromRedisCache app prefixedKey with
      | some redisValue =>
          if redisValue.isEmpty then (none, state.setToMemoryCache prefixedKey "")
          else (decode redisValue, state.setToMemoryCache prefixedKey redisValue)
      | none =>
          match state.findConfigByName key with
          | some serviceConfig =>
              match serviceConfig.value with
              | some value =>
                  (decode value, (state.setToRedisCache app prefixedKey value).setToMemoryCache
                    prefixedKey value)
              | none => (none, state.setToMemoryCache prefixedKey "")
          | none => (none, state.setToMemoryCache prefixedKey "")

/-- Find the configuration, or store the default in its place and return it. -/
def findByNameFromRedisWithDefault {α : Type} (state : ConfigState) (key : String)
    (serde : Serde α) (defaultValue : α) : α × ConfigState :=
  match state.findByNameFromRedisHelper app key serde.fromStr with
  | (some value, next) => (value, next)
  | (none, next) =>
      match serde.toString defaultValue with
      | some defaultJson => (defaultValue, next.writeThroughServiceConfig app key defaultJson)
      | none => (defaultValue, next)

end ConfigState

/-! ## Runs -/

/-- What happens to the table and its caches. -/
inductive Operation : Type 1 where
  | insert (name : String) (value : Option String)
  | update (name : String) (value : Option String)
  | delete (name : String)
  | find {α : Type} (name : String) (decode : String → Option α)
  | findWithDefault {α : Type} (name : String) (serde : Serde α) (defaultValue : α)
  | expireMemory (prefixedKey : String)
  | expireRedis (prefixedKey : String)

/-- A refused write changes nothing. -/
def ConfigState.written (state : ConfigState) : Except MeshError ConfigState → ConfigState
  | .ok next => next
  | .error _ => state

def ConfigState.apply (app : TenantAppState) (state : ConfigState) : Operation → ConfigState
  | .insert name value => state.written (state.insertConfig app name value)
  | .update name value => state.written (state.updateConfig app name value)
  | .delete name => state.written (state.deleteConfig app name)
  | .find name decode => (state.findByNameFromRedisHelper app name decode).2
  | .findWithDefault name serde defaultValue =>
      (state.findByNameFromRedisWithDefault app name serde defaultValue).2
  | .expireMemory prefixedKey =>
      { state with memory := Function.update state.memory prefixedKey none }
  | .expireRedis prefixedKey =>
      { state with redis := Function.update state.redis prefixedKey none }

/-! ## What a write of the table does -/

namespace ConfigState

/-- The text that the table has under a name. -/
def valueOf (state : ConfigState) (name : String) : Option String :=
  (state.findConfigByName name).bind ServiceConfiguration.value

/-- The table has the value under the name, and nothing else has changed. -/
structure TableWritten (state : ConfigState) (name : String) (value : Option String)
    (next : ConfigState) : Prop where
  value : next.valueOf name = value
  others : ∀ other, other ≠ name → next.valueOf other = state.valueOf other
  redis : next.redis = state.redis
  memory : next.memory = state.memory

variable {state next : ConfigState} {name : String} {value : Option String}

theorem tableWritten_self (state : ConfigState) (name : String) :
    TableWritten state name (state.valueOf name) state :=
  ⟨rfl, fun _ _ => rfl, rfl, rfl⟩

/-- An insert beside a row with another value does not write what the table then has. -/
theorem tableWritten_insertRow
    (free : ∀ row, state.findConfigByName name = some row → row.value = value) :
    TableWritten state name value (state.insertRow name value) := by
  refine ⟨?_, ?_, rfl, rfl⟩
  · simp only [valueOf, findConfigByName, insertRow, withTable, List.find?_append]
    cases found : state.table.find? fun row => decide (row.name = name) with
    | none => simp
    | some row => exact free row found
  · intro other differ
    simp [valueOf, findConfigByName, insertRow, withTable, List.find?_append, Ne.symm differ]

/-- A write of the values of some rows leaves their names. -/
theorem find_setValue (table : List ServiceConfiguration) (other text : String) :
    (table.map fun row => if row.name = name then { row with value := some text } else row).find?
        (fun row => row.name = other) =
      (table.find? fun row => row.name = other).map fun row =>
        if row.name = name then { row with value := some text } else row := by
  rw [List.find?_map]
  congr 2
  funext row
  dsimp only [Function.comp]
  split <;> rfl

theorem tableWritten_updateRows (updated : state.updateRows name value = .ok next) :
    TableWritten state name value next := by
  cases value with
  | none => cases updated
  | some text =>
      rw [updateRows] at updated
      split at updated
      · next present =>
          cases updated
          refine ⟨?_, ?_, rfl, rfl⟩
          · simp only [valueOf, findConfigByName, withTable, find_setValue]
            cases found : state.table.find? fun row => decide (row.name = name) with
            | none =>
                rw [List.find?_eq_none] at found
                rw [List.any_eq_true] at present
                rcases present with ⟨row, rowMem, isName⟩
                exact absurd isName (found row rowMem)
            | some row =>
                have isName : row.name = name := by simpa using List.find?_some found
                rw [Option.map_some, if_pos isName]
                rfl
          · intro other differ
            simp only [valueOf, findConfigByName, withTable, find_setValue]
            cases found : state.table.find? fun row => decide (row.name = other) with
            | none => rfl
            | some row =>
                have isOther : row.name = other := by simpa using List.find?_some found
                rw [Option.map_some, if_neg (isOther ▸ differ)]
      · cases updated

theorem tableWritten_deleteRows (deleted : state.deleteRows name = .ok next) :
    TableWritten state name none next := by
  rw [deleteRows] at deleted
  split at deleted
  · cases deleted
    refine ⟨?_, ?_, rfl, rfl⟩
    · have gone : (state.table.filter fun row => decide (row.name ≠ name)).find?
          (fun row => decide (row.name = name)) = none := by
        simp
      simp only [valueOf, findConfigByName, withTable, gone]
      rfl
    · intro other differ
      simp only [valueOf, findConfigByName, withTable, List.find?_filter]
      congr 2
      funext row
      by_cases isOther : row.name = other <;> simp [isOther, differ]
  · cases deleted

theorem cacheValue_eq (app : TenantAppState) (state : ConfigState) (name : String)
    (value : Option String) :
    state.cacheValue app name value =
      state.writeThroughServiceConfig app name (value.getD "") := by
  cases value <;> rfl

end ConfigState

/-! ## What a find does -/

namespace ConfigState

/-- What a caller makes of a cached text; the empty text is no configuration. -/
def readText {α : Type} (decode : String → Option α) (text : String) : Option α :=
  if text.isEmpty then none else decode text

/-- The string that a text stands for as a JSON literal. -/
def unquoted (text : String) : Option String :=
  (readLiteral text.toList).map String.ofList

/-- A find ends in the first layer that has something. -/
inductive Found {α : Type} (app : TenantAppState) (state : ConfigState) (name : String)
    (decode : String → Option α) : Option α → ConfigState → Prop
  | memory {text : String} (hit : state.memory (app.cacheConfig.addPrefix name) = some text) :
      Found app state name decode (readText decode text) state
  | redis {text : String} (missed : state.memory (app.cacheConfig.addPrefix name) = none)
      (hit : state.getFromRedisCache app (app.cacheConfig.addPrefix name) = some text) :
      Found app state name decode (readText decode text)
        (state.setToMemoryCache (app.cacheConfig.addPrefix name) text)
  | table {text : String} (missed : state.memory (app.cacheConfig.addPrefix name) = none)
      (missedRedis : state.getFromRedisCache app (app.cacheConfig.addPrefix name) = none)
      (value : state.valueOf name = some text) :
      Found app state name decode (decode text) (state.writeThroughServiceConfig app name text)
  | absent (missed : state.memory (app.cacheConfig.addPrefix name) = none)
      (missedRedis : state.getFromRedisCache app (app.cacheConfig.addPrefix name) = none)
      (value : state.valueOf name = none) :
      Found app state name decode none
        (state.setToMemoryCache (app.cacheConfig.addPrefix name) "")

variable {app : TenantAppState} {state : ConfigState} {key other value : String}

@[simp]
theorem setToMemoryCache_memory_self :
    (state.setToMemoryCache key value).memory key = some value :=
  Function.update_self ..

@[simp]
theorem setToMemoryCache_memory_of_ne (differ : other ≠ key) :
    (state.setToMemoryCache key value).memory other = state.memory other :=
  Function.update_of_ne differ ..

@[simp]
theorem writeThrough_memory_self :
    (state.writeThroughServiceConfig app key value).memory (app.cacheConfig.addPrefix key) =
      some value :=
  Function.update_self ..

@[simp]
theorem writeThrough_memory_of_ne (differ : other ≠ app.cacheConfig.addPrefix key) :
    (state.writeThroughServiceConfig app key value).memory other = state.memory other :=
  Function.update_of_ne differ ..

@[simp]
theorem writeThrough_redis_self :
    (state.writeThroughServiceConfig app key value).redis (app.cacheConfig.addPrefix key) =
      some (encodeUtf8 value) := by
  simp [writeThroughServiceConfig, setToRedisCache, setToMemoryCache,
    RedisConnectionWrapper.setx_none, ByteStore.set]

@[simp]
theorem writeThrough_redis_of_ne (differ : other ≠ app.cacheConfig.addPrefix key) :
    (state.writeThroughServiceConfig app key value).redis other = state.redis other := by
  simp [writeThroughServiceConfig, setToRedisCache, setToMemoryCache,
    RedisConnectionWrapper.setx_none, ByteStore.set, differ]

theorem found_findByNameFromRedisHelper {α : Type} (name : String) (decode : String → Option α) :
    Found app state name decode (state.findByNameFromRedisHelper app name decode).1
      (state.findByNameFromRedisHelper app name decode).2 := by
  unfold findByNameFromRedisHelper
  cases inMemory : state.memory (app.cacheConfig.addPrefix name) with
  | some text =>
      simp only [getFromMemoryCache, inMemory]
      exact .memory inMemory
  | none =>
      cases inRedis : state.getFromRedisCache app (app.cacheConfig.addPrefix name) with
      | some text =>
          simp only [getFromMemoryCache, inMemory, inRedis]
          have found : ConfigState.Found app state name decode _ _ := .redis inMemory inRedis
          by_cases isEmpty : text.isEmpty = true
          · rw [readText, if_pos isEmpty, String.isEmpty_iff.mp isEmpty] at found
            rw [if_pos isEmpty]
            exact found
          · rw [readText, if_neg isEmpty] at found
            rw [if_neg isEmpty]
            exact found
      | none =>
          simp only [getFromMemoryCache, inMemory, inRedis]
          cases inTable : state.findConfigByName name with
          | none => exact .absent inMemory inRedis (by rw [valueOf, inTable]; rfl)
          | some row =>
              cases value : row.value with
              | none =>
                  simp only [value]
                  exact .absent inMemory inRedis (by rw [valueOf, inTable]; exact value)
              | some text =>
                  simp only [value]
                  exact .table inMemory inRedis (by rw [valueOf, inTable]; exact value)

end ConfigState

/-! ## Stored defaults -/

/-- The state, and for each name the default that a find has stored in the caches, as long as
nothing else was stored for the name. -/
structure Tracked where
  state : ConfigState
  defaults : String → Option String

namespace Tracked

variable (app : TenantAppState)

/-- A find that goes to the table leaves what it finds there. -/
def afterFind (tracked : Tracked) (name : String) : String → Option String :=
  if (tracked.state.memory (app.cacheConfig.addPrefix name)).isNone &&
      (tracked.state.getFromRedisCache app (app.cacheConfig.addPrefix name)).isNone then
    Function.update tracked.defaults name none
  else tracked.defaults

variable {app} in
theorem afterFind_of_missed {tracked : Tracked} {name : String}
    (missed : tracked.state.memory (app.cacheConfig.addPrefix name) = none)
    (missedRedis : tracked.state.getFromRedisCache app (app.cacheConfig.addPrefix name) = none) :
    tracked.afterFind app name = Function.update tracked.defaults name none := by
  rw [afterFind, missed, missedRedis]
  rfl

/-- A write of the table that succeeds leaves its text. -/
def afterWrite (tracked : Tracked) (name : String) :
    Except MeshError ConfigState → String → Option String
  | .ok _ => Function.update tracked.defaults name none
  | .error _ => tracked.defaults

def nextDefaults (tracked : Tracked) : Operation → String → Option String
  | .insert name value => tracked.afterWrite name (tracked.state.insertConfig app name value)
  | .update name value => tracked.afterWrite name (tracked.state.updateConfig app name value)
  | .delete name => tracked.afterWrite name (tracked.state.deleteConfig app name)
  | .find name _ => tracked.afterFind app name
  | .findWithDefault name serde defaultValue =>
      match (tracked.state.findByNameFromRedisHelper app name serde.fromStr).1,
        serde.toString defaultValue with
      | none, some defaultJson =>
          Function.update (tracked.afterFind app name) name (some defaultJson)
      | _, _ => tracked.afterFind app name
  | .expireMemory _ => tracked.defaults
  | .expireRedis _ => tracked.defaults

def apply (tracked : Tracked) (operation : Operation) : Tracked :=
  ⟨tracked.state.apply app operation, tracked.nextDefaults app operation⟩

/-- A table with nothing cached. -/
def start (table : List ServiceConfiguration) : Tracked :=
  ⟨⟨table, fun _ => none, fun _ => none⟩, fun _ => none⟩

end Tracked

/-- The exceptional texts that a find may meet mean to the caller what the table means: a
default that was stored and is still in the memory, a text that has lost its quotation marks
in Redis, and the empty text. -/
structure MeansTable {α β : Type} (app : TenantAppState) (tracked : Tracked) (name : String)
    (decode : String → Option α) (answer : Option α → β) : Prop where
  stored : ∀ text, tracked.defaults name = some text →
    tracked.state.memory (app.cacheConfig.addPrefix name) = some text →
      answer (ConfigState.readText decode text) =
        answer ((tracked.state.valueOf name).bind decode)
  literal : ∀ text content,
    tracked.state.valueOf name = some text ∨ tracked.defaults name = some text →
      ConfigState.unquoted text = some content →
      tracked.state.memory (app.cacheConfig.addPrefix name) = some content ∨
        tracked.state.memory (app.cacheConfig.addPrefix name) = none ∧
          tracked.state.redis (app.cacheConfig.addPrefix name) ≠ none →
      answer (ConfigState.readText decode content) =
        answer ((tracked.state.valueOf name).bind decode)
  empty : tracked.state.valueOf name = some "" →
    tracked.state.memory (app.cacheConfig.addPrefix name) = some "" →
      answer none = answer (decode "")

/-- Inserts are made where the table has no other text under the name, and finds where the
texts they may meet mean what the table means. -/
def Allowed (app : TenantAppState) (tracked : Tracked) : Operation → Prop
  | .insert name value =>
      ∀ row, tracked.state.findConfigByName name = some row → row.value = value
  | .find name decode => MeansTable app tracked name decode id
  | .findWithDefault name serde defaultValue =>
      MeansTable app tracked name serde.fromStr fun found => found.getD defaultValue
  | .update _ _ | .delete _ | .expireMemory _ | .expireRedis _ => True

/-! ## The caches hold what the table or a find has given them -/

/-- The text of the table, or the stored default. -/
def Origin (state : ConfigState) (default : Option String) (name text : String) : Prop :=
  text = (state.valueOf name).getD "" ∨ default = some text

/-- The entries of one name; what Redis does not give back may be anything. -/
structure CoherentAt (app : TenantAppState) (state : ConfigState) (default : Option String)
    (name : String) : Prop where
  memory : ∀ text, state.memory (app.cacheConfig.addPrefix name) = some text →
    ∃ origin, Origin state default name origin ∧
      (text = origin ∨ ConfigState.unquoted origin = some text)
  redis : ∀ bytes, state.redis (app.cacheConfig.addPrefix name) = some bytes →
    ∃ text, bytes = encodeUtf8 text ∧
      (ConfigState.unquoted text = none ∨ Origin state default name text)

def Coherent (app : TenantAppState) (tracked : Tracked) : Prop :=
  ∀ name, CoherentAt app tracked.state (tracked.defaults name) name

section Steps

variable {app : TenantAppState} {tracked : Tracked}

variable {name : String}

theorem addPrefix_ne {other : String} (differ : other ≠ name) :
    app.cacheConfig.addPrefix other ≠ app.cacheConfig.addPrefix name := by
  rw [CacheConfig.addPrefix, CacheConfig.addPrefix, Ne, String.append_right_inj]
  exact differ

/-- An entry that stays or expires stays coherent. -/
theorem CoherentAt.frame {state next : ConfigState} {default : Option String} {name : String}
    (coherent : CoherentAt app state default name)
    (value : next.valueOf name = state.valueOf name)
    (memory : next.memory (app.cacheConfig.addPrefix name) =
        state.memory (app.cacheConfig.addPrefix name) ∨
      next.memory (app.cacheConfig.addPrefix name) = none)
    (redis : next.redis (app.cacheConfig.addPrefix name) =
        state.redis (app.cacheConfig.addPrefix name) ∨
      next.redis (app.cacheConfig.addPrefix name) = none) :
    CoherentAt app next default name := by
  constructor
  · intro text hit
    rcases memory with same | expired
    · rw [same] at hit
      simp only [Origin, value]
      exact coherent.memory text hit
    · rw [expired] at hit
      cases hit
  · intro bytes hit
    rcases redis with same | expired
    · rw [same] at hit
      simp only [Origin, value]
      exact coherent.redis bytes hit
    · rw [expired] at hit
      cases hit

/-- After a write of the table a text that the table has, or that is a default, is stored in
both caches. -/
theorem Coherent.stores {name text : String} {value default : Option String}
    {base : ConfigState} (coherent : Coherent app tracked)
    (written : tracked.state.TableWritten name value base)
    (origin : Origin base default name text) :
    Coherent app ⟨base.writeThroughServiceConfig app name text,
      Function.update tracked.defaults name default⟩ := by
  intro other
  dsimp only
  by_cases same : other = name
  · rw [same, Function.update_self]
    constructor
    · intro cached hit
      rw [ConfigState.writeThrough_memory_self] at hit
      cases hit
      exact ⟨text, origin, Or.inl rfl⟩
    · intro bytes hit
      rw [ConfigState.writeThrough_redis_self] at hit
      cases hit
      exact ⟨text, rfl, Or.inr origin⟩
  · rw [Function.update_of_ne same]
    have key : app.cacheConfig.addPrefix other ≠ app.cacheConfig.addPrefix name :=
      addPrefix_ne same
    have kept : (base.writeThroughServiceConfig app name text).valueOf other =
        tracked.state.valueOf other := written.others other same
    apply (coherent other).frame kept
    · left
      rw [ConfigState.writeThrough_memory_of_ne key, written.memory]
    · left
      rw [ConfigState.writeThrough_redis_of_ne key, written.redis]

variable {state : ConfigState} {default : Option String}

/-- What Redis gives back is the content of a literal that was stored. -/
theorem CoherentAt.getFromRedisCache (coherent : CoherentAt app state default name) :
    (∃ text, state.redis (app.cacheConfig.addPrefix name) = some (encodeUtf8 text) ∧
      state.getFromRedisCache app (app.cacheConfig.addPrefix name) = ConfigState.unquoted text ∧
      (ConfigState.unquoted text = none ∨ Origin state default name text)) ∨
    state.redis (app.cacheConfig.addPrefix name) = none ∧
      state.getFromRedisCache app (app.cacheConfig.addPrefix name) = none := by
  cases stored : state.redis (app.cacheConfig.addPrefix name) with
  | none =>
      right
      refine ⟨rfl, ?_⟩
      have isEmpty : state.redis.get (app.cacheConfig.addPrefix name) = encodeUtf8 "" := by
        rw [ByteStore.get, stored]
        rfl
      exact RedisConnectionWrapper.getKeyString_of_text isEmpty
  | some bytes =>
      left
      rcases coherent.redis bytes stored with ⟨text, rfl, origin⟩
      have isText : state.redis.get (app.cacheConfig.addPrefix name) = encodeUtf8 text := by
        rw [ByteStore.get, stored]
        rfl
      exact ⟨text, rfl, RedisConnectionWrapper.getKeyString_of_text isText, origin⟩

/-- Filling the memory leaves the entries of the other names as they are. -/
theorem CoherentAt.setToMemoryCache_of_ne {other : String}
    (coherent : CoherentAt app state default other) (differ : other ≠ name) (text : String) :
    CoherentAt app (state.setToMemoryCache (app.cacheConfig.addPrefix name) text) default
      other :=
  coherent.frame rfl
    (Or.inl (ConfigState.setToMemoryCache_memory_of_ne (addPrefix_ne differ))) (Or.inl rfl)

/-- A find keeps the caches coherent. -/
theorem Coherent.find {α : Type} (coherent : Coherent app tracked) (name : String)
    (decode : String → Option α) :
    Coherent app ⟨(tracked.state.findByNameFromRedisHelper app name decode).2,
      tracked.afterFind app name⟩ := by
  have found : ConfigState.Found app tracked.state name decode _ _ :=
    ConfigState.found_findByNameFromRedisHelper name decode
  generalize (tracked.state.findByNameFromRedisHelper app name decode).1 = answer at found
  generalize (tracked.state.findByNameFromRedisHelper app name decode).2 = next at found ⊢
  cases found with
  | memory hit =>
      rw [Tracked.afterFind, hit]
      exact coherent
  | @redis text missed hit =>
      have kept : tracked.afterFind app name = tracked.defaults := by
        rw [Tracked.afterFind, missed, hit]
        rfl
      rw [kept]
      intro other
      by_cases same : other = name
      · rw [same]
        rcases (coherent name).getFromRedisCache with ⟨literal, -, given, origin⟩ | ⟨-, given⟩
        · rw [hit] at given
          have origin : Origin tracked.state (tracked.defaults name) name literal := by
            rcases origin with notLiteral | origin
            · rw [notLiteral] at given
              cases given
            · exact origin
          constructor
          · intro cached isCached
            rw [ConfigState.setToMemoryCache_memory_self] at isCached
            cases isCached
            exact ⟨literal, origin, Or.inr given.symm⟩
          · exact (coherent name).redis
        · rw [hit] at given
          cases given
      · exact (coherent other).setToMemoryCache_of_ne same text
  | @table text missed missedRedis value =>
      rw [Tracked.afterFind_of_missed missed missedRedis]
      apply coherent.stores (ConfigState.tableWritten_self tracked.state name)
      left
      exact (congrArg (fun value => value.getD "") value).symm
  | absent missed missedRedis value =>
      rw [Tracked.afterFind_of_missed missed missedRedis]
      intro other
      dsimp only
      by_cases same : other = name
      · rw [same, Function.update_self]
        have isEmpty : "" = (tracked.state.valueOf name).getD "" := by
          rw [value]
          rfl
        constructor
        · intro cached isCached
          rw [ConfigState.setToMemoryCache_memory_self] at isCached
          cases isCached
          exact ⟨"", Or.inl isEmpty, Or.inl rfl⟩
        · intro bytes isBytes
          rcases (coherent name).getFromRedisCache with ⟨text, stored, given, -⟩ | ⟨stored, -⟩
          · rw [missedRedis] at given
            have same := stored.symm.trans isBytes
            cases same
            exact ⟨text, rfl, Or.inl given.symm⟩
          · have same := stored.symm.trans isBytes
            cases same
      · rw [Function.update_of_ne same]
        exact (coherent other).setToMemoryCache_of_ne same ""

variable {base : ConfigState}

/-- A write of the table that is then written to both caches keeps them coherent. -/
theorem Coherent.writes {value : Option String} (coherent : Coherent app tracked)
    (written : tracked.state.TableWritten name value base) :
    Coherent app ⟨base.cacheValue app name value,
      Function.update tracked.defaults name none⟩ := by
  rw [ConfigState.cacheValue_eq]
  apply coherent.stores written
  left
  rw [written.value]

/-- An insert keeps the caches coherent when the table has no other text under the name. -/
theorem Coherent.insert (coherent : Coherent app tracked) (name : String) (value : Option String)
    (free : ∀ row, tracked.state.findConfigByName name = some row → row.value = value) :
    Coherent app (tracked.apply app (.insert name value)) :=
  coherent.writes (ConfigState.tableWritten_insertRow free)

theorem Coherent.update (coherent : Coherent app tracked) (name : String)
    (value : Option String) : Coherent app (tracked.apply app (.update name value)) := by
  simp only [Tracked.apply, ConfigState.apply, Tracked.nextDefaults, ConfigState.updateConfig]
  cases updated : tracked.state.updateRows name value with
  | error error => exact coherent
  | ok base => exact coherent.writes (ConfigState.tableWritten_updateRows updated)

theorem Coherent.delete (coherent : Coherent app tracked) (name : String) :
    Coherent app (tracked.apply app (.delete name)) := by
  simp only [Tracked.apply, ConfigState.apply, Tracked.nextDefaults, ConfigState.deleteConfig]
  cases deleted : tracked.state.deleteRows name with
  | error error => exact coherent
  | ok base => exact coherent.writes (ConfigState.tableWritten_deleteRows deleted)

variable {α : Type}

/-- A find that stores its default keeps the caches coherent. -/
theorem Coherent.findWithDefault (coherent : Coherent app tracked) (name : String) (serde : Serde α)
    (defaultValue : α) :
    Coherent app (tracked.apply app (.findWithDefault name serde defaultValue)) := by
  have found := coherent.find name serde.fromStr
  simp only [Tracked.apply, ConfigState.apply, Tracked.nextDefaults,
    ConfigState.findByNameFromRedisWithDefault]
  rcases result : tracked.state.findByNameFromRedisHelper app name serde.fromStr with
    ⟨answer, next⟩
  rw [result] at found
  cases answer with
  | some value => exact found
  | none =>
      cases serde.toString defaultValue with
      | none => exact found
      | some defaultJson =>
          exact found.stores (ConfigState.tableWritten_self next name) (Or.inr rfl)

/-- What an entry becomes when an entry of any name expires. -/
theorem update_none_cases {β : Type} (entries : String → Option β) (expired key : String) :
    Function.update entries expired none key = entries key ∨
      Function.update entries expired none key = none := by
  by_cases same : key = expired
  · right
    rw [same, Function.update_self]
  · left
    rw [Function.update_of_ne same]

theorem Coherent.apply (coherent : Coherent app tracked) {operation : Operation}
    (allowed : Allowed app tracked operation) : Coherent app (tracked.apply app operation) := by
  cases operation with
  | insert name value => exact coherent.insert name value allowed
  | update name value => exact coherent.update name value
  | delete name => exact coherent.delete name
  | find name decode => exact coherent.find name decode
  | findWithDefault name serde defaultValue =>
      exact coherent.findWithDefault name serde defaultValue
  | expireMemory prefixedKey =>
      exact fun name => (coherent name).frame rfl (update_none_cases ..) (Or.inl rfl)
  | expireRedis prefixedKey =>
      exact fun name => (coherent name).frame rfl (Or.inl rfl) (update_none_cases ..)

/-- A literal that was stored is no empty text. -/
theorem Origin.of_unquoted {text content : String} (origin : Origin state default name text)
    (isContent : ConfigState.unquoted text = some content) :
    state.valueOf name = some text ∨ default = some text := by
  rcases origin with isValue | isDefault
  · cases value : state.valueOf name with
    | none =>
        rw [isValue, value] at isContent
        cases isContent
    | some stored =>
        rw [value] at isValue
        exact Or.inl (congrArg some isValue.symm)
  · exact Or.inr isDefault

/-- A find answers what the table means to its caller. -/
theorem Coherent.answer_find {β : Type} (coherent : Coherent app tracked)
    {decode : String → Option α} {answer : Option α → β}
    (means : MeansTable app tracked name decode answer) :
    answer (tracked.state.findByNameFromRedisHelper app name decode).1 =
      answer ((tracked.state.valueOf name).bind decode) := by
  have found : ConfigState.Found app tracked.state name decode _ _ :=
    ConfigState.found_findByNameFromRedisHelper name decode
  generalize (tracked.state.findByNameFromRedisHelper app name decode).1 = result at found ⊢
  generalize (tracked.state.findByNameFromRedisHelper app name decode).2 = next at found
  cases found with
  | @memory text hit =>
      rcases (coherent name).memory text hit with ⟨origin, isOrigin, rfl | isContent⟩
      · rcases isOrigin with isValue | isDefault
        · cases value : tracked.state.valueOf name with
          | none =>
              rw [value] at isValue
              rw [isValue]
              rfl
          | some stored =>
              rw [value] at isValue
              have same : text = stored := isValue
              rw [ConfigState.readText, same, Option.bind_some]
              split
              · next isEmpty =>
                  rw [String.isEmpty_iff.mp isEmpty] at value same ⊢
                  exact means.empty value (same ▸ hit)
              · rfl
        · exact means.stored text isDefault hit
      · exact means.literal origin text (isOrigin.of_unquoted isContent) isContent (Or.inl hit)
  | @redis text missed hit =>
      rcases (coherent name).getFromRedisCache with ⟨literal, stored, given, origin⟩ | ⟨-, given⟩
      · rw [hit] at given
        rcases origin with notLiteral | origin
        · rw [notLiteral] at given
          cases given
        · have present : tracked.state.redis (app.cacheConfig.addPrefix name) ≠ none := by
            rw [stored]
            exact Option.some_ne_none _
          exact means.literal literal text (origin.of_unquoted given.symm) given.symm
            (Or.inr ⟨missed, present⟩)
      · rw [hit] at given
        cases given
  | @table text missed missedRedis value =>
      rw [value]
      rfl
  | absent missed missedRedis value =>
      rw [value]
      rfl

theorem findByNameFromRedisWithDefault_fst (state : ConfigState) (name : String) (serde : Serde α)
    (defaultValue : α) :
    (state.findByNameFromRedisWithDefault app name serde defaultValue).1 =
      (state.findByNameFromRedisHelper app name serde.fromStr).1.getD defaultValue := by
  unfold ConfigState.findByNameFromRedisWithDefault
  rcases state.findByNameFromRedisHelper app name serde.fromStr with ⟨answer, next⟩
  cases answer with
  | some value => rfl
  | none => cases serde.toString defaultValue <;> rfl

theorem coherent_start (table : List ServiceConfiguration) :
    Coherent app (Tracked.start table) := by
  intro name
  constructor
  · intro text hit
    cases hit
  · intro bytes hit
    cases hit

end Steps

/-! ## Finds in a run -/

/-- A run of allowed operations. -/
abbrev AllowedRun (app : TenantAppState) : Tracked → List Operation → Tracked → Prop :=
  Run fun tracked operation next =>
    next = tracked.apply app operation ∧ Allowed app tracked operation

theorem coherent_of_run {app : TenantAppState} {table : List ServiceConfiguration}
    {trace : List Operation} {final : Tracked}
    (run : AllowedRun app (Tracked.start table) trace final) : Coherent app final := by
  apply run.invariant_of_allowed (fun _ tracked => Coherent app tracked) (coherent_start table)
  rintro trace tracked operation next coherent allowed rfl
  exact coherent.apply allowed

/-- After any allowed operations an allowed find returns the value of the table, and the
default of its caller if there is none. -/
theorem find_refines_table {app : TenantAppState} {table : List ServiceConfiguration}
    {trace : List Operation} {final : Tracked}
    (run : AllowedRun app (Tracked.start table) trace final) :
    (∀ (α : Type) (name : String) (decode : String → Option α),
      Allowed app final (.find name decode) →
        (final.state.findByNameFromRedisHelper app name decode).1 =
          (final.state.valueOf name).bind decode) ∧
    ∀ (α : Type) (name : String) (serde : Serde α) (defaultValue : α),
      Allowed app final (.findWithDefault name serde defaultValue) →
        (final.state.findByNameFromRedisWithDefault app name serde defaultValue).1 =
          ((final.state.valueOf name).bind serde.fromStr).getD defaultValue := by
  have coherent := coherent_of_run run
  constructor
  · intro α name decode means
    exact coherent.answer_find means
  · intro α name serde defaultValue means
    rw [findByNameFromRedisWithDefault_fst]
    exact coherent.answer_find means

/-- With no default stored, any text but the empty one and a literal means itself. -/
theorem meansTable_of_plain {α β : Type} {app : TenantAppState} {tracked : Tracked}
    {name : String} {decode : String → Option α} {answer : Option α → β}
    (noDefault : tracked.defaults name = none)
    (plain : ∀ text, tracked.state.valueOf name = some text →
      ConfigState.unquoted text = none ∧ text ≠ "") :
    MeansTable app tracked name decode answer := by
  constructor
  · intro text isDefault
    rw [noDefault] at isDefault
    cases isDefault
  · intro text content isStored isContent
    rcases isStored with isValue | isDefault
    · rw [(plain text isValue).1] at isContent
      cases isContent
    · rw [noDefault] at isDefault
      cases isDefault
  · intro isEmpty
    exact absurd rfl (plain "" isEmpty).2

/-- A service without compression. -/
def plainApp : TenantAppState :=
  ⟨storingWrapper .plain, ⟨"service_config_"⟩⟩

def boolSerde : Serde Bool where
  fromStr text := if text = "true" then some true else if text = "false" then some false else none
  toString value := some (if value then "true" else "false")

def stringSerde : Serde String where
  fromStr := ConfigState.unquoted
  toString value := some (String.ofList (writeLiteral value.toList))

/-- A configuration is deleted and a default stored in its place. -/
def deletedLimit : List Operation :=
  [.insert "LIMIT" (some "true"), .expireMemory "service_config_LIMIT",
    .findWithDefault "LIMIT" boolSerde false, .delete "LIMIT",
    .expireMemory "service_config_LIMIT", .findWithDefault "LIMIT" boolSerde false]

def after (operations : List Operation) : Tracked :=
  operations.foldl (Tracked.apply plainApp) (Tracked.start [])

/-- The caller whose default is stored gets it again. -/
theorem find_refines_table_deleted :
    ∃ final, AllowedRun plainApp (Tracked.start []) deletedLimit final ∧
      (final.state.findByNameFromRedisHelper plainApp "OTHER" boolSerde.fromStr).1 = none ∧
      (final.state.findByNameFromRedisWithDefault plainApp "LIMIT" boolSerde false).1 =
        ((final.state.valueOf "LIMIT").bind boolSerde.fromStr).getD false := by
  have allowed : AllowedActions (Tracked.apply plainApp) (Allowed plainApp) (Tracked.start [])
      deletedLimit := by
    refine ⟨nofun, trivial, ?_, trivial, trivial, ?_, trivial⟩
    · apply meansTable_of_plain rfl
      intro text isValue
      have same : some "true" = some text := isValue
      cases same
      decide +kernel
    · apply meansTable_of_plain (by decide +kernel)
      intro text isValue
      cases isValue
  have run := run_foldl allowed
  refine ⟨after deletedLimit, run, ?_, ?_⟩
  · apply (find_refines_table run).1
    exact meansTable_of_plain (by decide +kernel) nofun
  · apply (find_refines_table run).2
    constructor
    · intro text isDefault _
      have stored : (after deletedLimit).defaults "LIMIT" = some "false" := by decide +kernel
      cases stored.symm.trans isDefault
      rfl
    · intro text content isStored isContent
      have stored : (after deletedLimit).defaults "LIMIT" = some "false" := by decide +kernel
      rcases isStored with isValue | isDefault
      · cases isValue
      · cases stored.symm.trans isDefault
        have noContent : ConfigState.unquoted "false" = none := by decide +kernel
        rw [noContent] at isContent
        cases isContent
    · nofun

def storedDefault : Tracked :=
  after [.findWithDefault "LIMIT" boolSerde true]

def expiredLiteral : Tracked :=
  after [.insert "ROUTE" (some "\"first\""), .expireMemory "service_config_ROUTE"]

def insertedTwice : Tracked :=
  after [.insert "LIMIT" (some "true"), .insert "LIMIT" (some "false")]

/-- A default is returned to every caller; a text that is a literal is lost when the memory
has expired; and after an insert beside another row a find returns the new text although the
table returns the other one. -/
theorem find_refines_table_counterexample :
    ((storedDefault.state.findByNameFromRedisWithDefault plainApp "LIMIT" boolSerde false).1 =
        true ∧
      (storedDefault.state.findByNameFromRedisHelper plainApp "LIMIT" boolSerde.fromStr).1 =
        some true ∧
      storedDefault.state.valueOf "LIMIT" = none) ∧
    ((expiredLiteral.state.findByNameFromRedisHelper plainApp "ROUTE" stringSerde.fromStr).1 =
        none ∧
      (expiredLiteral.state.valueOf "ROUTE").bind stringSerde.fromStr = some "first") ∧
    (insertedTwice.state.findByNameFromRedisHelper plainApp "LIMIT" boolSerde.fromStr).1 =
        some false ∧
      insertedTwice.state.valueOf "LIMIT" = some "true" := by
  decide +kernel

end DecisionEngine.Config
