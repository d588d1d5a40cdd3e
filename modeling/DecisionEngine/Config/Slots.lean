import DecisionEngine.Config.ServiceConfiguration

/-!
# What is stored under one name

The slot of a name is its rows with what the caches have for it.  A write of a configuration
changes the slot of its name, in a way that depends on this slot alone, and no other; a find
through the caches fills them for its name only.
-/

namespace DecisionEngine.Config

open Redis Text

/-- The rows of a name and what the caches have for it. -/
structure Slot where
  rows : List ServiceConfiguration
  redis : Option Bytes
  memory : Option String

/-- The first row of the name. -/
def Slot.row (slot : Slot) : Option ServiceConfiguration :=
  slot.rows.head?

/-- After a write of the table both caches have the text. -/
def Slot.written (rows : List ServiceConfiguration) (value : Option String) : Slot :=
  ⟨rows, some (encodeUtf8 (value.getD "")), some (value.getD "")⟩

/-- A write of a configuration under a name. -/
inductive ConfigWrite where
  | insert (value : Option String)
  | update (value : Option String)
  | delete

def ConfigWrite.run (app : TenantAppState) (name : String) (state : ConfigState) :
    ConfigWrite → Except MeshError ConfigState
  | .insert value => state.insertConfig app name value
  | .update value => state.updateConfig app name value
  | .delete => state.deleteConfig app name

/-- What a write makes of the slot of its name. -/
def ConfigWrite.onSlot (name : String) (slot : Slot) : ConfigWrite → Except MeshError Slot
  | .insert value => .ok (.written (slot.rows ++ [⟨name, value⟩]) value)
  | .update none => .error .others
  | .update (some text) =>
      if slot.rows.isEmpty then .error .noRowstoUpdate
      else .ok (.written (slot.rows.map fun row => { row with value := some text }) (some text))
  | .delete => if slot.rows.isEmpty then .error .noRowstoDelete else .ok (.written [] none)

/-- What a decoder makes of the text of the table. -/
def Slot.stored {α : Type} (decode : String → Option α) (slot : Slot) : Option α :=
  (slot.row.bind ServiceConfiguration.value).bind decode

/-- The text that Redis gives back. -/
def Slot.redisText (app : TenantAppState) (slot : Slot) : Option String :=
  (app.redisConn.getKeyString (fun _ => slot.redis) "").toOption

/-- What a find through the caches returns and makes of the slot of its name. -/
def Slot.find {α : Type} (app : TenantAppState) (decode : String → Option α) (slot : Slot) :
    Option α × Slot :=
  match slot.memory, slot.redisText app, slot.row.bind ServiceConfiguration.value with
  | some text, _, _ => (ConfigState.readText decode text, slot)
  | none, some text, _ => (ConfigState.readText decode text, { slot with memory := some text })
  | none, none, some text =>
      (decode text, { slot with redis := some (encodeUtf8 text), memory := some text })
  | none, none, none => (none, { slot with memory := some "" })

/-- What is in effect: what is stored, or else what the caches have. -/
def Slot.effective {α : Type} (app : TenantAppState) (decode : String → Option α)
    (slot : Slot) : Option α :=
  (slot.stored decode).orElse fun _ => (slot.find app decode).1

theorem any_eq_filter {α : Type} (holds : α → Bool) (list : List α) :
    list.any holds = !(list.filter holds).isEmpty := by
  induction list with
  | nil => rfl
  | cons item rest ih =>
      rw [List.any_cons, List.filter_cons, ih]
      cases holds item <;> rfl

namespace ConfigState

def rowsOf (state : ConfigState) (name : String) : List ServiceConfiguration :=
  state.table.filter fun row => row.name = name

def slot (app : TenantAppState) (state : ConfigState) (name : String) : Slot where
  rows := state.rowsOf name
  redis := state.redis (app.cacheConfig.addPrefix name)
  memory := state.memory (app.cacheConfig.addPrefix name)

variable {app : TenantAppState} {state next : ConfigState} {name other : String}

theorem findConfigByName_eq_row (app : TenantAppState) (state : ConfigState) (name : String) :
    state.findConfigByName name = (state.slot app name).row :=
  List.head?_filter.symm

theorem any_eq_rowsOf :
    (state.table.any fun row => decide (row.name = name)) = !(state.rowsOf name).isEmpty :=
  any_eq_filter ..

/-! ## Writes -/

theorem slot_cacheValue (value : Option String) :
    (state.cacheValue app name value).slot app name = .written (state.rowsOf name) value := by
  rw [cacheValue_eq, slot, writeThrough_redis_self, writeThrough_memory_self]
  rfl

theorem slot_cacheValue_of_ne (differ : other ≠ name) (value : Option String) :
    (state.cacheValue app name value).slot app other = state.slot app other := by
  rw [cacheValue_eq, slot, writeThrough_redis_of_ne (addPrefix_ne differ),
    writeThrough_memory_of_ne (addPrefix_ne differ)]
  rfl

theorem rowsOf_insertRow_self (value : Option String) :
    (state.insertRow name value).rowsOf name = state.rowsOf name ++ [⟨name, value⟩] := by
  rw [insertRow, withTable, rowsOf, List.filter_append, rowsOf, List.filter_singleton,
    decide_eq_true rfl, cond_true]

theorem rowsOf_insertRow_of_ne (differ : other ≠ name) (value : Option String) :
    (state.insertRow name value).rowsOf other = state.rowsOf other := by
  rw [insertRow, withTable, rowsOf, List.filter_append, rowsOf, List.filter_singleton,
    decide_eq_false (Ne.symm differ), cond_false, List.append_nil]

/-- The rows of a name with one value in all of them. -/
def setValue (state : ConfigState) (name text : String) : ConfigState :=
  state.withTable (state.table.map fun row =>
    if row.name = name then { row with value := some text } else row)

theorem filter_setValue (table : List ServiceConfiguration) (text : String) :
    ((table.map fun row => if row.name = name then { row with value := some text } else row).filter
        fun row => row.name = other) =
      (table.filter fun row => row.name = other).map
        fun row => if row.name = name then { row with value := some text } else row := by
  rw [List.filter_map]
  congr 1
  apply List.filter_congr
  intro row _
  rw [Function.comp_apply]
  split <;> rfl

theorem rowsOf_setValue_self (text : String) :
    (state.setValue name text).rowsOf name =
      (state.rowsOf name).map fun row => { row with value := some text } := by
  rw [setValue, withTable, rowsOf, filter_setValue, rowsOf]
  apply List.map_congr_left
  intro row rowMem
  rw [List.mem_filter, decide_eq_true_eq] at rowMem
  rw [if_pos rowMem.2]

theorem rowsOf_setValue_of_ne (differ : other ≠ name) (text : String) :
    (state.setValue name text).rowsOf other = state.rowsOf other := by
  rw [setValue, withTable, rowsOf, filter_setValue, rowsOf, List.map_congr_left (g := id),
    List.map_id]
  intro row rowMem
  rw [List.mem_filter, decide_eq_true_eq] at rowMem
  rw [if_neg fun same => differ (rowMem.2.symm.trans same), id]

/-- Without the rows of a name. -/
def withoutRows (state : ConfigState) (name : String) : ConfigState :=
  state.withTable (state.table.filter fun row => row.name ≠ name)

theorem rowsOf_withoutRows_self (state : ConfigState) (name : String) :
    (state.withoutRows name).rowsOf name = [] := by
  rw [withoutRows, withTable, rowsOf, List.filter_filter, List.filter_eq_nil_iff]
  intro row _
  simp

theorem rowsOf_withoutRows_of_ne (differ : other ≠ name) :
    (state.withoutRows name).rowsOf other = state.rowsOf other := by
  rw [withoutRows, withTable, rowsOf, List.filter_filter, rowsOf]
  apply List.filter_congr
  intro row _
  by_cases isOther : row.name = other
  · simp [isOther, differ]
  · simp [isOther]

/-- The slot of the name after a write, and the slots that it leaves. -/
structure WrittenSlot (app : TenantAppState) (state : ConfigState) (name : String) (slot : Slot)
    (next : ConfigState) : Prop where
  own : next.slot app name = slot
  others : ∀ other, other ≠ name → next.slot app other = state.slot app other

theorem writtenSlot_self (app : TenantAppState) (state : ConfigState) (name : String) :
    WrittenSlot app state name (state.slot app name) state :=
  ⟨rfl, fun _ _ => rfl⟩

/-- After a write of the table alone both caches are given the value. -/
theorem writtenSlot_cacheValue {table : List ServiceConfiguration}
    {rows : List ServiceConfiguration} (value : Option String)
    (own : (state.withTable table).rowsOf name = rows)
    (others : ∀ other, other ≠ name →
      (state.withTable table).rowsOf other = state.rowsOf other) :
    WrittenSlot app state name (.written rows value)
      ((state.withTable table).cacheValue app name value) := by
  refine ⟨own ▸ slot_cacheValue value, ?_⟩
  intro other differ
  rw [slot_cacheValue_of_ne differ, slot, slot, others other differ]
  rfl

/-- A write is refused as the slot says, or makes of the slot what it says. -/
theorem run_cases (write : ConfigWrite) (app : TenantAppState) (name : String)
    (state : ConfigState) :
    (∃ error, write.run app name state = .error error ∧
        write.onSlot name (state.slot app name) = .error error) ∨
      ∃ next slot, write.run app name state = .ok next ∧
        write.onSlot name (state.slot app name) = .ok slot ∧
        WrittenSlot app state name slot next := by
  cases write with
  | insert value =>
      refine Or.inr ⟨_, _, rfl, rfl, ?_⟩
      exact writtenSlot_cacheValue value (rowsOf_insertRow_self value)
        fun _ differ => rowsOf_insertRow_of_ne differ value
  | update value =>
      cases value with
      | none => exact Or.inl ⟨.others, rfl, rfl⟩
      | some text =>
          rw [ConfigWrite.run, ConfigWrite.onSlot, updateConfig, updateRows, any_eq_rowsOf, slot]
          cases isEmpty : (state.rowsOf name).isEmpty with
          | true => exact Or.inl ⟨.noRowstoUpdate, rfl, rfl⟩
          | false =>
              refine Or.inr ⟨_, _, rfl, rfl, ?_⟩
              exact writtenSlot_cacheValue (some text) (rowsOf_setValue_self text)
                fun _ differ => rowsOf_setValue_of_ne differ text
  | delete =>
      rw [ConfigWrite.run, ConfigWrite.onSlot, deleteConfig, deleteRows, any_eq_rowsOf, slot]
      cases isEmpty : (state.rowsOf name).isEmpty with
      | true => exact Or.inl ⟨.noRowstoDelete, rfl, rfl⟩
      | false =>
          refine Or.inr ⟨_, _, rfl, rfl, ?_⟩
          exact writtenSlot_cacheValue none (rowsOf_withoutRows_self state name)
            fun _ differ => rowsOf_withoutRows_of_ne differ

/-! ## Finds through the caches -/

theorem slot_setToMemoryCache (text : String) :
    WrittenSlot app state name { state.slot app name with memory := some text }
      (state.setToMemoryCache (app.cacheConfig.addPrefix name) text) := by
  refine ⟨?_, ?_⟩
  · rw [slot, setToMemoryCache_memory_self]
    rfl
  · intro other differ
    rw [slot, setToMemoryCache_memory_of_ne (addPrefix_ne differ)]
    rfl

theorem slot_writeThrough (text : String) :
    WrittenSlot app state name
      { state.slot app name with redis := some (encodeUtf8 text), memory := some text }
      (state.writeThroughServiceConfig app name text) := by
  refine ⟨?_, ?_⟩
  · rw [slot, writeThrough_redis_self, writeThrough_memory_self]
    rfl
  · intro other differ
    rw [slot, writeThrough_redis_of_ne (addPrefix_ne differ),
      writeThrough_memory_of_ne (addPrefix_ne differ)]
    rfl

/-- A find through the caches is what the slot of its name says. -/
theorem find_eq_slot {α : Type} (app : TenantAppState) (state : ConfigState) (name : String)
    (decode : String → Option α) :
    (state.findByNameFromRedisHelper app name decode).1 =
        ((state.slot app name).find app decode).1 ∧
      WrittenSlot app state name ((state.slot app name).find app decode).2
        (state.findByNameFromRedisHelper app name decode).2 := by
  have found : Found app state name decode _ _ := found_findByNameFromRedisHelper name decode
  generalize state.findByNameFromRedisHelper app name decode = result at found ⊢
  rcases result with ⟨value, next⟩
  have inRedis : (state.slot app name).redisText app =
      state.getFromRedisCache app (app.cacheConfig.addPrefix name) :=
    rfl
  have inTable : state.valueOf name =
      (state.slot app name).row.bind ServiceConfiguration.value := by
    rw [valueOf, findConfigByName_eq_row app]
  cases found with
  | @memory text hit =>
      have inMemory : (next.slot app name).memory = some text := hit
      rw [Slot.find, inMemory]
      exact ⟨rfl, rfl, fun _ _ => rfl⟩
  | @redis text missed hit =>
      have notInMemory : (state.slot app name).memory = none := missed
      rw [Slot.find, notInMemory, inRedis, hit]
      exact ⟨rfl, slot_setToMemoryCache text⟩
  | @table text missed missedRedis value =>
      have notInMemory : (state.slot app name).memory = none := missed
      rw [Slot.find, notInMemory, inRedis, missedRedis, ← inTable, value]
      exact ⟨rfl, slot_writeThrough text⟩
  | absent missed missedRedis value =>
      have notInMemory : (state.slot app name).memory = none := missed
      rw [Slot.find, notInMemory, inRedis, missedRedis, ← inTable, value]
      exact ⟨rfl, slot_setToMemoryCache ""⟩

end ConfigState

section Finds

variable {α : Type} {app : TenantAppState} {decode : String → Option α} {slot : Slot}

theorem rows_find : (slot.find app decode).2.rows = slot.rows := by
  rw [Slot.find]
  split <;> rfl

theorem stored_find : (slot.find app decode).2.stored decode = slot.stored decode := by
  rw [Slot.stored, Slot.row, rows_find]
  rfl

/-- What is not stored is found once more as before. -/
theorem find_find (notStored : slot.stored decode = none) :
    ((slot.find app decode).2.find app decode).1 = (slot.find app decode).1 := by
  cases inMemory : slot.memory with
  | some text =>
      have same : slot.find app decode = (ConfigState.readText decode text, slot) := by
        rw [Slot.find, inMemory]
      rw [same, same]
  | none =>
      cases inRedis : slot.redisText app with
      | some text =>
          have filled : slot.find app decode =
              (ConfigState.readText decode text, { slot with memory := some text }) := by
            rw [Slot.find, inMemory, inRedis]
          rw [filled]
          rfl
      | none =>
          cases inTable : slot.row.bind ServiceConfiguration.value with
          | some text =>
              have filled : slot.find app decode =
                  (decode text,
                    { slot with redis := some (encodeUtf8 text), memory := some text }) := by
                rw [Slot.find, inMemory, inRedis, inTable]
              have undecoded : decode text = none := by
                rw [Slot.stored, inTable] at notStored
                exact notStored
              rw [filled]
              change ConfigState.readText decode text = decode text
              rw [ConfigState.readText, undecoded, ite_self]
          | none =>
              have filled : slot.find app decode = (none, { slot with memory := some "" }) := by
                rw [Slot.find, inMemory, inRedis, inTable]
              rw [filled]
              rfl

/-- A find through the caches leaves what is in effect. -/
theorem effective_find : (slot.find app decode).2.effective app decode =
    slot.effective app decode := by
  rw [Slot.effective, stored_find, Slot.effective]
  cases isStored : slot.stored decode with
  | some value => rfl
  | none => exact find_find isStored

end Finds

end DecisionEngine.Config
