import Mathlib.Data.List.Basic

/-!
# A key-value store with lists

The commands of a Redis server on strings and lists, without expiry.  A command
on a value of the other type fails and changes nothing.  Commands of one
transaction are executed together.
-/

namespace DecisionEngine.Redis

/-- What is stored under a key. -/
inductive Value where
  | text (value : String)
  | list (items : List String)
  deriving DecidableEq

/-- The contents of the store. -/
abbrev Store := String → Option Value

namespace Store

/-- An empty list is no value. -/
def putList (store : Store) (key : String) (items : List String) : Store :=
  Function.update store key (if items.isEmpty then none else some (.list items))

/-- The list under a key; a missing key is an empty list, and another type has
no list. -/
def listAt (store : Store) (key : String) : Option (List String) :=
  match store key with
  | none => some []
  | some (.list items) => some items
  | some (.text _) => none

/-- `EXISTS`. -/
def existsKey (store : Store) (key : String) : Bool :=
  (store key).isSome

/-- `DEL`. -/
def del (store : Store) (key : String) : Store :=
  Function.update store key none

/-- `SET`. -/
def set (store : Store) (key value : String) : Store :=
  Function.update store key (some (.text value))

/-- `GET`. -/
def get (store : Store) (key : String) : Option String :=
  match store key with
  | some (.text value) => some value
  | _ => none

/-- `LPUSH`: the values are pushed one after the other. -/
def lpush (store : Store) (key : String) (values : List String) : Store :=
  match store.listAt key with
  | some items => store.putList key (values.reverse ++ items)
  | none => store

end Store

/-- The position that an index of a range command names; negative indices count
from the end. -/
def position (length : Nat) (index : Int) : Int :=
  if index < 0 then max 0 (length + index) else index

/-- The items between two indices, both inclusive. -/
def range (items : List String) (start stop : Int) : List String :=
  let first := position items.length start
  let last := if stop < 0 then items.length + stop else stop
  (items.take (last + 1).toNat).drop first.toNat

namespace Store

/-- `LRANGE`. -/
def lrange (store : Store) (key : String) (start stop : Int) : Option (List String) :=
  (store.listAt key).map fun items => range items start stop

/-- `LTRIM`. -/
def ltrim (store : Store) (key : String) (start stop : Int) : Store :=
  match store.listAt key with
  | some items => store.putList key (range items start stop)
  | none => store

end Store

/-! ## Laws -/

/-- From the head to a position, as windows are read and trimmed. -/
theorem range_zero_pred (items : List String) {size : Int} (positive : 0 < size) :
    range items 0 (size - 1) = items.take size.toNat := by
  have notNegative : ¬size - 1 < 0 := by omega
  simp [range, position, notNegative]

namespace Store

variable {store : Store} {key other : String}

@[simp]
theorem putList_of_ne (differ : other ≠ key) (items : List String) :
    store.putList key items other = store other :=
  Function.update_of_ne differ _ _

variable {items : List String}

theorem putList_self (notEmpty : items ≠ []) :
    store.putList key items key = some (.list items) := by
  have nonempty : items.isEmpty = false := by simpa using notEmpty
  rw [putList, Function.update_self, nonempty]
  rfl

@[simp]
theorem listAt_putList (store : Store) (key : String) (items : List String) :
    (store.putList key items).listAt key = some items := by
  cases items <;> simp [putList, listAt]

@[simp]
theorem set_self (store : Store) (key value : String) :
    store.set key value key = some (.text value) :=
  Function.update_self _ _ _

@[simp]
theorem set_of_ne (differ : other ≠ key) (value : String) :
    store.set key value other = store other :=
  Function.update_of_ne differ _ _

@[simp]
theorem del_self : store.del key key = none :=
  Function.update_self _ _ _

@[simp]
theorem del_of_ne (differ : other ≠ key) : store.del key other = store other :=
  Function.update_of_ne differ _ _

@[simp]
theorem listAt_del (store : Store) (key : String) : (store.del key).listAt key = some [] := by
  simp [listAt]

theorem listAt_eq_of_eq_list (stored : store key = some (.list items)) :
    store.listAt key = some items := by
  simp [listAt, stored]

theorem lpush_of_listAt (found : store.listAt key = some items) (values : List String) :
    store.lpush key values = store.putList key (values.reverse ++ items) := by
  simp [lpush, found]

theorem ltrim_of_listAt (found : store.listAt key = some items) (start stop : Int) :
    store.ltrim key start stop = store.putList key (range items start stop) := by
  simp [ltrim, found]

@[simp]
theorem lpush_of_ne (differ : other ≠ key) (values : List String) :
    store.lpush key values other = store other := by
  unfold lpush
  cases store.listAt key with
  | none => rfl
  | some items => exact putList_of_ne differ _

@[simp]
theorem ltrim_of_ne (differ : other ≠ key) (start stop : Int) :
    store.ltrim key start stop other = store other := by
  unfold ltrim
  cases store.listAt key with
  | none => rfl
  | some items => exact putList_of_ne differ _

end Store

end DecisionEngine.Redis
