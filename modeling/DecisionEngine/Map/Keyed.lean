import Mathlib.Data.List.AList
import Mathlib.Data.List.Induction

/-!
# Maps filled and updated by loops

Finite maps with one value for each key, the loops that fill one (over a list of
keys, over pairs, and over the entries of another map), and the updates that keep
the keys of a map.  A program may meet the entries of a map in any order.
-/

namespace DecisionEngine.Map

universe u v w

/-- A map with at most one value for each key. -/
abbrev HashMap (κ : Type u) (ν : Type v) := AList fun _ : κ => ν

variable {κ : Type u} {ν : Type v} {ω : Type w}

/-! ## Orders of iteration -/

/-- An order in which a program meets the entries of each map. -/
structure IterationOrder (κ : Type u) (ν : Type v) where
  entries : HashMap κ ν → List (κ × ν)
  perm : ∀ map : HashMap κ ν,
    (entries map).Perm (map.entries.map fun entry => (entry.1, entry.2))

/-- The order in which the entries are stored. -/
def IterationOrder.stored : IterationOrder κ ν where
  entries map := map.entries.map fun entry => (entry.1, entry.2)
  perm _ := List.Perm.refl _

/-- The opposite of the order in which the entries are stored. -/
def IterationOrder.reversed : IterationOrder κ ν where
  entries map := (stored.entries map).reverse
  perm map := (List.reverse_perm _).trans (stored.perm map)

/-- The keys, in the order of iteration. -/
def IterationOrder.keys (order : IterationOrder κ ν) (map : HashMap κ ν) : List κ :=
  (order.entries map).map Prod.fst

variable {order : IterationOrder κ ν} {map : HashMap κ ν} {key : κ}

@[simp]
theorem IterationOrder.mem_keys :
    key ∈ order.keys map ↔ key ∈ map := by
  rw [keys, ((order.perm map).map Prod.fst).mem_iff, List.map_map]
  rfl

theorem IterationOrder.nodup_keys (order : IterationOrder κ ν) (map : HashMap κ ν) :
    (order.keys map).Nodup := by
  rw [keys, ((order.perm map).map Prod.fst).nodup_iff, List.map_map]
  exact map.nodupKeys

/-- Every order of the entries of a map is met by some program. -/
theorem IterationOrder.exists_entries {entries : List (κ × ν)}
    (perm : entries.Perm (map.entries.map fun entry => (entry.1, entry.2))) :
    ∃ order : IterationOrder κ ν, order.entries map = entries := by
  classical
  refine ⟨⟨fun other => if other = map then entries
    else other.entries.map fun entry => (entry.1, entry.2), fun other => ?_⟩, if_pos rfl⟩
  by_cases same : other = map
  · rw [if_pos same, same]
    exact perm
  · rw [if_neg same]

theorem IterationOrder.mem_of_mem_entries {entry : κ × ν} (met : entry ∈ order.entries map) :
    entry.1 ∈ map :=
  mem_keys.mp (List.mem_map_of_mem met)

/-! ## Maps with the same keys -/

/-- The two maps have the same keys. -/
def SameKeys (first second : HashMap κ ν) : Prop :=
  ∀ key, key ∈ first ↔ key ∈ second

theorem SameKeys.refl (map : HashMap κ ν) : SameKeys map map :=
  fun _ => Iff.rfl

theorem SameKeys.trans {first second third : HashMap κ ν} (left : SameKeys first second)
    (right : SameKeys second third) : SameKeys first third :=
  fun key => (left key).trans (right key)

/-- A loop whose steps keep the keys keeps the keys. -/
theorem SameKeys.foldl {α : Type*} {step : HashMap κ ν → α → HashMap κ ν}
    (keeps : ∀ map input, SameKeys (step map input) map) (inputs : List α)
    (map : HashMap κ ν) : SameKeys (inputs.foldl step map) map := by
  induction inputs generalizing map with
  | nil => exact SameKeys.refl map
  | cons input rest ih => exact (ih (step map input)).trans (keeps map input)

/-! ## Loops that fill a map -/

variable [DecidableEq κ]

/-- The entries that a program meets are those that are looked up. -/
theorem IterationOrder.mem_entries {value : ν} :
    (key, value) ∈ order.entries map ↔ map.lookup key = some value := by
  rw [(order.perm map).mem_iff, List.mem_map, ← Option.mem_def, AList.mem_lookup_iff]
  constructor
  · rintro ⟨entry, listed, same⟩
    cases same
    exact listed
  · intro listed
    exact ⟨⟨key, value⟩, listed, rfl⟩

/-- Some program meets given entries first, in the given order. -/
theorem IterationOrder.exists_append {first : List (κ × ν)} (distinct : first.Nodup)
    (present : ∀ entry ∈ first, map.lookup entry.1 = some entry.2) :
    ∃ (order : IterationOrder κ ν) (rest : List (κ × ν)), order.entries map = first ++ rest := by
  have subset : first ⊆ IterationOrder.stored.entries map :=
    fun entry listed => mem_entries.mpr (present entry listed)
  rcases List.subperm_of_subset distinct subset with ⟨listed, permFirst, sublist⟩
  rcases sublist.exists_perm_append with ⟨rest, perm⟩
  rcases exists_entries ((permFirst.symm.append_right rest).trans
    (perm.symm.trans (stored.perm map))) with ⟨order, met⟩
  exact ⟨order, rest, met⟩

/-- Some program meets a given entry last. -/
theorem IterationOrder.exists_concat {value : ν} (present : map.lookup key = some value) :
    ∃ (order : IterationOrder κ ν) (before : List (κ × ν)),
      order.entries map = before ++ [(key, value)] := by
  have met : (key, value) ∈ stored.entries map := mem_entries.mpr present
  rcases List.mem_iff_append.mp met with ⟨before, after, split⟩
  have perm : ((before ++ after) ++ [(key, value)]).Perm (stored.entries map) := by
    rw [split, List.append_assoc]
    exact List.perm_append_comm.append_left before
  rcases exists_entries (perm.trans (stored.perm map)) with ⟨order, met⟩
  exact ⟨order, before ++ after, met⟩

/-- Insert a value for every key of a list. -/
def insertKeys (map : HashMap κ ν) (keys : List κ) (value : κ → ν) : HashMap κ ν :=
  keys.foldl (fun map key => map.insert key (value key)) map

variable (source : HashMap κ ν)

/-- Insert a value for every entry of another map. -/
def mapEntries (value : κ → ν → ω) : HashMap κ ω :=
  source.entries.foldl (fun map entry => map.insert entry.1 (value entry.1 entry.2)) ∅

theorem lookup_insertKeys (keys : List κ) (value : κ → ν) :
    (insertKeys map keys value).lookup key =
      if key ∈ keys then some (value key) else map.lookup key := by
  unfold insertKeys
  induction keys generalizing map with
  | nil => simp
  | cons first rest ih =>
      rw [List.foldl_cons, ih]
      by_cases inRest : key ∈ rest
      · simp [inRest]
      · by_cases isFirst : key = first
        · rw [if_neg inRest, isFirst, AList.lookup_insert, if_pos List.mem_cons_self]
        · simp [inRest, isFirst, AList.lookup_insert_ne isFirst]

variable {keys : List κ}

/-- The keys of the list and the keys that were there. -/
theorem mem_insertKeys {value : κ → ν} {key : κ} :
    key ∈ insertKeys map keys value ↔ key ∈ keys ∨ key ∈ map := by
  rw [← AList.lookup_isSome, ← AList.lookup_isSome, lookup_insertKeys]
  by_cases listed : key ∈ keys <;> simp [listed]

/-- Insert a value for every key of a list, until one of them fails. -/
def insertKeysM {ε : Type*} (map : HashMap κ ν) (value : κ → Except ε ν) :
    List κ → Except ε (HashMap κ ν)
  | [] => .ok map
  | key :: rest =>
      match value key with
      | .ok content => insertKeysM (map.insert key content) value rest
      | .error failure => .error failure

variable {ε : Type*} {value : κ → Except ε ν}

theorem mem_insertKeysM {map filled : HashMap κ ν}
    (returned : insertKeysM map value keys = .ok filled) {key : κ} :
    key ∈ filled ↔ key ∈ keys ∨ key ∈ map := by
  induction keys generalizing map with
  | nil =>
      cases returned
      simp
  | cons first rest ih =>
      cases inserted : value first with
      | error failure => simp [insertKeysM, inserted] at returned
      | ok content =>
          rw [insertKeysM, inserted] at returned
          rw [ih returned, AList.mem_insert, List.mem_cons]
          tauto

/-- Where no key fails, the values are inserted. -/
theorem insertKeysM_eq_ok {map : HashMap κ ν} {content : κ → ν}
    (returned : ∀ key ∈ keys, value key = .ok (content key)) :
    insertKeysM map value keys = .ok (insertKeys map keys content) := by
  induction keys generalizing map with
  | nil => rfl
  | cons first rest ih =>
      rw [insertKeysM, returned first List.mem_cons_self]
      exact ih fun key listed => returned key (List.mem_cons_of_mem first listed)

theorem ok_of_insertKeysM {map filled : HashMap κ ν}
    (returned : insertKeysM map value keys = .ok filled) :
    ∀ key ∈ keys, ∃ content, value key = .ok content := by
  induction keys generalizing map with
  | nil => simp
  | cons first rest ih =>
      cases inserted : value first with
      | error failure => simp [insertKeysM, inserted] at returned
      | ok content =>
          rw [insertKeysM, inserted] at returned
          exact List.forall_mem_cons.mpr ⟨⟨content, inserted⟩, ih returned⟩

/-- What is computed for a key of the list is found under it. -/
theorem lookup_insertKeysM {map filled : HashMap κ ν}
    (returned : insertKeysM map value keys = .ok filled) {key : κ} {content : ν}
    (listed : key ∈ keys) (isContent : value key = .ok content) :
    filled.lookup key = some content := by
  have contents : ∀ other ∈ keys, value other = .ok ((value other).toOption.getD content) := by
    intro other otherListed
    rcases ok_of_insertKeysM returned other otherListed with ⟨found, isFound⟩
    rw [isFound]
    rfl
  rw [insertKeysM_eq_ok contents] at returned
  cases returned
  rw [lookup_insertKeys, if_pos listed, isContent]
  rfl

theorem lookup_foldl_insert (entries : List (Sigma fun _ : κ => ν)) (distinct : entries.NodupKeys)
    (map : HashMap κ ω) (value : κ → ν → ω) :
    (entries.foldl (fun map entry => map.insert entry.1 (value entry.1 entry.2)) map).lookup
        key = ((entries.dlookup key).map (value key)).or (map.lookup key) := by
  induction entries generalizing map with
  | nil => rfl
  | cons first rest ih =>
      rcases first with ⟨firstKey, firstValue⟩
      rw [List.nodupKeys_cons] at distinct
      rw [List.foldl_cons, ih distinct.2]
      by_cases same : key = firstKey
      · have notLater : List.dlookup firstKey rest = none :=
          List.dlookup_eq_none.mpr distinct.1
        rw [same, AList.lookup_insert, List.dlookup_cons_eq, notLater]
        rfl
      · rw [AList.lookup_insert_ne same, List.dlookup_cons_ne _ _ same]

/-- Every entry of the source has its value. -/
theorem lookup_mapEntries (value : κ → ν → ω) :
    (mapEntries source value).lookup key = (source.lookup key).map (value key) := by
  rw [mapEntries, lookup_foldl_insert source.entries source.nodupKeys, AList.lookup_empty,
    Option.or_none]
  rfl

theorem mapEntries_singleton (content : ν) (value : κ → ν → ω) :
    mapEntries (AList.singleton key content : HashMap κ ν) value =
      AList.singleton key (value key content) :=
  rfl

theorem lookup_singleton (key : κ) (content : ν) :
    (AList.singleton key content : HashMap κ ν).lookup key = some content := by
  rw [← AList.insert_empty, AList.lookup_insert]

/-- A map with the given pairs; the last value of a key stays. -/
def collect (pairs : List (κ × ν)) : HashMap κ ν :=
  pairs.foldl (fun map pair => map.insert pair.1 pair.2) ∅

variable {pairs : List (κ × ν)}

theorem mem_foldl_insert {map : HashMap κ ν} {key : κ} :
    key ∈ pairs.foldl (fun map pair => map.insert pair.1 pair.2) map ↔
      key ∈ pairs.map Prod.fst ∨ key ∈ map := by
  induction pairs generalizing map with
  | nil => simp
  | cons first rest ih =>
      rw [List.foldl_cons, ih, AList.mem_insert, List.map_cons, List.mem_cons]
      tauto

@[simp]
theorem mem_collect {key : κ} :
    key ∈ collect pairs ↔ key ∈ pairs.map Prod.fst := by
  rw [collect, mem_foldl_insert]
  simp

/-- Where no two pairs have the same key, every pair stays. -/
theorem lookup_collect (distinct : (pairs.map Prod.fst).Nodup) {key : κ} {value : ν} :
    (collect pairs).lookup key = some value ↔ (key, value) ∈ pairs := by
  induction pairs using List.reverseRecOn with
  | nil => simp [collect]
  | append_singleton rest last ih =>
      rw [List.map_append, List.map_singleton, ← List.concat_eq_append,
        List.nodup_concat] at distinct
      have step : collect (rest ++ [last]) = (collect rest).insert last.1 last.2 := by
        rw [collect, List.foldl_append]
        rfl
      rw [step, List.mem_append, List.mem_singleton]
      by_cases isLast : key = last.1
      · have notEarlier : (key, value) ∉ rest :=
          fun listed => distinct.1 (isLast ▸ List.mem_map_of_mem listed)
        rw [isLast, AList.lookup_insert, Option.some.injEq, ← isLast, or_iff_right notEarlier,
          Prod.ext_iff, and_iff_right isLast, eq_comm]
      · rw [AList.lookup_insert_ne isLast, ih distinct.2, or_iff_left]
        rintro rfl
        exact isLast rfl

/-- What a loop over keys inserts for each of them. -/
theorem lookup_collect_keys (keys : List κ) (content : κ → Option ν) (key : κ) :
    (collect (keys.filterMap fun key => (content key).map fun value => (key, value))).lookup key =
      if key ∈ keys then content key else none := by
  induction keys using List.reverseRecOn with
  | nil => simp [collect]
  | append_singleton rest last ih =>
      cases isContent : content last with
      | none =>
          rw [List.filterMap_append, List.filterMap_cons_none (by rw [isContent, Option.map_none]),
            List.filterMap_nil, List.append_nil, ih]
          by_cases isLast : key = last
          · simp [isLast, isContent]
          · simp [isLast]
      | some value =>
          rw [List.filterMap_append,
            List.filterMap_cons_some (by rw [isContent, Option.map_some]), List.filterMap_nil,
            collect, List.foldl_append]
          change ((collect (rest.filterMap _)).insert last value).lookup key = _
          by_cases isLast : key = last
          · rw [isLast, AList.lookup_insert, if_pos (by simp), isContent]
          · rw [AList.lookup_insert_ne isLast, ih]
            simp [isLast]

/-- What a loop over the entries of a map makes of each of them. -/
theorem lookup_collect_filterMap {entryOf : κ × ν → Option (κ × ω)}
    (keepsKey : ∀ entry made, entryOf entry = some made → made.1 = entry.1) :
    (collect ((order.entries map).filterMap entryOf)).lookup key =
      (map.lookup key).bind fun value => (entryOf (key, value)).map Prod.snd := by
  have distinct : (((order.entries map).filterMap entryOf).map Prod.fst).Nodup := by
    have keys : (((order.entries map).filterMap entryOf).map Prod.fst).Sublist
        (order.keys map) := by
      rw [IterationOrder.keys]
      generalize order.entries map = entries
      induction entries with
      | nil => exact List.Sublist.refl _
      | cons entry rest ih =>
          cases made : entryOf entry with
          | none =>
              rw [List.filterMap_cons_none made, List.map_cons]
              exact ih.cons _
          | some pair =>
              rw [List.filterMap_cons_some made, List.map_cons, List.map_cons,
                keepsKey entry pair made]
              exact ih.cons_cons _
    exact (order.nodup_keys map).sublist keys
  ext value
  rw [lookup_collect distinct, List.mem_filterMap, Option.bind_eq_some_iff]
  constructor
  · rintro ⟨⟨own, found⟩, listed, made⟩
    obtain rfl : key = own := keepsKey _ _ made
    exact ⟨found, IterationOrder.mem_entries.mp listed, by rw [made]; rfl⟩
  · rintro ⟨found, isEntry, isMade⟩
    rcases Option.map_eq_some_iff.mp isMade with ⟨⟨own, result⟩, made, rfl⟩
    obtain rfl : own = key := keepsKey _ _ made
    exact ⟨_, IterationOrder.mem_entries.mpr isEntry, made⟩

@[simp]
theorem mem_mapEntries {source : HashMap κ ν} {value : κ → ν → ω} {key : κ} :
    key ∈ mapEntries source value ↔ key ∈ source := by
  rw [← AList.lookup_isSome, ← AList.lookup_isSome, lookup_mapEntries, Option.isSome_map]

/-! ## Updates that keep the keys -/

theorem sameKeys_mapEntries (value : κ → ν → ν) :
    SameKeys (mapEntries source value) source :=
  fun _ => mem_mapEntries

/-- Change the value of a key, if it is there. -/
def modify (map : HashMap κ ν) (key : κ) (change : ν → ν) : HashMap κ ν :=
  match map.lookup key with
  | some value => map.insert key (change value)
  | none => map

theorem lookup_modify (map : HashMap κ ν) (key : κ) (change : ν → ν) (other : κ) :
    (modify map key change).lookup other =
      (map.lookup other).map fun value => if other = key then change value else value := by
  cases found : map.lookup key with
  | none =>
      rw [modify, found]
      by_cases same : other = key
      · rw [same, found, Option.map_none]
      · simp [same]
  | some value =>
      rw [modify, found]
      by_cases same : other = key
      · rw [same, AList.lookup_insert, found, Option.map_some, if_pos rfl]
      · simp [same, AList.lookup_insert_ne same]

theorem sameKeys_modify (map : HashMap κ ν) (key : κ) (change : ν → ν) :
    SameKeys (modify map key change) map := by
  intro other
  cases found : map.lookup key with
  | none => rw [modify, found]
  | some value =>
      have present : key ∈ map := AList.lookup_isSome.mp (by rw [found]; rfl)
      rw [modify, found, AList.mem_insert]
      constructor
      · intro either
        rcases either with same | kept
        · rw [same]
          exact present
        · exact kept
      · intro kept
        exact Or.inr kept

end DecisionEngine.Map
