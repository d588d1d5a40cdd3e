import DecisionEngine.Database.Grouping
import DecisionEngine.Map.Keyed
import DecisionEngine.Search.Sorted

/-!
# Maps that are filled group by group

A loop that updates the entry of each input's key.  What is stored for a key is what the loop
makes of the inputs with that key alone.
-/

namespace DecisionEngine.Map

open Database Search

universe u v w

section Grouped

variable {α : Type u} {κ : Type v} {ν : Type w} [DecidableEq κ]

/-- Update the entry of the key of every input, starting from an initial value. -/
def foldAt (key : α → κ) (init : ν) (step : ν → α → ν) (inputs : List α) : HashMap κ ν :=
  inputs.foldl (fun map input =>
    map.insert (key input) (step ((map.lookup (key input)).getD init) input)) ∅

theorem foldAt_append_singleton (key : α → κ) (init : ν) (step : ν → α → ν) (inputs : List α)
    (last : α) :
    foldAt key init step (inputs ++ [last]) = (foldAt key init step inputs).insert (key last)
      (step (((foldAt key init step inputs).lookup (key last)).getD init) last) := by
  rw [foldAt, List.foldl_append]
  rfl

/-- The entry of a key is the loop over its own inputs. -/
theorem lookup_foldAt (key : α → κ) (init : ν) (step : ν → α → ν) (inputs : List α) (group : κ) :
    (foldAt key init step inputs).lookup group =
      if group ∈ inputs.map key then some ((rowsOf key inputs group).foldl step init)
      else none := by
  induction inputs using List.reverseRecOn with
  | nil => rfl
  | append_singleton rest last ih =>
      rw [foldAt_append_singleton, rowsOf_append]
      by_cases isLast : group = key last
      · have listed : group ∈ (rest ++ [last]).map key := by
          rw [isLast]
          exact List.mem_map_of_mem (List.mem_append_right rest List.mem_cons_self)
        have own : rowsOf key [last] group = [last] := by
          rw [rowsOf, List.filter_cons_of_pos (by simpa using isLast.symm), List.filter_nil]
        rw [if_pos listed, own, List.foldl_append, ← isLast, AList.lookup_insert, ih]
        by_cases before : group ∈ rest.map key
        · rw [if_pos before]
          rfl
        · rw [if_neg before, rowsOf_eq_nil before]
          rfl
      · have other : rowsOf key [last] group = [] := by
          rw [rowsOf, List.filter_cons_of_neg (by simpa using Ne.symm isLast), List.filter_nil]
        have sameKeys : group ∈ (rest ++ [last]).map key ↔ group ∈ rest.map key := by
          rw [List.map_append, List.mem_append, List.map_singleton, List.mem_singleton,
            or_iff_left isLast]
        rw [AList.lookup_insert_ne isLast, ih, other, List.append_nil]
        exact if_congr sameKeys.symm rfl rfl

/-- The entries are the groups, each of them once. -/
theorem perm_entries_foldAt (order : IterationOrder κ ν) (key : α → κ) (init : ν)
    (step : ν → α → ν) (inputs : List α) :
    (order.entries (foldAt key init step inputs)).Perm
      ((groupKeys key inputs).map fun group =>
        (group, (rowsOf key inputs group).foldl step init)) := by
  have keys := List.Nodup.of_map Prod.fst (order.nodup_keys (foldAt key init step inputs))
  have groups : ((groupKeys key inputs).map fun group =>
      (group, (rowsOf key inputs group).foldl step init)).Nodup := by
    apply List.Nodup.of_map Prod.fst
    rw [List.map_map]
    exact (List.map_id _).symm ▸ nodup_groupKeys key inputs
  apply (List.perm_ext_iff_of_nodup keys groups).mpr
  rintro ⟨group, value⟩
  rw [IterationOrder.mem_entries, lookup_foldAt]
  constructor
  · intro found
    by_cases listed : group ∈ inputs.map key
    · rw [if_pos listed, Option.some.injEq] at found
      exact List.mem_map.mpr ⟨group, mem_groupKeys.mpr (List.mem_map.mp listed), by rw [found]⟩
    · rw [if_neg listed] at found
      cases found
  · intro isEntry
    rcases List.mem_map.mp isEntry with ⟨other, isGroup, same⟩
    cases same
    have listed : group ∈ inputs.map key := List.mem_map.mpr (mem_groupKeys.mp isGroup)
    rw [if_pos listed]

end Grouped

/-! ## Maps that accumulate

A loop that adds a value for each of its inputs to the entry of the input's key.
-/

section Accumulate

variable {α : Type u} {κ : Type v} {M : Type w} [DecidableEq κ] [AddCommMonoid M]

/-- Add to the entry of a key, which starts at zero. -/
def addAt (map : HashMap κ M) (key : κ) (value : M) : HashMap κ M :=
  map.insert key ((map.lookup key).getD 0 + value)

/-- Add the value of every input to the entry of its key. -/
def accumulate (key : α → κ) (value : α → M) (inputs : List α) : HashMap κ M :=
  inputs.foldl (fun map input => addAt map (key input) (value input)) ∅

theorem lookup_addAt (map : HashMap κ M) (key other : κ) (value : M) :
    (addAt map key value).lookup other =
      if other = key then some ((map.lookup key).getD 0 + value) else map.lookup other := by
  rw [addAt]
  by_cases same : other = key
  · rw [same, AList.lookup_insert, if_pos rfl]
  · rw [AList.lookup_insert_ne same, if_neg same]

theorem lookup_foldl_addAt (key : α → κ) (value : α → M) (inputs : List α)
    (map : HashMap κ M) (group : κ) :
    (inputs.foldl (fun map input => addAt map (key input) (value input)) map).lookup group =
      if group ∈ inputs.map key then
        some ((map.lookup group).getD 0 + sumOf value (rowsOf key inputs group))
      else map.lookup group := by
  induction inputs generalizing map with
  | nil => rfl
  | cons input rest ih =>
      rw [List.foldl_cons, ih, lookup_addAt, sumOf_rowsOf_cons]
      by_cases isFirst : group = key input
      · have listed : group ∈ (input :: rest).map key := by
          rw [isFirst, List.map_cons]
          exact List.mem_cons_self
        rw [if_pos isFirst, if_pos listed, if_pos isFirst.symm, isFirst]
        by_cases later : key input ∈ rest.map key
        · rw [if_pos later, Option.getD_some, add_assoc]
        · rw [if_neg later, rowsOf_eq_nil later, sumOf_nil, add_zero]
      · have sameList : group ∈ (input :: rest).map key ↔ group ∈ rest.map key := by
          rw [List.map_cons, List.mem_cons, or_iff_right isFirst]
        rw [if_neg isFirst, if_neg (Ne.symm isFirst), zero_add]
        by_cases later : group ∈ rest.map key
        · rw [if_pos later, if_pos (sameList.mpr later)]
        · rw [if_neg later, if_neg fun listed => later (sameList.mp listed)]

/-- The entry of a key is the sum over the inputs with this key. -/
theorem lookup_accumulate (key : α → κ) (value : α → M) (inputs : List α) (group : κ) :
    (accumulate key value inputs).lookup group =
      if group ∈ inputs.map key then some (sumOf value (rowsOf key inputs group)) else none := by
  rw [accumulate, lookup_foldl_addAt, AList.lookup_empty, Option.getD_none, zero_add]

/-- An entry is made of the inputs with its key. -/
theorem lookup_accumulate_congr {key : α → κ} {value : α → M} {inputs others : List α} {group : κ}
    (same : rowsOf key inputs group = rowsOf key others group) :
    (accumulate key value inputs).lookup group = (accumulate key value others).lookup group := by
  rw [lookup_accumulate, lookup_accumulate, same]
  apply if_congr _ rfl rfl
  rw [← not_iff_not, ← rowsOf_eq_nil_iff, same, rowsOf_eq_nil_iff]

/-- The order of the inputs does not matter. -/
theorem lookup_accumulate_perm {key : α → κ} {value : α → M} {inputs others : List α}
    (perm : inputs.Perm others) (group : κ) :
    (accumulate key value inputs).lookup group = (accumulate key value others).lookup group := by
  rw [lookup_accumulate, lookup_accumulate, sumOf_perm value (rowsOf_perm perm group)]
  exact if_congr (perm.map key).mem_iff rfl rfl

/-- The entries are the sums of the groups. -/
theorem perm_entries_accumulate (order : IterationOrder κ M) (key : α → κ) (value : α → M)
    (inputs : List α) :
    (order.entries (accumulate key value inputs)).Perm (groupSum key value inputs) := by
  have entriesNodup := List.Nodup.of_map Prod.fst (order.nodup_keys (accumulate key value inputs))
  have sumsNodup : (groupSum key value inputs).Nodup :=
    List.Nodup.of_map Prod.fst (map_fst_groupSum key value inputs ▸ nodup_groupKeys key inputs)
  apply (List.perm_ext_iff_of_nodup entriesNodup sumsNodup).mpr
  rintro ⟨group, total⟩
  rw [IterationOrder.mem_entries, lookup_accumulate, mem_groupSum, ← List.mem_map]
  by_cases listed : group ∈ inputs.map key
  · rw [if_pos listed, Option.some.injEq, and_iff_right listed, eq_comm]
  · rw [if_neg listed]
    exact iff_of_false (Option.some_ne_none _).symm fun both => listed both.1

/-- The entries add up to the sum of the inputs. -/
theorem sumOf_entries_accumulate (order : IterationOrder κ M) (key : α → κ) (value : α → M)
    (inputs : List α) :
    sumOf Prod.snd (order.entries (accumulate key value inputs)) = sumOf value inputs := by
  rw [sumOf_perm Prod.snd (perm_entries_accumulate order key value inputs), sumOf, groupSum,
    List.map_map]
  exact sum_sumOf_rowsOf value (nodup_groupKeys key inputs)
    fun row rowMem => mem_groupKeys.mpr ⟨row, rowMem, rfl⟩

/-! ## Sums over entries -/

section Entries

variable {ν : Type w}

theorem rowsOf_entries (order : IterationOrder κ ν) (map : HashMap κ ν) (key : κ) :
    rowsOf Prod.fst (order.entries map) key =
      ((map.lookup key).map fun value => (key, value)).toList := by
  have distinct : (rowsOf Prod.fst (order.entries map) key).Nodup :=
    (List.Nodup.of_map Prod.fst (order.nodup_keys map)).filter _
  have isEntry : ∀ entry ∈ rowsOf Prod.fst (order.entries map) key,
      map.lookup key = some entry.2 ∧ entry = (key, entry.2) := by
    rintro ⟨own, value⟩ listed
    rw [mem_rowsOf] at listed
    obtain rfl : own = key := listed.2
    exact ⟨IterationOrder.mem_entries.mp listed.1, rfl⟩
  cases found : map.lookup key with
  | none =>
      apply List.eq_nil_iff_forall_not_mem.mpr
      intro entry listed
      rw [(isEntry entry listed).1] at found
      cases found
  | some value =>
      apply List.perm_singleton.mp
      apply (List.perm_ext_iff_of_nodup distinct (List.nodup_singleton _)).mpr
      intro entry
      rw [List.mem_singleton]
      constructor
      · intro listed
        have both := isEntry entry listed
        rw [found, Option.some.injEq] at both
        rw [both.2, both.1]
      · rintro rfl
        exact mem_rowsOf.mpr ⟨IterationOrder.mem_entries.mpr found, rfl⟩

/-- A sum over entries is determined by what is looked up. -/
theorem sumOf_entries_congr {order other : IterationOrder κ ν} {map changed : HashMap κ ν}
    {value : κ × ν → M}
    (same : ∀ key, (map.lookup key).elim 0 (fun content => value (key, content)) =
      (changed.lookup key).elim 0 fun content => value (key, content)) :
    sumOf value (order.entries map) = sumOf value (other.entries changed) := by
  have ofEntry : ∀ key, ∀ content : Option ν,
      sumOf value (content.map fun own => (key, own)).toList =
        content.elim 0 fun own => value (key, own) := by
    intro key content
    cases content with
    | none => rfl
    | some own => exact add_zero _
  have ofKey : ∀ key, sumOf value (rowsOf Prod.fst (order.entries map) key) =
      sumOf value (rowsOf Prod.fst (other.entries changed) key) := by
    intro key
    rw [rowsOf_entries, rowsOf_entries, ofEntry, ofEntry]
    exact same key
  exact sumOf_eq_of_groups ofKey

/-- The entry of one key apart from the others. -/
theorem sumOf_entries_erase (order : IterationOrder κ ν) (map : HashMap κ ν) (key : κ)
    (value : κ × ν → M) :
    sumOf value (order.entries map) =
      (map.lookup key).elim 0 (fun content => value (key, content)) +
        sumOf value (order.entries (map.erase key)) := by
  have ofKey : ∀ group, sumOf value (rowsOf Prod.fst (order.entries map) group) =
      sumOf value (rowsOf Prod.fst (((map.lookup key).map fun content => (key, content)).toList ++
        order.entries (map.erase key)) group) := by
    intro group
    rw [rowsOf_append, rowsOf_entries, rowsOf_entries]
    by_cases isKey : group = key
    · rw [isKey, AList.lookup_erase, Option.map_none, Option.toList_none, List.append_nil]
      cases map.lookup key <;> simp [rowsOf]
    · rw [AList.lookup_erase_ne isKey]
      cases map.lookup key <;> simp [rowsOf, Ne.symm isKey]
  rw [sumOf_eq_of_groups ofKey, sumOf_append]
  congr 1
  cases map.lookup key with
  | none => rfl
  | some content => exact add_zero _

end Entries

/-! ## Lists of values -/

section Lists

variable {ν : Type w}

/-- Append to the entry of a key, which starts empty. -/
def appendAt (map : HashMap κ (List ν)) (key : κ) (value : ν) : HashMap κ (List ν) :=
  map.insert key ((map.lookup key).getD [] ++ [value])

/-- Append the value of every input to the entry of its key. -/
def gather (key : α → κ) (value : α → ν) (inputs : List α) : HashMap κ (List ν) :=
  inputs.foldl (fun map input => appendAt map (key input) (value input)) ∅

/-- The entry of a key lists the values of the inputs with this key. -/
theorem lookup_gather (key : α → κ) (value : α → ν) (inputs : List α) (group : κ) :
    (gather key value inputs).lookup group =
      if group ∈ inputs.map key then some ((rowsOf key inputs group).map value) else none := by
  have folded : gather key value inputs =
      foldAt key [] (fun values input => values ++ [value input]) inputs := rfl
  rw [folded, lookup_foldAt, List.foldl_append_eq_append, List.nil_append, ← List.flatMap_def,
    ← List.map_eq_flatMap]

end Lists

end Accumulate

/-! ## Updates of cells

Every update changes the cell of its key as a function of what the cell holds.  A sequence of
updates leaves in a cell what the updates of that cell alone leave there.
-/

section Cells

variable {K : Type u} {V : Type v} {U : Type w} [DecidableEq K] (key : U → K) (cell : U → V → V)

/-- Change the cell of an update. -/
def updateCell (cells : K → V) (update : U) : K → V :=
  Function.update cells (key update) (cell update (cells (key update)))

/-- The updates of a cell. -/
def updatesOf (updates : List U) (name : K) : List U :=
  updates.filter fun update => key update = name

variable {key cell}

theorem updateCell_self (cells : K → V) (update : U) :
    updateCell key cell cells update (key update) = cell update (cells (key update)) :=
  Function.update_self ..

variable {update : U} {name : K}

theorem updateCell_of_ne {cells : K → V} (different : name ≠ key update) :
    updateCell key cell cells update name = cells name :=
  Function.update_of_ne different ..

variable {updates : List U}

theorem mem_updatesOf :
    update ∈ updatesOf key updates name ↔ update ∈ updates ∧ key update = name := by
  rw [updatesOf, List.mem_filter, decide_eq_true_iff]

theorem updatesOf_cons_self (update : U) (rest : List U) :
    updatesOf key (update :: rest) (key update) = update :: updatesOf key rest (key update) :=
  List.filter_cons_of_pos (decide_eq_true rfl)

theorem updatesOf_cons_of_ne (different : key update ≠ name) (rest : List U) :
    updatesOf key (update :: rest) name = updatesOf key rest name :=
  List.filter_cons_of_neg (by rw [decide_eq_true_iff]; exact different)

theorem updatesOf_append (first second : List U) (name : K) :
    updatesOf key (first ++ second) name =
      updatesOf key first name ++ updatesOf key second name :=
  List.filter_append ..

/-- A cell depends on its own updates alone. -/
theorem foldl_updateCell_apply (updates : List U) (cells : K → V) (name : K) :
    updates.foldl (updateCell key cell) cells name =
      (updatesOf key updates name).foldl (fun value update => cell update value) (cells name) := by
  induction updates generalizing cells with
  | nil => rfl
  | cons update rest ih =>
      rw [List.foldl_cons, ih]
      by_cases own : key update = name
      · subst own
        rw [updateCell_self, updatesOf_cons_self, List.foldl_cons]
      · rw [updateCell_of_ne (Ne.symm own), updatesOf_cons_of_ne own]

/-- Updates can be repeated when those of each cell can. -/
theorem foldl_updateCell_idem
    (own : ∀ name value,
      (updatesOf key updates name).foldl (fun value update => cell update value)
          ((updatesOf key updates name).foldl (fun value update => cell update value) value) =
        (updatesOf key updates name).foldl (fun value update => cell update value) value)
    (cells : K → V) :
    updates.foldl (updateCell key cell) (updates.foldl (updateCell key cell) cells) =
      updates.foldl (updateCell key cell) cells := by
  funext name
  rw [foldl_updateCell_apply, foldl_updateCell_apply, own]

end Cells

/-! ## Groups in the order of their keys -/

section SortedGroups

variable {α : Type u} {κ : Type v} {ρ : Type w} [DecidableEq κ] [LinearOrder ρ]

variable {rank : κ → ρ} {key : α → κ} {inputs : List α}

end SortedGroups

end DecisionEngine.Map
