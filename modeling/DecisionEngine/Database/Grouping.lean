import Mathlib.Algebra.BigOperators.Group.List.Basic
import Mathlib.Data.List.Dedup

/-!
# Groups of rows

The rows of a query grouped by a key, and sums over the groups.
-/

namespace DecisionEngine.Database

universe u v w

variable {α : Type u} {κ : Type v} {M : Type w} [DecidableEq κ]

variable (key : α → κ) (rows : List α)

/-- The rows with a given key. -/
def rowsOf (value : κ) : List α :=
  rows.filter fun row => key row = value

variable {value : κ}

@[simp]
theorem mem_rowsOf {key : α → κ} {rows : List α} {row : α} :
    row ∈ rowsOf key rows value ↔ row ∈ rows ∧ key row = value := by
  rw [rowsOf, List.mem_filter, decide_eq_true_eq]

theorem rowsOf_append (rows others : List α) (value : κ) :
    rowsOf key (rows ++ others) value = rowsOf key rows value ++ rowsOf key others value :=
  List.filter_append ..

theorem rowsOf_eq_nil {key : α → κ} {rows : List α} (absent : value ∉ rows.map key) :
    rowsOf key rows value = [] := by
  rw [List.eq_nil_iff_forall_not_mem]
  intro row listed
  rw [mem_rowsOf] at listed
  exact absent (List.mem_map.mpr ⟨row, listed.1, listed.2⟩)

theorem rowsOf_perm {key : α → κ} {rows others : List α} (perm : rows.Perm others) (value : κ) :
    (rowsOf key rows value).Perm (rowsOf key others value) :=
  perm.filter _

theorem rowsOf_eq_nil_iff {key : α → κ} {rows : List α} :
    rowsOf key rows value = [] ↔ value ∉ rows.map key := by
  refine ⟨fun empty listed => ?_, rowsOf_eq_nil⟩
  rcases List.mem_map.mp listed with ⟨row, isRow, isKey⟩
  exact List.ne_nil_of_mem (mem_rowsOf.mpr ⟨isRow, isKey⟩) empty

/-- The rows with a key stay when they all hold. -/
theorem rowsOf_filter {key : α → κ} {rows : List α} {holds : α → Bool}
    (all : ∀ row ∈ rows, key row = value → holds row) :
    rowsOf key (rows.filter holds) value = rowsOf key rows value := by
  rw [rowsOf, rowsOf, List.filter_filter]
  apply List.filter_congr
  intro row listed
  by_cases isKey : key row = value
  · rw [all row listed isKey, Bool.and_true]
  · rw [decide_eq_false isKey, Bool.false_and]

/-- The rows with a key stay when what they are made from does. -/
theorem rowsOf_filterMap_filter {β : Type*} {rowOf : β → Option α} {key : α → κ} {inputs : List β}
    {holds : β → Bool}
    (all : ∀ input ∈ inputs, ∀ row, rowOf input = some row → key row = value → holds input) :
    rowsOf key ((inputs.filter holds).filterMap rowOf) value =
      rowsOf key (inputs.filterMap rowOf) value := by
  rw [rowsOf, rowsOf, List.filter_filterMap, List.filter_filterMap, List.filterMap_filter]
  apply List.filterMap_congr
  intro input listed
  by_cases held : holds input
  · rw [if_pos held]
  · rw [if_neg held, eq_comm, Option.filter_eq_none_iff]
    intro row made
    rw [decide_eq_true_eq]
    exact fun isKey => held (all input listed row made isKey)

/-- The keys that occur, each of them once. -/
def groupKeys (rows : List α) : List κ :=
  (rows.map key).dedup

@[simp]
theorem mem_groupKeys {key : α → κ} {rows : List α} :
    value ∈ groupKeys key rows ↔ ∃ row ∈ rows, key row = value := by
  rw [groupKeys, List.mem_dedup, List.mem_map]

theorem nodup_groupKeys : (groupKeys key rows).Nodup :=
  List.nodup_dedup _

/-! ## Sums -/

variable [AddCommMonoid M]

variable (value : α → M)

/-- The sum of a column. -/
def sumOf (rows : List α) : M :=
  (rows.map value).sum

@[simp]
theorem sumOf_nil : sumOf value [] = 0 :=
  rfl

@[simp]
theorem sumOf_cons (row : α) (rows : List α) :
    sumOf value (row :: rows) = value row + sumOf value rows :=
  List.sum_cons

@[simp]
theorem sumOf_append (rows others : List α) :
    sumOf value (rows ++ others) = sumOf value rows + sumOf value others := by
  rw [sumOf, List.map_append, List.sum_append]
  rfl

theorem sumOf_perm {rows others : List α} (perm : rows.Perm others) :
    sumOf value rows = sumOf value others :=
  (perm.map value).sum_eq

theorem sumOf_filterMap {β : Type*} (entryOf : β → Option α) (value : α → M) (inputs : List β) :
    sumOf value (inputs.filterMap entryOf) =
      sumOf (fun input => (entryOf input).elim 0 value) inputs := by
  induction inputs with
  | nil => rfl
  | cons input rest ih =>
      cases made : entryOf input with
      | none => rw [List.filterMap_cons_none made, sumOf_cons, ih, made, Option.elim_none, zero_add]
      | some row => rw [List.filterMap_cons_some made, sumOf_cons, sumOf_cons, ih, made,
          Option.elim_some]

theorem sumOf_rowsOf_cons (row : α) (rows : List α) (group : κ) :
    sumOf value (rowsOf key (row :: rows) group) =
      (if key row = group then value row else 0) + sumOf value (rowsOf key rows group) := by
  by_cases isGroup : key row = group
  · rw [rowsOf, List.filter_cons_of_pos (by simpa using isGroup), sumOf_cons, if_pos isGroup]
    rfl
  · rw [rowsOf, List.filter_cons_of_neg (by simpa using isGroup), if_neg isGroup, zero_add]
    rfl

theorem sum_map_ite_eq {groups : List κ} (distinct : groups.Nodup) {group : κ}
    (listed : group ∈ groups) (value : M) :
    (groups.map fun other => if group = other then value else 0).sum = value := by
  induction groups with
  | nil => cases listed
  | cons first rest ih =>
      rw [List.nodup_cons] at distinct
      rw [List.map_cons, List.sum_cons]
      by_cases isFirst : group = first
      · have zeros : (rest.map fun other => if group = other then value else 0).sum = 0 := by
          apply List.sum_eq_zero
          intro term termMem
          rcases List.mem_map.mp termMem with ⟨other, otherMem, rfl⟩
          rw [if_neg]
          rintro rfl
          exact distinct.1 (isFirst ▸ otherMem)
        rw [if_pos isFirst, zeros, add_zero]
      · rw [if_neg isFirst, zero_add]
        exact ih distinct.2 ((List.mem_cons.mp listed).resolve_left isFirst)

/-- The sums of the groups add up to the sum of the rows. -/
theorem sum_sumOf_rowsOf {key : α → κ} (value : α → M) {groups : List κ}
    (distinct : groups.Nodup) {rows : List α} (complete : ∀ row ∈ rows, key row ∈ groups) :
    (groups.map fun group => sumOf value (rowsOf key rows group)).sum = sumOf value rows := by
  induction rows with
  | nil =>
      apply List.sum_eq_zero
      intro term termMem
      rcases List.mem_map.mp termMem with ⟨group, -, rfl⟩
      rfl
  | cons row rest ih =>
      simp only [sumOf_rowsOf_cons]
      rw [List.sum_map_add, sum_map_ite_eq distinct (complete row List.mem_cons_self),
        ih fun other otherMem => complete other (List.mem_cons_of_mem row otherMem), sumOf_cons]

/-- Rows with the same sums of all groups have the same sum. -/
theorem sumOf_eq_of_groups {key : α → κ} {value : α → M} {rows others : List α}
    (same : ∀ group, sumOf value (rowsOf key rows group) =
      sumOf value (rowsOf key others group)) : sumOf value rows = sumOf value others := by
  have complete : ∀ row ∈ rows ++ others, key row ∈ groupKeys key (rows ++ others) :=
    fun row rowMem => mem_groupKeys.mpr ⟨row, rowMem, rfl⟩
  have distinct := nodup_groupKeys key (rows ++ others)
  rw [← sum_sumOf_rowsOf value distinct
      fun row rowMem => complete row (List.mem_append_left others rowMem),
    ← sum_sumOf_rowsOf value distinct
      fun row rowMem => complete row (List.mem_append_right rows rowMem)]
  congr 1
  exact List.map_congr_left fun group _ => same group

/-! ## Grouped queries -/

/-- One row for each group, with the sum of a column. -/
def groupSum (rows : List α) : List (κ × M) :=
  (groupKeys key rows).map fun group => (group, sumOf value (rowsOf key rows group))

theorem mem_groupSum {key : α → κ} {value : α → M} {rows : List α} {group : κ} {total : M} :
    (group, total) ∈ groupSum key value rows ↔
      (∃ row ∈ rows, key row = group) ∧ total = sumOf value (rowsOf key rows group) := by
  rw [groupSum, List.mem_map]
  constructor
  · rintro ⟨listed, isGroup, same⟩
    cases same
    exact ⟨mem_groupKeys.mp isGroup, rfl⟩
  · rintro ⟨present, rfl⟩
    exact ⟨group, mem_groupKeys.mpr present, rfl⟩

theorem map_fst_groupSum (rows : List α) :
    (groupSum key value rows).map Prod.fst = groupKeys key rows := by
  rw [groupSum, List.map_map]
  exact List.map_id _

end DecisionEngine.Database
