import Mathlib.Data.List.Pairwise
import Mathlib.Data.List.Perm.Basic

/-!
# Tables with unique constraints

A table holds its rows in the order in which the database returns them.  Its
primary key and its unique constraints are one relation: two rows that conflict
are never in the table together.
-/

namespace DecisionEngine.Database

universe u

/-- Rows of which no two conflict. -/
structure Table (α : Type u) (Conflict : α → α → Prop) where
  rows : List α
  distinct : rows.Pairwise fun earlier later => ¬Conflict earlier later

namespace Table

variable {α : Type u} {Conflict : α → α → Prop}

instance : Membership α (Table α Conflict) :=
  ⟨fun table row => row ∈ table.rows⟩

variable {table : Table α Conflict} {row : α}

theorem mem_def : row ∈ table ↔ row ∈ table.rows :=
  Iff.rfl

/-- A table without rows. -/
def empty : Table α Conflict :=
  ⟨[], .nil⟩

@[simp]
theorem not_mem_empty (row : α) : row ∉ (empty : Table α Conflict) :=
  List.not_mem_nil

/-! ## Queries -/

/-- The first row that satisfies a predicate. -/
def find (table : Table α Conflict) (predicate : α → Bool) : Option α :=
  table.rows.find? predicate

variable {predicate : α → Bool}

theorem mem_of_find {row : α} (found : table.find predicate = some row) : row ∈ table :=
  List.mem_of_find?_eq_some found

theorem holds_of_find {row : α} (found : table.find predicate = some row) : predicate row = true :=
  List.find?_some found

theorem find_eq_none_iff :
    table.find predicate = none ↔ ∀ row ∈ table, ¬predicate row = true :=
  List.find?_eq_none

/-- A row is found when it is the only one that satisfies the predicate. -/
theorem find_eq_some_of_unique {row : α} (rowMem : row ∈ table) (holds : predicate row = true)
    (unique : ∀ other ∈ table, predicate other = true → other = row) :
    table.find predicate = some row := by
  cases found : table.find predicate with
  | none => exact absurd holds (find_eq_none_iff.mp found row rowMem)
  | some other => rw [unique other (mem_of_find found) (holds_of_find found)]

/-- Rows that conflict are the same row. -/
theorem eq_of_conflict [Std.Symm Conflict] {table : Table α Conflict} {first second : α}
    (firstMem : first ∈ table) (secondMem : second ∈ table)
    (conflict : Conflict first second) : first = second := by
  have symmetric : Std.Symm fun first second => ¬Conflict first second :=
    ⟨fun _ _ apart conflict => apart (Std.Symm.symm _ _ conflict)⟩
  by_contra different
  exact table.distinct.forall firstMem secondMem different conflict

/-- Of rows that conflict there is at most one. -/
theorem length_filter_le_one (table : Table α Conflict) {predicate : α → Bool}
    (conflicts : ∀ first second, predicate first = true → predicate second = true →
      Conflict first second) : (table.rows.filter predicate).length ≤ 1 := by
  have apart := table.distinct.filter predicate
  cases isFound : table.rows.filter predicate with
  | nil => exact Nat.zero_le 1
  | cons first rest =>
      cases rest with
      | nil => exact Nat.le_refl 1
      | cons second rest =>
          have holds : ∀ row ∈ first :: second :: rest, predicate row = true :=
            fun row isRow => List.of_mem_filter (isFound ▸ isRow)
          rw [isFound] at apart
          exact absurd (conflicts first second (holds first (by simp)) (holds second (by simp)))
            (List.rel_of_pairwise_cons apart (by simp))

/-! ## Changes -/

/-- Add a row, unless it conflicts with one that is there. -/
def insert [DecidableRel Conflict] (table : Table α Conflict) (row : α) :
    Option (Table α Conflict) :=
  if free : ∀ other ∈ table.rows, ¬Conflict other row then
    some ⟨table.rows ++ [row], List.pairwise_append.mpr
      ⟨table.distinct, List.pairwise_singleton _ _, fun other otherMem _ addedMem =>
        List.mem_singleton.mp addedMem ▸ free other otherMem⟩⟩
  else none

theorem mem_insert [DecidableRel Conflict] {table next : Table α Conflict} {row : α}
    (inserted : table.insert row = some next) (other : α) :
    other ∈ next ↔ other ∈ table ∨ other = row := by
  unfold insert at inserted
  split at inserted
  · cases inserted
    simp [mem_def]
  · cases inserted

theorem rows_of_insert [DecidableRel Conflict] {table next : Table α Conflict} {row : α}
    (inserted : table.insert row = some next) : next.rows = table.rows ++ [row] := by
  unfold insert at inserted
  split at inserted
  · cases inserted
    rfl
  · cases inserted

/-- A row that conflicts with none is added. -/
theorem exists_of_insert_free [DecidableRel Conflict] {table : Table α Conflict} {row : α}
    (free : ∀ other ∈ table, ¬Conflict other row) : ∃ next, table.insert row = some next := by
  have freeRows : ∀ other ∈ table.rows, ¬Conflict other row := free
  rw [insert, dif_pos freeRows]
  exact ⟨_, rfl⟩

/-- A row that is not added conflicts with one that is there. -/
theorem exists_conflict_of_insert [DecidableRel Conflict] {table : Table α Conflict} {row : α}
    (refused : table.insert row = none) : ∃ other ∈ table, Conflict other row := by
  unfold insert at refused
  split at refused
  · cases refused
  · rename_i taken
    push Not at taken
    exact taken

/-- Remove the rows that satisfy a predicate. -/
def remove (table : Table α Conflict) (predicate : α → Bool) : Table α Conflict :=
  ⟨table.rows.filter fun row => !predicate row, table.distinct.filter _⟩

theorem mem_remove {row : α} :
    row ∈ table.remove predicate ↔ row ∈ table ∧ predicate row = false := by
  simp [mem_def, remove]

/-- Remove rows; `none` when there is no row to remove. -/
def delete (table : Table α Conflict) (predicate : α → Bool) : Option (Table α Conflict) :=
  if table.rows.any predicate then some (table.remove predicate) else none

theorem eq_remove_of_delete {table next : Table α Conflict} {predicate : α → Bool}
    (deleted : table.delete predicate = some next) : next = table.remove predicate := by
  unfold delete at deleted
  split at deleted
  · exact (Option.some.inj deleted).symm
  · cases deleted

/-- The new row conflicts with whatever the old one conflicts with. -/
def Keeps (Conflict : α → α → Prop) (predicate : α → Bool) (change : α → α) : Prop :=
  ∀ row, predicate row = true → ∀ other,
    (Conflict (change row) other ↔ Conflict row other) ∧
      (Conflict other (change row) ↔ Conflict other row)

/-- Change the rows that satisfy a predicate. -/
def update (table : Table α Conflict) (predicate : α → Bool) (change : α → α)
    (keeps : Keeps Conflict predicate change) : Table α Conflict where
  rows := table.rows.map fun row => if predicate row then change row else row
  distinct := by
    rw [List.pairwise_map]
    apply table.distinct.imp
    intro earlier later apart
    by_cases first : predicate earlier = true <;> by_cases second : predicate later = true
    · rw [if_pos first, if_pos second, (keeps earlier first _).1, (keeps later second _).2]
      exact apart
    · rw [if_pos first, if_neg second, (keeps earlier first _).1]
      exact apart
    · rw [if_neg first, if_pos second, (keeps later second _).2]
      exact apart
    · rw [if_neg first, if_neg second]
      exact apart

theorem mem_update {change : α → α} (keeps : Keeps Conflict predicate change) {row : α} :
    row ∈ table.update predicate change keeps ↔
      ∃ old ∈ table, row = if predicate old then change old else old := by
  rw [mem_def, update, List.mem_map]
  constructor
  · rintro ⟨old, oldMem, same⟩
    exact ⟨old, oldMem, same.symm⟩
  · rintro ⟨old, oldMem, same⟩
    exact ⟨old, oldMem, same.symm⟩

/-- A row that the predicate leaves out stays as it is. -/
theorem mem_update_of_not {change : α → α} (keeps : Keeps Conflict predicate change) {row : α}
    (rowMem : row ∈ table) (leftOut : ¬predicate row = true) :
    row ∈ table.update predicate change keeps :=
  (mem_update keeps).mpr ⟨row, rowMem, (if_neg leftOut).symm⟩

/-- Change rows; `none` when there is no row to change. -/
def updateSome (table : Table α Conflict) (predicate : α → Bool) (change : α → α)
    (keeps : Keeps Conflict predicate change) : Option (Table α Conflict) :=
  if table.rows.any predicate then some (table.update predicate change keeps) else none

theorem eq_update_of_updateSome {table next : Table α Conflict} {predicate : α → Bool}
    {change : α → α} {keeps : Keeps Conflict predicate change}
    (updated : table.updateSome predicate change keeps = some next) :
    next = table.update predicate change keeps := by
  unfold updateSome at updated
  split at updated
  · exact (Option.some.inj updated).symm
  · cases updated

/-- The same rows in another order. -/
def reorder [Std.Symm Conflict] (table : Table α Conflict) (rows : List α)
    (perm : rows.Perm table.rows) : Table α Conflict :=
  ⟨rows, perm.symm.pairwise table.distinct fun apart conflict =>
    apart (Std.Symm.symm _ _ conflict)⟩

theorem mem_reorder [Std.Symm Conflict] {table : Table α Conflict} {rows : List α}
    (perm : rows.Perm table.rows) {row : α} : row ∈ table.reorder rows perm ↔ row ∈ table :=
  perm.mem_iff

end Table

end DecisionEngine.Database
