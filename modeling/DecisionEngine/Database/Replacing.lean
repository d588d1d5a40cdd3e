import Mathlib.Data.List.Nodup

/-!
# Tables that replace rows

A table that keeps every inserted row for a time, and of the rows with one sort key in the
end only the last one.  A final read returns the last row of each key, whatever rows are
still there.
-/

namespace DecisionEngine.Database

universe u v

variable {α : Type u} {κ : Type v} [DecidableEq κ] {key : α → κ}

/-- The last row of each key. -/
def final (key : α → κ) : List α → List α
  | [] => []
  | row :: rest => if key row ∈ rest.map key then final key rest else row :: final key rest

variable {row : α}

theorem final_cons_of_mem {rest : List α} (replaced : key row ∈ rest.map key) :
    final key (row :: rest) = final key rest := by
  rw [final, if_pos replaced]

theorem final_cons_of_not_mem {rest : List α} (last : key row ∉ rest.map key) :
    final key (row :: rest) = row :: final key rest := by
  rw [final, if_neg last]

theorem final_sublist (key : α → κ) (rows : List α) : (final key rows).Sublist rows := by
  induction rows with
  | nil => exact List.Sublist.refl []
  | cons row rest ih =>
      by_cases replaced : key row ∈ rest.map key
      · rw [final_cons_of_mem replaced]
        exact ih.cons row
      · rw [final_cons_of_not_mem replaced]
        exact ih.cons_cons row

variable {rows : List α}

theorem mem_of_mem_final (kept : row ∈ final key rows) : row ∈ rows :=
  (final_sublist key rows).mem kept

/-- A final read has the keys of the table. -/
theorem mem_map_final {value : κ} :
    value ∈ (final key rows).map key ↔ value ∈ rows.map key := by
  induction rows with
  | nil => exact Iff.rfl
  | cons row rest ih =>
      by_cases replaced : key row ∈ rest.map key
      · rw [final_cons_of_mem replaced, ih, List.map_cons, List.mem_cons]
        constructor
        · exact Or.inr
        · rintro (rfl | later)
          · exact replaced
          · exact later
      · rw [final_cons_of_not_mem replaced, List.map_cons, List.map_cons, List.mem_cons,
          List.mem_cons, ih]

/-- A final read has one row for each key. -/
theorem nodup_map_final (key : α → κ) (rows : List α) : ((final key rows).map key).Nodup := by
  induction rows with
  | nil => exact List.nodup_nil
  | cons row rest ih =>
      by_cases replaced : key row ∈ rest.map key
      · rw [final_cons_of_mem replaced]
        exact ih
      · rw [final_cons_of_not_mem replaced, List.map_cons, List.nodup_cons]
        exact ⟨fun later => replaced (mem_map_final.mp later), ih⟩

theorem final_of_nodup (distinct : (rows.map key).Nodup) :
    final key rows = rows := by
  induction rows with
  | nil => rfl
  | cons row rest ih =>
      rw [List.map_cons, List.nodup_cons] at distinct
      rw [final_cons_of_not_mem distinct.1, ih distinct.2]

/-- Inserted rows replace the rows with their keys. -/
theorem final_append (inserted : List α) :
    final key (rows ++ inserted) =
      (final key rows).filter (fun row => key row ∉ inserted.map key) ++ final key inserted := by
  induction rows with
  | nil => rfl
  | cons row rest ih =>
      rw [List.cons_append]
      by_cases replaced : key row ∈ rest.map key
      · rw [final_cons_of_mem replaced, final_cons_of_mem, ih]
        rw [List.map_append]
        exact List.mem_append_left _ replaced
      · rw [final_cons_of_not_mem replaced]
        by_cases inserts : key row ∈ inserted.map key
        · rw [final_cons_of_mem, ih, List.filter_cons_of_neg (by simpa using inserts)]
          rw [List.map_append]
          exact List.mem_append_right _ inserts
        · rw [final_cons_of_not_mem, ih, List.filter_cons_of_pos (by simpa using inserts),
            List.cons_append]
          rw [List.map_append, List.mem_append]
          tauto

/-- A final read returns inserted rows that have distinct keys. -/
theorem mem_final_append {rows inserted : List α} (distinct : (inserted.map key).Nodup)
    (listed : row ∈ inserted) : row ∈ final key (rows ++ inserted) := by
  rw [final_append, final_of_nodup distinct]
  exact List.mem_append_right _ listed

omit [DecidableEq κ] in
/-- The only row that meets a condition, where no two rows have the same key. -/
theorem filter_eq_singleton {holds : α → Bool} (distinct : (rows.map key).Nodup)
    (listed : row ∈ rows) (isRow : holds row = true)
    (unique : ∀ other ∈ rows, holds other = true → key other = key row) :
    rows.filter holds = [row] := by
  apply List.perm_singleton.mp
  rw [List.perm_ext_iff_of_nodup ((distinct.of_map key).filter holds) (List.nodup_singleton row)]
  intro other
  rw [List.mem_filter, List.mem_singleton]
  constructor
  · rintro ⟨otherListed, isOther⟩
    exact List.inj_on_of_nodup_map distinct otherListed listed (unique other otherListed isOther)
  · rintro rfl
    exact ⟨listed, isRow⟩

end DecisionEngine.Database
