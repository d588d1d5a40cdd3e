import DecisionEngine.Number.Machine
import Mathlib.Data.List.Induction

/-!
# Exact numbers

The operations of the machine numbers on exact rationals are those of the rationals.
-/

namespace DecisionEngine.Number

variable {α : Type}

theorem partialCmp_exact (left right : ℚ) : partialCmp left right = some (compare left right) :=
  rfl

@[simp]
theorem ofRat_exact (value : ℚ) : (ofRat value : ℚ) = value :=
  rfl

@[simp]
theorem isFinite_exact (value : ℚ) : MachineNumber.isFinite value = true :=
  rfl

variable {left right : ℚ}

@[simp]
theorem lt_exact : lt left right = true ↔ left < right := by
  rw [lt, partialCmp_exact, beq_iff_eq, Option.some.injEq, compare_lt_iff_lt]

@[simp]
theorem gt_exact : gt left right = true ↔ right < left := by
  rw [gt, partialCmp_exact, beq_iff_eq, Option.some.injEq, compare_gt_iff_gt]

@[simp]
theorem ge_exact : ge left right = true ↔ right ≤ left := by
  rw [ge, Bool.or_eq_true, gt_exact, partialCmp_exact, beq_iff_eq, Option.some.injEq,
    compare_eq_iff_eq, le_iff_lt_or_eq, eq_comm]

@[simp]
theorem le_exact : le left right = true ↔ left ≤ right := by
  rw [le, Bool.or_eq_true, lt_exact, partialCmp_exact, beq_iff_eq, Option.some.injEq,
    compare_eq_iff_eq, le_iff_lt_or_eq]

@[simp]
theorem compareOrEqual_exact (left right : ℚ) : compareOrEqual left right = compare left right :=
  rfl

@[simp]
theorem abs_exact (value : ℚ) : abs value = |value| := by
  rw [abs, ofRat_exact]
  by_cases negative : value < 0
  · rw [if_pos (lt_exact.mpr negative), abs_of_neg negative, zero_sub]
  · rw [if_neg (fun isLt => negative (lt_exact.mp isLt)), abs_of_nonneg (not_lt.mp negative)]

/-! ## Sorted lists -/

/-- The order that puts the greatest number first. -/
def notLess (number : α → ℚ) (left right : α) : Prop :=
  compareOrEqual (number right) (number left) ≠ .gt

variable {number : α → ℚ}

theorem notLess_iff {left right : α} :
    notLess number left right ↔ number right ≤ number left := by
  rw [notLess, compareOrEqual_exact, Ne, compare_gt_iff_gt, not_lt]

theorem pairwise_sortDescending (number : α → ℚ) (elements : List α) :
    (sortDescending number elements).Pairwise fun left right => number right ≤ number left := by
  have total : Std.Total fun left right : α =>
      compareOrEqual (number right) (number left) ≠ .gt :=
    ⟨fun left right => by
      rw [← notLess, ← notLess, notLess_iff, notLess_iff]
      exact le_total _ _⟩
  have trans : IsTrans α fun left right =>
      compareOrEqual (number right) (number left) ≠ .gt :=
    ⟨fun left middle right first second =>
      notLess_iff.mpr (le_trans (notLess_iff.mp second) (notLess_iff.mp first))⟩
  apply (List.pairwise_insertionSort _ elements).imp
  intro left right sorted
  exact notLess_iff.mp sorted

/-- Elements that are in order stay in order. -/
theorem pair_sublist_sortDescending {elements : List α} {left right : α}
    (ordered : number right ≤ number left) (listed : [left, right].Sublist elements) :
    [left, right].Sublist (sortDescending number elements) :=
  List.pair_sublist_insertionSort (notLess_iff.mpr ordered) listed

/-- Without ties the sorted list does not depend on the order of the elements. -/
theorem sortDescending_eq_of_perm {elements others : List α} (perm : elements.Perm others)
    (untied : ∀ left ∈ elements, ∀ right ∈ elements, number left = number right → left = right) :
    sortDescending number elements = sortDescending number others := by
  apply List.Perm.eq_of_pairwise _ (pairwise_sortDescending number elements)
    (pairwise_sortDescending number others)
  · exact (perm_sortDescending number elements).trans
      (perm.trans (perm_sortDescending number others).symm)
  · intro left right listed otherListed notLess notGreater
    exact untied left (mem_sortDescending.mp listed) right
      (perm.mem_iff.mpr (mem_sortDescending.mp otherListed)) (le_antisymm notGreater notLess)

/-! ## Machine numbers that compare as exact ones -/

section ComparesAs

variable {F : Type} [MachineNumber F]

/-- The machine numbers of the set compare as their exact values; no value that is not a
number is among them. -/
def ComparesAs (value : F → ℚ) (numbers : Set F) : Prop :=
  ∀ left ∈ numbers, ∀ right ∈ numbers,
    partialCmp left right = some (compare (value left) (value right))

theorem comparesAs_exact (numbers : Set ℚ) : ComparesAs id numbers :=
  fun left _ right _ => partialCmp_exact left right

variable {value : F → ℚ} {numbers : Set F} {left right : F}

theorem ComparesAs.compareOrEqual (compares : ComparesAs value numbers)
    (isLeft : left ∈ numbers) (isRight : right ∈ numbers) :
    compareOrEqual left right = compare (value left) (value right) := by
  rw [Number.compareOrEqual, compares left isLeft right isRight]
  rfl

theorem ComparesAs.gt (compares : ComparesAs value numbers) (isLeft : left ∈ numbers)
    (isRight : right ∈ numbers) : gt left right = true ↔ value right < value left := by
  rw [Number.gt, compares left isLeft right isRight, beq_iff_eq, Option.some.injEq,
    compare_gt_iff_gt]

theorem ComparesAs.eq (compares : ComparesAs value numbers) (isLeft : left ∈ numbers)
    (isRight : right ∈ numbers) : eq left right = true ↔ value left = value right := by
  rw [Number.eq, compares left isLeft right isRight, beq_iff_eq, Option.some.injEq,
    compare_eq_iff_eq]

variable {number : α → F} {elements : List α}

theorem pairwise_sortDescending_of_comparesAs (compares : ComparesAs value numbers)
    (listed : ∀ element ∈ elements, number element ∈ numbers) :
    (sortDescending number elements).Pairwise fun left right =>
      value (number right) ≤ value (number left) := by
  have sorted := pairwise_sortDescending id (elements.map fun element => value (number element))
  have same : (sortDescending number elements).map (fun element => value (number element)) =
      sortDescending id (elements.map fun element => value (number element)) := by
    rw [sortDescending, sortDescending]
    apply List.map_insertionSort
    intro left leftListed right rightListed
    rw [compares.compareOrEqual (listed right rightListed) (listed left leftListed),
      compareOrEqual_exact]
    rfl
  rw [← same, List.pairwise_map] at sorted
  exact sorted

/-- Of numbers that compare as exact ones the greatest is found. -/
theorem maxBy_of_comparesAs (compares : ComparesAs value numbers)
    (listed : ∀ element ∈ elements, number element ∈ numbers) (nonEmpty : elements ≠ []) :
    ∃ greatest ∈ elements, maxBy number elements = some greatest ∧
      ∀ element ∈ elements, value (number element) ≤ value (number greatest) := by
  cases elements with
  | nil => exact absurd rfl nonEmpty
  | cons first rest =>
      rw [maxBy]
      induction rest using List.reverseRecOn with
      | nil =>
          refine ⟨first, List.mem_singleton_self first, rfl, fun element isFirst => ?_⟩
          rw [List.mem_singleton.mp isFirst]
      | append_singleton rest last ih =>
          rcases ih (fun element isListed => listed element
            (List.mem_append_left [last] isListed)) (List.cons_ne_nil _ _) with
            ⟨greatest, isGreatest, found, most⟩
          have lastListed : last ∈ first :: (rest ++ [last]) := by simp
          have greatestListed : greatest ∈ first :: (rest ++ [last]) :=
            List.mem_append_left [last] isGreatest
          have either : ∀ element ∈ first :: (rest ++ [last]), element = last ∨
              value (number element) ≤ value (number greatest) := by
            intro element isListed
            rw [← List.cons_append, List.mem_append, List.mem_singleton] at isListed
            rcases isListed with earlier | isLast
            · exact Or.inr (most element earlier)
            · exact Or.inl isLast
          rw [List.foldl_append, Option.some.inj found, List.foldl_cons, List.foldl_nil,
            compares.compareOrEqual (listed greatest greatestListed) (listed last lastListed)]
          by_cases less : value (number last) < value (number greatest)
          · rw [if_pos (compare_gt_iff_gt.mpr less)]
            refine ⟨greatest, greatestListed, rfl, fun element isListed => ?_⟩
            rcases either element isListed with rfl | atMost
            · exact less.le
            · exact atMost
          · rw [if_neg (fun isGreater => less (compare_gt_iff_gt.mp isGreater))]
            refine ⟨last, lastListed, rfl, fun element isListed => ?_⟩
            rcases either element isListed with rfl | atMost
            · exact le_refl _
            · exact le_trans atMost (not_lt.mp less)

end ComparesAs

end DecisionEngine.Number
