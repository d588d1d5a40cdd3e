import DecisionEngine.Database.Grouping
import Mathlib.Algebra.Order.BigOperators.Group.List
import Mathlib.Algebra.Order.Field.Basic
import Mathlib.Tactic.Ring

/-!
# Samples

The mean and the unbiased variance of a value over the members of a list, and the sums that
they can be computed from.
-/

namespace DecisionEngine.Statistics

open Database

universe u v

variable {ι : Type u} {F : Type v} [Field F]

def sampleMean (value : ι → F) (members : List ι) : F :=
  sumOf value members / members.length

/-- The sum of the squared distances from the mean, for each member but one. -/
def sampleVariance (value : ι → F) (members : List ι) : F :=
  sumOf (fun member => (value member - sampleMean value members) ^ 2) members /
    (members.length - 1)

/-- The squared distances from a point, by the sums of the values and of their squares. -/
theorem sumOf_sub_sq (value : ι → F) (center : F) (members : List ι) :
    sumOf (fun member => (value member - center) ^ 2) members =
      sumOf (fun member => value member ^ 2) members - 2 * center * sumOf value members +
        members.length * center ^ 2 := by
  induction members with
  | nil => simp
  | cons member rest ih =>
      simp only [sumOf_cons, List.length_cons]
      rw [ih]
      push_cast
      ring

theorem sampleVariance_eq {value : ι → F} {members : List ι} (nonzero : (members.length : F) ≠ 0) :
    sampleVariance value members =
      (sumOf (fun member => value member ^ 2) members -
        members.length * sampleMean value members * sampleMean value members) /
          (members.length - 1) := by
  have total : sumOf value members = members.length * sampleMean value members := by
    rw [sampleMean, mul_div_cancel₀ _ nonzero]
  rw [sampleVariance, sumOf_sub_sq, total]
  congr 1
  ring

section Order

variable [LinearOrder F] [IsStrictOrderedRing F]

theorem sampleVariance_nonneg (value : ι → F) {members : List ι} (nonempty : members ≠ []) :
    0 ≤ sampleVariance value members := by
  apply div_nonneg
  · apply List.sum_nonneg
    intro term listed
    rcases List.mem_map.mp listed with ⟨member, -, rfl⟩
    exact sq_nonneg _
  · have positive : 1 ≤ members.length := List.length_pos_iff.mpr nonempty
    rw [sub_nonneg]
    exact_mod_cast positive

end Order

/-! ## Values of some members

A member with a surplus has a base value and its surplus, and a member without has none. -/

variable (surplus : ι → Option F)

theorem sumOf_elim_add (base : F) (members : List ι) :
    sumOf (fun member => (surplus member).elim 0 (base + ·)) members =
      base * (members.filter fun member => (surplus member).isSome).length +
        sumOf (fun member => (surplus member).elim 0 id) members := by
  induction members with
  | nil => simp
  | cons member rest ih =>
      simp only [sumOf_cons]
      rw [ih]
      cases isSurplus : surplus member with
      | none =>
          rw [List.filter_cons_of_neg (by simp [isSurplus])]
          simp
      | some extra =>
          rw [List.filter_cons_of_pos (by simp [isSurplus]), List.length_cons]
          simp only [Option.elim_some, id]
          push_cast
          ring

theorem sumOf_elim_add_sq (base : F) (members : List ι) :
    sumOf (fun member => ((surplus member).elim 0 (base + ·)) ^ 2) members =
      base * base * (members.filter fun member => (surplus member).isSome).length +
        2 * base * sumOf (fun member => (surplus member).elim 0 id) members +
          sumOf (fun member => (surplus member).elim 0 (· ^ 2)) members := by
  induction members with
  | nil => simp
  | cons member rest ih =>
      simp only [sumOf_cons]
      rw [ih]
      cases isSurplus : surplus member with
      | none =>
          rw [List.filter_cons_of_neg (by simp [isSurplus])]
          simp
      | some extra =>
          rw [List.filter_cons_of_pos (by simp [isSurplus]), List.length_cons]
          simp only [Option.elim_some, id]
          push_cast
          ring

end DecisionEngine.Statistics
