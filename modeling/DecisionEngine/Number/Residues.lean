import Mathlib.Data.Int.CardIntervalMod
import Mathlib.Data.Nat.ChineseRemainder
import Mathlib.Algebra.BigOperators.Intervals
import Mathlib.Tactic.LinearCombination

/-!
# Residues under two moduli

A number below the least common multiple of two moduli has a residue under each, and the pairs
of residues that occur are those that agree under the greatest common divisor.  So the numbers
with a small residue under one modulus have the residues under the other in equal shares only as
far as the greatest common divisor allows.
-/

namespace DecisionEngine.Number

open Finset

variable {n m : ℕ}

/-- A number below the least common multiple is known from its two residues. -/
theorem eq_of_residues {first second : ℕ} (firstBelow : first < n.lcm m)
    (secondBelow : second < n.lcm m) (sameFirst : first ≡ second [MOD n])
    (sameSecond : first ≡ second [MOD m]) : first = second := by
  have same : (first : ℤ) ≡ second [ZMOD ((n : ℤ).lcm m : ℤ)] :=
    Int.modEq_and_modEq_iff_modEq_lcm.mp
      ⟨Int.natCast_modEq_iff.mpr sameFirst, Int.natCast_modEq_iff.mpr sameSecond⟩
  have sameNat : first ≡ second [MOD n.lcm m] := Int.natCast_modEq_iff.mp same
  exact sameNat.eq_of_lt_of_lt firstBelow secondBelow

/-- Two residues that agree under the greatest common divisor are those of some number below
the least common multiple. -/
theorem exists_residues (nPos : 0 < n) (mPos : 0 < m) {a s : ℕ} (aBelow : a < n)
    (sBelow : s < m) (agree : a ≡ s [MOD n.gcd m]) :
    ∃ h < n.lcm m, h % n = a ∧ h % m = s := by
  obtain ⟨h, underFirst, underSecond⟩ := Nat.chineseRemainder' agree
  refine ⟨h % n.lcm m, Nat.mod_lt _ (Nat.lcm_pos nPos mPos), ?_, ?_⟩
  · rw [Nat.mod_mod_of_dvd _ (Nat.dvd_lcm_left n m), underFirst, Nat.mod_eq_of_lt aBelow]
  · rw [Nat.mod_mod_of_dvd _ (Nat.dvd_lcm_right n m), underSecond, Nat.mod_eq_of_lt sBelow]

/-- The numbers of one residue are as many as the other residues that agree with it. -/
theorem card_residue (nPos : 0 < n) (mPos : 0 < m) (A : ℕ → Prop) [DecidablePred A] {s : ℕ}
    (below : s < m) :
    #{h ∈ range (n.lcm m) | A (h % n) ∧ h % m = s} =
      #{a ∈ range n | A a ∧ a ≡ s [MOD n.gcd m]} := by
  refine card_bij (fun h _ => h % n) ?_ ?_ ?_
  · intro h member
    obtain ⟨-, holds, rfl⟩ := by simpa using member
    simp only [mem_filter, mem_range]
    refine ⟨Nat.mod_lt _ nPos, holds, ?_⟩
    have first : h % n ≡ h [MOD n.gcd m] := (Nat.mod_modEq h n).of_dvd (Nat.gcd_dvd_left n m)
    exact first.trans ((Nat.mod_modEq h m).of_dvd (Nat.gcd_dvd_right n m)).symm
  · intro first firstMember second secondMember same
    obtain ⟨firstBelow, -, firstResidue⟩ := by simpa using firstMember
    obtain ⟨secondBelow, -, secondResidue⟩ := by simpa using secondMember
    exact eq_of_residues firstBelow secondBelow same (firstResidue.trans secondResidue.symm)
  · intro a member
    obtain ⟨aBelow, holds, agree⟩ := by simpa using member
    obtain ⟨h, hBelow, rfl, underSecond⟩ := exists_residues nPos mPos aBelow below agree
    exact ⟨h, by simp [hBelow, holds, underSecond], rfl⟩

/-- The residues below a bound that agree with a residue under a divisor. -/
theorem card_agreeing {p g : ℕ} (pBelow : p ≤ n) (gPos : 0 < g) (s : ℕ) :
    #{a ∈ range n | a < p ∧ a ≡ s [MOD g]} = p / g + if s % g < p % g then 1 else 0 := by
  rw [← Nat.count_modEq_card p gPos s, Nat.count_eq_card_filter_range]
  congr 1
  ext a
  simp only [mem_filter, mem_range]
  constructor
  · rintro ⟨-, below, agree⟩
    exact ⟨below, agree⟩
  · rintro ⟨below, agree⟩
    exact ⟨by omega, below, agree⟩

/-- The numbers whose residues lie below a bound and within a range: every residue of the range
has its share, and those with a small residue under the greatest common divisor one more. -/
theorem card_residues {p c w : ℕ} (nPos : 0 < n) (mPos : 0 < m) (pBelow : p ≤ n)
    (within : c + w ≤ m) :
    #{h ∈ range (n.lcm m) | h % n < p ∧ c ≤ h % m ∧ h % m < c + w} =
      w * (p / n.gcd m) + #{s ∈ Ico c (c + w) | s % n.gcd m < p % n.gcd m} := by
  have gPos : 0 < n.gcd m := Nat.gcd_pos_of_pos_left m nPos
  have parts : #{h ∈ range (n.lcm m) | h % n < p ∧ c ≤ h % m ∧ h % m < c + w} =
      ∑ s ∈ Ico c (c + w), #{h ∈ range (n.lcm m) | h % n < p ∧ h % m = s} := by
    rw [card_eq_sum_card_fiberwise (f := fun h => h % m) (t := Ico c (c + w))]
    · refine sum_congr rfl fun s sMember => ?_
      congr 1
      ext h
      simp only [mem_Ico] at sMember
      simp only [mem_filter, mem_range]
      constructor
      · rintro ⟨⟨below, small, -⟩, rfl⟩
        exact ⟨below, small, rfl⟩
      · rintro ⟨below, small, rfl⟩
        exact ⟨⟨below, small, sMember⟩, rfl⟩
    · intro h member
      have := (mem_filter.mp (mem_coe.mp member)).2
      exact mem_coe.mpr (mem_Ico.mpr this.2)
  have each : ∀ s ∈ Ico c (c + w), #{h ∈ range (n.lcm m) | h % n < p ∧ h % m = s} =
      p / n.gcd m + if s % n.gcd m < p % n.gcd m then 1 else 0 := by
    intro s sMember
    have below : s < m := by have := (mem_Ico.mp sMember).2; omega
    rw [card_residue nPos mPos (· < p) below, card_agreeing pBelow gPos]
  rw [parts, sum_congr rfl each, sum_add_distrib, sum_const, Nat.card_Ico, Nat.nsmul_eq_mul,
    card_filter, Nat.add_sub_cancel_left]

/-! ## Small residues -/

/-- How far the numbers below a bound are from having the small residues in their share. -/
def skew (g r x : ℕ) : ℤ :=
  g * (Min.min (x % g) r : ℕ) - (x % g : ℕ) * r

theorem skew_zero (g r : ℕ) : skew g r 0 = 0 := by
  simp [skew]

/-- The numbers below a bound with a small residue. -/
theorem card_low {g r : ℕ} (gPos : 0 < g) (rBelow : r ≤ g) (x : ℕ) :
    (g * #{s ∈ range x | s % g < r} : ℤ) = x * r + skew g r x := by
  induction x with
  | zero => simp [skew]
  | succ x ih =>
      have next : (g * #{s ∈ range (x + 1) | s % g < r} : ℤ) =
          g * #{s ∈ range x | s % g < r} + if x % g < r then (g : ℤ) else 0 := by
        rw [range_add_one, filter_insert]
        split
        · rw [card_insert_of_notMem (by simp)]
          push_cast
          ring
        · simp
      rw [next, ih]
      have small := Nat.mod_lt x gPos
      have step : (x + 1) % g = if x % g + 1 = g then 0 else x % g + 1 := by
        rw [← Nat.mod_add_mod]
        split
        · next full => rw [full, Nat.mod_self]
        · next open' => exact Nat.mod_eq_of_lt (by omega)
      rw [skew, skew, step]
      by_cases low : x % g < r
      · rw [if_pos low, min_eq_left low.le]
        split
        · next full =>
            have whole : r = g := by omega
            subst whole
            push_cast
            simp
            ring
        · rw [min_eq_left (by omega)]
          push_cast
          ring
      · rw [if_neg low, min_eq_right (by omega)]
        split
        · next full =>
            have last : ((x % g : ℕ) : ℤ) = g - 1 := by omega
            rw [last]
            simp
            ring
        · rw [min_eq_right (by omega)]
          push_cast
          ring

/-- Against the exact share, a range of residues has as many numbers too many as the skew grows
over it. -/
theorem card_residues_skew {p c w : ℕ} (nPos : 0 < n) (mPos : 0 < m) (pBelow : p ≤ n)
    (within : c + w ≤ m) :
    (n.gcd m * #{h ∈ range (n.lcm m) | h % n < p ∧ c ≤ h % m ∧ h % m < c + w} : ℤ) =
      w * p + (skew (n.gcd m) (p % n.gcd m) (c + w) - skew (n.gcd m) (p % n.gcd m) c) := by
  have gPos : 0 < n.gcd m := Nat.gcd_pos_of_pos_left m nPos
  rw [card_residues nPos mPos pBelow within]
  generalize n.gcd m = g at *
  have rBelow : p % g ≤ g := (Nat.mod_lt p gPos).le
  have upper := card_low gPos rBelow (c + w)
  have lower := card_low gPos rBelow c
  have parts : #{s ∈ range c | s % g < p % g} + #{s ∈ Ico c (c + w) | s % g < p % g} =
      #{s ∈ range (c + w) | s % g < p % g} := by
    simp only [card_filter]
    exact sum_range_add_sum_Ico _ (Nat.le_add_right c w)
  have share : (p : ℤ) = g * (p / g : ℕ) + (p % g : ℕ) := by
    exact_mod_cast (Nat.div_add_mod p g).symm
  have joined : (g * #{s ∈ Ico c (c + w) | s % g < p % g} : ℤ) =
      g * #{s ∈ range (c + w) | s % g < p % g} - g * #{s ∈ range c | s % g < p % g} := by
    rw [← parts]
    push_cast
    ring
  push_cast at share upper lower joined ⊢
  rw [mul_add, joined, upper, lower]
  linear_combination (-(w : ℤ)) * share

/-- The numbers with a small residue. -/
theorem card_smallResidue {p : ℕ} (nPos : 0 < n) (mPos : 0 < m) (pBelow : p ≤ n) :
    n.gcd m * #{h ∈ range (n.lcm m) | h % n < p} = m * p := by
  have all := card_residues_skew (c := 0) (w := m) nPos mPos pBelow (by simp)
  have whole : skew (n.gcd m) (p % n.gcd m) m = 0 := by
    simp [skew, Nat.mod_eq_zero_of_dvd (Nat.gcd_dvd_right n m)]
  simp only [Nat.zero_le, Nat.zero_add, Nat.mod_lt _ mPos, and_true, whole, skew_zero,
    sub_zero, add_zero] at all
  exact_mod_cast all

end DecisionEngine.Number
