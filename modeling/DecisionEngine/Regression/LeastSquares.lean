import DecisionEngine.Database.Grouping
import Mathlib.Tactic.LinearCombination
import Mathlib.Tactic.Positivity
import Mathlib.Tactic.Ring

/-!
# Weighted least squares

The weighted squared error of a line over points is a quadratic form in five sums, and the line
that solves the normal equations has the smallest error.  It is the only one unless all points
have the same abscissa.
-/

namespace DecisionEngine.Regression

open Database

universe u

variable {F : Type u} [Field F]

/-- The weighted sum of a value of the points. -/
def total (weight value : F × F → F) (points : List (F × F)) : F :=
  sumOf (fun point => weight point * value point) points

/-- The weighted sum of the squared distances of the points from a line. -/
def squaredError (weight : F × F → F) (points : List (F × F)) (intercept slope : F) : F :=
  total weight (fun point => (intercept + slope * point.1 - point.2) ^ 2) points

/-- The weighted sums of the points that a line of least squares needs. -/
structure Moments (F : Type u) where
  n : F
  sx : F
  sy : F
  sxx : F
  sxy : F

def moments (weight : F × F → F) (points : List (F × F)) : Moments F where
  n := total weight (fun _ => 1) points
  sx := total weight Prod.fst points
  sy := total weight Prod.snd points
  sxx := total weight (fun point => point.1 * point.1) points
  sxy := total weight (fun point => point.1 * point.2) points

namespace Moments

def determinant (sums : Moments F) : F :=
  sums.n * sums.sxx - sums.sx * sums.sx

def slope (sums : Moments F) : F :=
  (sums.n * sums.sxy - sums.sx * sums.sy) / sums.determinant

def intercept (sums : Moments F) : F :=
  (sums.sy - sums.slope * sums.sx) / sums.n

end Moments

variable {weight : F × F → F} {points : List (F × F)}

/-- The error of a line from the sums. -/
theorem squaredError_eq (intercept slope : F) :
    squaredError weight points intercept slope =
      total weight (fun point => point.2 * point.2) points +
        intercept * intercept * (moments weight points).n +
        slope * slope * (moments weight points).sxx -
        2 * intercept * (moments weight points).sy - 2 * slope * (moments weight points).sxy +
        2 * intercept * slope * (moments weight points).sx := by
  simp only [squaredError, moments, total]
  induction points with
  | nil => simp
  | cons point rest ih =>
      simp only [sumOf_cons]
      rw [ih]
      ring

/-- The weighted squares of a line's values. -/
theorem total_sq (intercept slope : F) :
    total weight (fun point => (intercept + slope * point.1) ^ 2) points =
      intercept * intercept * (moments weight points).n +
        2 * intercept * slope * (moments weight points).sx +
        slope * slope * (moments weight points).sxx := by
  simp only [moments, total]
  induction points with
  | nil => simp
  | cons point rest ih =>
      simp only [sumOf_cons]
      rw [ih]
      ring

/-! ## Normal equations -/

section Normal

variable {sums : Moments F}

theorem Moments.n_mul_intercept (nonzero : sums.n ≠ 0) :
    sums.n * sums.intercept + sums.slope * sums.sx = sums.sy := by
  rw [intercept, mul_div_cancel₀ _ nonzero]
  ring

theorem Moments.slope_mul_determinant (independent : sums.determinant ≠ 0) :
    sums.slope * sums.determinant = sums.n * sums.sxy - sums.sx * sums.sy :=
  div_mul_cancel₀ _ independent

theorem Moments.sx_mul_intercept (nonzero : sums.n ≠ 0) (independent : sums.determinant ≠ 0) :
    sums.intercept * sums.sx + sums.slope * sums.sxx = sums.sxy := by
  have first := Moments.n_mul_intercept nonzero
  have second := Moments.slope_mul_determinant independent
  rw [Moments.determinant] at second
  apply mul_left_cancel₀ nonzero
  linear_combination sums.sx * first + second

/-- The error of a line is that of the solution and the squares of the difference. -/
theorem squaredError_eq_add (nonzero : (moments weight points).n ≠ 0)
    (independent : (moments weight points).determinant ≠ 0) (intercept slope : F) :
    squaredError weight points intercept slope =
      squaredError weight points (moments weight points).intercept
          (moments weight points).slope +
        total weight (fun point => ((intercept - (moments weight points).intercept) +
          (slope - (moments weight points).slope) * point.1) ^ 2) points := by
  have first := Moments.n_mul_intercept nonzero
  have second := Moments.sx_mul_intercept nonzero independent
  rw [squaredError_eq, squaredError_eq, total_sq]
  linear_combination
    2 * (intercept - (moments weight points).intercept) * first +
      2 * (slope - (moments weight points).slope) * second

end Normal

/-! ## Least error -/

section Order

variable [LinearOrder F] [IsStrictOrderedRing F]

variable {value : F × F → F}

theorem total_nonneg (nonneg : ∀ point ∈ points, 0 ≤ weight point * value point) :
    0 ≤ total weight value points := by
  apply List.sum_nonneg
  intro term listed
  rcases List.mem_map.mp listed with ⟨point, isPoint, rfl⟩
  exact nonneg point isPoint

/-- A sum of nonnegative terms is positive when a term is. -/
theorem total_pos (nonneg : ∀ point ∈ points, 0 ≤ weight point * value point) {point : F × F}
    (listed : point ∈ points) (positive : 0 < weight point * value point) :
    0 < total weight value points := by
  refine lt_of_lt_of_le positive (List.single_le_sum ?_ _ (List.mem_map_of_mem listed))
  intro term isTerm
  rcases List.mem_map.mp isTerm with ⟨other, isOther, rfl⟩
  exact nonneg other isOther

theorem Moments.n_ne_zero {sums : Moments F} (positive : 0 < sums.determinant) : sums.n ≠ 0 := by
  intro isZero
  rw [determinant, isZero, zero_mul, zero_sub] at positive
  exact absurd positive (not_lt.mpr (neg_nonpos.mpr (mul_self_nonneg sums.sx)))

/-- The solution of the normal equations has the least error. -/
theorem squaredError_le (nonneg : ∀ point ∈ points, 0 ≤ weight point)
    (positive : 0 < (moments weight points).determinant) (intercept slope : F) :
    squaredError weight points (moments weight points).intercept
        (moments weight points).slope ≤
      squaredError weight points intercept slope := by
  rw [squaredError_eq_add (Moments.n_ne_zero positive) (ne_of_gt positive) intercept slope]
  apply le_add_of_nonneg_right
  exact total_nonneg fun point listed => mul_nonneg (nonneg point listed) (sq_nonneg _)

/-- The quadratic form of the sums is positive but at zero. -/
theorem Moments.eq_zero_of_form_nonpos {sums : Moments F} (nonneg : 0 ≤ sums.n)
    (positive : 0 < sums.determinant) {intercept slope : F}
    (small : intercept * intercept * sums.n + 2 * intercept * slope * sums.sx +
      slope * slope * sums.sxx ≤ 0) : intercept = 0 ∧ slope = 0 := by
  have nonzero := Moments.n_ne_zero positive
  have completed : sums.n * (intercept * intercept * sums.n + 2 * intercept * slope * sums.sx +
      slope * slope * sums.sxx) =
        (sums.n * intercept + slope * sums.sx) ^ 2 + slope ^ 2 * sums.determinant := by
    rw [determinant]
    ring
  have scaled := mul_nonpos_of_nonneg_of_nonpos nonneg small
  rw [completed] at scaled
  have noSlope : slope = 0 := by
    have square := (le_add_of_nonneg_left (sq_nonneg _)).trans scaled
    have isZero := le_antisymm (nonpos_of_mul_nonpos_left square positive) (sq_nonneg slope)
    exact pow_eq_zero_iff two_ne_zero |>.mp isZero
  rw [noSlope, zero_mul, add_zero, zero_pow two_ne_zero, zero_mul, add_zero] at scaled
  have isZero := pow_eq_zero_iff two_ne_zero |>.mp (le_antisymm scaled (sq_nonneg _))
  exact ⟨(mul_eq_zero.mp isZero).resolve_left nonzero, noSlope⟩

theorem n_nonneg (nonneg : ∀ point ∈ points, 0 ≤ weight point) :
    0 ≤ (moments weight points).n := by
  apply total_nonneg
  intro point listed
  rw [mul_one]
  exact nonneg point listed

/-- No other line has the least error. -/
theorem eq_of_squaredError_le (nonneg : ∀ point ∈ points, 0 ≤ weight point)
    (positive : 0 < (moments weight points).determinant) {intercept slope : F}
    (least : squaredError weight points intercept slope ≤
      squaredError weight points (moments weight points).intercept
        (moments weight points).slope) :
    intercept = (moments weight points).intercept ∧ slope = (moments weight points).slope := by
  rw [squaredError_eq_add (Moments.n_ne_zero positive) (ne_of_gt positive), total_sq,
    add_le_iff_nonpos_right] at least
  have zeros := Moments.eq_zero_of_form_nonpos (n_nonneg nonneg) positive least
  exact ⟨sub_eq_zero.mp zeros.1, sub_eq_zero.mp zeros.2⟩

/-! ## Different abscissas -/

omit [LinearOrder F] [IsStrictOrderedRing F] in
/-- The determinant measures how far the abscissas are apart. -/
theorem n_mul_determinant :
    (moments weight points).n * (moments weight points).determinant =
      total weight (fun point => (-(moments weight points).sx +
        (moments weight points).n * point.1) ^ 2) points := by
  rw [total_sq, Moments.determinant]
  ring

theorem determinant_pos_of_ne (positive : ∀ point ∈ points, 0 < weight point)
    {first second : F × F} (isFirst : first ∈ points) (isSecond : second ∈ points)
    (different : first.1 ≠ second.1) : 0 < (moments weight points).determinant := by
  have nonneg : ∀ point ∈ points, 0 ≤ weight point := fun point listed =>
    (positive point listed).le
  have nPos : 0 < (moments weight points).n := by
    apply total_pos _ isFirst
    · rw [mul_one]
      exact positive first isFirst
    · intro point listed
      rw [mul_one]
      exact nonneg point listed
  have apart : ∃ point ∈ points,
      -(moments weight points).sx + (moments weight points).n * point.1 ≠ 0 := by
    by_contra none
    push Not at none
    have same := (none first isFirst).trans (none second isSecond).symm
    exact different (mul_left_cancel₀ nPos.ne' (add_left_cancel same))
  rcases apart with ⟨point, listed, nonzero⟩
  apply (mul_pos_iff_of_pos_left nPos).mp
  rw [n_mul_determinant]
  apply total_pos _ listed
  · exact mul_pos (positive point listed) (sq_pos_iff.mpr nonzero)
  · intro other isOther
    exact mul_nonneg (nonneg other isOther) (sq_nonneg _)

section

omit [LinearOrder F] [IsStrictOrderedRing F]

theorem total_of_const {constant : F} (same : ∀ point ∈ points, value point = constant) :
    total weight value points = constant * (moments weight points).n := by
  simp only [moments, total]
  induction points with
  | nil => simp
  | cons point rest ih =>
      rw [List.forall_mem_cons] at same
      rw [sumOf_cons, sumOf_cons, ih same.2, same.1]
      ring

theorem determinant_eq_zero_of_eq (same : ∀ first ∈ points, ∀ second ∈ points,
    first.1 = second.1) : (moments weight points).determinant = 0 := by
  cases points with
  | nil => simp [Moments.determinant, moments, total]
  | cons head rest =>
      have abscissa : ∀ point ∈ head :: rest, point.1 = head.1 :=
        fun point listed => same point listed head List.mem_cons_self
      have sx : (moments weight (head :: rest)).sx = _ := total_of_const abscissa
      have sxx : (moments weight (head :: rest)).sxx =
          head.1 * head.1 * (moments weight (head :: rest)).n :=
        total_of_const fun point listed => by rw [abscissa point listed]
      rw [Moments.determinant, sx, sxx]
      ring

end

/-- The line is determined exactly when two points have different abscissas. -/
theorem determinant_pos_iff (positive : ∀ point ∈ points, 0 < weight point) :
    0 < (moments weight points).determinant ↔
      ∃ first ∈ points, ∃ second ∈ points, first.1 ≠ second.1 := by
  constructor
  · intro isPositive
    by_contra none
    push Not at none
    exact isPositive.ne' (determinant_eq_zero_of_eq none)
  · rintro ⟨first, isFirst, second, isSecond, different⟩
    exact determinant_pos_of_ne positive isFirst isSecond different

end Order

end DecisionEngine.Regression
