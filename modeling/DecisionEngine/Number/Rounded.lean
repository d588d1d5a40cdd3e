import DecisionEngine.Number.Exact

/-!
# Rounded numbers

Machine numbers that are rationals.  An operation gives what its exact result is rounded to.
-/

namespace DecisionEngine.Number

/-- A rounding of rationals, which keeps the whole numbers up to a bound. -/
structure RoundingMode where
  round : ℚ → ℚ
  monotone : Monotone round
  idempotent : ∀ value, round (round value) = round value
  whole : ∀ number : ℕ, number ≤ 2 ^ 53 → round number = number

/-- The rounding that changes nothing. -/
def RoundingMode.exact : RoundingMode where
  round := id
  monotone := monotone_id
  idempotent _ := rfl
  whole _ _ := rfl

section Bounds

variable {mode : RoundingMode} {exact : ℚ}

@[simp]
theorem RoundingMode.zero : mode.round 0 = 0 := by
  exact_mod_cast mode.whole 0 (by norm_num)

@[simp]
theorem RoundingMode.one : mode.round 1 = 1 := by
  exact_mod_cast mode.whole 1 (by norm_num)

@[simp]
theorem RoundingMode.hundred : mode.round 100 = 100 := by
  exact_mod_cast mode.whole 100 (by norm_num)

end Bounds

/-- A number that is rounded to itself. -/
@[ext]
structure Rounded (mode : RoundingMode) where
  value : ℚ
  isRounded : mode.round value = value

namespace Rounded

variable {mode : RoundingMode}

def ofExact (mode : RoundingMode) (exact : ℚ) : Rounded mode :=
  ⟨mode.round exact, mode.idempotent exact⟩

instance : MachineNumber (Rounded mode) where
  add left right := ofExact mode (left.value + right.value)
  sub left right := ofExact mode (left.value - right.value)
  mul left right := ofExact mode (left.value * right.value)
  div left right := ofExact mode (left.value / right.value)
  ofRat := ofExact mode
  sqrt number := ofExact mode (Rat.sqrt number.value)
  partialCmp left right := some (compare left.value right.value)
  floorToI32 number := Max.max (-2 ^ 31) (Min.min number.value.floor (2 ^ 31 - 1))
  isFinite _ := true

variable {left right number : Rounded mode} {exact : ℚ}

@[simp]
theorem value_mul : (left * right).value = mode.round (left.value * right.value) :=
  rfl

end Rounded

end DecisionEngine.Number
