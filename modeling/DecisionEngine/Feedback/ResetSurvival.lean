import DecisionEngine.Feedback.EliminationScore
import DecisionEngine.Number.Rounded
import Mathlib.Algebra.Order.Field.Power
import Mathlib.Tactic.Positivity

/-!
# Survival of a reset

The reset lifts a score so far above the threshold that it takes a given number of failures to
bring it below again: it divides the threshold by the factor of a failure, as often as failures
are allowed.  The factor is taken from a percentage, while the second version of the penalty
gives the factor itself.

The score has to meet the threshold after all failures but the last one, so that a product that
is rounded down loses a failure.
-/

namespace DecisionEngine.Feedback

open Number Scoring

/-! ## Resets and failures -/

section Factors

variable {F : Type} [MachineNumber F] (reads : ScoreUpdateReads F)

/-- The score after some failures in a row. -/
def failures (count : ℕ) (score : F) : F :=
  (updateScoreWithPenalty reads .eliminationMerchantKey)^[count] score

variable {reads}

end Factors

section Reset

variable {mode : RoundingMode} {reads : ScoreUpdateReads (Rounded mode)}
  {score threshold : Rounded mode} {maxCount : ℕ}

variable {input : ResetGatewayInput (Rounded mode)}

end Reset

/-! ## A factor taken for a percentage -/

end DecisionEngine.Feedback
