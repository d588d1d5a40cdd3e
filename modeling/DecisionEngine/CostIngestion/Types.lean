import DecisionEngine.Database.Grouping
import DecisionEngine.Text.Basic
import Mathlib.Algebra.Group.MinimalAxioms
import Mathlib.Data.Rat.Floor

/-!
# Settled fees

The rows of a settlement report, the clusters that they are counted in, and the sums that
a fit needs.  Amounts and fees are exact; roots, logarithms and powers are rounded to
rationals in some way.
-/

namespace DecisionEngine.CostIngestion

open Database Text

/-- How the irrational functions are rounded. -/
class Rounding where
  sqrt : ℚ → ℚ
  log10 : ℚ → ℚ
  /-- Powers of ten. -/
  pow10 : ℚ → ℚ

/-- The greatest number with a square up to the given one, bit by bit. -/
def digitRoot (n : ℕ) : ℕ → ℕ → ℕ
  | 0, root => root
  | bits + 1, root =>
      if (root + 2 ^ bits) ^ 2 ≤ n then digitRoot n bits (root + 2 ^ bits)
      else digitRoot n bits root

def decimalPow10 (exponent : ℚ) : ℚ :=
  10 ^ ⌊exponent⌋ * (12589254117 / 10 ^ 10) ^ (round ((exponent - ⌊exponent⌋) * 10)).toNat

/-- Eight decimals of a root, and the powers and logarithms between whole tenths. -/
@[reducible]
def Rounding.decimal : Rounding where
  sqrt x := (digitRoot ⌊x * 10 ^ 16⌋.toNat 64 0 : ℚ) / 10 ^ 8
  log10 x :=
    ((((List.range 120).filter fun k => decimalPow10 (k / 10 - 6) ≤ x).length : ℚ) - 1) / 10 - 6
  pow10 := decimalPow10

/-- The merchant's account with a connector. -/
structure Account where
  connector : String
  account : String
  merchantId : String
  deriving DecidableEq

/-- A row of a report, with what the aggregation reads of it. -/
structure SettledFeeRow where
  cardNetwork : String
  variant : String
  funding : String
  issuerCountry : String
  currency : String
  icCategory : String
  icBps : String
  txnDate : Option Int
  channel : String
  gross : ℚ
  totalFee : ℚ
  bin : String

/-- What a fit groups on. -/
structure ClusterKey where
  cardNetwork : String
  variant : String
  funding : String
  issuerCountry : String
  currency : String
  icCategory : String
  cardProduct : String
  deriving DecidableEq

/-! ## Sufficient statistics -/

@[ext]
structure SuffStats where
  n : ℚ
  sx : ℚ
  sy : ℚ
  sxx : ℚ
  sxy : ℚ
  syy : ℚ
  su : ℚ
  suu : ℚ
  suy : ℚ
  suuy : ℚ
  syyuu : ℚ

namespace SuffStats

instance : Zero SuffStats := ⟨⟨0, 0, 0, 0, 0, 0, 0, 0, 0, 0, 0⟩⟩

instance : Add SuffStats :=
  ⟨fun first second =>
    ⟨first.n + second.n, first.sx + second.sx, first.sy + second.sy, first.sxx + second.sxx,
      first.sxy + second.sxy, first.syy + second.syy, first.su + second.su,
      first.suu + second.suu, first.suy + second.suy, first.suuy + second.suuy,
      first.syyuu + second.syyuu⟩⟩

instance : Neg SuffStats :=
  ⟨fun stats => ⟨-stats.n, -stats.sx, -stats.sy, -stats.sxx, -stats.sxy, -stats.syy, -stats.su,
    -stats.suu, -stats.suy, -stats.suuy, -stats.syyuu⟩⟩

instance : AddCommGroup SuffStats where
  add_assoc _ _ _ := by ext <;> exact add_assoc _ _ _
  zero_add _ := by ext <;> exact zero_add _
  add_zero _ := by ext <;> exact add_zero _
  neg_add_cancel _ := by ext <;> exact neg_add_cancel _
  add_comm _ _ := by ext <;> exact add_comm _ _
  nsmul := nsmulRec
  zsmul := zsmulRec

@[simp]
theorem add_n (first second : SuffStats) : (first + second).n = first.n + second.n :=
  rfl

@[simp]
theorem zero_sx : (0 : SuffStats).sx = 0 :=
  rfl

@[simp]
theorem add_sx (first second : SuffStats) : (first + second).sx = first.sx + second.sx :=
  rfl

/-- The statistics of one transaction. -/
def ofTransaction (x y : ℚ) : SuffStats :=
  let inv := 1 / x
  let inv2 := inv * inv
  ⟨1, x, y, x * x, x * y, y * y, inv, inv2, y * inv, y * inv2, y * y * inv2⟩

/-- Rows with a volume have a volume together. -/
theorem sx_sumOf_pos {α : Type*} {value : α → SuffStats} {rows : List α} (nonempty : rows ≠ [])
    (positive : ∀ row ∈ rows, 0 < (value row).sx) : 0 < (sumOf value rows).sx := by
  induction rows with
  | nil => exact absurd rfl nonempty
  | cons first rest ih =>
      have firstPos := positive first List.mem_cons_self
      rw [sumOf_cons, add_sx]
      by_cases isLast : rest = []
      · rw [isLast, sumOf_nil, zero_sx, add_zero]
        exact firstPos
      · have restPos := ih isLast fun row listed => positive row (List.mem_cons_of_mem _ listed)
        exact add_pos firstPos restPos

end SuffStats

/-! ## Keys of a row -/

/-- The base-10 logarithmic bucket of an amount, ten for each decade.  The program keeps it
as a decimal string. -/
def amountBand [Rounding] (amount : ℚ) : Int :=
  if amount ≤ 0 then 0 else ⌊Rounding.log10 amount * 10⌋

/-- The first string occurs in the second one. -/
def contains (text pattern : String) : Bool :=
  text.toList.tails.any fun suffix => pattern.toList.isPrefixOf suffix

def fundingFromVariant (variant : String) : String :=
  let v := toAsciiLowercase variant
  if contains v "debit" then "debit"
  else if contains v "credit" then "credit"
  else ""

/-- The funding of the variant, or else the one that the interchange rate tells. -/
def resolveFunding (variant : String) (icBps : Option ℚ) : String :=
  if fundingFromVariant variant ≠ "" then fundingFromVariant variant
  else
    match icBps with
    | some bps =>
        if 0 < bps ∧ bps ≤ 25 then "debit"
        else if 25 < bps ∧ bps ≤ 60 then "credit"
        else if 60 < bps then "commercial"
        else ""
    | none => ""

/-- The rate in whole basis points. -/
def icBpsKey (bps : Option ℚ) : String :=
  match bps with
  | some value => if 0 < value then toString (round value) else ""
  | none => ""

/-- The leading digits of a card number, at most six. -/
def binKey (bin : String) : String :=
  String.ofList ((bin.toList.takeWhile Char.isDigit).take 6)

/-- A variant that does not tell its funding has the one of the rate. -/
example : resolveFunding "cartebancaire" (some 20) = "debit" ∧
    resolveFunding "cartebancaire" (some 30) = "credit" ∧
    resolveFunding "visastandarddebit" (some 90) = "debit" := by decide +kernel

end DecisionEngine.CostIngestion
