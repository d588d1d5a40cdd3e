import DecisionEngine.CostIngestion.Types
import DecisionEngine.Search.FirstBest
import Mathlib.Data.List.Sort
import Mathlib.Data.Prod.Lex

/-!
# Segmentation of a cluster

A cluster that one line does not fit is cut into straight pieces over ranges of amounts.
The pieces are found from the sums of its amount bands by a dynamic program over the
boundaries between the bands.
-/

namespace DecisionEngine.CostIngestion

open Database Search

def bucketsPerDecade : ℚ := 10

/-- Transactions that a good line needs. -/
def minN : ℚ := 200

/-- The error of a good line, in basis points. -/
def maxBps : ℚ := 15

def maxSegments : ℕ := 5

/-- Transactions that a piece needs at all. -/
def segFloor : ℚ := 25

/-- The confidence interval of the slope for which few transactions are enough. -/
def l2MaxPctBpsCi : ℚ := 15

/-- The part of the volume that good pieces have in a recovery. -/
def minGoodVolumeFraction : ℚ := 9 / 10

inductive Verdict where
  | good
  | thin
  | nonLinear
  deriving DecidableEq

/-- A line over a range of amounts.  A piece that cannot be fitted has no line. -/
structure Segment where
  lo : ℚ
  hi : ℚ
  n : ℕ
  vol : ℚ
  pctBps : Option ℚ
  fixed : Option ℚ
  bpsRmse : Option ℚ
  verdict : Verdict
  deriving DecidableEq

/-- The amount bands of a cluster with their sums, ascending. -/
abbrev Bands := List (Int × SuffStats)

section Fit

variable [Rounding]

/-! ## Lines -/

/-- The amounts of a band. -/
def amtRange (band : Int) : ℚ × ℚ :=
  (Rounding.pow10 (band / bucketsPerDecade), Rounding.pow10 ((band + 1) / bucketsPerDecade))

def sumBands (bands : Bands) : SuffStats :=
  sumOf Prod.snd bands

/-- The proportional error of a line, in basis points. -/
def evalBps (a b : ℚ) (s : SuffStats) : Option ℚ :=
  if s.n ≤ 0 then none
  else
    let q := s.syyuu + a * a * s.suu + s.n * b * b - 2 * a * s.suuy - 2 * b * s.suy +
      2 * a * b * s.su
    some (Rounding.sqrt (max q 0 / s.n) * 10000)

structure Line where
  slope : ℚ
  intercept : ℚ
  bpsRmse : Option ℚ
  /-- The standard error of the slope in basis points, unless it is infinite. -/
  slopeSe : Option ℚ

/-- The line of least squares. -/
def fit (s : SuffStats) : Option Line :=
  if s.n < 2 then none
  else
    let denom := s.n * s.sxx - s.sx * s.sx
    if denom ≤ 0 then none
    else
      let slope := (s.n * s.sxy - s.sx * s.sy) / denom
      let intercept := (s.sy - slope * s.sx) / s.n
      let sse := s.syy - intercept * s.sy - slope * s.sxy
      some
        { slope
          intercept
          bpsRmse := evalBps intercept slope s
          slopeSe :=
            if 2 < s.n then
              some (Rounding.sqrt (max sse 0 / (s.n - 2) * s.n / denom) * 10000)
            else none }

/-- The amount for which both parts of the fee are the same. -/
def crossover (slope intercept : ℚ) : ℚ :=
  if slope ≤ 0 ∨ intercept ≤ 0 then 0 else intercept / slope

def absRms (s : SuffStats) (a b : ℚ) : Option ℚ :=
  if s.n ≤ 0 then none
  else
    let sse := s.syy - 2 * a * s.sy - 2 * b * s.sxy + s.n * a * a + 2 * a * b * s.sx +
      b * b * s.sxx
    some (Rounding.sqrt (max sse 0 / s.n))

variable (bands : Bands)

/-- The sums of the bands below the crossover, and of the others. -/
def splitRegime (astar : ℚ) : SuffStats × SuffStats :=
  (sumBands (bands.filter fun band => (amtRange band.1).2 ≤ astar),
    sumBands (bands.filter fun band => ¬ (amtRange band.1).2 ≤ astar))

/-- The proportional error where the fee is proportional. -/
def propBps (slope intercept : ℚ) : Option ℚ :=
  let astar := crossover slope intercept
  let (below, above) := splitRegime bands astar
  if 0 < above.n then evalBps intercept slope above
  else if 0 < below.n ∧ 0 < astar then
    (absRms below intercept slope).map fun rms => rms / astar * 10000
  else none

/-- The line is accurate where the fee is proportional. -/
def isAccurate (line : Line) : Bool :=
  (propBps bands line.slope line.intercept).any fun bps => bps ≤ maxBps

def gradeSeg (s : SuffStats) (bands : Bands) : Verdict :=
  if s.n < segFloor then .thin
  else
    match fit s with
    | none => .nonLinear
    | some line =>
        if ¬ isAccurate bands line then .nonLinear
        else if minN ≤ s.n then .good
        else if line.slopeSe.any fun se => 196 / 100 * se ≤ l2MaxPctBpsCi then .good
        else .thin

/-! ## Partitions -/

/-- The sums of the bands from one boundary to another. -/
def rangeStats (i j : ℕ) : SuffStats :=
  sumBands (bands.take j) - sumBands (bands.take i)

/-- The bands from one boundary to another. -/
def slice (i j : ℕ) : Bands :=
  (bands.take j).drop i

/-- The residual of a piece, unless it is infinite. -/
def cost (i j : ℕ) : Option ℚ :=
  let s := rangeStats bands i j
  if s.n < segFloor then none
  else ((fit s).bind Line.bpsRmse).map fun b => (b / 10000) ^ 2 * s.n

/-- The least residual up to each boundary, and where its last piece starts. -/
abbrev DpRow := List (Option (ℚ × ℕ))

def DpRow.entry (row : DpRow) (j : ℕ) : Option (ℚ × ℕ) :=
  row.getD j none

/-- Try a start of the last piece; of equal residuals the first stays. -/
def relax (previous : DpRow) (j : ℕ) (best : Option (ℚ × ℕ)) (i : ℕ) :
    Option (ℚ × ℕ) :=
  match previous.entry i, cost bands i j with
  | some (residual, _), some c =>
      if best.all fun entry => residual + c < entry.1 then some (residual + c, i) else best
  | _, _ => best

def nextRow (previous : DpRow) : DpRow :=
  none :: (List.range bands.length).map fun j =>
    (List.range (j + 1)).foldl (relax bands previous (j + 1)) none

/-- The row for a number of pieces. -/
def dpRow (bands : Bands) : ℕ → DpRow
  | 0 => some (0, 0) :: List.replicate bands.length none
  | k + 1 => nextRow bands (dpRow bands k)

/-- The pieces up to a boundary. -/
def rebuild (bands : Bands) : ℕ → ℕ → Option (List (ℕ × ℕ))
  | 0, _ => some []
  | k + 1, j =>
      match (dpRow bands (k + 1)).entry j with
      | some (_, i) => (rebuild bands k i).map fun parts => parts ++ [(i, j)]
      | none => none

/-- The volume of the good pieces. -/
def goodVolume (parts : List (ℕ × ℕ)) : ℚ :=
  sumOf (fun part : ℕ × ℕ =>
    if gradeSeg (rangeStats bands part.1 part.2) (slice bands part.1 part.2) = .good then
      (sumBands (bands.take part.2)).sx - (sumBands (bands.take part.1)).sx
    else 0) parts

/-- More good volume first, then fewer pieces. -/
def partitionKey (candidate : ℕ × List (ℕ × ℕ)) : ℚ ×ₗ ℤ :=
  toLex ((round (goodVolume bands candidate.2 * 100) : ℚ) / 100, -(candidate.1 : ℤ))

/-- The partitions with each number of pieces. -/
def partitionCandidates (bands : Bands) : List (ℕ × List (ℕ × ℕ)) :=
  (List.range maxSegments).filterMap fun k =>
    (rebuild bands (k + 1) bands.length).map fun parts => (k + 1, parts)

def segmentPartitions (bands : Bands) : List (ℕ × ℕ) :=
  if bands.length = 0 then []
  else
    match firstBest (partitionKey bands) (partitionCandidates bands) with
    | some candidate => candidate.2
    | none => [(0, bands.length)]

/-! ## Segments -/

def segmentOf (part : ℕ × ℕ) : Segment :=
  let own := slice bands part.1 part.2
  let seg := sumBands own
  let line := fit seg
  { lo := (amtRange (bands.getD part.1 0).1).1
    hi := (amtRange (bands.getD (part.2 - 1) 0).1).2
    n := ⌊seg.n⌋.toNat
    vol := seg.sx
    pctBps := line.map fun line => line.slope * 10000
    fixed := line.map Line.intercept
    bpsRmse := line.bind Line.bpsRmse
    verdict := gradeSeg seg own }

def segmentCluster (bands : Bands) : List Segment :=
  (segmentPartitions bands).map (segmentOf bands)

/-- At least two pieces, of which the good ones have nearly all of the volume. -/
def isCleanRecovery (segs : List Segment) : Bool :=
  if segs.length < 2 then false
  else
    let total := sumOf Segment.vol segs
    if total ≤ 0 then false
    else
      minGoodVolumeFraction ≤
        sumOf Segment.vol (segs.filter fun seg => seg.verdict = .good) / total

/-- The verdict on one line for the whole cluster. -/
def wholeClusterVerdict (bands : Bands) : Verdict :=
  let whole := sumBands bands
  if whole.n < minN then .thin
  else
    match fit whole with
    | none => .nonLinear
    | some line => if isAccurate bands line then .good else .nonLinear

/-- The segments of a cluster that one line does not fit, if they recover it. -/
def tiersOf (bands : Bands) : Option (List Segment) :=
  if wholeClusterVerdict bands = .good then none
  else if isCleanRecovery (segmentCluster bands) then some (segmentCluster bands)
  else none

/-! ## Pieces are ranges of bands -/

variable {previous : DpRow} {best : Option (ℚ × ℕ)} {found : ℚ × ℕ}

theorem relax_eq_some {bands : Bands} {j i : ℕ}
    (relaxed : relax bands previous j best i = some found) :
    best = some found ∨ found.2 = i := by
  unfold relax at relaxed
  split at relaxed
  · split at relaxed
    · cases relaxed
      exact Or.inr rfl
    · exact Or.inl relaxed
  · exact Or.inl relaxed

/-- The start that a loop finds is one that it tries. -/
theorem foldl_relax_eq_some {bands : Bands} {j : ℕ} {starts : List ℕ}
    (relaxed : starts.foldl (relax bands previous j) best = some found) :
    best = some found ∨ found.2 ∈ starts := by
  induction starts generalizing best with
  | nil => exact Or.inl relaxed
  | cons first rest ih =>
      rcases ih relaxed with atFirst | later
      · rcases relax_eq_some atFirst with before | isFirst
        · exact Or.inl before
        · exact Or.inr (isFirst ▸ List.mem_cons_self)
      · exact Or.inr (List.mem_cons_of_mem first later)

theorem DpRow.entry_nextRow_eq_some {bands : Bands} {j : ℕ}
    (isEntry : (nextRow bands previous).entry j = some found) :
    found.2 < j ∧ j ≤ bands.length := by
  cases j with
  | zero => cases isEntry
  | succ j =>
      rw [DpRow.entry, nextRow, List.getD_cons_succ] at isEntry
      rw [List.getD_eq_getElem?_getD, List.getElem?_map] at isEntry
      by_cases inside : j < bands.length
      · rw [List.getElem?_range inside, Option.map_some, Option.getD_some] at isEntry
        rcases foldl_relax_eq_some isEntry with impossible | tried
        · cases impossible
        · exact ⟨List.mem_range.mp tried, inside⟩
      · rw [List.getElem?_eq_none (by simpa using inside)] at isEntry
        cases isEntry

theorem lt_of_mem_rebuild {bands : Bands} {k j : ℕ} {parts : List (ℕ × ℕ)} {part : ℕ × ℕ}
    (rebuilt : rebuild bands k j = some parts) (listed : part ∈ parts) :
    part.1 < part.2 ∧ part.2 ≤ bands.length := by
  induction k generalizing j parts with
  | zero =>
      cases rebuilt
      cases listed
  | succ k ih =>
      rw [rebuild] at rebuilt
      split at rebuilt
      · next residual i isEntry =>
          rcases Option.map_eq_some_iff.mp rebuilt with ⟨earlier, isEarlier, rfl⟩
          rcases List.mem_append.mp listed with before | last
          · exact ih isEarlier before
          · rw [List.mem_singleton] at last
            rw [last]
            exact DpRow.entry_nextRow_eq_some isEntry
      · cases rebuilt

/-- Every piece has a band. -/
theorem lt_of_mem_segmentPartitions {bands : Bands} {part : ℕ × ℕ}
    (listed : part ∈ segmentPartitions bands) : part.1 < part.2 ∧ part.2 ≤ bands.length := by
  rw [segmentPartitions] at listed
  split at listed
  · cases listed
  · next nonempty =>
      split at listed
      · next candidate found =>
          have isCandidate := (firstBest_eq_some_iff.mp found).mem
          rcases List.mem_filterMap.mp isCandidate with ⟨k, -, rebuilt⟩
          rcases Option.map_eq_some_iff.mp rebuilt with ⟨parts, isRebuilt, rfl⟩
          exact lt_of_mem_rebuild isRebuilt listed
      · rw [List.mem_singleton] at listed
        rw [listed]
        exact ⟨Nat.pos_of_ne_zero nonempty, le_refl _⟩

/-- Segments of bands with a volume have a volume. -/
theorem vol_pos_of_mem_segmentCluster {bands : Bands} {segment : Segment}
    (positive : ∀ band ∈ bands, 0 < band.2.sx) (listed : segment ∈ segmentCluster bands) :
    0 < segment.vol := by
  rcases List.mem_map.mp listed with ⟨part, isPart, rfl⟩
  have bounds := lt_of_mem_segmentPartitions isPart
  apply SuffStats.sx_sumOf_pos
  · intro empty
    rw [slice, List.drop_eq_nil_iff, List.length_take, min_eq_left bounds.2] at empty
    exact absurd bounds.1 (not_lt.mpr empty)
  · intro band inSlice
    exact positive band (List.mem_of_mem_take (List.mem_of_mem_drop inSlice))

/-- A recovery has at least two pieces. -/
theorem tiersOf_eq_some {bands : Bands} {segs : List Segment} (tiers : tiersOf bands = some segs) :
    segs = segmentCluster bands ∧ 2 ≤ segs.length := by
  unfold tiersOf at tiers
  split at tiers
  · cases tiers
  · split at tiers
    · next clean =>
        cases tiers
        refine ⟨rfl, ?_⟩
        by_contra few
        rw [isCleanRecovery, if_pos (not_le.mp few)] at clean
        exact absurd clean Bool.false_ne_true
    · cases tiers

end Fit

end DecisionEngine.CostIngestion
