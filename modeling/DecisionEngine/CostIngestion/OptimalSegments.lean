import DecisionEngine.CostIngestion.SingleLine
import DecisionEngine.Search.LeastCut

/-!
# The partition of a cluster

The dynamic program finds, for each number of pieces, a partition of the bands with the least
residual.  Of these the one is chosen that has the most good volume in hundredths, and of those
with as much the one of the fewest pieces.  A cluster on one line is one piece with that line.
-/

namespace DecisionEngine.CostIngestion

open Database Regression Search

section Partition

variable [Rounding] {bands : Bands}

/-! ## The dynamic program -/

/-- What a start of the last piece would cost. -/
def startCost (bands : Bands) (previous : DpRow) (j i : ℕ) : Option ℚ :=
  (previous.entry i).bind fun entry => (cost bands i j).map fun c => entry.1 + c

theorem relax_eq_keepLeast (previous : DpRow) (j : ℕ) :
    relax bands previous j = keepLeast (startCost bands previous j) := by
  funext best i
  rw [relax, keepLeast, startCost]
  cases previous.entry i with
  | none => rfl
  | some entry =>
      cases cost bands i j with
      | none => rfl
      | some c => rfl

/-- The boundaries that are reached have a partition. -/
theorem rebuild_ne_none {k j : ℕ} (reached : (dpRow bands k).entry j ≠ none) :
    rebuild bands k j ≠ none := by
  induction k generalizing j with
  | zero => exact Option.some_ne_none []
  | succ k ih =>
      rcases Option.ne_none_iff_exists'.mp reached with ⟨⟨residual, i⟩, isEntry⟩
      have before := ih (entry_of_entry_succ isEntry)
      rw [rebuild, isEntry]
      simpa using before

/-- The least residual of a row together with its partition. -/
def rowPartition (bands : Bands) (k j : ℕ) : Option (ℚ × List (ℕ × ℕ)) :=
  ((dpRow bands k).entry j).map fun entry => (entry.1, (rebuild bands k j).getD [])

theorem entry_succ (bands : Bands) {k j : ℕ} (inRange : j ≤ bands.length) :
    (dpRow bands (k + 1)).entry j =
      (List.range j).foldl (keepLeast (startCost bands (dpRow bands k) j)) none := by
  cases j with
  | zero => rfl
  | succ j =>
      rw [DpRow.entry, dpRow, nextRow, List.getD_cons_succ, List.getD_eq_getElem?_getD,
        List.getElem?_map, List.getElem?_range (Nat.lt_of_succ_le inRange), Option.map_some,
        Option.getD_some, relax_eq_keepLeast]

/-- The last piece is put after the partition up to its start. -/
theorem rowPartition_succ (k j : ℕ) :
    rowPartition bands (k + 1) j = ((dpRow bands (k + 1)).entry j).bind fun found =>
      (rowPartition bands k found.2).map fun entry => (found.1, entry.2 ++ [(found.2, j)]) := by
  cases isEntry : (dpRow bands (k + 1)).entry j with
  | none => rw [rowPartition, isEntry, Option.map_none, Option.bind_none]
  | some found =>
      have reached := entry_of_entry_succ isEntry
      rcases Option.ne_none_iff_exists'.mp reached with ⟨entry, isEarlier⟩
      rcases Option.ne_none_iff_exists'.mp (rebuild_ne_none reached) with ⟨parts, isParts⟩
      rw [rowPartition, isEntry, Option.map_some, Option.bind_some, rowPartition, isEarlier,
        Option.map_some, Option.map_some, isParts, rebuild, isEntry]
      dsimp only
      rw [isParts, Option.map_some, Option.getD_some, Option.getD_some]

/-- Every entry of a row is of the least residual. -/
theorem isLeastEntry_rowPartition (bands : Bands) {k j : ℕ} (inRange : j ≤ bands.length) :
    IsLeastEntry (cost bands) k j (rowPartition bands k j) := by
  induction k generalizing j with
  | zero =>
      cases j with
      | zero => exact isLeastEntry_zero
      | succ j =>
          have unreached : (dpRow bands 0).entry (j + 1) = none := by
            by_contra reached
            exact absurd (entry_dpRow_zero reached) (Nat.succ_ne_zero j)
          rw [rowPartition, unreached]
          exact isLeastEntry_zero_succ j
  | succ k ih =>
      have best := isLeastOf_foldl_keepLeast (startCost bands (dpRow bands k) j) (List.range j)
      rw [← entry_succ bands inRange] at best
      have sameCost : (fun start => (rowPartition bands k start).bind fun entry =>
          (cost bands start j).map fun c => entry.1 + c) =
            startCost bands (dpRow bands k) j := by
        funext start
        rw [rowPartition, Option.bind_map]
        rfl
      rw [rowPartition_succ]
      exact isLeastEntry_succ (fun start before => ih (before.le.trans inRange))
        (sameCost ▸ best)

/-! ## Admissible partitions -/

/-- Every piece has enough transactions and a line. -/
def Admissible (bands : Bands) (parts : List (ℕ × ℕ)) : Prop :=
  ∀ part ∈ parts, segFloor ≤ (sumBands (slice bands part.1 part.2)).n ∧
    (fit (sumBands (slice bands part.1 part.2))).isSome

/-- The residuals of the pieces together. -/
def residual (bands : Bands) (parts : List (ℕ × ℕ)) : ℚ :=
  totalCost (cost bands) parts

omit [Rounding] in
theorem rangeStats_eq_sumBands (bands : Bands) {i j : ℕ} (below : i ≤ j) :
    rangeStats bands i j = sumBands (slice bands i j) := by
  have split : bands.take j = bands.take i ++ (bands.take j).drop i := by
    have parts := (List.take_append_drop i (bands.take j)).symm
    rw [List.take_take, min_eq_left below] at parts
    exact parts
  rw [rangeStats, split, sumBands, sumOf_append, slice]
  exact add_sub_cancel_left _ _

theorem isSome_cost_iff (bands : Bands) {i j : ℕ} (below : i ≤ j) :
    (cost bands i j).isSome ↔ segFloor ≤ (sumBands (slice bands i j)).n ∧
      (fit (sumBands (slice bands i j))).isSome := by
  rw [cost, rangeStats_eq_sumBands bands below]
  by_cases few : (sumBands (slice bands i j)).n < segFloor
  · rw [if_pos few]
    exact iff_of_false (by simp) fun both => absurd both.1 (not_le.mpr few)
  · rw [if_neg few, Option.isSome_map, and_iff_right (not_lt.mp few)]
    cases fitted : fit (sumBands (slice bands i j)) with
    | none => rfl
    | some line =>
        have many : ¬(sumBands (slice bands i j)).n ≤ 0 := by
          have floor := not_lt.mp few
          rw [segFloor] at floor
          linarith
        rw [Option.bind_some, (fit_eq_some fitted).2.2, evalBps, if_neg many]
        rfl

/-- The partitions that the program can use are the admissible ones. -/
theorem usable_iff_admissible {stop : ℕ} {parts : List (ℕ × ℕ)} (cuts : Cuts stop parts) :
    Usable (cost bands) parts ↔ Admissible bands parts :=
  forall₂_congr fun _ listed => isSome_cost_iff bands (cuts.lt_of_mem listed).1.le

variable (bands) in
/-- An admissible partition of the bands into some number of pieces with the least residual. -/
structure IsLeastPartition (pieces : ℕ) (parts : List (ℕ × ℕ)) : Prop where
  cuts : Cuts bands.length parts
  count : parts.length = pieces
  admissible : Admissible bands parts
  least : ∀ other, Cuts bands.length other → other.length = pieces → Admissible bands other →
    residual bands parts ≤ residual bands other

/-- The candidate for a number of pieces has the least residual. -/
theorem isLeastPartition_of_rebuild {k : ℕ} {parts : List (ℕ × ℕ)}
    (rebuilt : rebuild bands (k + 1) bands.length = some parts) :
    IsLeastPartition bands (k + 1) parts := by
  have entry := isLeastEntry_rowPartition bands (k := k + 1) (le_refl bands.length)
  cases isEntry : (dpRow bands (k + 1)).entry bands.length with
  | none =>
      rw [rebuild, isEntry] at rebuilt
      cases rebuilt
  | some found =>
      rw [rowPartition, isEntry, rebuilt] at entry
      rcases entry with ⟨least, -⟩
      refine ⟨least.cuts, least.count, (usable_iff_admissible least.cuts).mp least.usable, ?_⟩
      intro other cuts count admissible
      exact least.least other cuts count ((usable_iff_admissible cuts).mpr admissible)

/-- There is a candidate wherever there is an admissible partition. -/
theorem not_admissible_of_rebuild {k : ℕ}
    (rebuilt : rebuild bands (k + 1) bands.length = none) (parts : List (ℕ × ℕ))
    (cuts : Cuts bands.length parts) (count : parts.length = k + 1) :
    ¬Admissible bands parts := by
  have entry := isLeastEntry_rowPartition bands (k := k + 1) (le_refl bands.length)
  have unreached : (dpRow bands (k + 1)).entry bands.length = none := by
    by_contra reached
    exact rebuild_ne_none reached rebuilt
  rw [rowPartition, unreached] at entry
  rw [← usable_iff_admissible cuts]
  exact entry parts cuts count

/-! ## The choice of the number of pieces -/

/-- A volume in hundredths. -/
def hundredths (volume : ℚ) : ℚ :=
  (round (volume * 100) : ℚ) / 100

theorem partitionKey_le_iff {candidate best : ℕ × List (ℕ × ℕ)} :
    partitionKey bands candidate ≤ partitionKey bands best ↔
      hundredths (goodVolume bands candidate.2) < hundredths (goodVolume bands best.2) ∨
        hundredths (goodVolume bands candidate.2) = hundredths (goodVolume bands best.2) ∧
          best.1 ≤ candidate.1 := by
  rw [partitionKey, partitionKey, Prod.Lex.toLex_le_toLex, ← hundredths, ← hundredths]
  simp

variable (bands) in
/-- The candidates for each number of pieces are admissible and of the least residual, and one
of them is chosen, of the most good volume in hundredths and then of the fewest pieces. -/
structure IsChosen (parts : List (ℕ × ℕ)) : Prop where
  cuts : Cuts bands.length parts
  atMost : parts.length ≤ maxSegments
  candidate_or_fallback :
    rebuild bands parts.length bands.length = some parts ∧
        IsLeastPartition bands parts.length parts ∨
      parts = [(0, bands.length)] ∧ ∀ other, Cuts bands.length other →
        other.length ≤ maxSegments → ¬Admissible bands other
  candidate_least : ∀ k < maxSegments, ∀ candidate,
    rebuild bands (k + 1) bands.length = some candidate →
      IsLeastPartition bands (k + 1) candidate
  candidate_exists : ∀ k < maxSegments, ∀ other, Cuts bands.length other →
    other.length = k + 1 → Admissible bands other →
      ∃ candidate, rebuild bands (k + 1) bands.length = some candidate
  best : ∀ k < maxSegments, ∀ candidate,
    rebuild bands (k + 1) bands.length = some candidate →
      hundredths (goodVolume bands candidate) < hundredths (goodVolume bands parts) ∨
        hundredths (goodVolume bands candidate) = hundredths (goodVolume bands parts) ∧
          parts.length ≤ k + 1

theorem mem_partitionCandidates {candidate : ℕ × List (ℕ × ℕ)} :
    candidate ∈ partitionCandidates bands ↔ ∃ k < maxSegments,
      candidate.1 = k + 1 ∧ rebuild bands (k + 1) bands.length = some candidate.2 := by
  rw [partitionCandidates, List.mem_filterMap]
  constructor
  · rintro ⟨k, inRange, isCandidate⟩
    rcases Option.map_eq_some_iff.mp isCandidate with ⟨parts, rebuilt, rfl⟩
    exact ⟨k, List.mem_range.mp inRange, rfl, rebuilt⟩
  · rintro ⟨k, inRange, count, rebuilt⟩
    refine ⟨k, List.mem_range.mpr inRange, ?_⟩
    rw [rebuilt, Option.map_some, ← count]

/-- Without candidates no partition is admissible. -/
theorem not_admissible_of_no_candidates (nonempty : bands ≠ [])
    (noCandidates : partitionCandidates bands = []) (other : List (ℕ × ℕ))
    (cuts : Cuts bands.length other) (atMost : other.length ≤ maxSegments) :
    ¬Admissible bands other := by
  cases count : other.length with
  | zero =>
      have noBands := (cuts.eq_zero count).1
      exact absurd (List.length_eq_zero_iff.mp noBands) nonempty
  | succ k =>
      rw [count] at atMost
      refine not_admissible_of_rebuild ?_ other cuts count
      by_contra rebuilt
      rcases Option.ne_none_iff_exists'.mp rebuilt with ⟨candidate, isCandidate⟩
      have listed : (k + 1, candidate) ∈ partitionCandidates bands :=
        mem_partitionCandidates.mpr ⟨k, atMost, rfl, isCandidate⟩
      rw [noCandidates] at listed
      cases listed

/-- The program chooses such a partition. -/
theorem isChosen_segmentPartitions (nonempty : bands ≠ []) :
    IsChosen bands (segmentPartitions bands) := by
  have candidate_least : ∀ k < maxSegments, ∀ candidate,
      rebuild bands (k + 1) bands.length = some candidate →
        IsLeastPartition bands (k + 1) candidate :=
    fun _ _ _ rebuilt => isLeastPartition_of_rebuild rebuilt
  have candidate_exists : ∀ k < maxSegments, ∀ other, Cuts bands.length other →
      other.length = k + 1 → Admissible bands other →
        ∃ candidate, rebuild bands (k + 1) bands.length = some candidate := by
    intro k _ other cuts count admissible
    refine Option.ne_none_iff_exists'.mp fun missing => ?_
    exact not_admissible_of_rebuild missing other cuts count admissible
  have length : bands.length ≠ 0 := fun empty => nonempty (List.length_eq_zero_iff.mp empty)
  rw [segmentPartitions, if_neg length]
  split
  · next candidate found =>
      have isBest := firstBest_eq_some_iff.mp found
      rcases mem_partitionCandidates.mp isBest.mem with ⟨k, inRange, count, rebuilt⟩
      have least := candidate_least k inRange _ rebuilt
      have chosen : rebuild bands candidate.2.length bands.length = some candidate.2 ∧
          IsLeastPartition bands candidate.2.length candidate.2 := by
        rw [least.count]
        exact ⟨rebuilt, least⟩
      refine ⟨least.cuts, ?_, Or.inl chosen, candidate_least, candidate_exists, ?_⟩
      · rw [least.count]
        exact inRange
      · intro other otherInRange parts otherRebuilt
        have listed : (other + 1, parts) ∈ partitionCandidates bands :=
          mem_partitionCandidates.mpr ⟨other, otherInRange, rfl, otherRebuilt⟩
        have better := partitionKey_le_iff.mp (isBest.le_of_mem listed)
        rw [least.count, ← count]
        exact better
  · next notFound =>
      have noCandidates := firstBest_eq_none_iff.mp notFound
      have none := not_admissible_of_no_candidates nonempty noCandidates
      have one : [(0, bands.length)].length ≤ maxSegments := by
        rw [List.length_singleton, maxSegments]
        decide
      refine ⟨.single (Nat.pos_of_ne_zero length), one, Or.inr ⟨rfl, none⟩, candidate_least,
        candidate_exists, ?_⟩
      intro k inRange candidate rebuilt
      have listed : (k + 1, candidate) ∈ partitionCandidates bands :=
        mem_partitionCandidates.mpr ⟨k, inRange, rfl, rebuilt⟩
      rw [noCandidates] at listed
      cases listed

end Partition

/-! ## Clusters on one line -/

/-- The sums of transactions on a line. -/
structure SuffStats.OnLine (intercept slope : ℚ) (s : SuffStats) : Prop where
  sy : s.sy = intercept * s.n + slope * s.sx
  sxy : s.sxy = intercept * s.sx + slope * s.sxx
  syy : s.syy = intercept * s.sy + slope * s.sxy
  suy : s.suy = intercept * s.su + slope * s.n
  suuy : s.suuy = intercept * s.suu + slope * s.su
  syyuu : s.syyuu = intercept * s.suuy + slope * s.suy

section OnLine

variable {intercept slope : ℚ}

theorem SuffStats.OnLine.zero : SuffStats.OnLine intercept slope 0 := by
  constructor <;> exact (by ring : (0 : ℚ) = intercept * 0 + slope * 0)

theorem SuffStats.OnLine.add {first second : SuffStats} (isFirst : first.OnLine intercept slope)
    (isSecond : second.OnLine intercept slope) : (first + second).OnLine intercept slope := by
  constructor
  · change first.sy + second.sy = intercept * (first.n + second.n) +
      slope * (first.sx + second.sx)
    linear_combination isFirst.sy + isSecond.sy
  · change first.sxy + second.sxy = intercept * (first.sx + second.sx) +
      slope * (first.sxx + second.sxx)
    linear_combination isFirst.sxy + isSecond.sxy
  · change first.syy + second.syy = intercept * (first.sy + second.sy) +
      slope * (first.sxy + second.sxy)
    linear_combination isFirst.syy + isSecond.syy
  · change first.suy + second.suy = intercept * (first.su + second.su) +
      slope * (first.n + second.n)
    linear_combination isFirst.suy + isSecond.suy
  · change first.suuy + second.suuy = intercept * (first.suu + second.suu) +
      slope * (first.su + second.su)
    linear_combination isFirst.suuy + isSecond.suuy
  · change first.syyuu + second.syyuu = intercept * (first.suuy + second.suuy) +
      slope * (first.suy + second.suy)
    linear_combination isFirst.syyuu + isSecond.syyuu

theorem SuffStats.OnLine.sumOf {α : Type*} {value : α → SuffStats} {inputs : List α}
    (each : ∀ input ∈ inputs, (value input).OnLine intercept slope) :
    (Database.sumOf value inputs).OnLine intercept slope := by
  induction inputs with
  | nil => exact .zero
  | cons input rest ih =>
      rw [List.forall_mem_cons] at each
      rw [sumOf_cons]
      exact each.1.add (ih each.2)

/-- The fee of a transaction is on the line. -/
theorem onLine_stats {row : SettledFeeRow} (positive : 0 < row.gross)
    (isFee : row.totalFee = intercept + slope * row.gross) :
    row.stats.OnLine intercept slope := by
  have nonzero := positive.ne'
  constructor <;> simp only [SettledFeeRow.stats, SuffStats.ofTransaction, isFee] <;>
    field_simp

/-- The line of transactions on a line. -/
theorem fit_of_onLine [Rounding] {s : SuffStats} (onLine : s.OnLine intercept slope)
    (enough : 2 ≤ s.n) (spread : 0 < s.n * s.sxx - s.sx * s.sx) :
    ∃ line, fit s = some line ∧ line.slope = slope ∧ line.intercept = intercept := by
  have hasLine : fit s ≠ none := by
    rw [Ne, fit_eq_none_iff, not_or, not_lt, not_le]
    exact ⟨enough, spread⟩
  rcases Option.ne_none_iff_exists'.mp hasLine with ⟨line, fitted⟩
  rcases fit_eq_some fitted with ⟨isSlope, isIntercept, -⟩
  have sameSlope : line.slope = slope := by
    rw [isSlope, div_eq_iff spread.ne', onLine.sxy, onLine.sy]
    ring
  refine ⟨line, fitted, sameSlope, ?_⟩
  rw [isIntercept, sameSlope, onLine.sy, div_eq_iff (by linarith)]
  ring

variable [Rounding]

/-- A line that the transactions are on has no error. -/
theorem evalBps_of_onLine (root : Rounding.sqrt 0 = 0) {s : SuffStats}
    (onLine : s.OnLine intercept slope) (positive : 0 < s.n) :
    evalBps intercept slope s = some 0 := by
  have noError : s.syyuu + intercept * intercept * s.suu + s.n * slope * slope -
      2 * intercept * s.suuy - 2 * slope * s.suy + 2 * intercept * slope * s.su = 0 := by
    linear_combination onLine.syyuu - intercept * onLine.suuy - slope * onLine.suy
  rw [evalBps, if_neg (not_le.mpr positive)]
  dsimp only
  rw [noError, max_self, zero_div, root, zero_mul]

theorem absRms_of_onLine (root : Rounding.sqrt 0 = 0) {s : SuffStats}
    (onLine : s.OnLine intercept slope) (positive : 0 < s.n) :
    absRms s intercept slope = some 0 := by
  have noError : s.syy - 2 * intercept * s.sy - 2 * slope * s.sxy + s.n * intercept * intercept +
      2 * intercept * slope * s.sx + slope * slope * s.sxx = 0 := by
    linear_combination onLine.syy - intercept * onLine.sy - slope * onLine.sxy
  rw [absRms, if_neg (not_le.mpr positive)]
  dsimp only
  rw [noError, max_self, zero_div, root]

variable {bands : Bands}

/-- A line that the transactions are on is accurate. -/
theorem propBps_of_onLine (root : Rounding.sqrt 0 = 0) (powers : ∀ x, 0 < Rounding.pow10 x)
    (onLine : ∀ band ∈ bands, band.2.OnLine intercept slope)
    (positive : 0 < (sumBands bands).n) : propBps bands slope intercept = some 0 := by
  have onPart : ∀ holds : Int × SuffStats → Bool,
      (sumBands (bands.filter holds)).OnLine intercept slope :=
    fun holds => SuffStats.OnLine.sumOf fun band listed =>
      onLine band (List.mem_of_mem_filter listed)
  have split : (sumBands bands).n =
      (sumBands (bands.filter fun band =>
        (amtRange band.1).2 ≤ crossover slope intercept)).n +
      (sumBands (bands.filter fun band =>
        ¬(amtRange band.1).2 ≤ crossover slope intercept)).n := by
    have perm := List.filter_append_perm
      (fun band : Int × SuffStats => decide ((amtRange band.1).2 ≤ crossover slope intercept)) bands
    rw [sumBands, ← sumOf_perm Prod.snd perm, sumOf_append, SuffStats.add_n]
    simp only [sumBands, decide_not]
  rw [propBps, splitRegime]
  dsimp only
  by_cases above : 0 < (sumBands (bands.filter fun band =>
      ¬(amtRange band.1).2 ≤ crossover slope intercept)).n
  · rw [if_pos above]
    exact evalBps_of_onLine root (onPart _) above
  · have below : 0 < (sumBands (bands.filter fun band =>
        (amtRange band.1).2 ≤ crossover slope intercept)).n := by linarith
    have crossed : 0 < crossover slope intercept := by
      by_contra notCrossed
      have noBands : (bands.filter fun band =>
          decide ((amtRange band.1).2 ≤ crossover slope intercept)) = [] := by
        rw [List.filter_eq_nil_iff]
        intro band _ within
        have upper := of_decide_eq_true within
        exact notCrossed (lt_of_lt_of_le (powers _) upper)
      rw [noBands] at below
      exact absurd below (lt_irrefl 0)
    rw [if_neg above, if_pos ⟨below, crossed⟩, absRms_of_onLine root (onPart _) below,
      Option.map_some, zero_div, zero_mul]

theorem gradeSeg_of_onLine (root : Rounding.sqrt 0 = 0) (powers : ∀ x, 0 < Rounding.pow10 x)
    (onLine : ∀ band ∈ bands, band.2.OnLine intercept slope)
    (enough : segFloor ≤ (sumBands bands).n)
    (spread : 0 < (sumBands bands).n * (sumBands bands).sxx -
      (sumBands bands).sx * (sumBands bands).sx) :
    gradeSeg (sumBands bands) bands = .good := by
  have whole : (sumBands bands).OnLine intercept slope := SuffStats.OnLine.sumOf onLine
  have floor : (25 : ℚ) ≤ (sumBands bands).n := enough
  rcases fit_of_onLine whole (by linarith) spread with ⟨line, fitted, rfl, rfl⟩
  have accurate : isAccurate bands line = true := by
    rw [isAccurate, propBps_of_onLine root powers onLine (by linarith), Option.any_some, maxBps]
    exact decide_eq_true (by norm_num)
  have noError : (sumBands bands).syy - line.intercept * (sumBands bands).sy -
      line.slope * (sumBands bands).sxy = 0 := by
    linear_combination whole.syy
  rw [gradeSeg, if_neg (not_lt.mpr enough), fitted]
  dsimp only
  rw [if_neg (not_not.mpr accurate)]
  split
  · rfl
  · rw [slopeSe_of_fit fitted (by linarith), noError, max_self, zero_div, zero_mul, zero_div, root]
    norm_num [l2MaxPctBpsCi]

/-- A cluster whose transactions are on a line is one good piece with that line. -/
theorem segmentCluster_of_onLine (root : Rounding.sqrt 0 = 0)
    (powers : ∀ x, 0 < Rounding.pow10 x) (ofRows : ∀ band ∈ bands, OfTransactions band.2)
    (onLine : ∀ band ∈ bands, band.2.OnLine intercept slope)
    (enough : segFloor ≤ (sumBands bands).n)
    (spread : 0 < (sumBands bands).n * (sumBands bands).sxx -
      (sumBands bands).sx * (sumBands bands).sx) :
    ∃ segment, segmentCluster bands = [segment] ∧
      segment.pctBps = some (slope * 10000) ∧ segment.fixed = some intercept ∧
      segment.verdict = .good := by
  have good := gradeSeg_of_onLine root powers onLine enough spread
  have floor : (25 : ℚ) ≤ (sumBands bands).n := enough
  have nonempty : bands ≠ [] := by
    rintro rfl
    exact absurd floor (by change ¬(25 : ℚ) ≤ 0; norm_num)
  have whole : (sumBands bands).OnLine intercept slope := SuffStats.OnLine.sumOf onLine
  rcases fit_of_onLine whole (by linarith) spread with ⟨line, fitted, isSlope, isIntercept⟩
  have hasCost : (cost bands 0 bands.length).isSome := by
    rw [isSome_cost_iff bands (Nat.zero_le _), slice_all]
    exact ⟨enough, by rw [fitted]; rfl⟩
  rcases Option.isSome_iff_exists.mp hasCost with ⟨residual, isCost⟩
  refine ⟨segmentOf bands (0, bands.length), ?_, ?_, ?_, ?_⟩
  · rw [segmentCluster, segmentPartitions_of_good ofRows nonempty isCost good, List.map_singleton]
  · rw [segmentOf, slice_all]
    change (fit (sumBands bands)).map _ = _
    rw [fitted, Option.map_some, isSlope]
  · rw [segmentOf, slice_all]
    change (fit (sumBands bands)).map _ = _
    rw [fitted, Option.map_some, isIntercept]
  · rw [segmentOf, slice_all]
    exact good

/-- The bands of the transactions that are in each of them. -/
def bandsOfGroups (groups : List (Int × List SettledFeeRow)) : Bands :=
  groups.map fun group => (group.1, sumOf SettledFeeRow.stats group.2)

omit [Rounding] in
theorem sumBands_bandsOfGroups (groups : List (Int × List SettledFeeRow)) :
    sumBands (bandsOfGroups groups) =
      sumOf SettledFeeRow.stats (groups.flatMap Prod.snd) := by
  induction groups with
  | nil => rfl
  | cons group rest ih =>
      rw [bandsOfGroups, List.map_cons, sumBands, sumOf_cons, List.flatMap_cons, sumOf_append,
        ← ih]
      rfl

/-- The partition of a cluster is optimal, and transactions on one line are one piece. -/
theorem segmentPartitions_optimal (root : Rounding.sqrt 0 = 0)
    (powers : ∀ x, 0 < Rounding.pow10 x) (nonempty : bands ≠ []) :
    IsChosen bands (segmentPartitions bands) ∧
      ∀ intercept slope groups, bands = bandsOfGroups groups →
        (∀ row ∈ groups.flatMap Prod.snd,
          0 < row.gross ∧ row.totalFee = intercept + slope * row.gross) →
        segFloor ≤ (groups.flatMap Prod.snd).length →
        (∃ first ∈ groups.flatMap Prod.snd, ∃ second ∈ groups.flatMap Prod.snd,
          first.gross ≠ second.gross) →
        ∃ segment, segmentCluster bands = [segment] ∧
          segment.pctBps = some (slope * 10000) ∧ segment.fixed = some intercept ∧
          segment.verdict = .good := by
  refine ⟨isChosen_segmentPartitions nonempty, ?_⟩
  rintro intercept slope groups rfl onLine enough ⟨first, isFirst, second, isSecond, different⟩
  have ofGroup : ∀ {group}, group ∈ groups → ∀ row ∈ group.2,
      row ∈ groups.flatMap Prod.snd :=
    fun listed row isRow => List.mem_flatMap.mpr ⟨_, listed, isRow⟩
  have spread : ¬fit (sumBands (bandsOfGroups groups)) = none := by
    rw [sumBands_bandsOfGroups, fit_sumOf_eq_none_iff]
    intro same
    exact different (same first isFirst second isSecond)
  rw [fit_eq_none_iff, not_or, not_le] at spread
  apply segmentCluster_of_onLine root powers _ _ _ spread.2
  · intro band listed
    rcases List.mem_map.mp listed with ⟨group, isGroup, rfl⟩
    exact ⟨group.2, fun row isRow => (onLine row (ofGroup isGroup row isRow)).1, rfl⟩
  · intro band listed
    rcases List.mem_map.mp listed with ⟨group, isGroup, rfl⟩
    refine SuffStats.OnLine.sumOf fun row isRow => ?_
    rcases onLine row (ofGroup isGroup row isRow) with ⟨positive, isFee⟩
    exact onLine_stats positive isFee
  · rw [sumBands_bandsOfGroups, n_sumOf]
    exact enough

end OnLine

theorem decimalPow10_pos (exponent : ℚ) : 0 < decimalPow10 exponent := by
  rw [decimalPow10]
  exact mul_pos (zpow_pos (by norm_num) _) (pow_pos (by norm_num) _)

/-- Roots with eight decimals. -/
local instance partitionRounding : Rounding := .decimal

/-- Many transactions of a few amounts. -/
def repeatedRows (slope : ℚ) (amounts : List ℚ) : List SettledFeeRow :=
  amounts.flatMap fun amount => List.replicate 13 (lineRow amount (slope * amount))

/-- Two bands on two lines, with a volume that is less than half of a hundredth. -/
def smallVolume : Bands :=
  bandsOfGroups [(-50, repeatedRows (1 / 10) [1 / 100000, 12 / 1000000]),
    (-49, repeatedRows (1 / 2) [13 / 1000000, 15 / 1000000])]

theorem segmentPartitions_optimal_smallVolume :
    IsChosen smallVolume (segmentPartitions smallVolume) ∧
      ∀ intercept slope groups, smallVolume = bandsOfGroups groups →
        (∀ row ∈ groups.flatMap Prod.snd,
          0 < row.gross ∧ row.totalFee = intercept + slope * row.gross) →
        segFloor ≤ (groups.flatMap Prod.snd).length →
        (∃ first ∈ groups.flatMap Prod.snd, ∃ second ∈ groups.flatMap Prod.snd,
          first.gross ≠ second.gross) →
        ∃ segment, segmentCluster smallVolume = [segment] ∧
          segment.pctBps = some (slope * 10000) ∧ segment.fixed = some intercept ∧
          segment.verdict = .good :=
  segmentPartitions_optimal (by decide +kernel) decimalPow10_pos (List.cons_ne_nil _ _)

/-- One piece without a good volume is chosen although two pieces are good. -/
theorem goodVolume_smallVolume_lt :
    (2, [(0, 1), (1, 2)]) ∈ partitionCandidates smallVolume ∧
      goodVolume smallVolume (segmentPartitions smallVolume) <
        goodVolume smallVolume [(0, 1), (1, 2)] := by
  decide +kernel

end DecisionEngine.CostIngestion
