import DecisionEngine.CostIngestion.FitStorage
import DecisionEngine.CostIngestion.LineFit

/-!
# Clusters that one line fits

The query of the fit and the segmentation grade a line by formulas of their own.  Where both
have the same bands, a cluster with a good line has no tiers: the whole cluster is a good
piece, no partition has more good volume, and none has fewer pieces.
-/

namespace DecisionEngine.CostIngestion

open Database Map Regression Search

/-! ## Sums of transactions -/

/-- The statistics are those of some transactions. -/
def OfTransactions (stats : SuffStats) : Prop :=
  ∃ rows : List SettledFeeRow, (∀ row ∈ rows, 0 < row.gross) ∧
    sumOf SettledFeeRow.stats rows = stats

theorem ofTransactions_sumOf {α : Type*} {value : α → SuffStats} {inputs : List α}
    (each : ∀ input ∈ inputs, OfTransactions (value input)) :
    OfTransactions (sumOf value inputs) := by
  induction inputs with
  | nil => exact ⟨[], by simp, rfl⟩
  | cons input rest ih =>
      rw [List.forall_mem_cons] at each
      rcases each.1 with ⟨first, firstPos, isFirst⟩
      rcases ih each.2 with ⟨others, othersPos, isOthers⟩
      refine ⟨first ++ others, ?_, ?_⟩
      · intro row listed
        exact (List.mem_append.mp listed).elim (firstPos row) (othersPos row)
      · rw [sumOf_append, isFirst, isOthers, sumOf_cons]

section Transactions

variable {stats : SuffStats}

theorem OfTransactions.n_nonneg (ofRows : OfTransactions stats) : 0 ≤ stats.n := by
  rcases ofRows with ⟨rows, -, rfl⟩
  rw [n_sumOf]
  exact Nat.cast_nonneg _

theorem OfTransactions.sx_nonneg (ofRows : OfTransactions stats) : 0 ≤ stats.sx := by
  rcases ofRows with ⟨rows, positive, rfl⟩
  by_cases empty : rows = []
  · rw [empty]
    exact le_refl 0
  · exact (SuffStats.sx_sumOf_pos empty positive).le

end Transactions

section Query

variable [Rounding]

/-! ## The verdict on one line -/

variable {account : Account} {reportDate : Int} {rows : List DailyStat} {model : FeeModelRow}

variable {line : Line}

theorem slopeSe_of_fit {s : SuffStats} (fitted : fit s = some line) (enough : 2 < s.n) :
    line.slopeSe = some (Rounding.sqrt (max (s.syy - line.intercept * s.sy -
      line.slope * s.sxy) 0 / (s.n - 2) * s.n / (s.n * s.sxx - s.sx * s.sx)) * 10000) := by
  rw [fit, if_neg (not_lt.mpr enough.le)] at fitted
  dsimp only at fitted
  by_cases flat : s.n * s.sxx - s.sx * s.sx ≤ 0
  · rw [if_pos flat] at fitted
    cases fitted
  · rw [if_neg flat, if_pos enough, Option.some.injEq] at fitted
    rw [← fitted]

variable {bands : Bands}

variable {j : ℕ}

theorem entry_of_foldl_relax {previous : DpRow} {starts : List ℕ} {best : Option (ℚ × ℕ)}
    {found : ℚ × ℕ} (relaxed : starts.foldl (relax bands previous j) best = some found) :
    best = some found ∨ previous.entry found.2 ≠ none := by
  induction starts generalizing best with
  | nil => exact Or.inl relaxed
  | cons first rest ih =>
      rcases ih relaxed with atFirst | reached
      · by_cases kept : best = some found
        · exact Or.inl kept
        · right
          have isFirst := (relax_eq_some atFirst).resolve_left kept
          rw [isFirst]
          intro unreached
          rw [relax, unreached] at atFirst
          exact kept atFirst
      · exact Or.inr reached

/-- The last piece starts where the earlier ones end. -/
theorem entry_of_entry_succ {k : ℕ} {found : ℚ × ℕ}
    (isEntry : (dpRow bands (k + 1)).entry j = some found) :
    (dpRow bands k).entry found.2 ≠ none := by
  cases j with
  | zero => cases isEntry
  | succ j =>
      rw [DpRow.entry, dpRow, nextRow, List.getD_cons_succ, List.getD_eq_getElem?_getD,
        List.getElem?_map] at isEntry
      by_cases inside : j < bands.length
      · rw [List.getElem?_range inside, Option.map_some, Option.getD_some] at isEntry
        exact (entry_of_foldl_relax isEntry).resolve_left (Option.some_ne_none found).symm
      · rw [List.getElem?_eq_none (by simpa using inside)] at isEntry
        cases isEntry

theorem entry_dpRow_zero (reached : (dpRow bands 0).entry j ≠ none) :
    j = 0 := by
  cases j with
  | zero => rfl
  | succ j =>
      exfalso
      apply reached
      rw [DpRow.entry, dpRow, List.getD_cons_succ, List.getD_eq_getElem?_getD,
        List.getElem?_replicate]
      split
      · rfl
      · rfl

/-- The pieces up to a boundary share what lies below it. -/
theorem sum_parts_of_rebuild (measure : ℕ → ℚ) {k : ℕ} {parts : List (ℕ × ℕ)}
    (rebuilt : rebuild bands k j = some parts) (reached : (dpRow bands k).entry j ≠ none) :
    sumOf (fun part => measure part.2 - measure part.1) parts = measure j - measure 0 := by
  induction k generalizing j parts with
  | zero =>
      rw [entry_dpRow_zero reached]
      cases rebuilt
      exact (sub_self _).symm
  | succ k ih =>
      rw [rebuild] at rebuilt
      split at rebuilt
      · next residual i isEntry =>
          rcases Option.map_eq_some_iff.mp rebuilt with ⟨earlier, isEarlier, rfl⟩
          rw [sumOf_append, ih isEarlier (entry_of_entry_succ isEntry), sumOf_cons, sumOf_nil]
          ring
      · cases rebuilt

omit [Rounding] in
/-- The volume below a boundary grows with the boundary. -/
theorem sx_take_le (ofRows : ∀ band ∈ bands, OfTransactions band.2) {i : ℕ} (below : i ≤ j) :
    (sumBands (bands.take i)).sx ≤ (sumBands (bands.take j)).sx := by
  have split : bands.take j = bands.take i ++ (bands.take j).drop i := by
    have parts := (List.take_append_drop i (bands.take j)).symm
    rw [List.take_take, min_eq_left below] at parts
    exact parts
  have rest : OfTransactions (sumBands ((bands.take j).drop i)) :=
    ofTransactions_sumOf fun band listed =>
      ofRows band (List.mem_of_mem_take (List.mem_of_mem_drop listed))
  rw [split, sumBands, sumBands, sumOf_append, SuffStats.add_sx]
  exact le_add_of_nonneg_right rest.sx_nonneg

/-- The good volume of a partition is at most the volume. -/
theorem goodVolume_le (ofRows : ∀ band ∈ bands, OfTransactions band.2)
    {candidate : ℕ × List (ℕ × ℕ)} (listed : candidate ∈ partitionCandidates bands) :
    goodVolume bands candidate.2 ≤ (sumBands bands).sx := by
  rcases List.mem_filterMap.mp listed with ⟨k, -, isCandidate⟩
  rcases Option.map_eq_some_iff.mp isCandidate with ⟨parts, rebuilt, rfl⟩
  have reached : (dpRow bands (k + 1)).entry bands.length ≠ none := by
    intro unreached
    rw [rebuild, unreached] at rebuilt
    cases rebuilt
  have whole := sum_parts_of_rebuild (fun j => (sumBands (bands.take j)).sx) rebuilt reached
  rw [List.take_length, List.take_zero] at whole
  calc
    goodVolume bands parts ≤ sumOf (fun part : ℕ × ℕ =>
        (sumBands (bands.take part.2)).sx - (sumBands (bands.take part.1)).sx) parts := by
      apply List.sum_le_sum
      intro part isPart
      split
      · exact le_refl _
      · exact sub_nonneg.mpr (sx_take_le ofRows (lt_of_mem_rebuild rebuilt isPart).1.le)
    _ = (sumBands bands).sx := by
      rw [whole]
      exact sub_zero _

/-! ## The whole cluster as the only piece -/

omit [Rounding] in
theorem slice_all : slice bands 0 bands.length = bands := by
  rw [slice, List.take_length, List.drop_zero]

omit [Rounding] in
theorem rangeStats_all : rangeStats bands 0 bands.length = sumBands bands := by
  rw [rangeStats, List.take_length, List.take_zero]
  exact sub_zero _

variable {residual : ℚ}

/-- One piece up to a boundary starts at the first band. -/
theorem foldl_relax_zero (isCost : cost bands 0 j = some residual) (starts : ℕ) :
    (List.range (starts + 1)).foldl (relax bands (dpRow bands 0) j) none =
      some (0 + residual, 0) := by
  induction starts with
  | zero =>
      rw [List.range_one, List.foldl_cons, List.foldl_nil, relax, isCost]
      rfl
  | succ starts ih =>
      have unreached : (dpRow bands 0).entry (starts + 1) = none := by
        by_contra reached
        exact absurd (entry_dpRow_zero reached) (Nat.succ_ne_zero starts)
      rw [List.range_succ, List.foldl_append, ih, List.foldl_cons, List.foldl_nil, relax,
        unreached]

/-- The whole cluster is a partition if its line has an error. -/
theorem rebuild_one (nonempty : bands ≠ []) (isCost : cost bands 0 bands.length = some residual) :
    rebuild bands 1 bands.length = some [(0, bands.length)] := by
  have isEntry : (dpRow bands 1).entry bands.length = some (0 + residual, 0) := by
    cases isLength : bands.length with
    | zero => exact absurd (List.length_eq_zero_iff.mp isLength) nonempty
    | succ last =>
        rw [isLength] at isCost
        rw [DpRow.entry, dpRow, nextRow, List.getD_cons_succ, List.getD_eq_getElem?_getD,
          List.getElem?_map, isLength, List.getElem?_range (Nat.lt_succ_self last),
          Option.map_some, Option.getD_some, foldl_relax_zero isCost last]
  rw [rebuild, isEntry]
  rfl

omit [Rounding] in
theorem round_le_round {lower upper : ℚ} (below : lower ≤ upper) : round lower ≤ round upper := by
  rw [round_eq, round_eq]
  exact Int.floor_mono (add_le_add_left below _)

theorem partitionKey_le {candidate best : ℕ × List (ℕ × ℕ)}
    (lessVolume : goodVolume bands candidate.2 ≤ goodVolume bands best.2)
    (morePieces : best.1 ≤ candidate.1) :
    partitionKey bands candidate ≤ partitionKey bands best := by
  have rounded : (round (goodVolume bands candidate.2 * 100) : ℚ) / 100 ≤
      (round (goodVolume bands best.2 * 100) : ℚ) / 100 := by
    have ordered := round_le_round (mul_le_mul_of_nonneg_right lessVolume (by norm_num :
      (0 : ℚ) ≤ 100))
    have cast : (round (goodVolume bands candidate.2 * 100) : ℚ) ≤
        (round (goodVolume bands best.2 * 100) : ℚ) := by exact_mod_cast ordered
    linarith
  rw [partitionKey, partitionKey, Prod.Lex.toLex_le_toLex]
  rcases lt_or_eq_of_le rounded with less | same
  · exact Or.inl less
  · exact Or.inr ⟨same, by simpa using morePieces⟩

/-- A good piece of all bands is the best partition. -/
theorem segmentPartitions_of_good (ofRows : ∀ band ∈ bands, OfTransactions band.2)
    (nonempty : bands ≠ []) (isCost : cost bands 0 bands.length = some residual)
    (good : gradeSeg (sumBands bands) bands = .good) :
    segmentPartitions bands = [(0, bands.length)] := by
  have candidates : partitionCandidates bands = (1, [(0, bands.length)]) ::
      (List.range 4).filterMap fun k => (rebuild bands (k + 2) bands.length).map fun parts =>
        (k + 2, parts) := by
    have starts : List.range maxSegments = 0 :: (List.range 4).map Nat.succ := rfl
    rw [partitionCandidates, starts, List.filterMap_cons_some (b := (1, [(0, bands.length)])),
      List.filterMap_map]
    · rfl
    · rw [rebuild_one nonempty isCost]
      rfl
  have wholeVolume : goodVolume bands [(0, bands.length)] = (sumBands bands).sx := by
    rw [goodVolume, sumOf_cons, sumOf_nil, add_zero]
    dsimp only
    rw [rangeStats_all, slice_all, if_pos good, List.take_length, List.take_zero]
    exact sub_zero _
  have best : firstBest (partitionKey bands) (partitionCandidates bands) =
      some (1, [(0, bands.length)]) := by
    rw [firstBest_eq_some_iff, candidates, isFirstBest_cons]
    refine Or.inl ⟨rfl, fun other isOther => ?_⟩
    have isCandidate : other ∈ partitionCandidates bands :=
      candidates ▸ List.mem_cons_of_mem _ isOther
    have pieces : 1 ≤ other.1 := by
      rcases List.mem_filterMap.mp isCandidate with ⟨k, -, rebuilt⟩
      rcases Option.map_eq_some_iff.mp rebuilt with ⟨parts, -, rfl⟩
      exact Nat.succ_le_succ (Nat.zero_le k)
    apply partitionKey_le _ pieces
    rw [wholeVolume]
    exact goodVolume_le ofRows isCandidate
  rw [segmentPartitions, if_neg fun empty => nonempty (List.length_eq_zero_iff.mp empty), best]

variable {rows : List DailyStat}

variable {cluster : ClusterKey}

end Query

end DecisionEngine.CostIngestion
