import DecisionEngine.CostIngestion.Serving
import Mathlib.Algebra.Order.BigOperators.Group.List

/-!
# Assembled models

What is looked up in the models of a merchant, in terms of the rows that they are made of.
-/

namespace DecisionEngine.CostIngestion

open Database Map Search Text

/-! ## Averages -/

/-- The average of what was added up. -/
def averageCost (sums : CostSums) : ServingCost :=
  ⟨sums.1 / sums.2.2, sums.2.1 / sums.2.2⟩

theorem lookup_finalize (order : IterationOrder String CostSums) (sums : HashMap String CostSums)
    (key : String) :
    (finalize order sums).lookup key = (sums.lookup key).bind fun own =>
      if 0 < own.2.2 then some (averageCost own) else none := by
  rw [finalize, ← List.filterMap_eq_map, ← List.filterMap_eq_filter, List.filterMap_filterMap,
    lookup_collect_filterMap]
  · congr 1
    ext1 own
    by_cases weighted : 0 < own.2.2
    · simp [Option.guard, weighted, averageCost]
    · simp [Option.guard, weighted]
  · intro entry made isMade
    rcases Option.bind_eq_some_iff.mp isMade with ⟨own, isOwn, same⟩
    rw [Option.guard_eq_some_iff] at isOwn
    cases same
    rw [isOwn.1]

variable {α : Type*}

theorem sumOf_snd_snd (value : α → CostSums) (rows : List α) :
    (sumOf value rows).2.2 = sumOf (fun row => (value row).2.2) rows := by
  induction rows with
  | nil => rfl
  | cons row rest ih => rw [sumOf_cons, sumOf_cons, ← ih]; rfl

variable {rows : List α}

theorem sumOf_pos {value : α → ℚ} (nonempty : rows ≠ []) (positive : ∀ row ∈ rows, 0 < value row) :
    0 < sumOf value rows := by
  have terms : ∀ term ∈ rows.map value, 0 < term := by
    intro term isTerm
    rcases List.mem_map.mp isTerm with ⟨row, listed, rfl⟩
    exact positive row listed
  exact List.sum_pos _ terms (by simpa using nonempty)

theorem rowsOf_ne_nil {key : α → String} {value : String} (listed : value ∈ rows.map key) :
    rowsOf key rows value ≠ [] := by
  rcases List.mem_map.mp listed with ⟨row, isRow, isKey⟩
  exact List.ne_nil_of_mem (mem_rowsOf.mpr ⟨isRow, isKey⟩)

/-- A table of averages has the keys that were added to. -/
theorem lookup_finalize_accumulate (order : IterationOrder String CostSums) (key : α → String)
    (value : α → CostSums) (weighted : ∀ row ∈ rows, 0 < (value row).2.2) (group : String) :
    (finalize order (accumulate key value rows)).lookup group =
      if group ∈ rows.map key then some (averageCost (sumOf value (rowsOf key rows group)))
      else none := by
  rw [lookup_finalize, lookup_accumulate]
  by_cases listed : group ∈ rows.map key
  · have positive : 0 < (sumOf value (rowsOf key rows group)).2.2 := by
      rw [sumOf_snd_snd]
      exact sumOf_pos (rowsOf_ne_nil listed) fun row isRow => weighted row (mem_rowsOf.mp isRow).1
    rw [if_pos listed, if_pos listed, Option.bind_some, if_pos positive]
  · rw [if_neg listed, if_neg listed]
    rfl

theorem weighted_of_mem_weightedRows {merchantId : String} {rows : List CostRow} :
    ∀ row ∈ weightedRows merchantId rows, 0 < row.sums.2.2 := by
  intro row listed
  rw [weightedRows, List.mem_filter, decide_eq_true_eq] at listed
  exact listed.2.2

/-! ## Ladders -/

variable (pieces : List LadderPiece)

/-- The cluster has a good tier with volume. -/
def IsServed (key : String) : Prop :=
  key ∈ (blendPieces pieces).map LadderPiece.key

/-- The tiers of a cluster in the order in which they are read. -/
def ladderOf (key : String) : List ServingSegment :=
  (rowsOf LadderPiece.key pieces key).map LadderPiece.segment

/-- The rates of the good tiers of a cluster, added up. -/
def ladderSums (key : String) : CostSums :=
  sumOf LadderPiece.sums (rowsOf LadderPiece.key (blendPieces pieces) key)

theorem weighted_of_mem_blendPieces {pieces : List LadderPiece} :
    ∀ piece ∈ blendPieces pieces, 0 < piece.sums.2.2 := by
  intro piece listed
  rw [blendPieces, List.mem_filter, decide_eq_true_eq] at listed
  exact listed.2.2

variable {key : String}

theorem ladderSums_pos {pieces : List LadderPiece} (served : IsServed pieces key) :
    0 < (ladderSums pieces key).2.2 := by
  rw [ladderSums, sumOf_snd_snd]
  exact sumOf_pos (rowsOf_ne_nil served) fun piece listed =>
    weighted_of_mem_blendPieces piece (mem_rowsOf.mp listed).1

theorem ladderOf_ne_nil {pieces : List LadderPiece} (served : IsServed pieces key) :
    ladderOf pieces key ≠ [] := by
  rcases List.mem_map.mp served with ⟨piece, listed, isKey⟩
  have ofKey : piece ∈ rowsOf LadderPiece.key pieces key :=
    mem_rowsOf.mpr ⟨List.mem_of_mem_filter listed, isKey⟩
  exact List.ne_nil_of_mem (List.mem_map_of_mem ofKey)

theorem sortedLadder_eq (segments : List ServingSegment) :
    sortedLadder segments = sortBy ServingSegment.lo segments :=
  rfl

variable {ladder : SegmentedCost}

/-- The ladders are those of the clusters with a good tier, sorted. -/
theorem lookup_segmentsFromTsv {order : AssemblyOrder} {pieces : List LadderPiece} :
    (segmentsFromTsv order pieces).lookup key = some ladder ↔
      IsServed pieces key ∧ ladder.segments = sortedLadder (ladderOf pieces key) ∧
        ladder.blend = averageCost (ladderSums pieces key) ∧
        ladder.weight = (ladderSums pieces key).2.2 := by
  dsimp only [segmentsFromTsv]
  rw [lookup_collect_filterMap]
  · dsimp only
    rw [lookup_gather, lookup_finalize_accumulate order.sums _ _ weighted_of_mem_blendPieces key]
    by_cases served : IsServed pieces key
    · have listed : key ∈ pieces.map LadderPiece.key := by
        rcases List.mem_map.mp served with ⟨piece, isPiece, isKey⟩
        exact isKey ▸ List.mem_map_of_mem (List.mem_of_mem_filter isPiece)
      have nonempty : sortedLadder (ladderOf pieces key) ≠ [] := by
        rw [sortedLadder_eq, Ne, sortBy_eq_nil]
        exact ladderOf_ne_nil served
      have isBlend : key ∈ (blendPieces pieces).map LadderPiece.key := served
      rw [ladderOf] at nonempty
      rw [if_pos listed, Option.bind_some, if_pos isBlend, Option.bind_some, dif_pos nonempty,
        Option.map_some, lookup_accumulate, if_pos isBlend, Option.some.injEq,
        and_iff_right served]
      rcases ladder with ⟨segments, blend, weight, hasTier⟩
      rw [SegmentedCost.mk.injEq, eq_comm, @eq_comm _ _ blend, @eq_comm _ _ weight]
      rfl
    · have notBlend : key ∉ (blendPieces pieces).map LadderPiece.key := served
      rw [if_neg notBlend]
      constructor
      · intro found
        rcases Option.bind_eq_some_iff.mp found with ⟨segments, -, made⟩
        cases made
      · intro found
        exact absurd found.1 served
  · intro entry made isMade
    rcases Option.bind_eq_some_iff.mp isMade with ⟨blend, -, isPair⟩
    by_cases nonempty : sortedLadder entry.2 ≠ []
    · rw [dif_pos nonempty, Option.some.injEq] at isPair
      rw [← isPair]
    · rw [dif_neg nonempty] at isPair
      cases isPair

/-! ## Predictors -/

/-- The observations are enough for a prediction. -/
def IsSupported (seen : List PredictorRow) : Prop :=
  minSupport ≤ sumOf PredictorRow.c seen

variable (seen : List PredictorRow)

def timesSeen (category : String) : ℕ :=
  sumOf PredictorRow.c (rowsOf PredictorRow.icCategory seen category)

/-- No category was seen more often. -/
def IsModal (category : String) : Prop :=
  category ∈ seen.map PredictorRow.icCategory ∧
    ∀ other ∈ seen.map PredictorRow.icCategory, timesSeen seen other ≤ timesSeen seen category

/-- How often each category was seen. -/
def categoryCounts (seen : List PredictorRow) : HashMap String ℕ :=
  accumulate PredictorRow.icCategory PredictorRow.c seen

theorem categoryCounts_concat (last : PredictorRow) :
    categoryCounts (seen ++ [last]) = addAt (categoryCounts seen) last.icCategory last.c := by
  rw [categoryCounts, accumulate, List.foldl_append]
  rfl

variable {order : IterationOrder String ℕ}

theorem mem_entries_categoryCounts {seen : List PredictorRow} {entry : String × ℕ} :
    entry ∈ order.entries (categoryCounts seen) ↔
      entry.1 ∈ seen.map PredictorRow.icCategory ∧ entry.2 = timesSeen seen entry.1 := by
  rw [categoryCounts, (perm_entries_accumulate order _ _ seen).mem_iff, mem_groupSum, List.mem_map]
  rfl

theorem modalCategory_eq_none {seen : List PredictorRow} :
    modalCategory order (categoryCounts seen) = none ↔ ¬ IsSupported seen := by
  have total : sumOf Prod.snd (order.entries (categoryCounts seen)) = sumOf PredictorRow.c seen :=
    sumOf_entries_accumulate order _ _ seen
  rw [modalCategory, total, IsSupported, not_le]
  by_cases few : sumOf PredictorRow.c seen < minSupport
  · rw [if_pos few]
    exact iff_of_true rfl few
  · rw [if_neg few, Option.map_eq_none_iff, lastBest_eq_none_iff]
    apply iff_of_false _ few
    intro empty
    rw [empty] at total
    rw [← total] at few
    exact few (by decide)

variable {category : String}

/-- The category that is chosen was seen most often. -/
theorem isModal_of_modalCategory {seen : List PredictorRow}
    (chosen : modalCategory order (categoryCounts seen) = some category) :
    IsModal seen category := by
  rw [modalCategory] at chosen
  split at chosen
  · cases chosen
  · rcases Option.map_eq_some_iff.mp chosen with ⟨entry, isBest, rfl⟩
    rcases mem_of_lastBest isBest with ⟨listed, best⟩
    rcases mem_entries_categoryCounts.mp listed with ⟨isSeen, isCount⟩
    refine ⟨isSeen, fun other otherSeen => ?_⟩
    have notMore := best (other, timesSeen seen other)
      (mem_entries_categoryCounts.mpr ⟨otherSeen, rfl⟩)
    exact le_of_le_of_eq notMore isCount

/-- Every category that was seen most often is chosen in some order. -/
theorem exists_modalCategory {seen : List PredictorRow} (supported : IsSupported seen)
    (modal : IsModal seen category) :
    ∃ order : IterationOrder String ℕ,
      modalCategory order (categoryCounts seen) = some category := by
  have present : (categoryCounts seen).lookup category = some (timesSeen seen category) :=
    IterationOrder.mem_entries.mp
      (show (category, timesSeen seen category) ∈ IterationOrder.stored.entries
        (categoryCounts seen) from mem_entries_categoryCounts.mpr ⟨modal.1, rfl⟩)
  rcases IterationOrder.exists_concat present with ⟨order, before, isOrder⟩
  have enough : ¬ sumOf Prod.snd (order.entries (categoryCounts seen)) < minSupport := by
    rw [categoryCounts, sumOf_entries_accumulate, not_lt]
    exact supported
  refine ⟨order, ?_⟩
  rw [modalCategory, if_neg enough, isOrder, lastBest_concat]
  · rfl
  · intro other isOther
    have isEntry : other ∈ order.entries (categoryCounts seen) :=
      isOrder ▸ List.mem_append_left _ isOther
    rcases mem_entries_categoryCounts.mp isEntry with ⟨otherSeen, isCount⟩
    exact le_of_eq_of_le isCount (modal.2 other.1 otherSeen)

theorem lookup_predictorTable (order : AssemblyOrder)
    (counts : HashMap String (HashMap String ℕ)) (key : String) :
    (predictorTable order counts).lookup key =
      (counts.lookup key).bind (modalCategory (order.categories key)) := by
  rw [predictorTable, lookup_collect_filterMap]
  · congr 1
    ext1 categories
    rw [Option.map_map]
    exact Option.map_id'
  · intro entry made isMade
    rcases Option.map_eq_some_iff.mp isMade with ⟨category, -, rfl⟩
    rfl

theorem findSome?_range_eq_some {value : ℕ → Option α} {n : ℕ} {found : α} :
    (List.range n).findSome? value = some found ↔
      ∃ index < n, value index = some found ∧ ∀ earlier < index, value earlier = none := by
  induction n with
  | zero => simp
  | succ n ih =>
      rw [List.range_succ, List.findSome?_append, Option.or_eq_some_iff, ih,
        List.findSome?_eq_none_iff]
      constructor
      · rintro (⟨index, inside, isFound, isFirst⟩ | ⟨noneBefore, last⟩)
        · exact ⟨index, by omega, isFound, isFirst⟩
        · refine ⟨n, by omega, by simpa using last, ?_⟩
          exact fun earlier before => noneBefore earlier (List.mem_range.mpr before)
      · rintro ⟨index, inside, isFound, isFirst⟩
        by_cases isLast : index = n
        · right
          rw [← isLast]
          refine ⟨fun earlier before => isFirst earlier (List.mem_range.mp before), ?_⟩
          simpa using isFound
        · exact Or.inl ⟨index, by omega, isFound, isFirst⟩

section Assembly

variable [LetterCase]

def PredictorRow.levelKey (level : ℕ) (row : PredictorRow) : String :=
  row.levelKeys.getD level ""

/-- The observations under a key of a level. -/
def observed (rows : List PredictorRow) (level : ℕ) (key : String) : List PredictorRow :=
  rowsOf (PredictorRow.levelKey level) rows key

theorem lookup_levelCounts (level : ℕ) (rows : List PredictorRow) (key : String) :
    (levelCounts level rows).lookup key =
      if key ∈ rows.map (PredictorRow.levelKey level) then
        some (categoryCounts (observed rows level key))
      else none := by
  induction rows using List.reverseRecOn with
  | nil => rfl
  | append_singleton rest last ih =>
      have step : levelCounts level (rest ++ [last]) =
          addCategory (levelCounts level rest) (last.levelKey level) last := by
        rw [levelCounts, List.foldl_append]
        rfl
      have listed : key ∈ (rest ++ [last]).map (PredictorRow.levelKey level) ↔
          key ∈ rest.map (PredictorRow.levelKey level) ∨ key = last.levelKey level := by
        rw [List.map_append, List.mem_append, List.map_singleton, List.mem_singleton]
      rw [step, addCategory, observed, rowsOf_append]
      by_cases isLast : key = last.levelKey level
      · have ofLast : rowsOf (PredictorRow.levelKey level) [last] key = [last] := by
          rw [rowsOf, List.filter_cons_of_pos (by simpa using isLast.symm), List.filter_nil]
        rw [if_pos (listed.mpr (Or.inr isLast)), ofLast, isLast, AList.lookup_insert, ← isLast, ih,
          categoryCounts_concat]
        by_cases earlier : key ∈ rest.map (PredictorRow.levelKey level)
        · rw [if_pos earlier]
          rfl
        · rw [if_neg earlier, rowsOf_eq_nil earlier]
          rfl
      · have ofLast : rowsOf (PredictorRow.levelKey level) [last] key = [] := by
          rw [rowsOf, List.filter_cons_of_neg (by simpa using Ne.symm isLast), List.filter_nil]
        rw [AList.lookup_insert_ne isLast, ih, ofLast, List.append_nil]
        by_cases earlier : key ∈ rest.map (PredictorRow.levelKey level)
        · rw [if_pos earlier, if_pos (listed.mpr (Or.inl earlier))]
          rfl
        · rw [if_neg earlier, if_neg fun either => (listed.mp either).elim earlier isLast]

/-- What a level predicts for a key. -/
theorem lookup_level (order : AssemblyOrder) (rows : List PredictorRow) (level : ℕ)
    (key : String) :
    (predictorTable order (levelCounts level rows)).lookup key =
      modalCategory (order.categories key) (categoryCounts (observed rows level key)) := by
  rw [lookup_predictorTable, lookup_levelCounts]
  by_cases listed : key ∈ rows.map (PredictorRow.levelKey level)
  · rw [if_pos listed, Option.bind_some]
  · rw [if_neg listed, observed, rowsOf_eq_nil listed]
    exact (modalCategory_eq_none.mpr (by rw [IsSupported]; decide)).symm

theorem predictCategory_predictorTables (order : AssemblyOrder) (rows : List PredictorRow)
    (models : MerchantModels) (assembled : models.predictor = predictorTables order rows)
    (network variant funding issuer : String) (band : Int) (channel : String) :
    predictCategory models network variant funding issuer band channel =
      (List.range predictorLevels).findSome? fun level =>
        (predictorTable order (levelCounts level rows)).lookup
          ((predictorLevelKeys network variant funding issuer band channel).getD level "") := by
  rw [predictCategory, assembled, predictorTables]
  by_cases empty : rows = []
  · have noTable : ∀ level key,
        (predictorTable order (levelCounts level rows)).lookup key = none := by
      intro level key
      rw [lookup_predictorTable, lookup_levelCounts, empty]
      rfl
    rw [if_pos (List.isEmpty_iff.mpr empty), List.zip_nil_right]
    symm
    rw [List.findSome?_eq_none_iff.mpr fun level _ => noTable level _]
    rfl
  · rw [if_neg fun isEmpty => empty (List.isEmpty_iff.mp isEmpty)]
    rfl

end Assembly

/-! ## Blends -/

/-- A model of the first key is blended under the second one. -/
def BlendedUnder (key group : String) : Prop :=
  ∃ display product, rsplitOnce '|' key = some (display, product) ∧
    (display = group ∨ withoutVariant display = some group)

variable {member : Member}

theorem mem_pushes {group : String} :
    group ∈ member.pushes.map Prod.fst ↔
      0 < member.w ∧
        (member.displayKey = group ∨ withoutVariant member.displayKey = some group) := by
  rw [Member.pushes]
  by_cases weightless : member.w ≤ 0
  · rw [if_pos weightless]
    exact iff_of_false List.not_mem_nil fun both => absurd both.1 (not_lt.mpr weightless)
  · rw [if_neg weightless, and_iff_right (not_le.mp weightless), List.map_append, List.mem_append,
      List.map_map, or_comm, List.map_singleton, List.mem_singleton, eq_comm]
    apply or_congr_right
    cases withoutVariant member.displayKey with
    | none => simp
    | some key => simp [eq_comm]

theorem weight_pos_of_mem_pushes {push : String × ℚ × MemberCost} (listed : push ∈ member.pushes) :
    0 < push.2.1 ∧ push.2.1 = member.w := by
  rw [Member.pushes] at listed
  split at listed
  · cases listed
  · rename_i weighted
    have isWeight : push.2.1 = member.w := by
      rcases List.mem_append.mp listed with isBlanked | isDisplay
      · rcases List.mem_map.mp isBlanked with ⟨key, -, rfl⟩
        rfl
      · rw [List.mem_singleton.mp isDisplay]
    exact ⟨isWeight ▸ not_le.mp weighted, isWeight⟩

variable (value : MemberCost → ℚ)

/-- What a member adds to a sum over the members of a group. -/
def Member.share (group : String) (member : Member) : ℚ :=
  sumOf (fun push => value push.2.2 * push.2.1) (rowsOf Prod.fst member.pushes group)

/-- A sum over the members of a group. -/
def blendTotal (group : String) (members : List Member) : ℚ :=
  sumOf (Member.share value group) members

theorem sumOf_flatMap {α β : Type*} (value : β → ℚ) (rowsOfInput : α → List β)
    (inputs : List α) : sumOf value (inputs.flatMap rowsOfInput) =
      sumOf (fun input => sumOf value (rowsOfInput input)) inputs := by
  induction inputs with
  | nil => rfl
  | cons input rest ih => rw [List.flatMap_cons, sumOf_append, sumOf_cons, ih]

theorem sumOf_rowsOf_pushes (group : String) (members : List Member) :
    sumOf (fun push => value push.2.2 * push.2.1)
      (rowsOf Prod.fst (members.flatMap Member.pushes) group) =
      blendTotal value group members := by
  rw [rowsOf, List.filter_flatMap, sumOf_flatMap]
  rfl

/-- The price of a group: the average over its members. -/
def blendCost (amount : ℚ) (group : String) (members : List Member) : ServingCost :=
  ⟨blendTotal (fun cost => (cost.forAmount amount).pctBps) group members /
      blendTotal (fun _ => 1) group members,
    blendTotal (fun cost => (cost.forAmount amount).fixed) group members /
      blendTotal (fun _ => 1) group members⟩

theorem lookup_fineBlends (order : AssemblyOrder) (members : List Member) (group : String) :
    (fineBlends order members).lookup group =
      if group ∈ (members.flatMap Member.pushes).map Prod.fst then
        some (blendOf ((rowsOf Prod.fst (members.flatMap Member.pushes) group).map Prod.snd))
      else none := by
  dsimp only [fineBlends]
  rw [← List.filterMap_eq_map, lookup_collect_filterMap, lookup_gather]
  · split
    · rfl
    · rfl
  · intro entry made isMade
    cases isMade
    rfl

theorem blendTotal_pos {members : List Member} {group : String}
    (listed : group ∈ (members.flatMap Member.pushes).map Prod.fst) :
    0 < blendTotal (fun _ => 1) group members := by
  rw [← sumOf_rowsOf_pushes]
  apply sumOf_pos (rowsOf_ne_nil listed)
  intro push isPush
  rcases List.mem_flatMap.mp (mem_rowsOf.mp isPush).1 with ⟨member, -, isPushed⟩
  rw [one_mul]
  exact (weight_pos_of_mem_pushes isPushed).1

/-- What a group is priced at. -/
theorem forAmount_fineBlends (order : AssemblyOrder) (members : List Member) (group : String)
    (amount : ℚ) :
    ((fineBlends order members).lookup group).map (fun blend => blend.forAmount amount) =
      if group ∈ (members.flatMap Member.pushes).map Prod.fst then
        some (blendCost amount group members)
      else none := by
  rw [lookup_fineBlends]
  by_cases listed : group ∈ (members.flatMap Member.pushes).map Prod.fst
  · have total : sumOf Prod.fst
        ((rowsOf Prod.fst (members.flatMap Member.pushes) group).map Prod.snd) =
        blendTotal (fun _ => 1) group members := by
      rw [← sumOf_rowsOf_pushes, sumOf, sumOf, List.map_map]
      simp only [one_mul, Function.comp_def]
    have sums : ∀ value : MemberCost → ℚ,
        sumOf (fun member : ℚ × MemberCost => value member.2 * member.1)
          ((rowsOf Prod.fst (members.flatMap Member.pushes) group).map Prod.snd) =
          blendTotal value group members := by
      intro value
      rw [← sumOf_rowsOf_pushes, sumOf, sumOf, List.map_map]
      rfl
    have weighted : ¬ (blendOf ((rowsOf Prod.fst (members.flatMap Member.pushes) group).map
        Prod.snd)).totalWeight ≤ 0 :=
      not_le.mpr (lt_of_lt_of_eq (blendTotal_pos listed) total.symm)
    rw [if_pos listed, if_pos listed, Option.map_some, FineBlend.forAmount, if_neg weighted]
    dsimp only [blendOf]
    rw [total, sums fun cost => (cost.forAmount amount).pctBps,
      sums fun cost => (cost.forAmount amount).fixed]
    rfl
  · rw [if_neg listed, if_neg listed]
    rfl

/-! ## Members -/

def weightOf (weights : HashMap String CostSums) (key : String) : ℚ :=
  ((weights.lookup key).map fun sums => sums.2.2).getD 0

/-- The member that a single line is. -/
def fineMember (weights : HashMap String CostSums) (entry : String × ServingCost) :
    Option Member :=
  (rsplitOnce '|' entry.1).map fun display =>
    ⟨display.1, weightOf weights entry.1, .flat entry.2⟩

/-- The member that a ladder is. -/
def ladderMember (entry : String × SegmentedCost) : Option Member :=
  (rsplitOnce '|' entry.1).map fun display => ⟨display.1, entry.2.weight, .tiered entry.2⟩

variable {order : AssemblyOrder} {weights : HashMap String CostSums}
  {fine : HashMap String ServingCost} {segmented : HashMap String SegmentedCost} {group : String}

theorem blendTotal_blendMembers :
    blendTotal value group (blendMembers order weights fine segmented) =
      sumOf (fun entry => (fineMember weights entry).elim 0 (Member.share value group))
          (order.fine.entries fine) +
        sumOf (fun entry => (ladderMember entry).elim 0 (Member.share value group))
          (order.segmented.entries segmented) := by
  rw [← sumOf_filterMap, ← sumOf_filterMap, ← sumOf_append]
  rfl

/-- The groups that have a member. -/
theorem mem_groups_blendMembers :
    group ∈ ((blendMembers order weights fine segmented).flatMap Member.pushes).map Prod.fst ↔
      ∃ key, BlendedUnder key group ∧
        ((∃ cost, fine.lookup key = some cost ∧ 0 < weightOf weights key) ∨
          ∃ ladder, segmented.lookup key = some ladder ∧ 0 < ladder.weight) := by
  have ofMember : group ∈ ((blendMembers order weights fine segmented).flatMap
      Member.pushes).map Prod.fst ↔
      ∃ member ∈ blendMembers order weights fine segmented,
        group ∈ member.pushes.map Prod.fst := by
    rw [List.map_flatMap, List.mem_flatMap]
  have isMember : ∀ member, member ∈ blendMembers order weights fine segmented ↔
      (∃ entry ∈ order.fine.entries fine, fineMember weights entry = some member) ∨
        ∃ entry ∈ order.segmented.entries segmented, ladderMember entry = some member := by
    intro member
    rw [← List.mem_filterMap, ← List.mem_filterMap, ← List.mem_append]
    rfl
  rw [ofMember]
  constructor
  · rintro ⟨member, listed, pushed⟩
    rcases mem_pushes.mp pushed with ⟨weighted, isGroup⟩
    rcases (isMember member).mp listed with ⟨⟨key, cost⟩, isEntry, made⟩ |
      ⟨⟨key, ladder⟩, isEntry, made⟩
    · rcases Option.map_eq_some_iff.mp made with ⟨⟨display, product⟩, isDisplay, rfl⟩
      exact ⟨key, ⟨display, product, isDisplay, isGroup⟩,
        Or.inl ⟨cost, IterationOrder.mem_entries.mp isEntry, weighted⟩⟩
    · rcases Option.map_eq_some_iff.mp made with ⟨⟨display, product⟩, isDisplay, rfl⟩
      exact ⟨key, ⟨display, product, isDisplay, isGroup⟩,
        Or.inr ⟨ladder, IterationOrder.mem_entries.mp isEntry, weighted⟩⟩
  · rintro ⟨key, ⟨display, product, isDisplay, isGroup⟩, ⟨cost, found, weighted⟩ |
      ⟨ladder, found, weighted⟩⟩
    · refine ⟨⟨display, weightOf weights key, .flat cost⟩, (isMember _).mpr (Or.inl
        ⟨(key, cost), IterationOrder.mem_entries.mpr found, ?_⟩), mem_pushes.mpr
          ⟨weighted, isGroup⟩⟩
      rw [fineMember, isDisplay]
      rfl
    · refine ⟨⟨display, ladder.weight, .tiered ladder⟩, (isMember _).mpr (Or.inr
        ⟨(key, ladder), IterationOrder.mem_entries.mpr found, ?_⟩), mem_pushes.mpr
          ⟨weighted, isGroup⟩⟩
      rw [ladderMember, isDisplay]
      rfl

/-- How often a member is listed in a group. -/
def timesPushed (display group : String) : ℕ :=
  (if withoutVariant display = some group then 1 else 0) + if display = group then 1 else 0

theorem Member.share_eq (weighted : 0 < member.w) (value : MemberCost → ℚ) (group : String) :
    member.share value group =
      timesPushed member.displayKey group * (value member.cost * member.w) := by
  rw [Member.share, Member.pushes, if_neg (not_le.mpr weighted), rowsOf_append, sumOf_append,
    timesPushed, Nat.cast_add, add_mul]
  congr 1
  · cases withoutVariant member.displayKey with
    | none => simp [rowsOf]
    | some key =>
        by_cases isGroup : key = group
        · simp [rowsOf, isGroup]
        · simp [rowsOf, isGroup]
  · by_cases isGroup : member.displayKey = group
    · simp [rowsOf, isGroup]
    · simp [rowsOf, isGroup]

theorem timesPushed_pos_iff {display : String} :
    0 < timesPushed display group ↔ display = group ∨ withoutVariant display = some group := by
  rw [timesPushed]
  by_cases isBlanked : withoutVariant display = some group <;>
    by_cases isDisplay : display = group <;> simp [isBlanked, isDisplay]

/-- How often the model of a key is listed in a group. -/
def timesBlended (key group : String) : ℕ :=
  (rsplitOnce '|' key).elim 0 fun display => timesPushed display.1 group

variable {key : String}

theorem timesBlended_pos_iff :
    0 < timesBlended key group ↔ BlendedUnder key group := by
  rw [timesBlended, BlendedUnder]
  cases rsplitOnce '|' key with
  | none => simp
  | some display => simp [timesPushed_pos_iff, Prod.ext_iff]

theorem share_ladderMember (weighted : 0 < ladder.weight) (value : MemberCost → ℚ) :
    (ladderMember (key, ladder)).elim 0 (Member.share value group) =
      timesBlended key group * (value (.tiered ladder) * ladder.weight) := by
  rw [ladderMember, timesBlended]
  cases rsplitOnce '|' key with
  | none => simp
  | some display => exact Member.share_eq weighted value group

end DecisionEngine.CostIngestion
