import DecisionEngine.CostIngestion.ServedPrices

/-!
# Sources of learned prices

A price that is not overridden is averaged over rows of the model tables.  The clusters of
these rows, as they are displayed without their card products, are its sources: it has a
price when it has sources, and the rows of other clusters have no part in it.
-/

namespace DecisionEngine.CostIngestion

open Database Map Search Text

section Sources

variable [LetterCase]

/-! ## Displayed clusters -/

/-- The key of a cluster as it is displayed, without its card product. -/
def ClusterKey.displayKey (connector : String) (cluster : ClusterKey) : String :=
  fineKey connector cluster.cardNetwork cluster.variant cluster.funding cluster.issuerCountry
    cluster.currency cluster.icCategory

def CostRow.displayKey (row : CostRow) : String :=
  row.cluster.displayKey row.connector

def SegmentRow.displayKey (row : SegmentRow) : String :=
  row.cluster.displayKey row.account.connector

/-! ## The learned ladder -/

def LookupRequest.coarseKey (request : LookupRequest) : String :=
  CostIngestion.coarseKey request.connector request.network request.funding request.currency
    request.region

/-- The rungs of a request below the overrides. -/
def learnedRung (models : MerchantModels) (cardProduct : String) (request : LookupRequest)
    (fine : Option PredictedCluster) : Option (Rung × ServingCost) :=
  let addon := models.addons.lookup (LetterCase.toLowercase request.connector)
  (fine.bind fun cluster =>
      clusterRungs models addon cardProduct request.amount cluster.key).or
    ((models.coarse.lookup request.coarseKey).map fun cost => (.coarse, cost.withAddon addon))

/-- The overrides stand above the learned rungs. -/
theorem chooseRung_eq (models : MerchantModels) (cardProduct : String) (request : LookupRequest)
    (fine : Option PredictedCluster) :
    chooseRung models cardProduct request fine =
      ((fine.bind fun cluster => models.clusterOverrides.lookup cluster.key).map fun cost =>
          (Rung.clusterOverride, cost)).or
        (((models.overrides.lookup (LetterCase.toLowercase request.connector)).map fun cost =>
            (Rung.connectorOverride, cost)).or
          (learnedRung models cardProduct request fine)) := by
  dsimp only [chooseRung, learnedRung]
  cases fine.bind fun cluster => models.clusterOverrides.lookup cluster.key with
  | some cost => rfl
  | none =>
      cases models.overrides.lookup (LetterCase.toLowercase request.connector) with
      | some cost => rfl
      | none =>
          cases fine.bind fun cluster => clusterRungs models
            (models.addons.lookup (LetterCase.toLowercase request.connector)) cardProduct
              request.amount cluster.key with
          | some rung => rfl
          | none => rfl

/-! ## Sources -/

instance (pieces : List LadderPiece) (key : String) : Decidable (IsServed pieces key) :=
  inferInstanceAs (Decidable (key ∈ (blendPieces pieces).map LadderPiece.key))

/-- The clusters of the rows that single lines are made of. -/
def lineSources (merchantId : String) (rows : ServingRows) (holds : String → Bool) :
    List String :=
  ((weightedRows merchantId rows.cost).filter fun row => holds row.modelKey).map
    CostRow.displayKey

/-- The row is a tier of a ladder. -/
def SegmentRow.isTierOf (pieces : List LadderPiece) (holds : String → Bool)
    (row : SegmentRow) : Bool :=
  row.piece.any fun piece => holds piece.key && decide (IsServed pieces piece.key)

/-- The clusters of the rows that ladders are made of. -/
def ladderSources (merchantId : String) (rows : ServingRows) (holds : String → Bool) :
    List String :=
  ((rows.segments.filter fun row => row.account.merchantId = merchantId).filter
    (SegmentRow.isTierOf (ladderPieces merchantId rows.segments) holds)).map
      SegmentRow.displayKey

/-- The clusters of the rows that a blend is made of. -/
def groupSources (merchantId : String) (rows : ServingRows) (group : String) : List String :=
  lineSources merchantId rows (fun key => 0 < timesBlended key group) ++
    ladderSources merchantId rows fun key => 0 < timesBlended key group

/-- The clusters of the rows that the price of a region is made of. -/
def coarseSources (merchantId : String) (rows : ServingRows) (request : LookupRequest) :
    List String :=
  (rowsOf CostRow.coarseKey (weightedRows merchantId rows.cost) request.coarseKey).map
    CostRow.displayKey

/-- The sources of the first one of two rungs that has any. -/
def orSources (first second : List String) : List String :=
  if first = [] then second else first

/-- The clusters that a price of the rungs of a cluster comes from. -/
def clusterSources (merchantId : String) (rows : ServingRows) (cardProduct key : String) :
    List String :=
  let modelKey := fineKeyModel key cardProduct
  orSources (ladderSources merchantId rows fun own => own = modelKey)
    (orSources (lineSources merchantId rows fun own => own = modelKey)
      (orSources (groupSources merchantId rows key)
        ((withoutVariant key).elim [] (groupSources merchantId rows))))

/-- The clusters that a price of the learned ladder comes from. -/
def learnedSources (merchantId : String) (rows : ServingRows) (cardProduct : String)
    (request : LookupRequest) (fine : Option PredictedCluster) : List String :=
  orSources (fine.elim [] fun cluster => clusterSources merchantId rows cardProduct cluster.key)
    (coarseSources merchantId rows request)

/-- The rows of some clusters, whatever their card product. -/
def ServingRows.ofClusters (keys : List String) (rows : ServingRows) : ServingRows :=
  { rows with
    cost := rows.cost.filter fun row => row.displayKey ∈ keys
    segments := rows.segments.filter fun row => row.displayKey ∈ keys }

/-! ## Rungs and their sources -/

section Rungs

variable {γ δ : Type*} {keys sources otherSources : List String}
  {rung kept otherRung otherKept : Option γ}

/-- A rung that has a price when it has sources, and the same rung when the rows of other
clusters than some are left out. -/
structure FromSources (keys sources : List String) (rung kept : Option γ) : Prop where
  none_iff : sources = [] ↔ rung = none
  kept_eq : sources ⊆ keys → kept = rung

omit [LetterCase]

theorem FromSources.none (keys : List String) :
    FromSources keys [] (Option.none : Option γ) Option.none :=
  ⟨iff_of_true rfl rfl, fun _ => rfl⟩

theorem FromSources.kept_none (priced : FromSources keys sources rung kept)
    (empty : sources = []) : kept = Option.none := by
  rw [priced.kept_eq (empty ▸ List.nil_subset keys), priced.none_iff.mp empty]

theorem FromSources.map (change : γ → δ) (priced : FromSources keys sources rung kept) :
    FromSources keys sources (rung.map change) (kept.map change) where
  none_iff := by rw [priced.none_iff, Option.map_eq_none_iff]
  kept_eq inside := by rw [priced.kept_eq inside]

theorem FromSources.or (first : FromSources keys sources rung kept)
    (second : FromSources keys otherSources otherRung otherKept) :
    FromSources keys (orSources sources otherSources) (rung.or otherRung)
      (kept.or otherKept) := by
  rw [orSources]
  by_cases empty : sources = []
  · rw [if_pos empty, first.none_iff.mp empty, first.kept_none empty, Option.none_or,
      Option.none_or]
    exact second
  · rw [if_neg empty]
    rcases Option.ne_none_iff_exists'.mp (first.none_iff.not.mp empty) with ⟨price, isPrice⟩
    refine ⟨?_, fun inside => ?_⟩
    · rw [isPrice, Option.some_or]
      exact iff_of_false empty (Option.some_ne_none price)
    · rw [first.kept_eq inside, isPrice, Option.some_or, Option.some_or]

end Rungs

/-! ## Rows of some clusters -/

section Kept

variable {merchantId : String} {rows : ServingRows} {keys : List String} {holds : String → Bool}
  {key : String}

theorem weightedRows_ofClusters :
    weightedRows merchantId (rows.ofClusters keys).cost =
      (weightedRows merchantId rows.cost).filter fun row => row.displayKey ∈ keys :=
  List.filter_comm ..

theorem mem_lineSources {source : String} :
    source ∈ lineSources merchantId rows holds ↔
      ∃ row ∈ weightedRows merchantId rows.cost, holds row.modelKey ∧ row.displayKey = source := by
  simp only [lineSources, List.mem_map, List.mem_filter, and_assoc]

theorem mem_ladderSources {source : String} :
    source ∈ ladderSources merchantId rows holds ↔
      ∃ row ∈ rows.segments, row.account.merchantId = merchantId ∧
        row.isTierOf (ladderPieces merchantId rows.segments) holds ∧ row.displayKey = source := by
  simp only [ladderSources, List.mem_map, List.mem_filter, decide_eq_true_eq, and_assoc]

theorem isTierOf_iff {pieces : List LadderPiece} {row : SegmentRow} :
    row.isTierOf pieces holds ↔
      ∃ piece, row.piece = some piece ∧ holds piece.key ∧ IsServed pieces piece.key := by
  simp only [SegmentRow.isTierOf, Option.any_eq_true, Bool.and_eq_true, decide_eq_true_eq]

theorem lineSources_eq_nil : lineSources merchantId rows holds = [] ↔
    ∀ key, holds key → ¬ IsFine (weightedRows merchantId rows.cost) key := by
  rw [List.eq_nil_iff_forall_not_mem]
  constructor
  · intro empty key held isFine
    rcases List.mem_map.mp isFine with ⟨row, listed, rfl⟩
    exact empty row.displayKey (mem_lineSources.mpr ⟨row, listed, held, rfl⟩)
  · intro none source listed
    rcases mem_lineSources.mp listed with ⟨row, isRow, held, -⟩
    exact none row.modelKey held (List.mem_map_of_mem isRow)

/-- The row that a piece of a ladder is made from. -/
theorem mem_ladderPieces {segments : List SegmentRow} {piece : LadderPiece} :
    piece ∈ ladderPieces merchantId segments ↔
      ∃ row ∈ segments, row.account.merchantId = merchantId ∧ row.piece = some piece := by
  simp only [ladderPieces, List.mem_filterMap, List.mem_filter, decide_eq_true_eq, and_assoc]

theorem ladderSources_eq_nil : ladderSources merchantId rows holds = [] ↔
    ∀ key, holds key → ¬ IsServed (ladderPieces merchantId rows.segments) key := by
  rw [List.eq_nil_iff_forall_not_mem]
  constructor
  · intro empty key held served
    rcases List.mem_map.mp served with ⟨piece, isPiece, rfl⟩
    rcases mem_ladderPieces.mp (List.mem_of_mem_filter isPiece) with ⟨row, listed, own, made⟩
    exact empty row.displayKey (mem_ladderSources.mpr
      ⟨row, listed, own, isTierOf_iff.mpr ⟨piece, made, held, served⟩, rfl⟩)
  · intro none source listed
    rcases mem_ladderSources.mp listed with ⟨row, -, -, isTier, -⟩
    rcases isTierOf_iff.mp isTier with ⟨piece, -, held, served⟩
    exact none piece.key held served

theorem isServed_of_ofClusters
    (served : IsServed (ladderPieces merchantId (rows.ofClusters keys).segments) key) :
    IsServed (ladderPieces merchantId rows.segments) key := by
  have part : (ladderPieces merchantId (rows.ofClusters keys).segments).Sublist
      (ladderPieces merchantId rows.segments) :=
    (List.filter_sublist.filter _).filterMap SegmentRow.piece
  exact ((part.filter _).map LadderPiece.key).subset served

/-- The rows of a line are kept if their clusters are. -/
theorem rowsOf_lines (inside : lineSources merchantId rows holds ⊆ keys) (held : holds key) :
    rowsOf CostRow.modelKey (weightedRows merchantId (rows.ofClusters keys).cost) key =
      rowsOf CostRow.modelKey (weightedRows merchantId rows.cost) key := by
  rw [weightedRows_ofClusters]
  apply rowsOf_filter
  intro row listed isKey
  rw [← isKey] at held
  exact decide_eq_true (inside (mem_lineSources.mpr ⟨row, listed, held, rfl⟩))

/-- The tiers of a ladder are kept if their clusters are. -/
theorem rowsOf_tiers (inside : ladderSources merchantId rows holds ⊆ keys) (held : holds key)
    (served : IsServed (ladderPieces merchantId rows.segments) key) :
    rowsOf LadderPiece.key (ladderPieces merchantId (rows.ofClusters keys).segments) key =
      rowsOf LadderPiece.key (ladderPieces merchantId rows.segments) key := by
  rw [ladderPieces, ServingRows.ofClusters, List.filter_comm]
  apply rowsOf_filterMap_filter
  intro row listed piece made isKey
  rw [List.mem_filter, decide_eq_true_eq] at listed
  have isTier : row.isTierOf (ladderPieces merchantId rows.segments) holds := by
    apply isTierOf_iff.mpr
    rw [← isKey] at held served
    exact ⟨piece, made, held, served⟩
  exact decide_eq_true (inside (mem_ladderSources.mpr ⟨row, listed.1, listed.2, isTier, rfl⟩))

end Kept

/-! ## Tables of some clusters -/

section Tables

variable {merchantId : String} {rows : ServingRows} {keys : List String} {holds : String → Bool}
  {key : String} {order : AssemblyOrder}

omit [LetterCase] in
theorem lookup_finalize_rowsOf {α : Type*} {keyOf : α → String} {value : α → CostSums}
    {inputs others : List α} (order : IterationOrder String CostSums)
    (same : rowsOf keyOf inputs key = rowsOf keyOf others key) :
    (finalize order (accumulate keyOf value inputs)).lookup key =
      (finalize order (accumulate keyOf value others)).lookup key := by
  rw [lookup_finalize, lookup_finalize, lookup_accumulate_congr same]

theorem lookup_fineTable_ofClusters (inside : lineSources merchantId rows holds ⊆ keys)
    (held : holds key) :
    (fineTable order (weightedRows merchantId (rows.ofClusters keys).cost)).lookup key =
      (fineTable order (weightedRows merchantId rows.cost)).lookup key :=
  lookup_finalize_rowsOf order.sums (rowsOf_lines inside held)

section

omit [LetterCase]

theorem rowsOf_blendPieces (pieces : List LadderPiece) :
    rowsOf LadderPiece.key (blendPieces pieces) key =
      blendPieces (rowsOf LadderPiece.key pieces key) :=
  List.filter_comm ..

theorem isServed_iff_rowsOf {pieces : List LadderPiece} :
    IsServed pieces key ↔ blendPieces (rowsOf LadderPiece.key pieces key) ≠ [] := by
  rw [← rowsOf_blendPieces, Ne, rowsOf_eq_nil_iff, not_not]
  rfl

/-- A ladder is made of its pieces. -/
theorem lookup_segmentsFromTsv_congr {pieces others : List LadderPiece}
    (same : rowsOf LadderPiece.key pieces key = rowsOf LadderPiece.key others key) :
    (segmentsFromTsv order pieces).lookup key = (segmentsFromTsv order others).lookup key := by
  ext ladder
  rw [lookup_segmentsFromTsv, lookup_segmentsFromTsv, isServed_iff_rowsOf, isServed_iff_rowsOf,
    ladderOf, ladderOf, ladderSums, ladderSums, rowsOf_blendPieces, rowsOf_blendPieces, same]

theorem lookup_segmentsFromTsv_eq_none {pieces : List LadderPiece} :
    (segmentsFromTsv order pieces).lookup key = none ↔ ¬ IsServed pieces key := by
  rw [← isSome_lookup_segmentsFromTsv order, Option.not_isSome_iff_eq_none]

end

theorem lookup_segments_ofClusters (inside : ladderSources merchantId rows holds ⊆ keys)
    (held : holds key) :
    (segmentsFromTsv order (ladderPieces merchantId (rows.ofClusters keys).segments)).lookup key =
      (segmentsFromTsv order (ladderPieces merchantId rows.segments)).lookup key := by
  by_cases served : IsServed (ladderPieces merchantId rows.segments) key
  · exact lookup_segmentsFromTsv_congr (rowsOf_tiers inside held served)
  · rw [lookup_segmentsFromTsv_eq_none.mpr served,
      lookup_segmentsFromTsv_eq_none.mpr fun kept => served (isServed_of_ofClusters kept)]

theorem lookup_fineTable_eq_none :
    (fineTable order (weightedRows merchantId rows.cost)).lookup key = none ↔
      ¬ IsFine (weightedRows merchantId rows.cost) key := by
  rw [← lookup_fineTable order weighted_of_mem_weightedRows, Option.not_isSome_iff_eq_none]

theorem fromSources_line (order : AssemblyOrder) (merchantId : String) (rows : ServingRows)
    (keys : List String) (key : String) :
    FromSources keys (lineSources merchantId rows fun own => own = key)
      ((fineTable order (weightedRows merchantId rows.cost)).lookup key)
      ((fineTable order (weightedRows merchantId (rows.ofClusters keys).cost)).lookup key) where
  none_iff := by
    rw [lineSources_eq_nil, lookup_fineTable_eq_none]
    simp only [decide_eq_true_eq, forall_eq]
  kept_eq inside := lookup_fineTable_ofClusters inside (decide_eq_true rfl)

theorem fromSources_ladder (order : AssemblyOrder) (merchantId : String) (rows : ServingRows)
    (keys : List String) (key : String) :
    FromSources keys (ladderSources merchantId rows fun own => own = key)
      ((segmentsFromTsv order (ladderPieces merchantId rows.segments)).lookup key)
      ((segmentsFromTsv order
        (ladderPieces merchantId (rows.ofClusters keys).segments)).lookup key) where
  none_iff := by
    rw [ladderSources_eq_nil, lookup_segmentsFromTsv_eq_none]
    simp only [decide_eq_true_eq, forall_eq]
  kept_eq inside := lookup_segments_ofClusters inside (decide_eq_true rfl)

omit [LetterCase] in
theorem lookup_finalize_eq_none {α : Type*} {keyOf : α → String} {value : α → CostSums}
    {inputs : List α} (order : IterationOrder String CostSums)
    (weighted : ∀ input ∈ inputs, 0 < (value input).2.2) :
    (finalize order (accumulate keyOf value inputs)).lookup key = none ↔
      rowsOf keyOf inputs key = [] := by
  rw [lookup_finalize_accumulate order keyOf value weighted, rowsOf_eq_nil_iff]
  by_cases listed : key ∈ inputs.map keyOf
  · rw [if_pos listed]
    exact iff_of_false (Option.some_ne_none _) (not_not.mpr listed)
  · rw [if_neg listed]
    exact iff_of_true rfl listed

theorem fromSources_coarse (order : AssemblyOrder) (merchantId : String) (rows : ServingRows)
    (keys : List String) (request : LookupRequest) (overlays : Overlays) :
    FromSources keys (coarseSources merchantId rows request)
      ((buildModel order merchantId rows overlays).coarse.lookup request.coarseKey)
      ((buildModel order merchantId (rows.ofClusters keys) overlays).coarse.lookup
        request.coarseKey) where
  none_iff := by
    rw [coarseSources, List.map_eq_nil_iff]
    exact (lookup_finalize_eq_none order.sums weighted_of_mem_weightedRows).symm
  kept_eq inside := by
    apply lookup_finalize_rowsOf
    rw [weightedRows_ofClusters]
    apply rowsOf_filter
    intro row listed isKey
    exact decide_eq_true (inside (List.mem_map_of_mem (mem_rowsOf.mpr ⟨listed, isKey⟩)))

end Tables

/-! ## Blends of some clusters -/

section Blends

variable {merchantId : String} {rows : ServingRows} {keys : List String} {group : String}
  {order : AssemblyOrder} {key : String}

theorem groupSources_eq_nil : groupSources merchantId rows group = [] ↔
    ¬ HasMember (weightedRows merchantId rows.cost) (ladderPieces merchantId rows.segments)
      group := by
  rw [groupSources, List.append_eq_nil_iff, lineSources_eq_nil, ladderSources_eq_nil]
  simp only [decide_eq_true_eq, timesBlended_pos_iff, HasMember]
  constructor
  · rintro ⟨noLine, noLadder⟩ ⟨key, blended, isFine | served⟩
    · exact noLine key blended isFine
    · exact noLadder key blended served
  · intro none
    exact ⟨fun key blended isFine => none ⟨key, blended, Or.inl isFine⟩,
      fun key blended served => none ⟨key, blended, Or.inr served⟩⟩

/-- What is looked up under a key of a group, if the clusters of the group are kept. -/
theorem lookups_of_blended (order : AssemblyOrder)
    (inside : groupSources merchantId rows group ⊆ keys) (blended : BlendedUnder key group) :
    rowsOf CostRow.modelKey (weightedRows merchantId (rows.ofClusters keys).cost) key =
        rowsOf CostRow.modelKey (weightedRows merchantId rows.cost) key ∧
      (segmentsFromTsv order
          (ladderPieces merchantId (rows.ofClusters keys).segments)).lookup key =
        (segmentsFromTsv order (ladderPieces merchantId rows.segments)).lookup key := by
  have held : decide (0 < timesBlended key group) = true :=
    decide_eq_true (timesBlended_pos_iff.mpr blended)
  rcases List.append_subset.mp inside with ⟨linesInside, laddersInside⟩
  exact ⟨rowsOf_lines linesInside held, lookup_segments_ofClusters laddersInside held⟩

omit [LetterCase] in
/-- A model that is not blended under a group adds nothing to it. -/
theorem share_eq_zero (display : String → Member)
    (isDisplay : ∀ shown, (display shown).displayKey = shown) (apart : ¬ BlendedUnder key group)
    (value : MemberCost → ℚ) :
    ((rsplitOnce '|' key).map fun shown => display shown.1).elim 0 (Member.share value group) =
      0 := by
  cases split : rsplitOnce '|' key with
  | none => rfl
  | some shown =>
      have notPushed : group ∉ (display shown.1).pushes.map Prod.fst := by
        intro pushed
        have isGroup := (mem_pushes.mp pushed).2
        rw [isDisplay] at isGroup
        exact apart ⟨shown.1, shown.2, split, isGroup⟩
      rw [Option.map_some, Option.elim_some, Member.share, rowsOf_eq_nil notPushed, sumOf_nil]

omit [LetterCase] in
theorem elim_eq_zero {ν : Type*} (content : Option ν) {value : ν → ℚ}
    (isZero : ∀ own, value own = 0) : content.elim 0 value = 0 := by
  cases content with
  | none => rfl
  | some own => exact isZero own

theorem blendTotal_ofClusters (inside : groupSources merchantId rows group ⊆ keys)
    (value : MemberCost → ℚ) :
    blendTotal value group (memberTable order
        (weightedRows merchantId (rows.ofClusters keys).cost)
        (ladderPieces merchantId (rows.ofClusters keys).segments)) =
      blendTotal value group (memberTable order (weightedRows merchantId rows.cost)
        (ladderPieces merchantId rows.segments)) := by
  have noLine : ∀ weights key cost, ¬ BlendedUnder key group →
      (fineMember weights (key, cost)).elim 0 (Member.share value group) = 0 :=
    fun weights key cost apart =>
      share_eq_zero (fun shown => ⟨shown, weightOf weights key, .flat cost⟩) (fun _ => rfl) apart
        value
  have noLadder : ∀ key ladder, ¬ BlendedUnder key group →
      (ladderMember (key, ladder)).elim 0 (Member.share value group) = 0 :=
    fun key ladder apart =>
      share_eq_zero (fun shown => ⟨shown, ladder.weight, .tiered ladder⟩) (fun _ => rfl) apart
        value
  have sameShare : (fun entry => (fineMember (accumulate CostRow.modelKey CostRow.sums
        (weightedRows merchantId (rows.ofClusters keys).cost)) entry).elim 0
          (Member.share value group)) =
      fun entry => (fineMember (accumulate CostRow.modelKey CostRow.sums
        (weightedRows merchantId rows.cost)) entry).elim 0 (Member.share value group) := by
    ext1 ⟨key, cost⟩
    by_cases blended : BlendedUnder key group
    · have sameRows := (lookups_of_blended order inside blended).1
      rw [fineMember, fineMember, weightOf, weightOf, lookup_accumulate_congr sameRows]
    · rw [noLine _ key cost blended, noLine _ key cost blended]
  rw [memberTable, memberTable, blendTotal_blendMembers, blendTotal_blendMembers, sameShare]
  congr 1
  · apply sumOf_entries_congr
    intro key
    by_cases blended : BlendedUnder key group
    · rw [fineTable, fineTable,
        lookup_finalize_rowsOf order.sums (lookups_of_blended order inside blended).1]
    · rw [elim_eq_zero _ fun cost => noLine _ key cost blended,
        elim_eq_zero _ fun cost => noLine _ key cost blended]
  · apply sumOf_entries_congr
    intro key
    by_cases blended : BlendedUnder key group
    · rw [(lookups_of_blended order inside blended).2]
    · rw [elim_eq_zero _ fun ladder => noLadder key ladder blended,
        elim_eq_zero _ fun ladder => noLadder key ladder blended]

theorem hasMember_ofClusters (inside : groupSources merchantId rows group ⊆ keys) :
    HasMember (weightedRows merchantId (rows.ofClusters keys).cost)
        (ladderPieces merchantId (rows.ofClusters keys).segments) group ↔
      HasMember (weightedRows merchantId rows.cost) (ladderPieces merchantId rows.segments)
        group := by
  rw [HasMember, HasMember]
  apply exists_congr
  intro key
  apply and_congr_right
  intro blended
  rcases lookups_of_blended .stored inside blended with ⟨sameRows, sameLadder⟩
  apply or_congr
  · rw [IsFine, IsFine, ← not_iff_not, ← rowsOf_eq_nil_iff, sameRows, rowsOf_eq_nil_iff]
  · rw [← isSome_lookup_segmentsFromTsv .stored, sameLadder, isSome_lookup_segmentsFromTsv]

theorem fromSources_group (order : AssemblyOrder) (merchantId : String) (rows : ServingRows)
    (keys : List String) (group : String) (amount : ℚ) (overlays : Overlays) :
    FromSources keys (groupSources merchantId rows group)
      (groupCost (buildModel order merchantId rows overlays) amount group)
      (groupCost (buildModel order merchantId (rows.ofClusters keys) overlays) amount group) where
  none_iff := by
    have hasMember : (groupCost (buildModel order merchantId rows overlays) amount group).isSome ↔
        HasMember (weightedRows merchantId rows.cost) (ladderPieces merchantId rows.segments)
          group := isSome_groupCost
    rw [groupSources_eq_nil, ← hasMember, Option.not_isSome_iff_eq_none]
  kept_eq inside := by
    rw [groupCost_buildModel, groupCost_buildModel, forAmount_fineBlends, forAmount_fineBlends,
      blendCost, blendCost, blendTotal_ofClusters inside, blendTotal_ofClusters inside,
      blendTotal_ofClusters inside]
    apply if_congr _ rfl rfl
    rw [mem_groups_memberTable _ weighted_of_mem_weightedRows,
      mem_groups_memberTable _ weighted_of_mem_weightedRows, hasMember_ofClusters inside]

end Blends

/-! ## Learned prices -/

section Learned

variable {merchantId : String} {rows : ServingRows} {order : AssemblyOrder} {overlays : Overlays}
  {cardProduct : String} {request : LookupRequest} {fine : Option PredictedCluster}

theorem fromSources_cluster (order : AssemblyOrder) (merchantId : String) (rows : ServingRows)
    (keys : List String) (overlays : Overlays) (addon : Option ServingCost)
    (cardProduct : String) (amount : ℚ) (key : String) :
    FromSources keys (clusterSources merchantId rows cardProduct key)
      (clusterRungs (buildModel order merchantId rows overlays) addon cardProduct amount key)
      (clusterRungs (buildModel order merchantId (rows.ofClusters keys) overlays) addon
        cardProduct amount key) := by
  have ladder := fromSources_ladder order merchantId rows keys (fineKeyModel key cardProduct)
  have line := fromSources_line order merchantId rows keys (fineKeyModel key cardProduct)
  have group := fromSources_group order merchantId rows keys key amount overlays
  have blanked : FromSources keys
      ((withoutVariant key).elim [] (groupSources merchantId rows))
      ((withoutVariant key).bind
        (groupCost (buildModel order merchantId rows overlays) amount))
      ((withoutVariant key).bind
        (groupCost (buildModel order merchantId (rows.ofClusters keys) overlays) amount)) := by
    cases withoutVariant key with
    | none => exact FromSources.none keys
    | some blank => exact fromSources_group order merchantId rows keys blank amount overlays
  rw [clusterRungs_eq, clusterRungs_eq]
  exact ((ladder.map _).map _).or ((line.map _).or ((group.or blanked).map _))

/-- A learned price comes from its sources. -/
theorem fromSources_learned (order : AssemblyOrder) (merchantId : String) (rows : ServingRows)
    (keys : List String) (overlays : Overlays) (cardProduct : String) (request : LookupRequest)
    (fine : Option PredictedCluster) :
    FromSources keys (learnedSources merchantId rows cardProduct request fine)
      (learnedRung (buildModel order merchantId rows overlays) cardProduct request fine)
      (learnedRung (buildModel order merchantId (rows.ofClusters keys) overlays) cardProduct
        request fine) := by
  have coarse := fromSources_coarse order merchantId rows keys request overlays
  cases fine with
  | none => exact (FromSources.none keys).or (coarse.map _)
  | some cluster =>
      exact (fromSources_cluster order merchantId rows keys overlays _ cardProduct
        request.amount cluster.key).or (coarse.map _)

/-- A learned price is that of the rows of its sources alone. -/
theorem learnedRung_ofClusters :
    learnedRung (buildModel order merchantId
        (rows.ofClusters (learnedSources merchantId rows cardProduct request fine)) overlays)
        cardProduct request fine =
      learnedRung (buildModel order merchantId rows overlays) cardProduct request fine :=
  (fromSources_learned order merchantId rows _ overlays cardProduct request fine).kept_eq
    (List.Subset.refl _)

end Learned

end Sources

end DecisionEngine.CostIngestion
