import DecisionEngine.CostIngestion.Assembly

/-!
# Served prices and the order of reading

The rows of a query come in any order, and a program meets the entries of its maps in an
order of its own.  The price of a request is the same in every order exactly when the
categories that may be predicted are one category, and the tiers that may price the amount
on a ladder have one cost.
-/

namespace DecisionEngine.CostIngestion

open Database Map Search Text

/-! ## Tiers of an amount -/

/-- A tier that prices an amount in some order of the tiers: the lowest one that has the
amount, or else the lowest one of all below the ladder, and the highest one above it. -/
def MayPrice (segments : List ServingSegment) (amount : ℚ) (chosen : ServingSegment) : Prop :=
  chosen ∈ segments ∧
    ((chosen.covers amount ∧
        ∀ other ∈ segments, other.covers amount → chosen.lo ≤ other.lo) ∨
      ((∀ other ∈ segments, ¬ other.covers amount) ∧
        (((∀ other ∈ segments, amount < other.lo) ∧ ∀ other ∈ segments, chosen.lo ≤ other.lo) ∨
          ((∃ other ∈ segments, other.lo ≤ amount) ∧
            ∀ other ∈ segments, other.lo ≤ chosen.lo))))

theorem MayPrice.perm {segments others : List ServingSegment} (perm : segments.Perm others)
    {amount : ℚ} {chosen : ServingSegment} (may : MayPrice segments amount chosen) :
    MayPrice others amount chosen := by
  simp only [MayPrice, ← perm.mem_iff]
  exact may

section Ladder

variable {ladder : SegmentedCost} {segments : List ServingSegment} {amount : ℚ}

section

variable (isSorted : ladder.segments = sortedLadder segments)

include isSorted

theorem head_le :
    ladder.segments.head ladder.nonempty ∈ segments ∧
      ∀ other ∈ segments, (ladder.segments.head ladder.nonempty).lo ≤ other.lo := by
  have inLadder : ∀ {other}, other ∈ segments ↔ other ∈ ladder.segments := by
    intro other
    rw [isSorted, sortedLadder_eq, mem_sortBy]
  have sorted := pairwise_sortBy ServingSegment.lo segments
  rw [← sortedLadder_eq, ← isSorted] at sorted
  refine ⟨inLadder.mpr (List.head_mem ladder.nonempty), fun other listed => ?_⟩
  have isOther := inLadder.mp listed
  rw [← List.cons_head_tail ladder.nonempty] at sorted isOther
  rcases List.mem_cons.mp isOther with isHead | inTail
  · rw [isHead]
  · exact (List.pairwise_cons.mp sorted).1 other inTail

theorem le_getLast :
    ladder.segments.getLast ladder.nonempty ∈ segments ∧
      ∀ other ∈ segments, other.lo ≤ (ladder.segments.getLast ladder.nonempty).lo := by
  apply le_getLast?_sortBy
  rw [← sortedLadder_eq, ← isSorted, List.getLast?_eq_some_getLast ladder.nonempty]

/-- What prices an amount may price it. -/
theorem mayPrice_segmentAt :
    MayPrice segments amount (ladder.segmentAt amount) := by
  rw [SegmentedCost.segmentAt]
  cases found : ladder.segments.find? (ServingSegment.covers amount) with
  | some segment =>
      rw [isSorted, sortedLadder_eq] at found
      rcases least_of_find?_sortBy found with ⟨listed, covers, isLeast⟩
      exact ⟨listed, Or.inl ⟨covers, isLeast⟩⟩
  | none =>
      have uncovered : ∀ other ∈ segments, ¬ other.covers amount := by
        intro other listed
        apply List.find?_eq_none.mp found
        rw [isSorted, sortedLadder_eq, mem_sortBy]
        exact listed
      rw [Option.getD_none]
      by_cases isBelow : amount < (ladder.segments.head ladder.nonempty).lo
      · rw [if_pos isBelow]
        have isHead := head_le isSorted
        exact ⟨isHead.1, Or.inr ⟨uncovered, Or.inl
          ⟨fun other listed => lt_of_lt_of_le isBelow (isHead.2 other listed), isHead.2⟩⟩⟩
      · rw [if_neg isBelow]
        have isLast := le_getLast isSorted
        exact ⟨isLast.1, Or.inr ⟨uncovered, Or.inr
          ⟨⟨_, (head_le isSorted).1, not_lt.mp isBelow⟩, isLast.2⟩⟩⟩

end

/-- What may price an amount prices it if it is read first or last. -/
theorem segmentAt_of_mayPrice {chosen : ServingSegment}
    (may : MayPrice (chosen :: segments) amount chosen) :
    (∀ ladder : SegmentedCost, ladder.segments = sortedLadder (chosen :: segments) →
        ladder.segmentAt amount = chosen) ∨
      ∀ ladder : SegmentedCost, ladder.segments = sortedLadder (segments ++ [chosen]) →
        ladder.segmentAt amount = chosen := by
  rcases may with ⟨-, ⟨covers, isLeast⟩ | ⟨uncovered, ⟨isBelow, isLeast⟩ | ⟨notBelow, isGreatest⟩⟩⟩
  · left
    intro ladder isSorted
    have isFound : ladder.segments.find? (ServingSegment.covers amount) = some chosen := by
      rw [isSorted, sortedLadder_eq]
      exact find?_sortBy_cons covers fun other listed =>
        isLeast other (List.mem_cons_of_mem _ listed)
    rw [SegmentedCost.segmentAt, isFound, Option.getD_some]
  · left
    intro ladder isSorted
    have notFound : ladder.segments.find? (ServingSegment.covers amount) = none := by
      apply List.find?_eq_none.mpr
      intro other listed
      rw [isSorted, sortedLadder_eq, mem_sortBy] at listed
      exact uncovered other listed
    have isFirst : ladder.segments.head? = some chosen := by
      rw [isSorted, sortedLadder, List.insertionSort_cons_of_forall_rel]
      · rfl
      · exact fun other listed => isLeast other (List.mem_cons_of_mem _ listed)
    have isHead : ladder.segments.head ladder.nonempty = chosen := by
      rw [← Option.some.injEq, ← List.head?_eq_some_head, isFirst]
    rw [SegmentedCost.segmentAt, notFound, Option.getD_none, isHead,
      if_pos (isBelow chosen List.mem_cons_self)]
  · right
    intro ladder isSorted
    have inLadder : ∀ other, other ∈ ladder.segments → other ∈ chosen :: segments := by
      intro other listed
      rw [isSorted, sortedLadder_eq, mem_sortBy] at listed
      exact (List.perm_append_singleton chosen segments).mem_iff.mp listed
    have notFound : ladder.segments.find? (ServingSegment.covers amount) = none :=
      List.find?_eq_none.mpr fun other listed => uncovered other (inLadder other listed)
    have isLast : ladder.segments.getLast? = some chosen := by
      rw [isSorted, sortedLadder_eq]
      exact getLast?_sortBy_concat fun other listed =>
        isGreatest other (List.mem_cons_of_mem _ listed)
    have isEnd : ladder.segments.getLast ladder.nonempty = chosen := by
      rw [← Option.some.injEq, ← List.getLast?_eq_some_getLast, isLast]
    have aboveHead : ¬ amount < (ladder.segments.head ladder.nonempty).lo := by
      rcases notBelow with ⟨other, listed, isAbove⟩
      have isOther : other ∈ segments ++ [chosen] :=
        (List.perm_append_singleton chosen segments).mem_iff.mpr listed
      exact not_lt.mpr (le_trans ((head_le isSorted).2 other isOther) isAbove)
    rw [SegmentedCost.segmentAt, notFound, Option.getD_none, if_neg aboveHead, isEnd]

end Ladder

/-! ## Orders of reading -/

/-- The same rows, read in another order. -/
structure ServingRows.Perm (first second : ServingRows) : Prop where
  cost : first.cost.Perm second.cost
  predictor : first.predictor.Perm second.predictor
  segments : first.segments.Perm second.segments

theorem ServingRows.Perm.refl (rows : ServingRows) : rows.Perm rows :=
  ⟨List.Perm.refl _, List.Perm.refl _, List.Perm.refl _⟩

section Rows

variable {own otherOwn : List CostRow}
  {pieces otherPieces : List LadderPiece} {counted otherCounted : List PredictorRow}

section

variable (perm : pieces.Perm otherPieces)

include perm

theorem blendPieces_perm :
    (blendPieces pieces).Perm (blendPieces otherPieces) :=
  perm.filter _

theorem isServed_perm {key : String} :
    IsServed pieces key ↔ IsServed otherPieces key :=
  ((blendPieces_perm perm).map LadderPiece.key).mem_iff

theorem ladderSums_perm (key : String) :
    ladderSums pieces key = ladderSums otherPieces key :=
  sumOf_perm _ (rowsOf_perm (blendPieces_perm perm) key)

theorem ladderOf_perm (key : String) :
    (ladderOf pieces key).Perm (ladderOf otherPieces key) :=
  (rowsOf_perm perm key).map _

end

theorem timesSeen_perm (perm : counted.Perm otherCounted) (category : String) :
    timesSeen counted category = timesSeen otherCounted category :=
  sumOf_perm _ (rowsOf_perm perm category)

theorem isModal_perm (perm : counted.Perm otherCounted) {category : String} :
    IsModal counted category ↔ IsModal otherCounted category := by
  simp only [IsModal, (perm.map PredictorRow.icCategory).mem_iff, timesSeen_perm perm]

theorem weightedRows_perm (merchantId : String) {rows others : List CostRow}
    (perm : rows.Perm others) :
    (weightedRows merchantId rows).Perm (weightedRows merchantId others) :=
  perm.filter _

/-- The cost that a tier of a cluster is priced at. -/
def tierCost (pieces : List LadderPiece) (key : String) (segment : ServingSegment) :
    ServingCost :=
  if segment.good then segment.cost else averageCost (ladderSums pieces key)

theorem tierCost_perm (perm : pieces.Perm otherPieces) (key : String) :
    tierCost pieces key = tierCost otherPieces key := by
  ext1 segment
  rw [tierCost, tierCost, ladderSums_perm perm]

/-- The tiers that may price an amount have one cost. -/
def LadderSteady (pieces : List LadderPiece) (amount : ℚ) (key : String) : Prop :=
  ∀ first second, MayPrice (ladderOf pieces key) amount first →
    MayPrice (ladderOf pieces key) amount second →
      tierCost pieces key first = tierCost pieces key second

theorem forAmount_of_lookup {order : AssemblyOrder} {key : String} {ladder : SegmentedCost}
    (found : (segmentsFromTsv order pieces).lookup key = some ladder) (amount : ℚ) :
    ladder.forAmount amount = tierCost pieces key (ladder.segmentAt amount) ∧
      MayPrice (ladderOf pieces key) amount (ladder.segmentAt amount) := by
  rcases lookup_segmentsFromTsv.mp found with ⟨-, isSorted, isBlend, -⟩
  refine ⟨?_, mayPrice_segmentAt isSorted⟩
  dsimp only [SegmentedCost.forAmount]
  rw [tierCost, isBlend]

end Rows

section Prices

variable [LetterCase]

theorem ladderPieces_perm (merchantId : String) {rows others : List SegmentRow}
    (perm : rows.Perm others) :
    (ladderPieces merchantId rows).Perm (ladderPieces merchantId others) :=
  (perm.filter _).filterMap _

/-! ## What a request may be priced from -/

def LookupRequest.variantOf (request : LookupRequest) : String :=
  reconstructVariant request.network request.program request.funding request.wallet

/-- The key of the cluster of a request if it has the category. -/
def LookupRequest.clusterKey (request : LookupRequest) (category : String) : String :=
  fineKey request.connector request.network request.variantOf request.funding request.issuer
    request.currency category

/-- A cluster with rates and volume. -/
def IsFine (own : List CostRow) (key : String) : Prop :=
  key ∈ own.map CostRow.modelKey

/-- Some model is blended under the key. -/
def HasMember (own : List CostRow) (pieces : List LadderPiece) (group : String) : Prop :=
  ∃ key, BlendedUnder key group ∧ (IsFine own key ∨ IsServed pieces key)

/-- The group that a cluster without a model of its own is priced from. -/
def UsesGroup (own : List CostRow) (pieces : List LadderPiece) (cluster group : String) : Prop :=
  (HasMember own pieces cluster ∧ group = cluster) ∨
    (¬ HasMember own pieces cluster ∧ withoutVariant cluster = some group)

/-- The ladder of a cluster may price the request: it is that of the predicted cluster and a
product of the card, or it is blended where this cluster has no model. -/
def MayUseLadder (own : List CostRow) (pieces : List LadderPiece) (request : LookupRequest)
    (cluster key : String) : Prop :=
  IsServed pieces key ∧ ∃ product, (request.bin = "" → product = "") ∧
    (key = fineKeyModel cluster product ∨
      (¬ IsServed pieces (fineKeyModel cluster product) ∧
        ¬ IsFine own (fineKeyModel cluster product) ∧
          ∃ group, UsesGroup own pieces cluster group ∧ BlendedUnder key group))

variable [Rounding]

/-- The key of a level of the predictor. -/
def LookupRequest.levelKey (request : LookupRequest) (level : ℕ) : String :=
  (predictorLevelKeys request.network request.variantOf request.funding request.issuer
    (amountBand request.amount) request.channel).getD level ""

/-- The observations of a level that are like a request. -/
def seenAt (counted : List PredictorRow) (request : LookupRequest) (level : ℕ) :
    List PredictorRow :=
  observed counted level (request.levelKey level)

/-- The category is one of the most frequent ones at the first level with enough observations. -/
def MayPredict (counted : List PredictorRow) (request : LookupRequest) (category : String) :
    Prop :=
  request.issuer ≠ "" ∧ ∃ level < predictorLevels,
    IsSupported (seenAt counted request level) ∧ IsModal (seenAt counted request level) category ∧
      ∀ earlier < level, ¬ IsSupported (seenAt counted request earlier)

/-- The categories that may be predicted are one, up to letter case, and the ladders that may
price the request are steady. -/
structure OnePrice (own : List CostRow) (counted : List PredictorRow)
    (pieces : List LadderPiece) (request : LookupRequest) : Prop where
  category : ∀ first second, MayPredict counted request first →
    MayPredict counted request second →
      LetterCase.toLowercase first = LetterCase.toLowercase second
  ladder : ∀ category key, MayPredict counted request category →
    MayUseLadder own pieces request (request.clusterKey category) key →
      LadderSteady pieces request.amount key

/-- The rung of a request with the rates, and the effective rate. -/
def servedPrice (models : MerchantModels) (binProduct : BinProductMap)
    (request : LookupRequest) : Option (Rung × ServingCost × ℚ) :=
  (lookup models binProduct request).map fun found =>
    (found.1, ⟨found.2.pctBps, found.2.fixed⟩, found.2.effectiveBps)

/-- The price is the same for every order of the rows and of the entries of the maps. -/
def PriceDetermined (merchantId : String) (rows : ServingRows) (request : LookupRequest) : Prop :=
  ∀ otherRows, rows.Perm otherRows → ∀ order otherOrder overlays binProduct,
    servedPrice (buildModel order merchantId rows overlays) binProduct request =
      servedPrice (buildModel otherOrder merchantId otherRows overlays) binProduct request

/-! ## Predicted clusters -/

section Predicted

variable {order : AssemblyOrder} {counted otherCounted : List PredictorRow}
  {models : MerchantModels} {request : LookupRequest}

theorem seenAt_perm (perm : counted.Perm otherCounted) (level : ℕ) :
    (seenAt counted request level).Perm (seenAt otherCounted request level) :=
  rowsOf_perm perm _

theorem mayPredict_perm (perm : counted.Perm otherCounted) {category : String} :
    MayPredict counted request category ↔ MayPredict otherCounted request category := by
  simp only [MayPredict, IsSupported, sumOf_perm _ (seenAt_perm perm _),
    isModal_perm (seenAt_perm perm _)]

/-- The category that a level predicts for a request. -/
def levelCategory (order : AssemblyOrder) (counted : List PredictorRow)
    (request : LookupRequest) (level : ℕ) : Option String :=
  modalCategory (order.categories (request.levelKey level))
    (categoryCounts (seenAt counted request level))

def predictedCluster (request : LookupRequest) (category : String) : PredictedCluster :=
  ⟨request.clusterKey category, request.variantOf, category⟩

section

variable (assembled : models.predictor = predictorTables order counted)

include assembled

theorem predictCluster_eq :
    predictCluster models request =
      if request.issuer = "" then none
      else ((List.range predictorLevels).findSome? (levelCategory order counted request)).map
        (predictedCluster request) := by
  have levels : levelCategory order counted request = fun level =>
      (predictorTable order (levelCounts level counted)).lookup
        ((predictorLevelKeys request.network request.variantOf request.funding request.issuer
          (amountBand request.amount) request.channel).getD level "") := by
    ext1 level
    rw [lookup_level]
    rfl
  rw [levels, ← predictCategory_predictorTables order counted models assembled]
  rfl

theorem mayPredict_of_predictCluster {cluster : PredictedCluster}
    (predicted : predictCluster models request = some cluster) :
    ∃ category, MayPredict counted request category ∧
      cluster = predictedCluster request category := by
  rw [predictCluster_eq assembled] at predicted
  by_cases noIssuer : request.issuer = ""
  · rw [if_pos noIssuer] at predicted
    cases predicted
  · rw [if_neg noIssuer] at predicted
    rcases Option.map_eq_some_iff.mp predicted with ⟨category, found, rfl⟩
    rcases findSome?_range_eq_some.mp found with ⟨level, inside, isModal, isFirst⟩
    refine ⟨category, ⟨noIssuer, level, inside, ?_, isModal_of_modalCategory isModal, ?_⟩, rfl⟩
    · by_contra unsupported
      rw [levelCategory, modalCategory_eq_none.mpr unsupported] at isModal
      cases isModal
    · exact fun earlier before => modalCategory_eq_none.mp (isFirst earlier before)

theorem predictCluster_eq_none :
    predictCluster models request = none ↔ ∀ category, ¬ MayPredict counted request category := by
  constructor
  · rintro isNone category ⟨hasIssuer, level, inside, supported, -, isFirst⟩
    rw [predictCluster_eq assembled, if_neg hasIssuer, Option.map_eq_none_iff,
      List.findSome?_eq_none_iff] at isNone
    exact modalCategory_eq_none.mp (isNone level (List.mem_range.mpr inside)) supported
  · intro noCategory
    cases predicted : predictCluster models request with
    | none => rfl
    | some cluster =>
        rcases mayPredict_of_predictCluster assembled predicted with ⟨category, may, -⟩
        exact absurd may (noCategory category)

end

/-- Every category that may be predicted is predicted in some order. -/
theorem exists_predictCluster {category : String} (may : MayPredict counted request category) :
    ∃ order : AssemblyOrder, ∀ models : MerchantModels,
      models.predictor = predictorTables order counted →
        predictCluster models request = some (predictedCluster request category) := by
  rcases may with ⟨hasIssuer, level, inside, supported, modal, isFirst⟩
  rcases exists_modalCategory supported modal with ⟨categories, chosen⟩
  refine ⟨{ AssemblyOrder.stored with categories := fun _ => categories },
    fun models assembled => ?_⟩
  rw [predictCluster_eq assembled, if_neg hasIssuer, findSome?_range_eq_some.mpr]
  · rfl
  · exact ⟨level, inside, chosen, fun earlier before =>
      modalCategory_eq_none.mpr (isFirst earlier before)⟩

end Predicted

/-! ## Rungs -/

theorem servedPrice_eq (models : MerchantModels) (binProduct : BinProductMap)
    (request : LookupRequest) :
    servedPrice models binProduct request =
      (chooseRung models (resolveBinProduct binProduct request.bin) request
        (predictCluster models request)).map fun rung =>
          (rung.1, rung.2, rung.2.effectiveCostBps request.amount) := by
  rw [servedPrice, lookup, Option.map_map]
  rfl

theorem servedPrice_eq_iff {models otherModels : MerchantModels} {binProduct : BinProductMap}
    {request : LookupRequest} :
    servedPrice models binProduct request = servedPrice otherModels binProduct request ↔
      chooseRung models (resolveBinProduct binProduct request.bin) request
          (predictCluster models request) =
        chooseRung otherModels (resolveBinProduct binProduct request.bin) request
          (predictCluster otherModels request) := by
  rw [servedPrice_eq, servedPrice_eq]
  constructor
  · intro same
    apply Option.map_injective _ same
    rintro ⟨rung, cost⟩ ⟨otherRung, otherCost⟩ sameRung
    rw [Prod.mk.injEq, Prod.mk.injEq] at sameRung
    exact Prod.ext sameRung.1 sameRung.2.1
  · intro same
    rw [same]

def groupCost (models : MerchantModels) (amount : ℚ) (group : String) : Option ServingCost :=
  (models.fineBlend.lookup group).map fun blend => blend.forAmount amount

section

omit [Rounding]

theorem clusterRungs_eq (models : MerchantModels) (addon : Option ServingCost)
    (product : String) (amount : ℚ) (key : String) :
    clusterRungs models addon product amount key =
      (((models.segmented.lookup (fineKeyModel key product)).map fun ladder =>
          ladder.forAmount amount).map fun cost => (Rung.segmented, cost.withAddon addon)).or
        (((models.fine.lookup (fineKeyModel key product)).map fun cost =>
          (Rung.fine, cost.withAddon addon)).or
          (((groupCost models amount key).or
            ((withoutVariant key).bind (groupCost models amount))).map fun cost =>
              (Rung.fineBlend, cost.withAddon addon))) := by
  dsimp only [clusterRungs]
  cases models.segmented.lookup (fineKeyModel key product) with
  | some ladder => rfl
  | none =>
      cases models.fine.lookup (fineKeyModel key product) with
      | some cost => rfl
      | none =>
          cases ofKey : models.fineBlend.lookup key with
          | some blend => simp [groupCost, ofKey]
          | none =>
              cases withoutVariant key with
              | none => simp [groupCost, ofKey]
              | some blanked => simp [groupCost, ofKey, Function.comp_def]

/-- A rung depends on the predicted cluster through its key. -/
theorem chooseRung_eq_of_key (models : MerchantModels) (product : String)
    (request : LookupRequest) {fine other : Option PredictedCluster}
    (sameKey : fine.map PredictedCluster.key = other.map PredictedCluster.key) :
    chooseRung models product request fine = chooseRung models product request other := by
  cases fine with
  | none =>
      cases other with
      | none => rfl
      | some otherCluster => cases sameKey
  | some cluster =>
      cases other with
      | none => cases sameKey
      | some otherCluster =>
          rw [Option.map_some, Option.map_some, Option.some.injEq] at sameKey
          dsimp only [chooseRung, Option.bind_some]
          rw [sameKey]

theorem chooseRung_congr {models others : MerchantModels}
    (sameOverrides : models.overrides = others.overrides)
    (sameClusters : models.clusterOverrides = others.clusterOverrides)
    (sameAddons : models.addons = others.addons)
    (sameCoarse : ∀ key, models.coarse.lookup key = others.coarse.lookup key)
    {product : String} {request : LookupRequest} {fine : Option PredictedCluster}
    (sameRungs : ∀ cluster, fine = some cluster → ∀ addon,
      clusterRungs models addon product request.amount cluster.key =
        clusterRungs others addon product request.amount cluster.key) :
    chooseRung models product request fine = chooseRung others product request fine := by
  dsimp only [chooseRung]
  rw [sameOverrides, sameClusters, sameAddons, sameCoarse]
  cases fine with
  | none => rfl
  | some cluster =>
      simp only [Option.bind_some]
      rw [sameRungs cluster rfl]

end

/-! ## Assembled tables -/

section Tables

variable {own otherOwn : List CostRow} {pieces otherPieces : List LadderPiece}
  {order otherOrder : AssemblyOrder} {group : String} {amount : ℚ}

def fineTable (order : AssemblyOrder) (own : List CostRow) : HashMap String ServingCost :=
  finalize order.sums (accumulate CostRow.modelKey CostRow.sums own)

def memberTable (order : AssemblyOrder) (own : List CostRow) (pieces : List LadderPiece) :
    List Member :=
  blendMembers order (accumulate CostRow.modelKey CostRow.sums own) (fineTable order own)
    (segmentsFromTsv order pieces)

omit [LetterCase] [Rounding] in
theorem lookup_finalize_perm {α : Type*} {key : α → String} {value : α → CostSums}
    {rows others : List α} (perm : rows.Perm others)
    (order otherOrder : IterationOrder String CostSums) :
    (finalize order (accumulate key value rows)).lookup group =
      (finalize otherOrder (accumulate key value others)).lookup group := by
  rw [lookup_finalize, lookup_finalize, lookup_accumulate_perm perm]

omit [Rounding] in
theorem lookup_fineTable (order : AssemblyOrder) (weighted : ∀ row ∈ own, 0 < row.sums.2.2)
    (key : String) :
    ((fineTable order own).lookup key).isSome ↔ IsFine own key := by
  rw [fineTable, lookup_finalize_accumulate order.sums _ _ weighted, IsFine]
  by_cases listed : key ∈ own.map CostRow.modelKey
  · rw [if_pos listed]
    exact iff_of_true rfl listed
  · rw [if_neg listed]
    exact iff_of_false Bool.false_ne_true listed

omit [Rounding] in
theorem weightOf_pos_iff (weighted : ∀ row ∈ own, 0 < row.sums.2.2) (key : String) :
    0 < weightOf (accumulate CostRow.modelKey CostRow.sums own) key ↔ IsFine own key := by
  rw [weightOf, lookup_accumulate, IsFine]
  by_cases listed : key ∈ own.map CostRow.modelKey
  · rw [if_pos listed]
    refine iff_of_true ?_ listed
    rw [Option.map_some, Option.getD_some, sumOf_snd_snd]
    exact sumOf_pos (rowsOf_ne_nil listed) fun row isRow => weighted row (mem_rowsOf.mp isRow).1
  · rw [if_neg listed]
    exact iff_of_false (lt_irrefl 0) listed

omit [LetterCase] [Rounding] in
theorem isSome_lookup_segmentsFromTsv (order : AssemblyOrder) {key : String} :
    ((segmentsFromTsv order pieces).lookup key).isSome ↔ IsServed pieces key := by
  constructor
  · intro found
    rcases Option.isSome_iff_exists.mp found with ⟨ladder, isLadder⟩
    exact (lookup_segmentsFromTsv.mp isLadder).1
  · intro served
    have nonempty : sortedLadder (ladderOf pieces key) ≠ [] := by
      rw [sortedLadder_eq, Ne, sortBy_eq_nil]
      exact ladderOf_ne_nil served
    have isLadder : (segmentsFromTsv order pieces).lookup key = some
        ⟨sortedLadder (ladderOf pieces key), averageCost (ladderSums pieces key),
          (ladderSums pieces key).2.2, nonempty⟩ :=
      lookup_segmentsFromTsv.mpr ⟨served, rfl, rfl, rfl⟩
    rw [isLadder]
    rfl

section

omit [Rounding]

/-- The groups of the members are those that a model is blended under. -/
theorem mem_groups_memberTable (order : AssemblyOrder)
    (weighted : ∀ row ∈ own, 0 < row.sums.2.2) :
    group ∈ ((memberTable order own pieces).flatMap Member.pushes).map Prod.fst ↔
      HasMember own pieces group := by
  rw [memberTable, mem_groups_blendMembers, HasMember]
  apply exists_congr
  intro key
  apply and_congr_right
  intro _
  apply or_congr
  · rw [← lookup_fineTable order weighted]
    constructor
    · rintro ⟨cost, found, -⟩
      rw [found]
      rfl
    · intro found
      rcases Option.isSome_iff_exists.mp found with ⟨cost, isCost⟩
      exact ⟨cost, isCost,
        (weightOf_pos_iff weighted key).mpr ((lookup_fineTable _ weighted key).mp found)⟩
  · rw [← isSome_lookup_segmentsFromTsv order]
    constructor
    · rintro ⟨ladder, found, -⟩
      rw [found]
      rfl
    · intro found
      rcases Option.isSome_iff_exists.mp found with ⟨ladder, isLadder⟩
      rcases lookup_segmentsFromTsv.mp isLadder with ⟨served, -, -, isWeight⟩
      exact ⟨ladder, isLadder, isWeight ▸ ladderSums_pos served⟩

theorem isFine_perm (perm : own.Perm otherOwn) {key : String} :
    IsFine own key ↔ IsFine otherOwn key :=
  (perm.map CostRow.modelKey).mem_iff

theorem hasMember_perm (permOwn : own.Perm otherOwn) (permPieces : pieces.Perm otherPieces) :
    HasMember own pieces group ↔ HasMember otherOwn otherPieces group := by
  simp only [HasMember, isFine_perm permOwn, isServed_perm permPieces]

end

section

omit [LetterCase] [Rounding]

section

variable (perm : pieces.Perm otherPieces)

include perm

/-- A steady ladder has one price in every order. -/
theorem forAmount_eq_of_steady {key : String} (steady : LadderSteady pieces amount key)
    {ladder otherLadder : SegmentedCost}
    (found : (segmentsFromTsv order pieces).lookup key = some ladder)
    (otherFound : (segmentsFromTsv otherOrder otherPieces).lookup key = some otherLadder) :
    ladder.forAmount amount = otherLadder.forAmount amount := by
  rcases forAmount_of_lookup found amount with ⟨isCost, may⟩
  rcases forAmount_of_lookup otherFound amount with ⟨isOtherCost, otherMay⟩
  rw [isCost, isOtherCost, ← tierCost_perm perm]
  exact steady _ _ may (otherMay.perm (ladderOf_perm perm key).symm)

/-- The same clusters have a ladder, of the same weight. -/
theorem ladders_perm (order otherOrder : AssemblyOrder) (key : String) :
    ((segmentsFromTsv order pieces).lookup key = none ∧
        (segmentsFromTsv otherOrder otherPieces).lookup key = none) ∨
      ∃ ladder otherLadder, (segmentsFromTsv order pieces).lookup key = some ladder ∧
        (segmentsFromTsv otherOrder otherPieces).lookup key = some otherLadder ∧
        IsServed pieces key ∧ 0 < ladder.weight ∧ ladder.weight = otherLadder.weight := by
  by_cases served : IsServed pieces key
  · right
    have otherServed := (isServed_perm perm).mp served
    rcases Option.isSome_iff_exists.mp
      ((isSome_lookup_segmentsFromTsv order).mpr served) with ⟨ladder, found⟩
    rcases Option.isSome_iff_exists.mp
      ((isSome_lookup_segmentsFromTsv otherOrder).mpr otherServed) with
        ⟨otherLadder, otherFound⟩
    rcases lookup_segmentsFromTsv.mp found with ⟨-, -, -, isWeight⟩
    rcases lookup_segmentsFromTsv.mp otherFound with ⟨-, -, -, isOtherWeight⟩
    refine ⟨ladder, otherLadder, found, otherFound, served, ?_⟩
    rw [isWeight, isOtherWeight]
    exact ⟨ladderSums_pos served, congrArg (fun sums => sums.2.2) (ladderSums_perm perm key)⟩
  · left
    rw [← isSome_lookup_segmentsFromTsv order, Option.not_isSome_iff_eq_none] at served
    refine ⟨served, ?_⟩
    rw [← Option.not_isSome_iff_eq_none, isSome_lookup_segmentsFromTsv, ← isServed_perm perm,
      ← isSome_lookup_segmentsFromTsv order, served]
    exact Bool.false_ne_true

theorem segmentedCost_eq_of_steady {key : String}
    (steady : IsServed pieces key → LadderSteady pieces amount key) :
    ((segmentsFromTsv order pieces).lookup key).map (fun ladder => ladder.forAmount amount) =
      ((segmentsFromTsv otherOrder otherPieces).lookup key).map
        fun ladder => ladder.forAmount amount := by
  rcases ladders_perm perm order otherOrder key with ⟨notFound, otherNotFound⟩ |
    ⟨ladder, otherLadder, found, otherFound, served, -⟩
  · rw [notFound, otherNotFound]
  · rw [found, otherFound, Option.map_some, Option.map_some,
      forAmount_eq_of_steady perm (steady served) found otherFound]

/-- A sum over the ladders of a group is the same if they are steady. -/
theorem sumOf_ladders_eq_of_steady
    (steady : ∀ key, IsServed pieces key → BlendedUnder key group → LadderSteady pieces amount key)
    (rate : ServingCost → ℚ) :
    sumOf (fun entry => (ladderMember entry).elim 0
        (Member.share (fun cost => rate (cost.forAmount amount)) group))
        (order.segmented.entries (segmentsFromTsv order pieces)) =
      sumOf (fun entry => (ladderMember entry).elim 0
        (Member.share (fun cost => rate (cost.forAmount amount)) group))
        (otherOrder.segmented.entries (segmentsFromTsv otherOrder otherPieces)) := by
  apply sumOf_entries_congr
  intro key
  rcases ladders_perm perm order otherOrder key with ⟨notFound, otherNotFound⟩ |
    ⟨ladder, otherLadder, found, otherFound, served, weighted, sameWeight⟩
  · rw [notFound, otherNotFound]
  · rw [found, otherFound, Option.elim_some, Option.elim_some, share_ladderMember weighted,
      share_ladderMember (sameWeight ▸ weighted), ← sameWeight]
    by_cases blended : BlendedUnder key group
    · have sameCost := forAmount_eq_of_steady perm (steady key served blended) found otherFound
      dsimp only [MemberCost.forAmount]
      rw [sameCost]
    · rw [← timesBlended_pos_iff, not_lt, Nat.le_zero] at blended
      rw [blended, Nat.cast_zero, zero_mul, zero_mul]

end

end

omit [Rounding]

theorem blendTotal_eq_of_steady (permOwn : own.Perm otherOwn)
    (permPieces : pieces.Perm otherPieces)
    (steady : ∀ key, IsServed pieces key → BlendedUnder key group →
      LadderSteady pieces amount key) (rate : ServingCost → ℚ) :
    blendTotal (fun cost => rate (cost.forAmount amount)) group (memberTable order own pieces) =
      blendTotal (fun cost => rate (cost.forAmount amount)) group
        (memberTable otherOrder otherOwn otherPieces) := by
  have sameMember : fineMember (accumulate CostRow.modelKey CostRow.sums own) =
      fineMember (accumulate CostRow.modelKey CostRow.sums otherOwn) := by
    ext1 entry
    rw [fineMember, fineMember, weightOf, weightOf, lookup_accumulate_perm permOwn]
  have sameFine : ∀ key, (fineTable order own).lookup key =
      (fineTable otherOrder otherOwn).lookup key :=
    fun _ => lookup_finalize_perm permOwn order.sums otherOrder.sums
  rw [memberTable, memberTable, blendTotal_blendMembers, blendTotal_blendMembers,
    sumOf_ladders_eq_of_steady permPieces steady rate, sameMember]
  congr 1
  apply sumOf_entries_congr
  intro key
  rw [sameFine]

/-- A group has one price in every order if its ladders are steady. -/
theorem groupPrice_eq_of_steady (permOwn : own.Perm otherOwn)
    (permPieces : pieces.Perm otherPieces)
    (weighted : ∀ row ∈ own, 0 < row.sums.2.2)
    (steady : ∀ key, IsServed pieces key → BlendedUnder key group →
      LadderSteady pieces amount key) :
    ((fineBlends order (memberTable order own pieces)).lookup group).map
        (fun blend => blend.forAmount amount) =
      ((fineBlends otherOrder (memberTable otherOrder otherOwn otherPieces)).lookup group).map
        fun blend => blend.forAmount amount := by
  have otherWeighted : ∀ row ∈ otherOwn, 0 < row.sums.2.2 :=
    fun row listed => weighted row (permOwn.mem_iff.mpr listed)
  rw [forAmount_fineBlends, forAmount_fineBlends]
  have sameGroups : group ∈ ((memberTable order own pieces).flatMap Member.pushes).map Prod.fst ↔
      group ∈ ((memberTable otherOrder otherOwn otherPieces).flatMap
        Member.pushes).map Prod.fst := by
    rw [mem_groups_memberTable _ weighted, mem_groups_memberTable _ otherWeighted,
      hasMember_perm permOwn permPieces]
  apply if_congr sameGroups _ rfl
  rw [blendCost, blendCost,
    blendTotal_eq_of_steady permOwn permPieces steady ServingCost.pctBps,
    blendTotal_eq_of_steady permOwn permPieces steady ServingCost.fixed,
    blendTotal_eq_of_steady permOwn permPieces steady fun _ => 1]

end Tables

/-! ## One price -/

section OnePrice

variable {merchantId : String} {rows otherRows : ServingRows} {order otherOrder : AssemblyOrder}
  {overlays : Overlays} {request : LookupRequest}

section

omit [Rounding]

theorem groupCost_buildModel (amount : ℚ)
    (group : String) :
    groupCost (buildModel order merchantId rows overlays) amount group =
      ((fineBlends order (memberTable order (weightedRows merchantId rows.cost)
        (ladderPieces merchantId rows.segments))).lookup group).map
          fun blend => blend.forAmount amount :=
  rfl

theorem isSome_groupCost {amount : ℚ} {group : String} :
    (groupCost (buildModel order merchantId rows overlays) amount group).isSome ↔
      HasMember (weightedRows merchantId rows.cost) (ladderPieces merchantId rows.segments)
        group := by
  rw [groupCost_buildModel, forAmount_fineBlends,
    ← mem_groups_memberTable order weighted_of_mem_weightedRows]
  split
  · rename_i listed
    exact iff_of_true rfl listed
  · rename_i unlisted
    exact iff_of_false Bool.false_ne_true unlisted

/-- The groups of a cluster have one price if the ladders under the group that is used are
steady. -/
theorem groupCosts_eq_of_steady (perm : rows.Perm otherRows) {cluster : String} {amount : ℚ}
    (steady : ∀ group key, UsesGroup (weightedRows merchantId rows.cost)
      (ladderPieces merchantId rows.segments) cluster group →
        IsServed (ladderPieces merchantId rows.segments) key → BlendedUnder key group →
          LadderSteady (ladderPieces merchantId rows.segments) amount key) :
    (groupCost (buildModel order merchantId rows overlays) amount cluster).or
        ((withoutVariant cluster).bind
          (groupCost (buildModel order merchantId rows overlays) amount)) =
      (groupCost (buildModel otherOrder merchantId otherRows overlays) amount cluster).or
        ((withoutVariant cluster).bind
          (groupCost (buildModel otherOrder merchantId otherRows overlays) amount)) := by
  have permOwn := weightedRows_perm merchantId perm.cost
  have permPieces := ladderPieces_perm merchantId perm.segments
  have sameCost : ∀ group, UsesGroup (weightedRows merchantId rows.cost)
      (ladderPieces merchantId rows.segments) cluster group →
        groupCost (buildModel order merchantId rows overlays) amount group =
          groupCost (buildModel otherOrder merchantId otherRows overlays) amount group :=
    fun group uses => groupPrice_eq_of_steady permOwn permPieces weighted_of_mem_weightedRows
      fun key => steady group key uses
  by_cases hasMember : HasMember (weightedRows merchantId rows.cost)
      (ladderPieces merchantId rows.segments) cluster
  · rw [← sameCost cluster (Or.inl ⟨hasMember, rfl⟩)]
    rcases Option.isSome_iff_exists.mp (isSome_groupCost.mpr hasMember) with ⟨cost, isCost⟩
    rw [isCost, Option.some_or, Option.some_or]
  · have otherHasNone := (hasMember_perm permOwn permPieces).not.mp hasMember
    have isNone : groupCost (buildModel order merchantId rows overlays) amount cluster = none :=
      Option.not_isSome_iff_eq_none.mp (isSome_groupCost.not.mpr hasMember)
    have otherIsNone :
        groupCost (buildModel otherOrder merchantId otherRows overlays) amount cluster = none :=
      Option.not_isSome_iff_eq_none.mp (isSome_groupCost.not.mpr otherHasNone)
    rw [isNone, otherIsNone, Option.none_or, Option.none_or]
    cases blanked : withoutVariant cluster with
    | none => rfl
    | some group => exact sameCost group (Or.inr ⟨hasMember, blanked⟩)

/-- The rungs of a cluster have one price if the ladders that may be used are steady. -/
theorem clusterRungs_eq_of_steady (perm : rows.Perm otherRows) {cluster product : String}
    (noBin : request.bin = "" → product = "")
    (steady : ∀ key, MayUseLadder (weightedRows merchantId rows.cost)
      (ladderPieces merchantId rows.segments) request cluster key →
        LadderSteady (ladderPieces merchantId rows.segments) request.amount key)
    (addon : Option ServingCost) :
    clusterRungs (buildModel order merchantId rows overlays) addon product request.amount cluster =
      clusterRungs (buildModel otherOrder merchantId otherRows overlays) addon product
        request.amount cluster := by
  have permPieces := ladderPieces_perm merchantId perm.segments
  have sameLadder :
      ((buildModel order merchantId rows overlays).segmented.lookup
          (fineKeyModel cluster product)).map (fun ladder => ladder.forAmount request.amount) =
        ((buildModel otherOrder merchantId otherRows overlays).segmented.lookup
          (fineKeyModel cluster product)).map fun ladder => ladder.forAmount request.amount :=
    segmentedCost_eq_of_steady permPieces fun served =>
      steady _ ⟨served, product, noBin, Or.inl rfl⟩
  have sameFine :
      (buildModel order merchantId rows overlays).fine.lookup (fineKeyModel cluster product) =
        (buildModel otherOrder merchantId otherRows overlays).fine.lookup
          (fineKeyModel cluster product) :=
    lookup_finalize_perm (weightedRows_perm merchantId perm.cost) order.sums otherOrder.sums
  rw [clusterRungs_eq, clusterRungs_eq, ← sameLadder, ← sameFine]
  cases ofLadder : (buildModel order merchantId rows overlays).segmented.lookup
      (fineKeyModel cluster product) with
  | some ladder => rfl
  | none =>
      cases ofFine : (buildModel order merchantId rows overlays).fine.lookup
          (fineKeyModel cluster product) with
      | some cost => rfl
      | none =>
          have notServed : ¬ IsServed (ladderPieces merchantId rows.segments)
              (fineKeyModel cluster product) := by
            rw [← isSome_lookup_segmentsFromTsv order, Option.not_isSome_iff_eq_none]
            exact ofLadder
          have notFine : ¬ IsFine (weightedRows merchantId rows.cost)
              (fineKeyModel cluster product) := by
            rw [← lookup_fineTable order weighted_of_mem_weightedRows,
              Option.not_isSome_iff_eq_none]
            exact ofFine
          rw [groupCosts_eq_of_steady perm]
          intro group key uses served blended
          exact steady key ⟨served, product, noBin,
            Or.inr ⟨notServed, notFine, group, uses, blended⟩⟩

end

/-- Requests with one price have it in every order. -/
theorem priceDetermined_of_onePrice
    (one : OnePrice (weightedRows merchantId rows.cost) (countedRows merchantId rows.predictor)
      (ladderPieces merchantId rows.segments) request) :
    PriceDetermined merchantId rows request := by
  intro otherRows perm order otherOrder overlays binProduct
  have assembled : (buildModel order merchantId rows overlays).predictor =
      predictorTables order (countedRows merchantId rows.predictor) := rfl
  have otherAssembled : (buildModel otherOrder merchantId otherRows overlays).predictor =
      predictorTables otherOrder (countedRows merchantId otherRows.predictor) := rfl
  have permCounted : (countedRows merchantId rows.predictor).Perm
      (countedRows merchantId otherRows.predictor) := perm.predictor.filter _
  have sameKey :
      (predictCluster (buildModel order merchantId rows overlays) request).map
          PredictedCluster.key =
        (predictCluster (buildModel otherOrder merchantId otherRows overlays) request).map
          PredictedCluster.key := by
    cases predicted : predictCluster (buildModel order merchantId rows overlays) request with
    | none =>
        rw [predictCluster_eq_none assembled] at predicted
        rw [(predictCluster_eq_none otherAssembled).mpr fun category may =>
          predicted category ((mayPredict_perm permCounted).mpr may)]
    | some cluster =>
        rcases mayPredict_of_predictCluster assembled predicted with ⟨category, may, rfl⟩
        cases otherPredicted :
            predictCluster (buildModel otherOrder merchantId otherRows overlays) request with
        | none =>
            rw [predictCluster_eq_none otherAssembled] at otherPredicted
            exact absurd ((mayPredict_perm permCounted).mp may) (otherPredicted category)
        | some otherCluster =>
            rcases mayPredict_of_predictCluster otherAssembled otherPredicted with
              ⟨otherCategory, otherMay, rfl⟩
            have sameCategory := one.category category otherCategory may
              ((mayPredict_perm permCounted).mpr otherMay)
            rw [Option.map_some, Option.map_some, predictedCluster, predictedCluster,
              LookupRequest.clusterKey, LookupRequest.clusterKey, fineKey, fineKey, sameCategory]
  rw [servedPrice_eq_iff, ← chooseRung_eq_of_key _ _ _ sameKey]
  apply chooseRung_congr
  · rfl
  · rfl
  · rfl
  · exact fun _ =>
      lookup_finalize_perm (weightedRows_perm merchantId perm.cost) order.sums otherOrder.sums
  · intro cluster predicted addon
    rcases mayPredict_of_predictCluster assembled predicted with ⟨category, may, rfl⟩
    apply clusterRungs_eq_of_steady perm _ fun key uses => one.ladder category key may uses
    intro noBin
    rw [resolveBinProduct, if_pos noBin]

end OnePrice

end Prices

end DecisionEngine.CostIngestion
