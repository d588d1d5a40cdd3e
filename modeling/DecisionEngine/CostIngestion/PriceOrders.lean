import DecisionEngine.CostIngestion.ServedPrices

/-!
# Requests with one price

A category that may be predicted is predicted in some order of iteration, and a tier that
may price an amount prices it in some order of the rows.  So a request that could be priced
in two ways is, and its price is determined by the rows exactly when there is one way.
-/

namespace DecisionEngine.CostIngestion

open Database Map Search Text

section Prices

variable [LetterCase] [Rounding]

/-! ## Several categories -/

section Categories

variable {merchantId : String} {rows : ServingRows} {request : LookupRequest}

/-- The dimensions of the cluster of a request if it has the category. -/
def LookupRequest.dims (request : LookupRequest) (category : String) : ClusterDims :=
  ⟨request.connector, request.network, request.variantOf, request.funding, request.issuer,
    request.currency, category⟩

/-- Different prices of the clusters of two categories. -/
def LookupRequest.overridden (request : LookupRequest) (first second : String) : Overlays :=
  ⟨[], [(request.dims first, ⟨0, 0⟩), (request.dims second, ⟨1, 0⟩)], []⟩

section

omit [Rounding]

theorem lookup_overridden {first second : String}
    (differ : request.clusterKey first ≠ request.clusterKey second) :
    (byCluster (request.overridden first second).clusterOverrides).lookup
        (request.clusterKey first) = some ⟨0, 0⟩ ∧
      (byCluster (request.overridden first second).clusterOverrides).lookup
        (request.clusterKey second) = some ⟨1, 0⟩ := by
  have pairs : byCluster (request.overridden first second).clusterOverrides =
      collect [(request.clusterKey first, ⟨0, 0⟩), (request.clusterKey second, ⟨1, 0⟩)] := rfl
  have distinct : ([(request.clusterKey first, (⟨0, 0⟩ : ServingCost)),
      (request.clusterKey second, ⟨1, 0⟩)].map Prod.fst).Nodup := by simpa using differ
  rw [pairs]
  exact ⟨(lookup_collect distinct).mpr List.mem_cons_self,
    (lookup_collect distinct).mpr (List.mem_cons_of_mem _ List.mem_cons_self)⟩

theorem clusterKey_inj {first second : String}
    (same : request.clusterKey first = request.clusterKey second) :
    LetterCase.toLowercase first = LetterCase.toLowercase second := by
  have join_seven : ∀ a b c d e f last : String, join "|" [a, b, c, d, e, f, last] =
      a ++ "|" ++ b ++ "|" ++ c ++ "|" ++ d ++ "|" ++ e ++ "|" ++ f ++ "|" ++ last :=
    fun _ _ _ _ _ _ _ => rfl
  rw [LookupRequest.clusterKey, LookupRequest.clusterKey, fineKey, fineKey, join_seven,
    join_seven] at same
  exact (String.append_right_inj _).mp same

theorem chooseRung_of_override {models : MerchantModels} {product : String}
    {cluster : PredictedCluster} {cost : ServingCost}
    (overridden : models.clusterOverrides.lookup cluster.key = some cost) :
    chooseRung models product request (some cluster) = some (.clusterOverride, cost) := by
  dsimp only [chooseRung, Option.bind_some]
  rw [overridden]

end

/-- Two categories that are not one can be given different prices. -/
theorem sameCategory_of_priceDetermined (determined : PriceDetermined merchantId rows request)
    {first second : String}
    (mayFirst : MayPredict (countedRows merchantId rows.predictor) request first)
    (maySecond : MayPredict (countedRows merchantId rows.predictor) request second) :
    LetterCase.toLowercase first = LetterCase.toLowercase second := by
  by_contra differ
  have keysDiffer : request.clusterKey first ≠ request.clusterKey second :=
    fun same => differ (clusterKey_inj same)
  rcases exists_predictCluster mayFirst with ⟨order, predictsFirst⟩
  rcases exists_predictCluster maySecond with ⟨otherOrder, predictsSecond⟩
  have overridden := lookup_overridden keysDiffer
  have firstRung : chooseRung (buildModel order merchantId rows (request.overridden first second))
      (resolveBinProduct (fun _ => none) request.bin) request
        (some (predictedCluster request first)) = some (.clusterOverride, ⟨0, 0⟩) :=
    chooseRung_of_override overridden.1
  have secondRung :
      chooseRung (buildModel otherOrder merchantId rows (request.overridden first second))
        (resolveBinProduct (fun _ => none) request.bin) request
          (some (predictedCluster request second)) = some (.clusterOverride, ⟨1, 0⟩) :=
    chooseRung_of_override overridden.2
  have same := determined rows (ServingRows.Perm.refl rows) order
    otherOrder (request.overridden first second) fun _ => none
  rw [servedPrice_eq_iff,
    predictsFirst (buildModel order merchantId rows (request.overridden first second)) rfl,
    predictsSecond (buildModel otherOrder merchantId rows (request.overridden first second)) rfl,
    firstRung, secondRung] at same
  simp at same

end Categories

/-! ## Several tiers -/

section Tiers

variable {merchantId : String} {own : List CostRow} {pieces otherPieces : List LadderPiece}
  {order : AssemblyOrder} {group : String} {amount : ℚ}

section

omit [LetterCase] [Rounding]

theorem lookup_eq_of_ladderOf (perm : pieces.Perm otherPieces) {key : String}
    (same : ladderOf otherPieces key = ladderOf pieces key) :
    (segmentsFromTsv order pieces).lookup key =
      (segmentsFromTsv order otherPieces).lookup key := by
  ext ladder
  rw [lookup_segmentsFromTsv, lookup_segmentsFromTsv, same, isServed_perm perm,
    ladderSums_perm perm]

theorem ladderOf_append (others : List LadderPiece) (key : String) :
    ladderOf (pieces ++ others) key = ladderOf pieces key ++ ladderOf others key := by
  rw [ladderOf, rowsOf_append, List.map_append]
  rfl

theorem ladderOf_singleton (piece : LadderPiece) (key : String) :
    ladderOf [piece] key = if piece.key = key then [piece.segment] else [] := by
  by_cases isKey : piece.key = key <;> simp [ladderOf, rowsOf, isKey]

end

omit [Rounding] in
/-- Every tier that may price an amount prices it in some order of the rows, which only
changes the ladder of its cluster. -/
theorem exists_perm_segmentAt {rows : List SegmentRow} {key : String} {chosen : ServingSegment}
    (may : MayPrice (ladderOf (ladderPieces merchantId rows) key) amount chosen) :
    ∃ others, rows.Perm others ∧
      (∀ ladder : SegmentedCost,
        ladder.segments = sortedLadder (ladderOf (ladderPieces merchantId others) key) →
          ladder.segmentAt amount = chosen) ∧
      ∀ other, other ≠ key → ladderOf (ladderPieces merchantId others) other =
        ladderOf (ladderPieces merchantId rows) other := by
  rcases List.mem_map.mp may.1 with ⟨piece, ofKey, rfl⟩
  rcases mem_rowsOf.mp ofKey with ⟨listed, rfl⟩
  rcases List.mem_filterMap.mp listed with ⟨row, isRow, isPiece⟩
  rcases List.mem_iff_append.mp (List.mem_of_mem_filter isRow) with ⟨before, after, rfl⟩
  have pieces_append : ∀ first second : List SegmentRow, ladderPieces merchantId (first ++ second) =
      ladderPieces merchantId first ++ ladderPieces merchantId second := by
    intro first second
    rw [ladderPieces, List.filter_append, List.filterMap_append]
    rfl
  have pieces_row : ladderPieces merchantId [row] = [piece] := by
    have ofMerchant := of_decide_eq_true (List.mem_filter.mp isRow).2
    simp [ladderPieces, ofMerchant, isPiece]
  have permFirst : (before ++ row :: after).Perm ([row] ++ (before ++ after)) :=
    List.perm_middle
  have permLast : (before ++ row :: after).Perm ((before ++ after) ++ [row]) :=
    permFirst.trans List.perm_append_comm
  have mayFirst := may.perm (ladderOf_perm (ladderPieces_perm merchantId permFirst) piece.key)
  rw [pieces_append, ladderOf_append, pieces_row, ladderOf_singleton, if_pos rfl] at mayFirst
  have unchanged : ∀ other, other ≠ piece.key →
      ladderOf (ladderPieces merchantId (before ++ row :: after)) other =
        ladderOf (ladderPieces merchantId (before ++ after)) other := by
    intro other isOther
    rw [← List.singleton_append, pieces_append, pieces_append, pieces_append, pieces_row,
      ladderOf_append, ladderOf_append, ladderOf_append, ladderOf_singleton,
      if_neg (Ne.symm isOther), List.nil_append]
  rcases segmentAt_of_mayPrice mayFirst with isFirst | isLast
  · refine ⟨[row] ++ (before ++ after), permFirst, ?_, fun other isOther => ?_⟩
    · rw [pieces_append, ladderOf_append, pieces_row, ladderOf_singleton, if_pos rfl]
      exact isFirst
    · rw [unchanged other isOther, pieces_append, ladderOf_append, pieces_row, ladderOf_singleton,
        if_neg (Ne.symm isOther), List.nil_append]
  · refine ⟨(before ++ after) ++ [row], permLast, ?_, fun other isOther => ?_⟩
    · rw [pieces_append, ladderOf_append, pieces_row, ladderOf_singleton, if_pos rfl]
      exact isLast
    · rw [unchanged other isOther, pieces_append _ [row], ladderOf_append, pieces_row,
        ladderOf_singleton, if_neg (Ne.symm isOther), List.append_nil]

end Tiers

/-! ## One ladder apart -/

section Apart

variable {own : List CostRow} {pieces otherPieces : List LadderPiece} {order : AssemblyOrder}
  {group key : String} {amount : ℚ} {ladder otherLadder : SegmentedCost}

/-- A sum over the members of a group but for the ladder of one cluster. -/
def totalApart (order : AssemblyOrder) (own : List CostRow) (pieces : List LadderPiece)
    (value : MemberCost → ℚ) (group key : String) : ℚ :=
  sumOf (fun entry => (fineMember (accumulate CostRow.modelKey CostRow.sums own) entry).elim 0
      (Member.share value group)) (order.fine.entries (fineTable order own)) +
    sumOf (fun entry => (ladderMember entry).elim 0 (Member.share value group))
      (order.segmented.entries ((segmentsFromTsv order pieces).erase key))

omit [Rounding]

theorem blendTotal_memberTable (found : (segmentsFromTsv order pieces).lookup key = some ladder)
    (value : MemberCost → ℚ) :
    blendTotal value group (memberTable order own pieces) =
      totalApart order own pieces value group key +
        timesBlended key group * (value (.tiered ladder) * ladder.weight) := by
  rcases lookup_segmentsFromTsv.mp found with ⟨served, -, -, isWeight⟩
  have weighted : 0 < ladder.weight := isWeight ▸ ladderSums_pos served
  rw [memberTable, blendTotal_blendMembers, sumOf_entries_erase order.segmented _ key, found,
    Option.elim_some, share_ladderMember weighted, totalApart]
  ring

theorem totalApart_eq (perm : pieces.Perm otherPieces)
    (same : ∀ other, other ≠ key → ladderOf otherPieces other = ladderOf pieces other)
    (value : MemberCost → ℚ) :
    totalApart order own pieces value group key =
      totalApart order own otherPieces value group key := by
  rw [totalApart, totalApart]
  congr 1
  apply sumOf_entries_congr
  intro other
  by_cases isKey : other = key
  · rw [isKey, AList.lookup_erase, AList.lookup_erase]
  · rw [AList.lookup_erase_ne isKey, AList.lookup_erase_ne isKey,
      lookup_eq_of_ladderOf perm (same other isKey)]

/-- A ladder of the group has one cost if the group has. -/
theorem forAmount_eq_of_blendCost (weighted : ∀ row ∈ own, 0 < row.sums.2.2)
    (perm : pieces.Perm otherPieces)
    (same : ∀ other, other ≠ key → ladderOf otherPieces other = ladderOf pieces other)
    (found : (segmentsFromTsv order pieces).lookup key = some ladder)
    (otherFound : (segmentsFromTsv order otherPieces).lookup key = some otherLadder)
    (blended : BlendedUnder key group)
    (sameCost : blendCost amount group (memberTable order own pieces) =
      blendCost amount group (memberTable order own otherPieces)) :
    ladder.forAmount amount = otherLadder.forAmount amount := by
  rcases lookup_segmentsFromTsv.mp found with ⟨served, -, -, isWeight⟩
  rcases lookup_segmentsFromTsv.mp otherFound with ⟨-, -, -, isOtherWeight⟩
  have sameWeight : otherLadder.weight = ladder.weight := by
    rw [isWeight, isOtherWeight, ladderSums_perm perm]
  have weightPos : ladder.weight ≠ 0 := (isWeight ▸ ladderSums_pos served).ne'
  have timesPos : (timesBlended key group : ℚ) ≠ 0 :=
    Nat.cast_ne_zero.mpr (timesBlended_pos_iff.mpr blended).ne'
  have listed : group ∈ ((memberTable order own pieces).flatMap Member.pushes).map Prod.fst :=
    (mem_groups_memberTable _ weighted).mpr ⟨key, blended, Or.inr served⟩
  have totalPos := (blendTotal_pos listed).ne'
  have total : ∀ value : MemberCost → ℚ,
      blendTotal value group (memberTable order own otherPieces) =
      totalApart order own pieces value group key +
        timesBlended key group * (value (.tiered otherLadder) * ladder.weight) := by
    intro value
    rw [blendTotal_memberTable otherFound, totalApart_eq perm same, sameWeight]
  have sameTotal : blendTotal (fun _ => 1) group (memberTable order own otherPieces) =
      blendTotal (fun _ => 1) group (memberTable order own pieces) := by
    rw [total, blendTotal_memberTable found]
  have cancel : ∀ value : MemberCost → ℚ,
      blendTotal value group (memberTable order own pieces) =
        blendTotal value group (memberTable order own otherPieces) →
      value (.tiered ladder) = value (.tiered otherLadder) := by
    intro value sameSum
    rw [blendTotal_memberTable found, total] at sameSum
    exact mul_right_cancel₀ weightPos (mul_left_cancel₀ timesPos (add_left_cancel sameSum))
  rw [blendCost, blendCost, sameTotal, ServingCost.mk.injEq, div_left_inj' totalPos,
    div_left_inj' totalPos] at sameCost
  exact ServingCost.ext (cancel _ sameCost.1) (cancel _ sameCost.2)

end Apart

/-! ## Several tiers that price one amount -/

section Steady

variable {merchantId : String} {rows : ServingRows} {request : LookupRequest}
  {order : AssemblyOrder} {overlays : Overlays} {cluster product : String}
  {addon : Option ServingCost} {amount : ℚ}

section

omit [Rounding]

theorem clusterRungs_of_ladder {ladder : SegmentedCost}
    (found : (segmentsFromTsv order (ladderPieces merchantId rows.segments)).lookup
      (fineKeyModel cluster product) = some ladder) :
    clusterRungs (buildModel order merchantId rows overlays) addon product amount cluster =
      some (.segmented, (ladder.forAmount amount).withAddon addon) := by
  have isLadder : (buildModel order merchantId rows overlays).segmented.lookup
      (fineKeyModel cluster product) = some ladder := found
  rw [clusterRungs_eq, isLadder]
  rfl

/-- A cluster without a model of its own is priced from the group that is used. -/
theorem clusterRungs_of_group {group : String}
    (notServed : ¬ IsServed (ladderPieces merchantId rows.segments)
      (fineKeyModel cluster product))
    (notFine : ¬ IsFine (weightedRows merchantId rows.cost) (fineKeyModel cluster product))
    (uses : UsesGroup (weightedRows merchantId rows.cost)
      (ladderPieces merchantId rows.segments) cluster group)
    (hasMember : HasMember (weightedRows merchantId rows.cost)
      (ladderPieces merchantId rows.segments) group) :
    clusterRungs (buildModel order merchantId rows overlays) addon product amount cluster =
      some (.fineBlend, (blendCost amount group (memberTable order
        (weightedRows merchantId rows.cost)
          (ladderPieces merchantId rows.segments))).withAddon addon) := by
  have noLadder : (buildModel order merchantId rows overlays).segmented.lookup
      (fineKeyModel cluster product) = none := by
    rw [← Option.not_isSome_iff_eq_none]
    exact fun isSome => notServed ((isSome_lookup_segmentsFromTsv _).mp isSome)
  have noLine : (buildModel order merchantId rows overlays).fine.lookup
      (fineKeyModel cluster product) = none := by
    rw [← Option.not_isSome_iff_eq_none]
    exact fun isSome => notFine ((lookup_fineTable _ weighted_of_mem_weightedRows _).mp isSome)
  have isCost : groupCost (buildModel order merchantId rows overlays) amount group =
      some (blendCost amount group (memberTable order (weightedRows merchantId rows.cost)
        (ladderPieces merchantId rows.segments))) := by
    rw [groupCost_buildModel, forAmount_fineBlends, if_pos]
    exact (mem_groups_memberTable _ weighted_of_mem_weightedRows).mpr hasMember
  rw [clusterRungs_eq, noLadder, noLine, Option.map_none, Option.map_none, Option.map_none,
    Option.none_or, Option.none_or]
  rcases uses with ⟨-, rfl⟩ | ⟨noMember, isBlanked⟩
  · rw [isCost, Option.some_or]
    rfl
  · have isNone : groupCost (buildModel order merchantId rows overlays) amount cluster = none :=
      Option.not_isSome_iff_eq_none.mp (isSome_groupCost.not.mpr noMember)
    rw [isNone, Option.none_or, isBlanked, Option.bind_some, isCost]
    rfl

theorem chooseRung_of_clusterRungs {category : String} {rung : Rung × ServingCost}
    (isRung : clusterRungs (buildModel order merchantId rows Overlays.none) none product
      request.amount (request.clusterKey category) = some rung) :
    chooseRung (buildModel order merchantId rows Overlays.none) product request
      (some (predictedCluster request category)) = some rung := by
  dsimp only [chooseRung, Option.bind_some, predictedCluster]
  have noOverride : ∀ key, (buildModel order merchantId rows Overlays.none).clusterOverrides.lookup
      key = none := fun _ => rfl
  have noConnector : ∀ key, (buildModel order merchantId rows Overlays.none).overrides.lookup
      key = none := fun _ => rfl
  have noAddon : ∀ key, (buildModel order merchantId rows Overlays.none).addons.lookup
      key = none := fun _ => rfl
  rw [noOverride, noConnector, noAddon]
  dsimp only
  rw [isRung]

theorem chooseRung_of_ladder (rows : ServingRows) {category : String} {ladder : SegmentedCost}
    (found : (segmentsFromTsv order (ladderPieces merchantId rows.segments)).lookup
      (fineKeyModel (request.clusterKey category) product) = some ladder) :
    chooseRung (buildModel order merchantId rows Overlays.none) product request
      (some (predictedCluster request category)) =
        some (.segmented, ladder.forAmount request.amount) :=
  chooseRung_of_clusterRungs (clusterRungs_of_ladder found)

theorem chooseRung_of_group {category group : String}
    (notServed : ¬ IsServed (ladderPieces merchantId rows.segments)
      (fineKeyModel (request.clusterKey category) product))
    (notFine : ¬ IsFine (weightedRows merchantId rows.cost)
      (fineKeyModel (request.clusterKey category) product))
    (uses : UsesGroup (weightedRows merchantId rows.cost)
      (ladderPieces merchantId rows.segments) (request.clusterKey category) group)
    (hasMember : HasMember (weightedRows merchantId rows.cost)
      (ladderPieces merchantId rows.segments) group) :
    chooseRung (buildModel order merchantId rows Overlays.none) product request
      (some (predictedCluster request category)) =
        some (.fineBlend, blendCost request.amount group (memberTable order
          (weightedRows merchantId rows.cost) (ladderPieces merchantId rows.segments))) :=
  chooseRung_of_clusterRungs (clusterRungs_of_group notServed notFine uses hasMember)

end

/-- A program reads the tiers that may price an amount in an order in which each of them does. -/
theorem sameCost_of_priceDetermined (determined : PriceDetermined merchantId rows request)
    {category key : String} {first second : ServingSegment}
    (may : MayPredict (countedRows merchantId rows.predictor) request category)
    (uses : MayUseLadder (weightedRows merchantId rows.cost)
      (ladderPieces merchantId rows.segments) request (request.clusterKey category) key)
    (mayFirst : MayPrice (ladderOf (ladderPieces merchantId rows.segments) key) request.amount
      first)
    (maySecond : MayPrice (ladderOf (ladderPieces merchantId rows.segments) key) request.amount
      second) :
    tierCost (ladderPieces merchantId rows.segments) key first =
      tierCost (ladderPieces merchantId rows.segments) key second := by
  rcases uses with ⟨served, product, noBin, isUsed⟩
  rcases exists_predictCluster may with ⟨order, predicts⟩
  rcases exists_perm_segmentAt mayFirst with ⟨firstRows, permFirst, isFirst, sameFirst⟩
  rcases exists_perm_segmentAt maySecond with ⟨secondRows, permSecond, isSecond, sameSecond⟩
  have permPieces := ladderPieces_perm merchantId permFirst
  have permSecondPieces := ladderPieces_perm merchantId permSecond
  have hasLadder : ∀ {others}, (ladderPieces merchantId rows.segments).Perm others →
      ∃ ladder, (segmentsFromTsv order others).lookup key = some ladder :=
    fun perm => Option.isSome_iff_exists.mp
      ((isSome_lookup_segmentsFromTsv _).mpr ((isServed_perm perm).mp served))
  rcases hasLadder permPieces with ⟨ladder, found⟩
  rcases hasLadder permSecondPieces with ⟨otherLadder, otherFound⟩
  have firstCost : ladder.forAmount request.amount =
      tierCost (ladderPieces merchantId rows.segments) key first := by
    rw [(forAmount_of_lookup found request.amount).1,
      isFirst ladder (lookup_segmentsFromTsv.mp found).2.1, tierCost_perm permPieces]
  have secondCost : otherLadder.forAmount request.amount =
      tierCost (ladderPieces merchantId rows.segments) key second := by
    rw [(forAmount_of_lookup otherFound request.amount).1,
      isSecond otherLadder (lookup_segmentsFromTsv.mp otherFound).2.1,
      tierCost_perm permSecondPieces]
  have resolved : resolveBinProduct (fun _ => some product) request.bin = product := by
    rw [resolveBinProduct]
    by_cases noCard : request.bin = ""
    · rw [if_pos noCard, noBin noCard]
    · rw [if_neg noCard, Option.getD_some]
  have same := (determined { rows with segments := firstRows }
    ⟨List.Perm.refl _, List.Perm.refl _, permFirst⟩ order order Overlays.none
      fun _ => some product).symm.trans (determined { rows with segments := secondRows }
        ⟨List.Perm.refl _, List.Perm.refl _, permSecond⟩ order order Overlays.none
          fun _ => some product)
  rw [servedPrice_eq_iff, predicts (buildModel order merchantId { rows with segments := firstRows }
      Overlays.none) rfl, predicts (buildModel order merchantId { rows with segments := secondRows }
      Overlays.none) rfl, resolved] at same
  rw [← firstCost, ← secondCost]
  rcases isUsed with rfl | ⟨notServed, notFine, group, usesGroup, blended⟩
  · rw [chooseRung_of_ladder { rows with segments := firstRows } found,
      chooseRung_of_ladder { rows with segments := secondRows } otherFound] at same
    exact congrArg Prod.snd (Option.some.inj same)
  · have priced : ∀ others, (ladderPieces merchantId rows.segments).Perm
        (ladderPieces merchantId others) →
        chooseRung (buildModel order merchantId { rows with segments := others } Overlays.none)
          product request (some (predictedCluster request category)) =
            some (.fineBlend, blendCost request.amount group (memberTable order
              (weightedRows merchantId rows.cost) (ladderPieces merchantId others))) := by
      intro others perm
      apply chooseRung_of_group
      · exact fun isServed => notServed ((isServed_perm perm).mpr isServed)
      · exact notFine
      · simp only [UsesGroup, ← hasMember_perm (List.Perm.refl _) perm]
        exact usesGroup
      · exact ⟨key, blended, Or.inr ((isServed_perm perm).mp served)⟩
    rw [priced firstRows permPieces, priced secondRows permSecondPieces] at same
    apply forAmount_eq_of_blendCost weighted_of_mem_weightedRows
      (permPieces.symm.trans permSecondPieces) _ found otherFound blended
        (congrArg Prod.snd (Option.some.inj same))
    exact fun other isOther => (sameSecond other isOther).trans (sameFirst other isOther).symm

end Steady

/-! ## Requests with one price -/

/-- The price of a request is the same in every order exactly when it has one price. -/
theorem priceDetermined_iff (merchantId : String) (rows : ServingRows) (request : LookupRequest) :
    PriceDetermined merchantId rows request ↔
      OnePrice (weightedRows merchantId rows.cost) (countedRows merchantId rows.predictor)
        (ladderPieces merchantId rows.segments) request := by
  constructor
  · intro determined
    exact ⟨fun first second => sameCategory_of_priceDetermined determined,
      fun category key may uses first second => sameCost_of_priceDetermined determined may uses⟩
  · exact priceDetermined_of_onePrice

end Prices

/-! ## Two categories that were seen equally often -/

section Tied

local instance servedCase : LetterCase := .ascii

local instance servedRounding : Rounding := .decimal

def tiedCluster (category : String) : ClusterKey :=
  ⟨"visa", "visastandarddebit", "debit", "us", "usd", category, ""⟩

def tiedRows : ServingRows where
  cost :=
    [⟨"acme", "adyen", tiedCluster "regulated", some 2000, some 0, 100⟩,
      ⟨"acme", "adyen", tiedCluster "exempt", some 8000, some 0, 100⟩]
  predictor :=
    [⟨"acme", "visa", "visastandarddebit", "debit", "us", 10, "ecom", "regulated", 20⟩,
      ⟨"acme", "visa", "visastandarddebit", "debit", "us", 10, "ecom", "exempt", 20⟩]
  segments := []

def tiedRequest : LookupRequest :=
  ⟨"adyen", "visa", "debit", "standard", "usd", "us", "us", "ecom", "", "", 10⟩

/-- The order in which the categories are met decides between 20 and 80 basis points. -/
theorem priceDetermined_counterexample : ¬ PriceDetermined "acme" tiedRows tiedRequest := by
  intro determined
  have same := determined tiedRows (ServingRows.Perm.refl tiedRows) .stored
    { AssemblyOrder.stored with categories := fun _ => .reversed } Overlays.none fun _ => none
  have stored : (servedPrice (buildModel .stored "acme" tiedRows Overlays.none)
      (fun _ => none) tiedRequest).map (fun found => found.2.1.pctBps) = some 20 := by
    decide +kernel
  have reversed : (servedPrice (buildModel { AssemblyOrder.stored with
      categories := fun _ => .reversed } "acme" tiedRows Overlays.none) (fun _ => none)
        tiedRequest).map (fun found => found.2.1.pctBps) = some 80 := by
    decide +kernel
  rw [← same, stored] at reversed
  exact absurd reversed (by decide)

end Tied

end DecisionEngine.CostIngestion
