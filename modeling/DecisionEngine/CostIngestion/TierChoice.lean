import DecisionEngine.CostIngestion.OptimalSegments
import DecisionEngine.CostIngestion.ServedPrices

/-!
# The tier of an amount

The tiers of a cluster have no amount in common, but there may be gaps between them.  An amount
in a gap is priced by the last tier, which is next to the gap only if no other tier is above it.
-/

namespace DecisionEngine.CostIngestion

open Database Map Search Text

/-! ## Nearest tiers -/

/-- The tier lies between the amount and the chosen one. -/
def Between (amount : ℚ) (tier chosen : ServingSegment) : Prop :=
  (chosen.hi ≤ tier.lo ∧ tier.hi ≤ amount) ∨ (amount < tier.lo ∧ tier.hi ≤ chosen.lo)

instance (amount : ℚ) (tier chosen : ServingSegment) : Decidable (Between amount tier chosen) :=
  inferInstanceAs (Decidable (_ ∨ _))

/-- The chosen tier has the amount if any has it, and no tier lies between. -/
def IsNearest (tiers : List ServingSegment) (amount : ℚ) (chosen : ServingSegment) : Prop :=
  chosen ∈ tiers ∧ ((∃ tier ∈ tiers, tier.covers amount) → chosen.covers amount) ∧
    ∀ tier ∈ tiers, ¬Between amount tier chosen

instance (tiers : List ServingSegment) (amount : ℚ) (chosen : ServingSegment) :
    Decidable (IsNearest tiers amount chosen) :=
  inferInstanceAs (Decidable (_ ∧ _))

/-- The amount is in a tier or below all of them, or at most one tier is above it. -/
def HasNearest (tiers : List ServingSegment) (amount : ℚ) : Prop :=
  (∃ tier ∈ tiers, tier.covers amount) ∨ (∀ tier ∈ tiers, amount < tier.lo) ∨
    ∀ first ∈ tiers, ∀ second ∈ tiers, amount < first.lo → amount < second.lo → first = second

def Apart (first second : ServingSegment) : Prop :=
  first.hi ≤ second.lo ∨ second.hi ≤ first.lo

instance : Std.Symm Apart :=
  ⟨fun _ _ => Or.symm⟩

/-- Tiers without an amount in common, each with some amount. -/
structure Separated (tiers : List ServingSegment) : Prop where
  inhabited : ∀ tier ∈ tiers, tier.lo < tier.hi
  apart : tiers.Pairwise Apart

theorem Separated.perm {tiers others : List ServingSegment} (separated : Separated tiers)
    (perm : tiers.Perm others) : Separated others where
  inhabited tier listed := separated.inhabited tier (perm.mem_iff.mpr listed)
  apart := (perm.pairwise_iff Or.symm).mp separated.apart

theorem Separated.sublist {tiers others : List ServingSegment} (separated : Separated tiers)
    (kept : others.Sublist tiers) : Separated others where
  inhabited tier listed := separated.inhabited tier (kept.subset listed)
  apart := separated.apart.sublist kept

theorem ServingSegment.covers_iff {amount : ℚ} {segment : ServingSegment} :
    segment.covers amount ↔ segment.lo ≤ amount ∧ amount < segment.hi := by
  rw [ServingSegment.covers, decide_eq_true_eq]

section Nearest

variable {tiers : List ServingSegment} {amount : ℚ} {chosen : ServingSegment}

theorem Separated.eq_or_apart (separated : Separated tiers) {first second : ServingSegment}
    (isFirst : first ∈ tiers) (isSecond : second ∈ tiers) :
    first = second ∨ Apart first second := by
  by_cases same : first = second
  · exact Or.inl same
  · exact Or.inr (separated.apart.forall isFirst isSecond same)

/-- A tier with the amount has none between. -/
theorem isNearest_of_covers (separated : Separated tiers) (listed : chosen ∈ tiers)
    (covers : chosen.covers amount) : IsNearest tiers amount chosen := by
  refine ⟨listed, fun _ => covers, ?_⟩
  rw [ServingSegment.covers_iff] at covers
  rintro tier isTier (⟨above, below⟩ | ⟨above, below⟩)
  · have inhabited := separated.inhabited tier isTier
    linarith [covers.2]
  · have inhabited := separated.inhabited tier isTier
    linarith [covers.1]

/-- The lowest tier is the nearest one of an amount below them all. -/
theorem isNearest_of_below (separated : Separated tiers) (listed : chosen ∈ tiers)
    (isBelow : ∀ tier ∈ tiers, amount < tier.lo) (isLeast : ∀ tier ∈ tiers, chosen.lo ≤ tier.lo) :
    IsNearest tiers amount chosen := by
  refine ⟨listed, ?_, ?_⟩
  · rintro ⟨tier, isTier, covers⟩
    rw [ServingSegment.covers_iff] at covers
    exact absurd (isBelow tier isTier) (not_lt.mpr covers.1)
  · rintro tier isTier between
    have inhabited := separated.inhabited tier isTier
    have below := isBelow tier isTier
    have least := isLeast tier isTier
    rcases between with ⟨above, isBetween⟩ | ⟨above, isBetween⟩
    · linarith
    · linarith

/-- The highest tier is the nearest one exactly if no other one is above the amount. -/
theorem isNearest_last_iff (separated : Separated tiers) (listed : chosen ∈ tiers)
    (uncovered : ∀ tier ∈ tiers, ¬tier.covers amount)
    (isGreatest : ∀ tier ∈ tiers, tier.lo ≤ chosen.lo) :
    IsNearest tiers amount chosen ↔ ∀ first ∈ tiers, ∀ second ∈ tiers,
      amount < first.lo → amount < second.lo → first = second := by
  have inhabited := separated.inhabited chosen listed
  -- A tier above the amount that ends before another one starts is between it and the last.
  have isBetween : ∀ {first second}, second ∈ tiers → amount < first.lo →
      first.hi ≤ second.lo → Between amount first chosen :=
    fun isSecond above before => Or.inr ⟨above, before.trans (isGreatest _ isSecond)⟩
  constructor
  · intro nearest first isFirst second isSecond firstAbove secondAbove
    rcases separated.eq_or_apart isFirst isSecond with same | before | after
    · exact same
    · exact absurd (isBetween isSecond firstAbove before) (nearest.2.2 first isFirst)
    · exact absurd (isBetween isFirst secondAbove after) (nearest.2.2 second isSecond)
  · intro atMostOne
    refine ⟨listed, ?_, ?_⟩
    · rintro ⟨tier, isTier, covers⟩
      exact absurd covers (uncovered tier isTier)
    · rintro tier isTier (⟨above, below⟩ | ⟨above, below⟩)
      · have notHigher := isGreatest tier isTier
        linarith
      · have tierInhabited := separated.inhabited tier isTier
        have same := atMostOne tier isTier chosen listed above (by linarith)
        rw [same] at below
        linarith

/-- What may price an amount is the nearest tier exactly if there is such a choice. -/
theorem isNearest_iff_of_mayPrice (separated : Separated tiers)
    (may : MayPrice tiers amount chosen) :
    IsNearest tiers amount chosen ↔ HasNearest tiers amount := by
  rcases may with ⟨listed, ⟨covers, -⟩ | ⟨uncovered, ⟨isBelow, isLeast⟩ | ⟨notBelow, isGreatest⟩⟩⟩
  · exact iff_of_true (isNearest_of_covers separated listed covers)
      (Or.inl ⟨chosen, listed, covers⟩)
  · exact iff_of_true (isNearest_of_below separated listed isBelow isLeast)
      (Or.inr (Or.inl isBelow))
  · rw [isNearest_last_iff separated listed uncovered isGreatest, HasNearest]
    have notCovered : ¬∃ tier ∈ tiers, tier.covers amount := by
      rintro ⟨tier, isTier, covers⟩
      exact uncovered tier isTier covers
    have notAllAbove : ¬∀ tier ∈ tiers, amount < tier.lo := by
      intro allAbove
      rcases notBelow with ⟨tier, isTier, atMost⟩
      exact absurd (allAbove tier isTier) (not_lt.mpr atMost)
    rw [or_iff_right notCovered, or_iff_right notAllAbove]

end Nearest

/-! ## The tiers of bands -/

section Bands

variable [Rounding] {bands : Bands}

/-- The powers of ten at the ends of the bands ascend. -/
def AscendingPowers : Prop :=
  ∀ i j : ℤ, i < j →
    Rounding.pow10 (i / bucketsPerDecade) < Rounding.pow10 (j / bucketsPerDecade)

/-- The bands are in the order of their amounts. -/
def Ascending (bands : Bands) : Prop :=
  bands.Pairwise fun first second => first.1 < second.1

theorem amtRange_lt (powers : AscendingPowers) (band : ℤ) :
    (amtRange band).1 < (amtRange band).2 := by
  have next := powers band (band + 1) (lt_add_one band)
  rw [Int.cast_add, Int.cast_one] at next
  exact next

theorem amtRange_snd_le (powers : AscendingPowers) {first second : ℤ} (below : first < second) :
    (amtRange first).2 ≤ (amtRange second).1 := by
  have next : Rounding.pow10 (((first + 1 : ℤ) : ℚ) / bucketsPerDecade) ≤
      Rounding.pow10 ((second : ℚ) / bucketsPerDecade) := by
    rcases (Int.add_one_le_of_lt below).eq_or_lt with same | less
    · rw [same]
    · exact (powers _ _ less).le
  rw [Int.cast_add, Int.cast_one] at next
  exact next

omit [Rounding] in
theorem getD_fst_lt (ascending : Ascending bands) {i j : ℕ} (before : i < j)
    (inRange : j < bands.length) : (bands.getD i 0).1 < (bands.getD j 0).1 := by
  rw [List.getD_eq_getElem?_getD, List.getD_eq_getElem?_getD, List.getElem?_eq_getElem inRange,
    List.getElem?_eq_getElem (before.trans inRange)]
  exact List.pairwise_iff_getElem.mp ascending i j (before.trans inRange) inRange before

theorem segmentOf_lo_lt_hi (powers : AscendingPowers) (ascending : Ascending bands)
    {part : ℕ × ℕ} (nonempty : part.1 < part.2) (inRange : part.2 ≤ bands.length) :
    (segmentOf bands part).lo < (segmentOf bands part).hi := by
  change (amtRange (bands.getD part.1 0).1).1 < (amtRange (bands.getD (part.2 - 1) 0).1).2
  rcases (Nat.le_sub_one_of_lt nonempty).eq_or_lt with same | less
  · rw [same]
    exact amtRange_lt powers _
  · have before := getD_fst_lt ascending less (by omega)
    calc (amtRange (bands.getD part.1 0).1).1
        < (amtRange (bands.getD part.1 0).1).2 := amtRange_lt powers _
      _ ≤ (amtRange (bands.getD (part.2 - 1) 0).1).1 := amtRange_snd_le powers before
      _ < (amtRange (bands.getD (part.2 - 1) 0).1).2 := amtRange_lt powers _

/-- A later piece starts where an earlier one ends or above it. -/
theorem segmentOf_hi_le_lo (powers : AscendingPowers) (ascending : Ascending bands)
    {first second : ℕ × ℕ} (nonempty : first.1 < first.2) (before : first.2 ≤ second.1)
    (inRange : second.1 < bands.length) :
    (segmentOf bands first).hi ≤ (segmentOf bands second).lo :=
  amtRange_snd_le powers (getD_fst_lt ascending (by omega) inRange)

/-- What a piece is served as; a piece without a rate is dropped. -/
def Segment.serving (segment : Segment) : Option ServingSegment :=
  match segment.pctBps, segment.fixed with
  | some pctBps, some fixed =>
      some
        { lo := segment.lo
          hi := segment.hi
          cost := ⟨pctBps, fixed⟩
          good := segment.verdict = .good }
  | _, _ => none

omit [Rounding] in
theorem Segment.range_serving {segment : Segment} {tier : ServingSegment}
    (isTier : segment.serving = some tier) : tier.lo = segment.lo ∧ tier.hi = segment.hi := by
  rw [Segment.serving] at isTier
  cases hasRate : segment.pctBps with
  | none =>
      rw [hasRate] at isTier
      cases isTier
  | some pctBps =>
      cases hasFee : segment.fixed with
      | none =>
          rw [hasRate, hasFee] at isTier
          cases isTier
      | some fixed =>
          rw [hasRate, hasFee] at isTier
          cases isTier
          exact ⟨rfl, rfl⟩

/-- The pieces of a cluster are served as separated tiers. -/
theorem separated_segmentCluster (powers : AscendingPowers) (ascending : Ascending bands) :
    Separated ((segmentCluster bands).filterMap Segment.serving) := by
  by_cases empty : bands = []
  · rw [empty]
    exact ⟨fun tier listed => absurd listed List.not_mem_nil, List.Pairwise.nil⟩
  have cuts := (isChosen_segmentPartitions empty).cuts
  constructor
  · intro tier listed
    rcases List.mem_filterMap.mp listed with ⟨segment, isSegment, isTier⟩
    rcases List.mem_map.mp isSegment with ⟨part, isPart, rfl⟩
    have inside := cuts.lt_of_mem isPart
    rw [(Segment.range_serving isTier).1, (Segment.range_serving isTier).2]
    exact segmentOf_lo_lt_hi powers ascending inside.1 inside.2
  · rw [List.pairwise_filterMap, segmentCluster, List.pairwise_map]
    apply cuts.pairwise.imp_of_mem
    intro first second isFirst isSecond before firstTier isFirstTier secondTier isSecondTier
    left
    have firstInside := cuts.lt_of_mem isFirst
    have secondInside := cuts.lt_of_mem isSecond
    rw [(Segment.range_serving isFirstTier).2, (Segment.range_serving isSecondTier).1]
    exact segmentOf_hi_le_lo powers ascending firstInside.1 before
      (lt_of_lt_of_le secondInside.1 secondInside.2)

end Bands

/-! ## Served tiers -/

section Served

variable [Rounding] [LetterCase] {bands : Bands} {merchantId key : String}
  {rows : List SegmentRow}

/-- The rows of a key that a merchant is served with are those stored for these bands. -/
def ServesBands (merchantId : String) (rows : List SegmentRow) (key : String)
    (bands : Bands) : Prop :=
  ∃ account reportDate cluster,
    ((segmentSql merchantId rows).filter fun row =>
      row.cluster.modelKey row.account.connector = key).Perm
      ((tierRows account reportDate (cluster, segmentCluster bands)).filter fun row =>
        0 < row.segment.vol)

omit [Rounding] in
theorem piece_eq_map_serving (row : SegmentRow) :
    row.piece = row.segment.serving.map fun tier =>
      { key := row.cluster.modelKey row.account.connector
        segment := tier
        gross := row.segment.vol } := by
  rw [SegmentRow.piece, Segment.serving]
  cases row.segment.pctBps with
  | none => rfl
  | some pctBps =>
      cases row.segment.fixed with
      | none => rfl
      | some fixed => rfl

omit [Rounding] in
/-- The ladder of a key is made of the rows that are served under it. -/
theorem ladderOf_ladderPieces :
    ladderOf (ladderPieces merchantId (segmentSql merchantId rows)) key =
      (((segmentSql merchantId rows).filter fun row =>
        row.cluster.modelKey row.account.connector = key).map SegmentRow.segment).filterMap
          Segment.serving := by
  have ofMerchant : (segmentSql merchantId rows).filter
      (fun row => row.account.merchantId = merchantId) = segmentSql merchantId rows := by
    apply List.filter_eq_self.mpr
    intro row listed
    have isLatest := List.mem_of_mem_filter listed
    rw [latestSegments, List.mem_filter, decide_eq_true_eq] at isLatest
    exact decide_eq_true isLatest.2.2.1
  rw [ladderOf, rowsOf, ladderPieces, ofMerchant, List.filter_filterMap, List.map_filterMap,
    List.filterMap_map, List.filterMap_filter]
  apply List.filterMap_congr
  intro row _
  rw [piece_eq_map_serving, Function.comp_apply]
  by_cases isKey : row.cluster.modelKey row.account.connector = key
  · cases row.segment.serving with
    | none => simp [isKey]
    | some tier => simp [isKey]
  · cases row.segment.serving with
    | none => simp [isKey]
    | some tier => simp [isKey]

/-- The tiers that are served for bands are separated. -/
theorem separated_ladderOf (powers : AscendingPowers) (ascending : Ascending bands)
    (serves : ServesBands merchantId rows key bands) :
    Separated (ladderOf (ladderPieces merchantId (segmentSql merchantId rows)) key) := by
  rcases serves with ⟨account, reportDate, cluster, stored⟩
  have ofPieces : (((tierRows account reportDate (cluster, segmentCluster bands)).filter fun row =>
      0 < row.segment.vol).map SegmentRow.segment).Sublist (segmentCluster bands) := by
    have kept : (((tierRows account reportDate (cluster, segmentCluster bands)).filter fun row =>
        0 < row.segment.vol).map SegmentRow.segment).Sublist
        ((tierRows account reportDate (cluster, segmentCluster bands)).map SegmentRow.segment) :=
      List.filter_sublist.map _
    rw [map_segment_tierRows] at kept
    exact kept
  rw [ladderOf_ladderPieces]
  apply Separated.perm _ ((stored.map SegmentRow.segment).filterMap Segment.serving).symm
  exact (separated_segmentCluster powers ascending).sublist (ofPieces.filterMap Segment.serving)

/-- The price of an amount is that of a nearest tier where there is one, or the blend where this
tier is not trusted. -/
theorem forAmount_of_hasNearest {order : AssemblyOrder} {ladder : SegmentedCost} {amount : ℚ}
    (powers : AscendingPowers) (ascending : Ascending bands)
    (serves : ServesBands merchantId rows key bands)
    (found : (segmentsFromTsv order
      (ladderPieces merchantId (segmentSql merchantId rows))).lookup key = some ladder)
    (near : HasNearest (ladderOf (ladderPieces merchantId (segmentSql merchantId rows)) key)
      amount) :
    ∃ tier, IsNearest (ladderOf (ladderPieces merchantId (segmentSql merchantId rows)) key)
        amount tier ∧
      ladder.forAmount amount = if tier.good then tier.cost else ladder.blend :=
  ⟨ladder.segmentAt amount, (isNearest_iff_of_mayPrice (separated_ladderOf powers ascending serves)
    (mayPrice_segmentAt (lookup_segmentsFromTsv.mp found).2.1)).mpr near, rfl⟩

/-- The tier that prices an amount is the nearest one exactly if the amount is in a tier or below
all of them, or at most one tier is above it. -/
theorem isNearest_segmentAt_iff (order : AssemblyOrder) (powers : AscendingPowers)
    (ascending : Ascending bands) (serves : ServesBands merchantId rows key bands)
    (served : IsServed (ladderPieces merchantId (segmentSql merchantId rows)) key) :
    ∃ ladder, (segmentsFromTsv order
        (ladderPieces merchantId (segmentSql merchantId rows))).lookup key = some ladder ∧
      ∀ amount, 0 < amount →
        (IsNearest (ladderOf (ladderPieces merchantId (segmentSql merchantId rows)) key) amount
            (ladder.segmentAt amount) ↔
          HasNearest (ladderOf (ladderPieces merchantId (segmentSql merchantId rows)) key)
            amount) := by
  rcases Option.isSome_iff_exists.mp ((isSome_lookup_segmentsFromTsv order).mpr served) with
    ⟨ladder, found⟩
  refine ⟨ladder, found, fun amount _ => ?_⟩
  exact isNearest_iff_of_mayPrice (separated_ladderOf powers ascending serves)
    (mayPrice_segmentAt (lookup_segmentsFromTsv.mp found).2.1)

end Served

/-! ## A gap below two tiers -/

theorem decimalPow10_band (band : ℤ) :
    decimalPow10 (band / bucketsPerDecade) =
      10 ^ (band / 10) * (12589254117 / 10 ^ 10) ^ (band % 10).toNat := by
  have isFloor : ⌊(band : ℚ) / bucketsPerDecade⌋ = band / 10 := by
    rw [bucketsPerDecade]
    exact_mod_cast Rat.floor_intCast_div_natCast band 10
  have isTenth : ((band : ℚ) / bucketsPerDecade - ((band / 10 : ℤ) : ℚ)) * 10 =
      ((band % 10 : ℤ) : ℚ) := by
    have split : ((band % 10 : ℤ) : ℚ) = band - 10 * ((band / 10 : ℤ) : ℚ) := by
      rw [Int.emod_def]
      push_cast
      rfl
    rw [split, bucketsPerDecade]
    ring
  rw [decimalPow10, isFloor, isTenth, round_intCast]

section Gap

local instance gapCase : LetterCase := .ascii

local instance gapRounding : Rounding := .decimal

theorem ascendingPowers_decimal : AscendingPowers := by
  apply strictMono_int_of_lt_succ
  intro band
  change decimalPow10 (band / bucketsPerDecade) <
    decimalPow10 (((band + 1 : ℤ) : ℚ) / bucketsPerDecade)
  rw [decimalPow10_band, decimalPow10_band]
  have decade : (0 : ℚ) < 10 ^ (band / 10) := zpow_pos (by norm_num) _
  by_cases isLast : band % 10 = 9
  · have nextDecade : (band + 1) / 10 = band / 10 + 1 := by omega
    have nextTenth : (band + 1) % 10 = 0 := by omega
    have lastTenth : (band % 10).toNat = 9 := by omega
    rw [nextDecade, nextTenth, lastTenth, zpow_add_one₀ (by norm_num), mul_assoc]
    apply mul_lt_mul_of_pos_left _ decade
    norm_num
  · have sameDecade : (band + 1) / 10 = band / 10 := by omega
    have nextTenth : ((band + 1) % 10).toNat = (band % 10).toNat + 1 := by omega
    rw [sameDecade, nextTenth]
    apply mul_lt_mul_of_pos_left _ decade
    exact pow_lt_pow_right₀ (by norm_num) (Nat.lt_succ_self _)

/-- Bands with a gap between the first and the two others, each on a line of its own. -/
def gapBands : Bands :=
  bandsOfGroups [(10, repeatedRows (1 / 10) [10, 12]), (20, repeatedRows (1 / 50) [100, 120]),
    (21, repeatedRows (1 / 100) [130, 150])]

def gapCluster : ClusterKey :=
  ⟨"visa", "visastandarddebit", "debit", "us", "usd", "regulated", ""⟩

def gapRows : List SegmentRow :=
  tierRows ⟨"adyen", "AcmeUae", "acme"⟩ 20009 (gapCluster, segmentCluster gapBands)

def gapPieces : List LadderPiece :=
  ladderPieces "acme" (segmentSql "acme" gapRows)

theorem isNearest_segmentAt_gapBands :
    ∃ ladder, (segmentsFromTsv .stored gapPieces).lookup (gapCluster.modelKey "adyen") =
        some ladder ∧
      ∀ amount, 0 < amount →
        (IsNearest (ladderOf gapPieces (gapCluster.modelKey "adyen")) amount
            (ladder.segmentAt amount) ↔
          HasNearest (ladderOf gapPieces (gapCluster.modelKey "adyen")) amount) :=
  isNearest_segmentAt_iff .stored ascendingPowers_decimal
    (by rw [Ascending]; decide +kernel : Ascending gapBands)
    ⟨⟨"adyen", "AcmeUae", "acme"⟩, 20009, gapCluster, .of_eq (by decide +kernel)⟩
    (by rw [IsServed]; decide +kernel)

/-- An amount in the gap is priced by the last tier, although another one lies between. -/
theorem not_isNearest_gapBands :
    tiersOf gapBands = some (segmentCluster gapBands) ∧
      ((segmentsFromTsv .stored gapPieces).lookup (gapCluster.modelKey "adyen")).any fun ladder =>
        ¬IsNearest (ladderOf gapPieces (gapCluster.modelKey "adyen")) 50
          (ladder.segmentAt 50) := by
  decide +kernel

end Gap

end DecisionEngine.CostIngestion
