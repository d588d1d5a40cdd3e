import DecisionEngine.Euclid.Ast
import DecisionEngine.Number.Residues
import DecisionEngine.Text.Utf8

/-!
# Arms and splits of A/B tests

A payment is assigned to an arm by the hash of its id, and a volume split of the arm is chosen
by the same hash.  Arm and split are two residues of one number, so the splits of an arm have
their shares only as far as the two moduli have no divisor in common.
-/

namespace DecisionEngine.AbTest

open Euclid Number Text Finset

inductive Arm where
  | variant
  | control
  deriving DecidableEq

/-- The djb2 hash of a payment id. -/
def djb2 (paymentId : String) : UInt64 :=
  (encodeUtf8 paymentId).foldl (fun acc byte => acc * 33 + byte.toUInt64) 5381

def armOfHash (hash : ℕ) (variantSplitPct : UInt8) : Arm :=
  if hash % 100 < variantSplitPct.toNat then .variant else .control

def assignArm (paymentId : String) (variantSplitPct : UInt8) : Arm :=
  armOfHash (djb2 paymentId).toNat variantSplitPct

variable {T : Type}

def totalWeight (splits : List (VolumeSplit T)) : ℕ :=
  (splits.map fun split => split.split.toNat).sum

/-- The place at which the loop over the cumulative weights returns. -/
def placeOfSlot (slot : ℕ) : ℕ → List (VolumeSplit T) → Option ℕ
  | _, [] => none
  | cumulative, split :: rest =>
      if slot < cumulative + split.split.toNat then some 0
      else (placeOfSlot slot (cumulative + split.split.toNat) rest).map (· + 1)

def splitOfHash (hash : ℕ) (splits : List (VolumeSplit T)) : Option ℕ :=
  if totalWeight splits = 0 then none
  else placeOfSlot (hash % totalWeight splits) 0 splits

/-- The output of the volume split of a static arm. -/
def volumeSplitOutput (paymentId : String) (splits : List (VolumeSplit T)) : Option T :=
  (splitOfHash (djb2 paymentId).toNat splits).bind fun place =>
    splits[place]?.map VolumeSplit.output

/-! ## The split that is chosen -/

variable {place : ℕ} {splits : List (VolumeSplit T)}

/-- The loop returns at the split within whose weights the slot lies. -/
theorem placeOfSlot_eq_some_iff {slot cumulative : ℕ} (reached : cumulative ≤ slot) :
    placeOfSlot slot cumulative splits = some place ↔
      ∃ split, splits[place]? = some split ∧
        cumulative + totalWeight (splits.take place) ≤ slot ∧
        slot < cumulative + totalWeight (splits.take place) + split.split.toNat := by
  induction splits generalizing cumulative place with
  | nil => simp [placeOfSlot]
  | cons split rest ih =>
      rw [placeOfSlot]
      cases place with
      | zero =>
          split
          · next inside => simp [totalWeight, reached, inside]
          · next outside => simp [totalWeight, outside]
      | succ place =>
          have weights : totalWeight ((split :: rest).take (place + 1)) =
              split.split.toNat + totalWeight (rest.take place) := by
            simp [totalWeight]
          rw [weights]
          split
          · next inside =>
              simp only [Option.some.injEq, reduceCtorEq, false_iff]
              rintro ⟨chosen, -, above, -⟩
              omega
          · next outside =>
              have moved := @ih place (cumulative + split.split.toNat) (by omega)
              simp only [Option.map_eq_some_iff, Nat.add_right_cancel_iff, exists_eq_right,
                moved, List.getElem?_cons_succ, Nat.add_assoc]

/-- A slot below the weights is that of some split. -/
theorem placeOfSlot_isSome {slot cumulative : ℕ} (below : slot < cumulative + totalWeight splits)
    (reached : cumulative ≤ slot) :
    ∃ place < splits.length, placeOfSlot slot cumulative splits = some place := by
  induction splits generalizing cumulative with
  | nil => simp [totalWeight] at below; omega
  | cons split rest ih =>
      rw [placeOfSlot]
      split
      · exact ⟨0, by simp, rfl⟩
      · next outside =>
          have weights : totalWeight (split :: rest) = split.split.toNat + totalWeight rest := by
            simp [totalWeight]
          obtain ⟨place, inRange, found⟩ := ih (by omega) (not_lt.mp outside)
          exact ⟨place + 1, by simpa using inRange, by simp [found]⟩

theorem volumeSplitOutput_isSome_iff {paymentId : String} :
    (volumeSplitOutput paymentId splits).isSome ↔ totalWeight splits ≠ 0 := by
  unfold volumeSplitOutput splitOfHash
  split
  · next weightless => simp [weightless]
  · next weighted =>
      have below : (djb2 paymentId).toNat % totalWeight splits < 0 + totalWeight splits := by
        rw [Nat.zero_add]
        exact Nat.mod_lt _ (Nat.pos_of_ne_zero weighted)
      obtain ⟨place, inRange, found⟩ := placeOfSlot_isSome below (Nat.zero_le _)
      simp [found, inRange, weighted]

variable {hash : ℕ} {split : VolumeSplit T}

/-- A split is chosen by the residues within its weights. -/
theorem splitOfHash_eq_some_iff (listed : splits[place]? = some split)
    (weighted : 0 < totalWeight splits) :
    splitOfHash hash splits = some place ↔
      totalWeight (splits.take place) ≤ hash % totalWeight splits ∧
        hash % totalWeight splits < totalWeight (splits.take place) + split.split.toNat := by
  rw [splitOfHash, if_neg weighted.ne', placeOfSlot_eq_some_iff (Nat.zero_le _)]
  simp [listed]

theorem armOfHash_eq_variant_iff {variantSplitPct : UInt8} :
    armOfHash hash variantSplitPct = .variant ↔ hash % 100 < min variantSplitPct.toNat 100 := by
  have below : hash % 100 < 100 := Nat.mod_lt _ (by decide)
  unfold armOfHash
  split <;> simp <;> omega

/-! ## Shares of the splits -/

/-- The hashes up to the one from which arms and splits repeat. -/
def period (splits : List (VolumeSplit T)) : Finset ℕ :=
  range (Nat.lcm 100 (totalWeight splits))

variable (arm : Arm) (variantSplitPct : UInt8)

def armCount (splits : List (VolumeSplit T)) : ℕ :=
  #{hash ∈ period splits | armOfHash hash variantSplitPct = arm}

variable (splits : List (VolumeSplit T))

def splitCount (place : ℕ) : ℕ :=
  #{hash ∈ period splits | armOfHash hash variantSplitPct = arm ∧
    splitOfHash hash splits = some place}

/-- Within an arm every split has its share, up to one residue. -/
def EvenSplits (splits : List (VolumeSplit T)) : Prop :=
  ∀ place split, splits[place]? = some split →
    |(splitCount arm variantSplitPct splits place : ℚ) -
      split.split.toNat / totalWeight splits * armCount arm variantSplitPct splits| ≤ 1

/-- The greatest number that hashes keep both of under the arms and the splits. -/
def sharedModulus (splits : List (VolumeSplit T)) : ℕ :=
  Nat.gcd 100 (totalWeight splits)

/-- The skew of the residues below a boundary of the splits. -/
def boundarySkew (boundary : ℕ) : ℤ :=
  skew (sharedModulus splits) (min variantSplitPct.toNat 100 % sharedModulus splits) boundary

/-- How much the skew grows from one boundary of a split to the other. -/
def splitSkew (place : ℕ) (split : VolumeSplit T) : ℤ :=
  boundarySkew variantSplitPct splits (totalWeight (splits.take place) + split.split.toNat) -
    boundarySkew variantSplitPct splits (totalWeight (splits.take place))

/-- No split has boundaries whose skews differ by more than the shared modulus. -/
def EvenlyCut (splits : List (VolumeSplit T)) : Prop :=
  ∀ place split, splits[place]? = some split →
    |splitSkew variantSplitPct splits place split| ≤ sharedModulus splits

theorem totalWeight_take_add_le {splits : List (VolumeSplit T)}
    (listed : splits[place]? = some split) :
    totalWeight (splits.take place) + split.split.toNat ≤ totalWeight splits := by
  have parts : totalWeight splits =
      totalWeight (splits.take place) + totalWeight (splits.drop place) := by
    rw [totalWeight, totalWeight, totalWeight, ← List.sum_append, ← List.map_append,
      List.take_append_drop]
  have first : splits.drop place = split :: splits.drop (place + 1) := by
    obtain ⟨inRange, rfl⟩ := List.getElem?_eq_some_iff.mp listed
    exact List.drop_eq_getElem_cons inRange
  rw [parts, first]
  simp [totalWeight]

/-- The hashes of the variant arm with one split, against its share. -/
theorem splitCount_variant {variantSplitPct : UInt8} {splits : List (VolumeSplit T)}
    {place : ℕ} {split : VolumeSplit T} (listed : splits[place]? = some split)
    (weighted : 0 < totalWeight splits) :
    (sharedModulus splits * splitCount .variant variantSplitPct splits place : ℤ) =
      split.split.toNat * (min variantSplitPct.toNat 100 : ℕ) +
        splitSkew variantSplitPct splits place split := by
  have counted := card_residues_skew (n := 100) (by decide) weighted
    (Nat.min_le_right variantSplitPct.toNat 100) (totalWeight_take_add_le listed)
  simp only [splitCount, period, armOfHash_eq_variant_iff,
    splitOfHash_eq_some_iff listed weighted]
  exact counted

theorem armCount_variant {variantSplitPct : UInt8} {splits : List (VolumeSplit T)}
    (weighted : 0 < totalWeight splits) :
    sharedModulus splits * armCount .variant variantSplitPct splits =
      totalWeight splits * min variantSplitPct.toNat 100 := by
  have counted := card_smallResidue (n := 100) (by decide) weighted
    (Nat.min_le_right variantSplitPct.toNat 100)
  simp only [armCount, period, armOfHash_eq_variant_iff]
  exact counted

theorem armOfHash_eq_control_iff {variantSplitPct : UInt8} :
    armOfHash hash variantSplitPct = .control ↔
      ¬ armOfHash hash variantSplitPct = .variant := by
  cases armOfHash hash variantSplitPct <;> simp

theorem armOfHash_whole (hash : ℕ) : armOfHash hash 100 = .variant := by
  have below : hash % 100 < 100 := Nat.mod_lt _ (by decide)
  simpa [armOfHash] using below

/-- Both arms together have every hash. -/
theorem card_arms (hashes : Finset ℕ) :
    #{hash ∈ hashes | armOfHash hash variantSplitPct = .variant} +
      #{hash ∈ hashes | armOfHash hash variantSplitPct = .control} = #(hashes) := by
  simp only [armOfHash_eq_control_iff]
  exact card_filter_add_card_filter_not _

theorem armCount_add :
    armCount .variant variantSplitPct splits + armCount .control variantSplitPct splits =
      armCount .variant 100 splits := by
  simp only [armCount, card_arms, armOfHash_whole, filter_true]

theorem splitCount_add (place : ℕ) :
    splitCount .variant variantSplitPct splits place +
        splitCount .control variantSplitPct splits place =
      splitCount .variant 100 splits place := by
  have swapped : ∀ arm pct, splitCount arm pct splits place =
      #{hash ∈ {hash ∈ period splits | splitOfHash hash splits = some place} |
        armOfHash hash pct = arm} := by
    intro arm pct
    rw [splitCount, filter_filter]
    simp only [and_comm]
  simp only [swapped, card_arms, armOfHash_whole, filter_true]

theorem splitSkew_whole (place : ℕ) (split : VolumeSplit T) :
    splitSkew 100 splits place split = 0 := by
  have divides : min (100 : UInt8).toNat 100 % sharedModulus splits = 0 :=
    Nat.mod_eq_zero_of_dvd (Nat.gcd_dvd_left 100 _)
  rw [splitSkew, boundarySkew, boundarySkew, divides]
  simp [skew]

/-- How far a split is from its share in the variant arm. -/
theorem splitCount_sub_share_variant {splits : List (VolumeSplit T)}
    (listed : splits[place]? = some split) (weighted : 0 < totalWeight splits)
    (variantSplitPct : UInt8) :
    sharedModulus splits * ((splitCount .variant variantSplitPct splits place : ℚ) -
      split.split.toNat / totalWeight splits * armCount .variant variantSplitPct splits) =
    splitSkew variantSplitPct splits place split := by
  have weightedRat : (totalWeight splits : ℚ) ≠ 0 := by exact_mod_cast weighted.ne'
  have counted : (sharedModulus splits * splitCount .variant variantSplitPct splits place : ℚ) =
      split.split.toNat * (min variantSplitPct.toNat 100 : ℕ) +
        splitSkew variantSplitPct splits place split := by
    exact_mod_cast @splitCount_variant _ variantSplitPct _ _ _ listed weighted
  have counts : (sharedModulus splits * armCount .variant variantSplitPct splits : ℚ) =
      totalWeight splits * (min variantSplitPct.toNat 100 : ℕ) := by
    exact_mod_cast armCount_variant weighted
  calc (sharedModulus splits * ((splitCount .variant variantSplitPct splits place : ℚ) -
        split.split.toNat / totalWeight splits * armCount .variant variantSplitPct splits) : ℚ)
      = sharedModulus splits * splitCount .variant variantSplitPct splits place -
          split.split.toNat / totalWeight splits *
            (sharedModulus splits * armCount .variant variantSplitPct splits) := by ring
    _ = splitSkew variantSplitPct splits place split := by
        rw [counted, counts]
        field_simp
        ring

/-- What one arm has too many of a split, the other has too few of. -/
theorem splitCount_sub_share {splits : List (VolumeSplit T)} (listed : splits[place]? = some split)
    (weighted : 0 < totalWeight splits) (variantSplitPct : UInt8) (arm : Arm) :
    sharedModulus splits * |(splitCount arm variantSplitPct splits place : ℚ) -
      split.split.toNat / totalWeight splits * armCount arm variantSplitPct splits| =
    (|splitSkew variantSplitPct splits place split| : ℤ) := by
  have modulusPos : (0 : ℚ) ≤ sharedModulus splits := by positivity
  have inVariant := splitCount_sub_share_variant listed weighted
  rw [Int.cast_abs, ← abs_of_nonneg modulusPos, ← abs_mul]
  cases arm with
  | variant => rw [inVariant]
  | control =>
      have splitParts := splitCount_add variantSplitPct splits place
      have armParts := armCount_add variantSplitPct splits
      have whole := inVariant 100
      rw [splitSkew_whole, ← splitParts, ← armParts] at whole
      have variantPart := inVariant variantSplitPct
      push_cast at whole
      rw [← abs_neg, ← variantPart]
      congr 1
      linear_combination (-1) * whole

/-- Without weights no split is chosen, and none has a share. -/
theorem evenSplits_of_weightless {splits : List (VolumeSplit T)}
    (weightless : totalWeight splits = 0) :
    EvenSplits arm variantSplitPct splits ∧ EvenlyCut variantSplitPct splits := by
  constructor
  · intro place split _
    simp [splitCount, armCount, period, weightless]
  · intro place split listed
    have whole := totalWeight_take_add_le listed
    have unweighted : split.split.toNat = 0 := by omega
    simp [splitSkew, unweighted]

/-- Within an arm the splits have their shares exactly when they are cut evenly. -/
theorem evenSplits_iff_evenlyCut :
    EvenSplits arm variantSplitPct splits ↔ EvenlyCut variantSplitPct splits := by
  rcases Nat.eq_zero_or_pos (totalWeight splits) with weightless | weighted
  · have both := evenSplits_of_weightless arm variantSplitPct weightless
    exact iff_of_true both.1 both.2
  · have modulusPos : (0 : ℚ) < sharedModulus splits := by
      exact_mod_cast Nat.gcd_pos_of_pos_left _ (by decide : 0 < 100)
    refine forall_congr' fun place => forall_congr' fun split => imp_congr_right fun listed => ?_
    have off := splitCount_sub_share listed weighted variantSplitPct arm
    rw [← mul_le_mul_iff_of_pos_left modulusPos, off, mul_one]
    exact_mod_cast Iff.rfl

/-- The splits of both arms have their shares within the arm exactly when each list is cut
evenly. -/
theorem evenSplits_iff (variantSplits controlSplits : List (VolumeSplit T)) :
    EvenSplits .variant variantSplitPct variantSplits ∧
        EvenSplits .control variantSplitPct controlSplits ↔
      EvenlyCut variantSplitPct variantSplits ∧ EvenlyCut variantSplitPct controlSplits :=
  and_congr (evenSplits_iff_evenlyCut .variant variantSplitPct variantSplits)
    (evenSplits_iff_evenlyCut .control variantSplitPct controlSplits)

/-- With thirty percent in the variant arm, its payments all have the first of two halves. -/
theorem evenSplits_counterexample :
    ¬ (EvenSplits .variant 30 [⟨50, ConnectorInfo.mk "adyen" none⟩, ⟨50, ⟨"stripe", none⟩⟩] ∧
      EvenSplits .control 30 [⟨50, ConnectorInfo.mk "adyen" none⟩, ⟨50, ⟨"stripe", none⟩⟩]) := by
  rw [evenSplits_iff_evenlyCut]
  rintro ⟨cut, -⟩
  have first := cut 0 _ rfl
  revert first
  decide

end DecisionEngine.AbTest
