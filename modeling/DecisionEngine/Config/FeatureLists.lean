import DecisionEngine.Config.Features

/-!
# The lists of a feature

A configuration of a feature enables it for everybody or for the merchants it lists, with a
rollout for all or for each, and lists merchants that the feature is disabled for.  The same
goes for dimensions of a payment, where the disable list has rollouts as well.

The lists are not honoured everywhere.  For merchants the disable list counts only where all
are enabled, and then in place of the rollout; for dimensions it is the entries of the others
that are looked at.
-/

namespace DecisionEngine.Config

open Text

/-! ## Dimensions -/

structure FeatureDimension where
  dimension : String
  rollout : Int

structure DimensionConf where
  enableAll : Bool
  enableAllRollout : Option Int
  disableAny : Option (List FeatureDimension)
  dimensions : Option (List FeatureDimension)

section Dimensions

variable [LetterCase]

/-- The disable list applies to a dimension that is enabled, with a draw of its own. -/
def isDimensionConfigEnabled (conf : DimensionConf) (dimension : String) (isEnabled : Bool)
    (disableDraw : Int) : Bool :=
  match isEnabled, conf.disableAny with
  | true, some disabled =>
      match disabled.find? fun d => ¬SameLetters d.dimension dimension with
      | some d => roller disableDraw d.rollout
      | none => isEnabled
  | _, _ => isEnabled

def checkDimensionEnabled (dimensionConf : Option DimensionConf) (dimension : String)
    (draw disableDraw : Int) : Bool :=
  match dimensionConf with
  | none => false
  | some conf =>
      let isEnabled :=
        if conf.enableAll then
          match conf.enableAllRollout with
          | some rollout => roller draw rollout
          | none => true
        else
          match conf.dimensions with
          | some dimensions =>
              match dimensions.find? fun dConf => SameLetters dConf.dimension dimension with
              | some dimension => roller draw dimension.rollout
              | none => false
          | none => false
      isDimensionConfigEnabled conf dimension isEnabled disableDraw

end Dimensions

/-! ## What the lists promise -/

/-- What a configuration has about one merchant or dimension. -/
structure FeatureLists where
  enableAll : Bool
  enableAllRollout : Option Int
  /-- It is on the disable list. -/
  disabled : Bool
  /-- The rollout of its entry. -/
  rollout : Option Int

/-- The draw is within the rollout for all, if there is one. -/
def FeatureLists.WithinAll (lists : FeatureLists) (draw : Int) : Prop :=
  ∀ rollout, lists.enableAllRollout = some rollout → draw ≤ rollout

structure FeatureLists.Honoured (lists : FeatureLists) (draw : Int) (enabled : Bool) : Prop where
  disabled : lists.disabled = true → enabled = false
  unlisted : lists.enableAll = true → lists.disabled = false → lists.rollout = none →
    ∀ rollout, lists.enableAllRollout = some rollout → (enabled = true ↔ draw ≤ rollout)
  entry : lists.disabled = false → ∀ rollout, lists.rollout = some rollout →
    (enabled = true ↔ draw ≤ rollout)

/-- A list with one more entry. -/
def insertEntry {α : Type} (place : Nat) (entry : α) (list : Option (List α)) :
    Option (List α) :=
  some ((list.getD []).take place ++ entry :: (list.getD []).drop place)

theorem find?_insertEntry {α : Type} {passes : α → Bool} (place : Nat) {entry : α}
    (list : Option (List α)) (notPasses : passes entry = false) :
    ((insertEntry place entry list).getD []).find? passes = (list.getD []).find? passes := by
  rw [insertEntry, Option.getD_some, List.find?_append, List.find?_cons, notPasses]
  dsimp only
  rw [← List.find?_append, List.take_append_drop]

theorem mem_insertEntry {α : Type} (place : Nat) {entry other : α} {list : Option (List α)} :
    other ∈ (insertEntry place entry list).getD [] ↔ other = entry ∨ other ∈ list.getD [] := by
  rw [insertEntry, Option.getD_some, List.mem_append, List.mem_cons, or_left_comm,
    ← List.mem_append, List.take_append_drop]

/-! ## Merchants -/

inductive AddedMerchant where
  | merchants (place : Nat) (merchant : MerchantFeature)
  | disableAny (place : Nat) (merchantId : String)

def AddedMerchant.about : AddedMerchant → String
  | merchants _ merchant => merchant.merchantId
  | disableAny _ merchantId => merchantId

def FeatureConf.add (conf : FeatureConf) : AddedMerchant → FeatureConf
  | .merchants place merchant =>
      { conf with merchants := insertEntry place merchant conf.merchants }
  | .disableAny place merchantId =>
      { conf with disableAny := insertEntry place merchantId conf.disableAny }

section Merchants

variable [LetterCase]

def FeatureConf.lists (conf : FeatureConf) (merchantId : String) : FeatureLists where
  enableAll := conf.enableAll
  enableAllRollout := conf.enableAllRollout
  disabled := (conf.disableAny.getD []).any fun disabled => SameLetters disabled merchantId
  rollout := ((conf.merchants.getD []).find? fun merchant =>
    SameLetters merchant.merchantId merchantId).map MerchantFeature.rollout

/-- The lists are honoured, and the entry of another merchant changes nothing. -/
def FeatureConf.ListsHonoured (conf : FeatureConf) (merchantId : String) (draw : Int)
    (added : AddedMerchant) : Prop :=
  (conf.lists merchantId).Honoured draw (checkMerchantEnabled (some conf) merchantId draw) ∧
    (¬SameLetters added.about merchantId →
      checkMerchantEnabled (some (conf.add added)) merchantId draw =
        checkMerchantEnabled (some conf) merchantId draw)

/-- Where the lists are honoured for merchants: a disabled one is listed in its own letter case
where all are enabled, and not within its own rollout where they are not; and where all are
enabled, the draw is within the rollout for all where there is a disable list or one begins, and
within the merchant's own rollout just when it is within that for all. -/
structure FeatureConf.ListsKept (conf : FeatureConf) (merchantId : String) (draw : Int)
    (added : AddedMerchant) : Prop where
  disabled : (conf.lists merchantId).disabled = true →
    if conf.enableAll then merchantId ∈ conf.disableAny.getD []
    else ∀ rollout, (conf.lists merchantId).rollout = some rollout → rollout < draw
  unlisted : conf.enableAll = true → (conf.lists merchantId).disabled = false →
    (conf.lists merchantId).rollout = none → conf.disableAny ≠ none →
      (conf.lists merchantId).WithinAll draw
  entry : conf.enableAll = true → (conf.lists merchantId).disabled = false →
    ∀ rollout, (conf.lists merchantId).rollout = some rollout →
      ((conf.disableAny = none → (conf.lists merchantId).WithinAll draw) ↔ draw ≤ rollout)
  added : conf.enableAll = true → conf.disableAny = none →
    ∀ place other, added = .disableAny place other → ¬SameLetters other merchantId →
      (conf.lists merchantId).WithinAll draw

variable {conf : FeatureConf} {merchantId : String} {draw : Int}

theorem checkMerchantEnabled_iff :
    checkMerchantEnabled (some conf) merchantId draw = true ↔
      if conf.enableAll then merchantId ∉ conf.disableAny.getD [] ∧
        (conf.disableAny = none → (conf.lists merchantId).WithinAll draw)
      else ∃ rollout, (conf.lists merchantId).rollout = some rollout ∧ draw ≤ rollout := by
  rw [checkMerchantEnabled_eq_view, Option.getD_some, FeatureView.enabled]
  change (if conf.enableAll then _ else _) = true ↔ _
  cases conf.enableAll with
  | true =>
      rw [if_pos rfl, if_pos rfl, FeatureConf.view]
      cases conf.disableAny with
      | some disableAny => simp
      | none =>
          cases isRollout : conf.enableAllRollout <;>
            simp [FeatureLists.WithinAll, FeatureConf.lists, isRollout, roller]
  | false =>
      have notAll : ¬(false = true) := by decide
      rw [if_neg notAll, if_neg notAll]
      change (match (conf.lists merchantId).rollout with
        | some rollout => roller draw rollout
        | none => false) = true ↔ _
      cases (conf.lists merchantId).rollout <;> simp [roller]

/-- Where all are enabled, one that is not disabled is enabled unless the draw is out of the
rollout for all and there is no disable list. -/
theorem checkMerchantEnabled_iff_of_all (all : conf.enableAll = true)
    (notDisabled : (conf.lists merchantId).disabled = false) :
    checkMerchantEnabled (some conf) merchantId draw = true ↔
      (conf.disableAny = none → (conf.lists merchantId).WithinAll draw) := by
  rw [checkMerchantEnabled_iff, if_pos all, and_iff_right]
  intro listed
  have same := List.any_eq_false.mp notDisabled merchantId listed
  exact same (decide_eq_true rfl)

theorem checkMerchantEnabled_iff_of_notAll (notAll : conf.enableAll = false) :
    checkMerchantEnabled (some conf) merchantId draw = true ↔
      ∃ rollout, (conf.lists merchantId).rollout = some rollout ∧ draw ≤ rollout := by
  rw [checkMerchantEnabled_iff, if_neg (by simp [notAll])]

theorem lists_add_merchants (place : Nat) {merchant : MerchantFeature}
    (other : ¬SameLetters merchant.merchantId merchantId) :
    (conf.add (.merchants place merchant)).lists merchantId = conf.lists merchantId := by
  have found : ((insertEntry place merchant conf.merchants).getD []).find?
        (fun merchant => decide (SameLetters merchant.merchantId merchantId)) =
      (conf.merchants.getD []).find?
        (fun merchant => decide (SameLetters merchant.merchantId merchantId)) :=
    find?_insertEntry place _ (decide_eq_false other)
  rw [FeatureConf.lists, FeatureConf.lists, FeatureConf.add]
  dsimp only
  rw [found]

/-- The entry of another merchant changes the answer only where it begins the disable list. -/
theorem checkMerchantEnabled_add_iff (added : AddedMerchant)
    (other : ¬SameLetters added.about merchantId) :
    checkMerchantEnabled (some (conf.add added)) merchantId draw =
        checkMerchantEnabled (some conf) merchantId draw ↔
      (conf.enableAll = true → conf.disableAny = none →
        ∀ place name, added = .disableAny place name →
          (conf.lists merchantId).WithinAll draw) := by
  rw [Bool.eq_iff_iff, checkMerchantEnabled_iff, checkMerchantEnabled_iff]
  cases added with
  | merchants place merchant =>
      rw [lists_add_merchants place other]
      exact iff_of_true Iff.rfl nofun
  | disableAny place name =>
      have differ : merchantId ≠ name := fun same => other (same ▸ rfl)
      change ((if conf.enableAll then
        merchantId ∉ (insertEntry place name conf.disableAny).getD [] ∧
          (insertEntry place name conf.disableAny = none → _) else _) ↔ _) ↔ _
      rw [mem_insertEntry, or_iff_right differ]
      by_cases all : conf.enableAll = true
      · rw [if_pos all, if_pos all]
        cases conf.disableAny with
        | none => simp [all, insertEntry]
        | some disableAny => simp [insertEntry]
      · rw [if_neg all, if_neg all]
        exact iff_of_true Iff.rfl fun isAll => absurd isAll all

theorem FeatureConf.listsHonoured_iff_listsKept (added : AddedMerchant) :
    conf.ListsHonoured merchantId draw added ↔ conf.ListsKept merchantId draw added := by
  constructor
  · rintro ⟨honoured, others⟩
    refine ⟨?_, ?_, ?_, ?_⟩
    · intro isDisabled
      have notEnabled := honoured.disabled isDisabled
      split
      · next all =>
          by_contra unlisted
          have enabled : checkMerchantEnabled (some conf) merchantId draw = true := by
            rw [checkMerchantEnabled_iff, if_pos all]
            exact ⟨unlisted, fun noList => absurd isDisabled (by simp [FeatureConf.lists, noList])⟩
          rw [notEnabled] at enabled
          cases enabled
      · next notAll =>
          intro rollout isRollout
          by_contra within
          have enabled := (checkMerchantEnabled_iff_of_notAll (eq_false_of_ne_true notAll)).mpr
            ⟨rollout, isRollout, Int.not_lt.mp within⟩
          rw [notEnabled] at enabled
          cases enabled
    · intro all notDisabled noEntry hasList rollout isRollout
      refine (honoured.unlisted all notDisabled noEntry rollout isRollout).mp ?_
      exact (checkMerchantEnabled_iff_of_all all notDisabled).mpr fun noList =>
        absurd noList hasList
    · intro all notDisabled rollout isRollout
      rw [← checkMerchantEnabled_iff_of_all all notDisabled]
      exact honoured.entry notDisabled rollout isRollout
    · intro all noList place name isAdded differ
      subst isAdded
      have unchanged :=
        (checkMerchantEnabled_add_iff (.disableAny place name) differ).mp (others differ)
      exact unchanged all noList place name rfl
  · intro kept
    refine ⟨⟨?_, ?_, ?_⟩, ?_⟩
    · intro isDisabled
      have listed := kept.disabled isDisabled
      rw [← Bool.not_eq_true, checkMerchantEnabled_iff]
      split at listed
      · next all =>
          rw [if_pos all]
          exact fun enabled => enabled.1 listed
      · next notAll =>
          rw [if_neg notAll]
          rintro ⟨rollout, isRollout, within⟩
          exact absurd (listed rollout isRollout) (Int.not_lt.mpr within)
    · intro all notDisabled noEntry rollout isRollout
      rw [checkMerchantEnabled_iff_of_all all notDisabled]
      constructor
      · intro within
        by_cases noList : conf.disableAny = none
        · exact within noList rollout isRollout
        · exact kept.unlisted all notDisabled noEntry noList rollout isRollout
      · intro within _ other isOther
        cases isRollout.symm.trans isOther
        exact within
    · intro notDisabled rollout isRollout
      cases all : conf.enableAll with
      | true =>
          rw [checkMerchantEnabled_iff_of_all all notDisabled]
          exact kept.entry all notDisabled rollout isRollout
      | false =>
          rw [checkMerchantEnabled_iff_of_notAll all, isRollout]
          simp
    · intro differ
      rw [checkMerchantEnabled_add_iff added differ]
      rintro all noList place name rfl
      exact kept.added all noList place name rfl differ

end Merchants

/-! ## Dimensions and their lists -/

inductive AddedDimension where
  | dimensions (place : Nat) (dimension : FeatureDimension)
  | disableAny (place : Nat) (dimension : FeatureDimension)

def AddedDimension.about : AddedDimension → String
  | dimensions _ dimension => dimension.dimension
  | disableAny _ dimension => dimension.dimension

def DimensionConf.add (conf : DimensionConf) : AddedDimension → DimensionConf
  | .dimensions place dimension =>
      { conf with dimensions := insertEntry place dimension conf.dimensions }
  | .disableAny place dimension =>
      { conf with disableAny := insertEntry place dimension conf.disableAny }

section DimensionLists

variable [LetterCase]

def DimensionConf.lists (conf : DimensionConf) (dimension : String) : FeatureLists where
  enableAll := conf.enableAll
  enableAllRollout := conf.enableAllRollout
  disabled := (conf.disableAny.getD []).any fun disabled =>
    SameLetters disabled.dimension dimension
  rollout := ((conf.dimensions.getD []).find? fun dConf =>
    SameLetters dConf.dimension dimension).map FeatureDimension.rollout

/-- The lists are honoured, and the entry of another dimension changes nothing. -/
def DimensionConf.ListsHonoured (conf : DimensionConf) (dimension : String)
    (draw disableDraw : Int) (added : AddedDimension) : Prop :=
  (conf.lists dimension).Honoured draw
      (checkDimensionEnabled (some conf) dimension draw disableDraw) ∧
    (¬SameLetters added.about dimension →
      checkDimensionEnabled (some (conf.add added)) dimension draw disableDraw =
        checkDimensionEnabled (some conf) dimension draw disableDraw)

/-- The dimension is enabled before the disable list is looked at. -/
def FeatureLists.Enabled (lists : FeatureLists) (draw : Int) : Prop :=
  if lists.enableAll then lists.WithinAll draw
  else ∃ rollout, lists.rollout = some rollout ∧ draw ≤ rollout

/-- The second draw is within the rollout of the first disabled dimension that is another one,
if there is any. -/
def PassesOthers (disabled : List FeatureDimension) (dimension : String) (disableDraw : Int) :
    Prop :=
  ∀ other, (disabled.find? fun d => ¬SameLetters d.dimension dimension) = some other →
    disableDraw ≤ other.rollout

/-- Where the lists are honoured for dimensions, by what the disable list has of the others. -/
structure DimensionConf.ListsKept (conf : DimensionConf) (dimension : String)
    (draw disableDraw : Int) (added : AddedDimension) : Prop where
  disabled : (conf.lists dimension).disabled = true → (conf.lists dimension).Enabled draw →
    ¬PassesOthers (conf.disableAny.getD []) dimension disableDraw
  unlisted : conf.enableAll = true → (conf.lists dimension).disabled = false →
    (conf.lists dimension).rollout = none → conf.enableAllRollout ≠ none →
      (conf.lists dimension).WithinAll draw →
        PassesOthers (conf.disableAny.getD []) dimension disableDraw
  entry : (conf.lists dimension).disabled = false →
    ∀ rollout, (conf.lists dimension).rollout = some rollout →
      ((conf.lists dimension).Enabled draw ∧
        PassesOthers (conf.disableAny.getD []) dimension disableDraw ↔ draw ≤ rollout)
  added : (conf.lists dimension).Enabled draw →
    ∀ place other, added = .disableAny place other → ¬SameLetters other.dimension dimension →
      (∀ d ∈ (conf.disableAny.getD []).take place, SameLetters d.dimension dimension) →
        (disableDraw ≤ other.rollout ↔
          PassesOthers ((conf.disableAny.getD []).drop place) dimension disableDraw)

variable {conf : DimensionConf} {dimension : String} {draw disableDraw : Int}

theorem isDimensionConfigEnabled_iff {isEnabled : Bool} :
    isDimensionConfigEnabled conf dimension isEnabled disableDraw = true ↔
      isEnabled = true ∧ PassesOthers (conf.disableAny.getD []) dimension disableDraw := by
  cases isEnabled with
  | false => simp [isDimensionConfigEnabled]
  | true =>
      rcases conf with ⟨enableAll, enableAllRollout, _ | disabled, dimensions⟩
      · simp [isDimensionConfigEnabled, PassesOthers]
      · cases found : disabled.find? fun d => decide ¬SameLetters d.dimension dimension <;>
          simp only [isDimensionConfigEnabled, PassesOthers, Option.getD_some, found, roller] <;>
          simp

theorem checkDimensionEnabled_iff :
    checkDimensionEnabled (some conf) dimension draw disableDraw = true ↔
      (conf.lists dimension).Enabled draw ∧
        PassesOthers (conf.disableAny.getD []) dimension disableDraw := by
  rw [checkDimensionEnabled, isDimensionConfigEnabled_iff]
  apply and_congr_left'
  rcases conf with ⟨enableAll, enableAllRollout, disableAny, dimensions⟩
  cases enableAll with
  | true =>
      cases enableAllRollout <;>
        simp [FeatureLists.Enabled, FeatureLists.WithinAll, DimensionConf.lists, roller]
  | false =>
      cases dimensions with
      | none => simp [FeatureLists.Enabled, DimensionConf.lists]
      | some dimensions =>
          cases found : dimensions.find? fun dConf =>
              decide (SameLetters dConf.dimension dimension) <;>
            simp [FeatureLists.Enabled, DimensionConf.lists, roller, found]

variable {added : FeatureDimension}

theorem lists_add_dimensions (place : Nat) (other : ¬SameLetters added.dimension dimension) :
    (conf.add (.dimensions place added)).lists dimension = conf.lists dimension := by
  have found : ((insertEntry place added conf.dimensions).getD []).find?
        (fun dConf => decide (SameLetters dConf.dimension dimension)) =
      (conf.dimensions.getD []).find?
        (fun dConf => decide (SameLetters dConf.dimension dimension)) :=
    find?_insertEntry place _ (decide_eq_false other)
  rw [DimensionConf.lists, DimensionConf.lists, DimensionConf.add]
  dsimp only
  rw [found]

theorem passesOthers_cons (first : FeatureDimension) (rest : List FeatureDimension) :
    PassesOthers (first :: rest) dimension disableDraw ↔
      if SameLetters first.dimension dimension then PassesOthers rest dimension disableDraw
      else disableDraw ≤ first.rollout := by
  rw [PassesOthers, List.find?_cons]
  by_cases own : SameLetters first.dimension dimension
  · rw [if_pos own, decide_eq_false (not_not_intro own)]
    rfl
  · rw [if_neg own, decide_eq_true own]
    simp

variable {first : List FeatureDimension}

theorem passesOthers_append_own (rest : List FeatureDimension)
    (own : ∀ d ∈ first, SameLetters d.dimension dimension) :
    PassesOthers (first ++ rest) dimension disableDraw ↔
      PassesOthers rest dimension disableDraw := by
  induction first with
  | nil => rfl
  | cons d others ih =>
      rcases List.forall_mem_cons.mp own with ⟨isOwn, othersOwn⟩
      rw [List.cons_append, passesOthers_cons, if_pos isOwn, ih othersOwn]

theorem passesOthers_append_other (rest : List FeatureDimension)
    (notOwn : ¬∀ d ∈ first, SameLetters d.dimension dimension) :
    PassesOthers (first ++ rest) dimension disableDraw ↔
      PassesOthers first dimension disableDraw := by
  induction first with
  | nil => exact absurd (by simp) notOwn
  | cons d others ih =>
      rw [List.cons_append, passesOthers_cons, passesOthers_cons]
      by_cases own : SameLetters d.dimension dimension
      · rw [if_pos own, if_pos own]
        exact ih fun othersOwn => notOwn (List.forall_mem_cons.mpr ⟨own, othersOwn⟩)
      · rw [if_neg own, if_neg own]

/-- Only behind another one an entry does not count. -/
theorem passesOthers_insertEntry_iff (place : Nat) (list : Option (List FeatureDimension))
    (other : ¬SameLetters added.dimension dimension) :
    (PassesOthers ((insertEntry place added list).getD []) dimension disableDraw ↔
        PassesOthers (list.getD []) dimension disableDraw) ↔
      ((∀ d ∈ (list.getD []).take place, SameLetters d.dimension dimension) →
        (disableDraw ≤ added.rollout ↔
          PassesOthers ((list.getD []).drop place) dimension disableDraw)) := by
  have whole : PassesOthers (list.getD []) dimension disableDraw ↔
      PassesOthers ((list.getD []).take place ++ (list.getD []).drop place) dimension
        disableDraw := by
    rw [List.take_append_drop]
  rw [whole, insertEntry, Option.getD_some]
  by_cases own : ∀ d ∈ (list.getD []).take place, SameLetters d.dimension dimension
  · rw [passesOthers_append_own _ own, passesOthers_append_own _ own, passesOthers_cons,
      if_neg other]
    exact ⟨fun same _ => same, fun same => same own⟩
  · rw [passesOthers_append_other _ own, passesOthers_append_other _ own]
    exact iff_of_true Iff.rfl fun isOwn => absurd isOwn own

theorem checkDimensionEnabled_add_iff (added : AddedDimension)
    (other : ¬SameLetters added.about dimension) :
    checkDimensionEnabled (some (conf.add added)) dimension draw disableDraw =
        checkDimensionEnabled (some conf) dimension draw disableDraw ↔
      ((conf.lists dimension).Enabled draw → ∀ place entry, added = .disableAny place entry →
        (∀ d ∈ (conf.disableAny.getD []).take place, SameLetters d.dimension dimension) →
          (disableDraw ≤ entry.rollout ↔
            PassesOthers ((conf.disableAny.getD []).drop place) dimension disableDraw)) := by
  rw [Bool.eq_iff_iff, checkDimensionEnabled_iff, checkDimensionEnabled_iff]
  cases added with
  | dimensions place entry =>
      rw [lists_add_dimensions place other]
      exact iff_of_true Iff.rfl nofun
  | disableAny place entry =>
      change ((conf.lists dimension).Enabled draw ∧
        PassesOthers ((insertEntry place entry conf.disableAny).getD []) dimension disableDraw ↔
          _) ↔ _
      rw [and_congr_right_iff, passesOthers_insertEntry_iff place _ other]
      simp

theorem enabled_iff_withinAll (all : conf.enableAll = true) :
    (conf.lists dimension).Enabled draw ↔ (conf.lists dimension).WithinAll draw := by
  have listsAll : (conf.lists dimension).enableAll = true := all
  rw [FeatureLists.Enabled, if_pos listsAll]

theorem withinAll_iff {rollout : Int} (isRollout : conf.enableAllRollout = some rollout) :
    (conf.lists dimension).WithinAll draw ↔ draw ≤ rollout := by
  have listsRollout : (conf.lists dimension).enableAllRollout = some rollout := isRollout
  rw [FeatureLists.WithinAll, listsRollout]
  simp

theorem DimensionConf.listsHonoured_iff_listsKept (added : AddedDimension) :
    conf.ListsHonoured dimension draw disableDraw added ↔
      conf.ListsKept dimension draw disableDraw added := by
  constructor
  · rintro ⟨honoured, others⟩
    refine ⟨?_, ?_, ?_, ?_⟩
    · intro isDisabled enabled passes
      have notEnabled := honoured.disabled isDisabled
      rw [checkDimensionEnabled_iff.mpr ⟨enabled, passes⟩] at notEnabled
      cases notEnabled
    · intro all notDisabled noEntry hasRollout within
      rcases Option.ne_none_iff_exists'.mp hasRollout with ⟨rollout, isRollout⟩
      have enabled := (honoured.unlisted all notDisabled noEntry rollout isRollout).mpr
        (within rollout isRollout)
      exact (checkDimensionEnabled_iff.mp enabled).2
    · intro notDisabled rollout isRollout
      rw [← checkDimensionEnabled_iff]
      exact honoured.entry notDisabled rollout isRollout
    · rintro enabled place entry rfl differ own
      exact (checkDimensionEnabled_add_iff (.disableAny place entry) differ).mp (others differ)
        enabled place entry rfl own
  · intro kept
    refine ⟨⟨?_, ?_, ?_⟩, ?_⟩
    · intro isDisabled
      rw [← Bool.not_eq_true, checkDimensionEnabled_iff]
      rintro ⟨enabled, passes⟩
      exact kept.disabled isDisabled enabled passes
    · intro all notDisabled noEntry rollout isRollout
      have within : (conf.lists dimension).WithinAll draw ↔ draw ≤ rollout :=
        withinAll_iff isRollout
      rw [checkDimensionEnabled_iff, enabled_iff_withinAll all, ← within]
      have hasRollout : conf.enableAllRollout ≠ none :=
        Option.ne_none_iff_exists'.mpr ⟨rollout, isRollout⟩
      exact ⟨And.left, fun isWithin =>
        ⟨isWithin, kept.unlisted all notDisabled noEntry hasRollout isWithin⟩⟩
    · intro notDisabled rollout isRollout
      rw [checkDimensionEnabled_iff]
      exact kept.entry notDisabled rollout isRollout
    · intro differ
      rw [checkDimensionEnabled_add_iff added differ]
      rintro enabled place entry rfl own
      exact kept.added enabled place entry rfl differ own

/-- Where the lists of a feature are honoured, for every configuration, merchant, dimension,
draws and one more entry. -/
theorem featureLists_iff :
    (∀ (conf : FeatureConf) (merchantId : String) (draw : Int) (added : AddedMerchant),
      conf.ListsHonoured merchantId draw added ↔ conf.ListsKept merchantId draw added) ∧
    ∀ (conf : DimensionConf) (dimension : String) (draw disableDraw : Int)
      (added : AddedDimension), conf.ListsHonoured dimension draw disableDraw added ↔
        conf.ListsKept dimension draw disableDraw added :=
  ⟨fun _ _ _ added => FeatureConf.listsHonoured_iff_listsKept added,
    fun _ _ _ _ added => DimensionConf.listsHonoured_iff_listsKept added⟩

end DimensionLists

/-! ## Lists that are not honoured -/

section Unhonoured

local instance flagCase : LetterCase := .ascii

/-- A merchant that is listed and disabled is enabled, one that is not listed is enabled out of
the rollout once another one is disabled, and a dimension that is disabled is enabled. -/
theorem featureLists_counterexample :
    (¬FeatureConf.ListsHonoured ⟨false, none, some ["m1"], some [⟨"m1", 100⟩]⟩ "m1" 50
        (.disableAny 0 "m2")) ∧
      (¬FeatureConf.ListsHonoured ⟨true, some 10, none, none⟩ "m1" 50 (.disableAny 0 "m2")) ∧
      ¬DimensionConf.ListsHonoured ⟨true, none, some [⟨"visa", 100⟩], none⟩ "visa" 50 50
        (.dimensions 0 ⟨"amex", 100⟩) := by
  refine ⟨?_, ?_, ?_⟩
  · rintro ⟨honoured, -⟩
    exact absurd (honoured.disabled (by decide)) (by decide)
  · rintro ⟨-, others⟩
    exact absurd (others (by decide)) (by decide)
  · rintro ⟨honoured, -⟩
    exact absurd (honoured.disabled (by decide)) (by decide)

end Unhonoured

end DecisionEngine.Config
