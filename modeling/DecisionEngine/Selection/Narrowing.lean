import DecisionEngine.Search.Sorted

/-!
# Narrowing selections

A selection keeps items and, apart from them, the labels that stand for them.  It is
narrowed by its labels, which also drops the items of other labels, or by its items, whose
labels are then listed anew.  A narrowing keeps the labels those of the items and brings
neither a label nor an item back.
-/

namespace DecisionEngine.Selection

open Search

universe u v

section Unique

variable {κ : Type v}

/-- The list without the repetitions next to each other. -/
def dedupAdjacent [DecidableEq κ] : List κ → List κ
  | [] => []
  | [key] => [key]
  | first :: second :: rest =>
      if first = second then dedupAdjacent (second :: rest)
      else first :: dedupAdjacent (second :: rest)

variable {keys : List κ}

@[simp]
theorem mem_dedupAdjacent [DecidableEq κ] {key : κ} :
    key ∈ dedupAdjacent keys ↔ key ∈ keys := by
  fun_induction dedupAdjacent keys with
  | case1 => rfl
  | case2 => rfl
  | case3 first rest ih => simp [ih]
  | case4 first second rest differ ih => simp [ih]

theorem nodup_dedupAdjacent [LinearOrder κ] (sorted : keys.Pairwise (· ≤ ·)) :
    (dedupAdjacent keys).Nodup := by
  fun_induction dedupAdjacent keys with
  | case1 => exact List.nodup_nil
  | case2 key => exact List.nodup_singleton key
  | case3 first rest ih => exact ih (List.pairwise_cons.mp sorted).2
  | case4 first second rest differ ih =>
      have tail := (List.pairwise_cons.mp sorted).2
      refine List.nodup_cons.mpr ⟨?_, ih tail⟩
      intro again
      rcases List.mem_cons.mp (mem_dedupAdjacent.mp again) with same | later
      · exact differ same
      · have below : second ≤ first := (List.pairwise_cons.mp tail).1 first later
        have above : first ≤ second := (List.pairwise_cons.mp sorted).1 second List.mem_cons_self
        exact differ (le_antisymm above below)

/-- The keys in their order, each of them once. -/
def ordNub [LinearOrder κ] (keys : List κ) : List κ :=
  dedupAdjacent (sortBy id keys)

@[simp]
theorem mem_ordNub [LinearOrder κ] {key : κ} : key ∈ ordNub keys ↔ key ∈ keys := by
  rw [ordNub, mem_dedupAdjacent, mem_sortBy]

theorem nodup_ordNub [LinearOrder κ] (keys : List κ) : (ordNub keys).Nodup :=
  nodup_dedupAdjacent (pairwise_sortBy id keys)

/-- Equal keys stand next to each other. -/
def Grouped (keys : List κ) : Prop :=
  ∀ first second, [first, second, first].Sublist keys → first = second

theorem Grouped.sublist {fewer : List κ} (grouped : Grouped keys) (isFewer : fewer.Sublist keys) :
    Grouped fewer :=
  fun first second apart => grouped first second (apart.trans isFewer)

theorem grouped_of_nodup (unique : keys.Nodup) : Grouped keys := by
  intro first second apart
  have distinct := unique.sublist apart
  simp at distinct

/-- Lists without a common key can be joined. -/
theorem Grouped.append {others : List κ} (grouped : Grouped keys) (othersGrouped : Grouped others)
    (disjoint : keys.Disjoint others) :
    Grouped (keys ++ others) := by
  intro first second apart
  rcases List.sublist_append_iff.mp apart with ⟨left, right, isSplit, isLeft, isRight⟩
  rcases left with _ | ⟨_, left⟩
  · rw [List.nil_append] at isSplit
    exact othersGrouped first second (isSplit ▸ isRight)
  · rw [List.cons_append, List.cons.injEq] at isSplit
    rcases isSplit with ⟨rfl, isRest⟩
    rcases List.eq_nil_or_concat right with rfl | ⟨before, last, rfl⟩
    · rw [List.append_nil] at isRest
      exact grouped first second (isRest ▸ isLeft)
    · have isLast : first = last := by
        have lasts := congrArg List.getLast? isRest
        simpa using lasts
      subst isLast
      have inKeys : first ∈ keys := isLeft.subset List.mem_cons_self
      have inOthers : first ∈ others := isRight.subset (by simp)
      exact absurd inOthers (disjoint inKeys)

/-- Removing the repetitions next to each other removes all, just when equal keys stand next
to each other. -/
theorem nodup_dedupAdjacent_iff [DecidableEq κ] :
    (dedupAdjacent keys).Nodup ↔ Grouped keys := by
  fun_induction dedupAdjacent keys with
  | case1 => exact iff_of_true List.nodup_nil (grouped_of_nodup List.nodup_nil)
  | case2 key =>
      exact iff_of_true (List.nodup_singleton key) (grouped_of_nodup (List.nodup_singleton key))
  | case3 key rest ih =>
      rw [ih]
      constructor
      · intro grouped first second apart
        cases apart with
        | cons _ later => exact grouped first second later
        | cons_cons _ later =>
            cases later with
            | cons _ last => exact grouped key second (last.cons_cons key)
            | cons_cons _ _ => rfl
      · exact fun grouped => grouped.sublist (List.sublist_cons_self key (key :: rest))
  | case4 key next rest differ ih =>
      rw [List.nodup_cons, mem_dedupAdjacent, ih]
      constructor
      · rintro ⟨absent, grouped⟩ first second apart
        cases apart with
        | cons _ later => exact grouped first second later
        | cons_cons _ later => exact absurd (later.subset (by simp)) absent
      · intro grouped
        refine ⟨fun present => ?_, grouped.sublist (List.sublist_cons_self key (next :: rest))⟩
        rcases List.mem_cons.mp present with same | later
        · exact differ same
        · have apart := ((List.singleton_sublist.mpr later).cons_cons next).cons_cons key
          exact differ (grouped key next apart)

end Unique

/-- Labels, and the items that they stand for once these are loaded. -/
structure Labelled (α : Type u) (κ : Type v) where
  labels : List κ
  items : Option (List α)

variable {α : Type u} {κ : Type v} (label : α → κ)

def Labelled.kept (selection : Labelled α κ) : List α :=
  selection.items.getD []

/-- Other labels, and of the items those that have one of them. -/
def relabel [DecidableEq κ] (labels : List κ) (selection : Labelled α κ) : Labelled α κ where
  labels := labels
  items := selection.items.map fun items => items.filter fun item => label item ∈ labels

/-- Other items, and each of their labels once. -/
def choose [LinearOrder κ] (items : List α) : Labelled α κ where
  labels := ordNub (items.map label)
  items := some items

/-- Other items, and the label of every item. -/
def enumerate (items : List α) : Labelled α κ where
  labels := items.map label
  items := some items

/-- The items are loaded, and the labels are theirs. -/
structure Coupled (selection : Labelled α κ) : Prop where
  loaded : selection.items.isSome
  mem_labels_iff : ∀ key, key ∈ selection.labels ↔ ∃ item ∈ selection.kept, label item = key

/-- No label and no item is new. -/
structure Narrows (before after : Labelled α κ) : Prop where
  labels : after.labels ⊆ before.labels
  kept : after.kept ⊆ before.kept

/-- From coupled labels and items to fewer of them that are coupled again. -/
structure Narrowing (before after : Labelled α κ) : Prop where
  coupled : Coupled label before → Coupled label after
  narrows : Coupled label before → Narrows before after

/-- A narrowing that takes no labels apart. -/
structure Thinning (before after : Labelled α κ) : Prop extends
    Narrowing label before after where
  grouped : Coupled label before → Grouped before.labels → Grouped after.labels

variable {label} {before middle after selection : Labelled α κ} {labels : List κ}
  {items : List α}

/-! ## Coupling -/

@[simp]
theorem kept_relabel [DecidableEq κ] : (relabel label labels selection).kept =
    selection.kept.filter fun item => label item ∈ labels := by
  cases loaded : selection.items with
  | none => simp [relabel, Labelled.kept, loaded]
  | some items => simp [relabel, Labelled.kept, loaded]

theorem coupled_choose [LinearOrder κ] (items : List α) : Coupled label (choose label items) where
  loaded := rfl
  mem_labels_iff key := by simp [choose, Labelled.kept]

theorem coupled_enumerate (items : List α) : Coupled label (enumerate label items) where
  loaded := rfl
  mem_labels_iff key := by simp [enumerate, Labelled.kept]

theorem coupled_relabel [DecidableEq κ] (coupled : Coupled label before)
    (fewer : labels ⊆ before.labels) : Coupled label (relabel label labels before) where
  loaded := by simpa [relabel] using coupled.loaded
  mem_labels_iff key := by
    constructor
    · intro isListed
      have hasLabel : key ∈ labels := isListed
      rcases (coupled.mem_labels_iff key).mp (fewer hasLabel) with ⟨item, isKept, rfl⟩
      refine ⟨item, ?_, rfl⟩
      rw [kept_relabel]
      exact List.mem_filter.mpr ⟨isKept, by simpa using hasLabel⟩
    · rintro ⟨item, isKept, rfl⟩
      rw [kept_relabel] at isKept
      exact of_decide_eq_true (List.mem_filter.mp isKept).2

/-- The labels of kept items are labels. -/
theorem Coupled.map_subset (coupled : Coupled label before) (fewer : items ⊆ before.kept) :
    items.map label ⊆ before.labels := by
  intro key isLabel
  rcases List.mem_map.mp isLabel with ⟨item, isItem, rfl⟩
  exact (coupled.mem_labels_iff _).mpr ⟨item, fewer isItem, rfl⟩

/-! ## Narrowings -/

theorem Narrows.trans (first : Narrows before middle) (second : Narrows middle after) :
    Narrows before after where
  labels := List.Subset.trans second.labels first.labels
  kept := List.Subset.trans second.kept first.kept

theorem Narrowing.refl : Narrowing label before before where
  coupled coupled := coupled
  narrows _ := ⟨List.Subset.refl _, List.Subset.refl _⟩

theorem Narrowing.trans (first : Narrowing label before middle)
    (second : Narrowing label middle after) : Narrowing label before after where
  coupled coupled := second.coupled (first.coupled coupled)
  narrows coupled := (first.narrows coupled).trans (second.narrows (first.coupled coupled))

theorem Narrowing.of_coupled
    (narrowing : Coupled label before → Narrowing label before after) :
    Narrowing label before after where
  coupled coupled := (narrowing coupled).coupled coupled
  narrows coupled := (narrowing coupled).narrows coupled

theorem narrowing_relabel [DecidableEq κ] (fewer : labels ⊆ before.labels) :
    Narrowing label before (relabel label labels before) where
  coupled coupled := coupled_relabel coupled fewer
  narrows _ :=
    { labels := fewer
      kept := by
        rw [kept_relabel]
        exact List.filter_subset_self _ }

theorem narrowing_choose [LinearOrder κ] (fewer : items ⊆ before.kept) :
    Narrowing label before (choose label items) where
  coupled _ := coupled_choose items
  narrows coupled :=
    { labels := fun _ isLabel => coupled.map_subset fewer (mem_ordNub.mp isLabel)
      kept := fewer }

theorem narrowing_enumerate (fewer : items ⊆ before.kept) :
    Narrowing label before (enumerate label items) where
  coupled _ := coupled_enumerate items
  narrows coupled := ⟨coupled.map_subset fewer, fewer⟩

/-! ## Thinnings -/

theorem Thinning.refl : Thinning label before before where
  toNarrowing := Narrowing.refl
  grouped _ grouped := grouped

theorem Thinning.trans (first : Thinning label before middle)
    (second : Thinning label middle after) : Thinning label before after where
  toNarrowing := first.toNarrowing.trans second.toNarrowing
  grouped coupled grouped :=
    second.grouped (first.coupled coupled) (first.grouped coupled grouped)

theorem Thinning.of_coupled (thinning : Coupled label before → Thinning label before after) :
    Thinning label before after where
  toNarrowing := Narrowing.of_coupled fun coupled => (thinning coupled).toNarrowing
  grouped coupled := (thinning coupled).grouped coupled

theorem thinning_relabel [DecidableEq κ] (fewer : labels.Sublist before.labels) :
    Thinning label before (relabel label labels before) where
  toNarrowing := narrowing_relabel fewer.subset
  grouped _ grouped := grouped.sublist fewer

theorem thinning_filter [DecidableEq κ] (passes : κ → Bool) :
    Thinning label before (relabel label (before.labels.filter passes) before) :=
  thinning_relabel List.filter_sublist

theorem thinning_choose [LinearOrder κ] (fewer : items ⊆ before.kept) :
    Thinning label before (choose label items) where
  toNarrowing := narrowing_choose fewer
  grouped _ _ := grouped_of_nodup (nodup_ordNub _)

/-- The items of other labels were dropped already. -/
theorem relabel_map (labels : List κ) [DecidableEq κ] (items : List α) :
    relabel label (items.map label) ⟨labels, some items⟩ = enumerate label items := by
  have all : items.filter (fun item => label item ∈ items.map label) = items := by
    refine List.filter_eq_self.mpr ?_
    intro item isItem
    exact decide_eq_true (List.mem_map_of_mem isItem)
  simp only [relabel, enumerate, Option.map_some, all]

end DecisionEngine.Selection
