import Mathlib.Order.Lattice

/-!
# The first of the best

The scan of a list for the first of its elements of the greatest rank, and what the
element found is.
-/

namespace DecisionEngine.Search

universe u v

section FirstBest

variable {α : Type u} {ρ : Type v} [LinearOrder ρ] (rank : α → ρ)

/-- Keep the best element so far unless the next one is better. -/
def keepBest (best : Option α) (candidate : α) : Option α :=
  match best with
  | some chosen => if rank candidate ≤ rank chosen then some chosen else some candidate
  | none => some candidate

def firstBest (candidates : List α) : Option α :=
  candidates.foldl (keepBest rank) none

/-- Better than what comes before, and at least as good as what comes after. -/
def IsFirstBest (candidates : List α) (chosen : α) : Prop :=
  ∃ before after, candidates = before ++ chosen :: after ∧
    (∀ other ∈ before, rank other < rank chosen) ∧ ∀ other ∈ after, rank other ≤ rank chosen

variable {rank}

theorem not_isFirstBest_nil (chosen : α) : ¬ IsFirstBest rank [] chosen := by
  rintro ⟨before, after, split, -⟩
  exact absurd split.symm (by simp)

variable {candidates : List α} {chosen : α}

theorem IsFirstBest.mem (best : IsFirstBest rank candidates chosen) : chosen ∈ candidates := by
  rcases best with ⟨before, after, split, -⟩
  rw [split]
  exact List.mem_append_right before List.mem_cons_self

theorem IsFirstBest.le_of_mem {chosen other : α} (best : IsFirstBest rank candidates chosen)
    (listed : other ∈ candidates) :
    rank other ≤ rank chosen := by
  rcases best with ⟨before, after, split, better, atLeast⟩
  rw [split] at listed
  rcases List.mem_append.mp listed with isBefore | rest
  · exact (better other isBefore).le
  · rcases List.mem_cons.mp rest with rfl | isAfter
    · exact le_refl _
    · exact atLeast other isAfter

theorem isFirstBest_cons {first chosen : α} {rest : List α} :
    IsFirstBest rank (first :: rest) chosen ↔
      (chosen = first ∧ ∀ other ∈ rest, rank other ≤ rank first) ∨
        (rank first < rank chosen ∧ IsFirstBest rank rest chosen) := by
  constructor
  · rintro ⟨before, after, split, better, atLeast⟩
    cases before with
    | nil =>
        rw [List.nil_append, List.cons.injEq] at split
        rcases split with ⟨rfl, rfl⟩
        exact Or.inl ⟨rfl, atLeast⟩
    | cons head before =>
        rw [List.cons_append, List.cons.injEq] at split
        rcases split with ⟨rfl, split⟩
        exact Or.inr ⟨better _ List.mem_cons_self, before, after, split,
          fun other listed => better other (List.mem_cons_of_mem _ listed), atLeast⟩
  · rintro (⟨rfl, atLeast⟩ | ⟨better, before, after, split, betterRest, atLeast⟩)
    · exact ⟨[], rest, rfl, by simp, atLeast⟩
    · exact ⟨first :: before, after, by rw [split, List.cons_append],
        List.forall_mem_cons.mpr ⟨better, betterRest⟩, atLeast⟩

/-- The scan that starts with an element finds the first of the best of it and the rest. -/
theorem foldl_keepBest {start chosen : α} {rest : List α} :
    rest.foldl (keepBest rank) (some start) = some chosen ↔
      IsFirstBest rank (start :: rest) chosen := by
  induction rest generalizing start with
  | nil =>
      rw [List.foldl_nil, isFirstBest_cons, Option.some.injEq]
      constructor
      · intro same
        exact Or.inl ⟨same.symm, by simp⟩
      · rintro (⟨same, -⟩ | ⟨-, found⟩)
        · exact same.symm
        · exact absurd found (not_isFirstBest_nil chosen)
  | cons next rest ih =>
      rw [List.foldl_cons, isFirstBest_cons, isFirstBest_cons, List.forall_mem_cons]
      by_cases kept : rank next ≤ rank start
      · have step : keepBest rank (some start) next = some start := if_pos kept
        rw [step, ih, isFirstBest_cons]
        constructor
        · rintro (⟨same, atLeast⟩ | ⟨better, found⟩)
          · exact Or.inl ⟨same, kept, atLeast⟩
          · exact Or.inr ⟨better, Or.inr ⟨lt_of_le_of_lt kept better, found⟩⟩
        · rintro (⟨same, -, atLeast⟩ | ⟨better, ⟨same, -⟩ | ⟨-, found⟩⟩)
          · exact Or.inl ⟨same, atLeast⟩
          · exact absurd (same ▸ better) (not_lt.mpr kept)
          · exact Or.inr ⟨better, found⟩
      · have step : keepBest rank (some start) next = some next := if_neg kept
        have improved : rank start < rank next := not_le.mp kept
        rw [step, ih, isFirstBest_cons]
        constructor
        · rintro (⟨same, atLeast⟩ | ⟨better, found⟩)
          · exact Or.inr ⟨same ▸ improved, Or.inl ⟨same, atLeast⟩⟩
          · exact Or.inr ⟨lt_trans improved better, Or.inr ⟨better, found⟩⟩
        · rintro (⟨-, notBetter, -⟩ | ⟨-, found⟩)
          · exact absurd notBetter kept
          · exact found

theorem firstBest_eq_some_iff :
    firstBest rank candidates = some chosen ↔ IsFirstBest rank candidates chosen := by
  cases candidates with
  | nil =>
      constructor
      · intro found
        cases found
      · intro found
        exact absurd found (not_isFirstBest_nil chosen)
  | cons first rest => exact foldl_keepBest

/-- Only the empty list has no best element. -/
theorem firstBest_eq_none_iff :
    firstBest rank candidates = none ↔ candidates = [] := by
  cases candidates with
  | nil => exact iff_of_true rfl rfl
  | cons first rest =>
      apply iff_of_false _ (List.cons_ne_nil first rest)
      change rest.foldl (keepBest rank) (some first) ≠ none
      induction rest generalizing first with
      | nil => exact Option.some_ne_none first
      | cons next rest ih =>
          rw [List.foldl_cons, keepBest]
          split
          · exact ih first
          · exact ih next

/-! ## The last of the best -/

variable (rank) in
def lastBest (candidates : List α) : Option α :=
  firstBest rank candidates.reverse

theorem mem_of_lastBest (found : lastBest rank candidates = some chosen) :
    chosen ∈ candidates ∧ ∀ other ∈ candidates, rank other ≤ rank chosen := by
  have best := firstBest_eq_some_iff.mp found
  exact ⟨List.mem_reverse.mp best.mem,
    fun other listed => best.le_of_mem (List.mem_reverse.mpr listed)⟩

theorem lastBest_eq_none_iff :
    lastBest rank candidates = none ↔ candidates = [] := by
  rw [lastBest, firstBest_eq_none_iff, List.reverse_eq_nil_iff]

/-- A best candidate is found if it comes last. -/
theorem lastBest_concat {last : α} (isBest : ∀ other ∈ candidates, rank other ≤ rank last) :
    lastBest rank (candidates ++ [last]) = some last := by
  rw [lastBest, List.reverse_append, firstBest_eq_some_iff]
  exact ⟨[], candidates.reverse, rfl, by simp,
    fun other listed => isBest other (List.mem_reverse.mp listed)⟩

/-- A best candidate that no other one equals in rank is found in every order. -/
theorem lastBest_eq_some_iff
    (unique : ∀ other ∈ candidates, rank other = rank chosen → other = chosen) :
    lastBest rank candidates = some chosen ↔
      chosen ∈ candidates ∧ ∀ other ∈ candidates, rank other ≤ rank chosen := by
  rw [lastBest]
  constructor
  · intro found
    have best := firstBest_eq_some_iff.mp found
    exact ⟨List.mem_reverse.mp best.mem,
      fun other listed => best.le_of_mem (List.mem_reverse.mpr listed)⟩
  · rintro ⟨listed, isBest⟩
    cases found : firstBest rank candidates.reverse with
    | none =>
        rw [firstBest_eq_none_iff, List.reverse_eq_nil_iff] at found
        rw [found] at listed
        cases listed
    | some other =>
        have best := firstBest_eq_some_iff.mp found
        have otherListed := List.mem_reverse.mp best.mem
        have notWorse := best.le_of_mem (List.mem_reverse.mpr listed)
        rw [unique other otherListed (le_antisymm (isBest other otherListed) notWorse)]

/-- With ranks that tell the candidates apart, their order does not matter. -/
theorem lastBest_perm {first second : List α} (permuted : first.Perm second)
    (distinct : ∀ left ∈ first, ∀ right ∈ first, rank left = rank right → left = right) :
    lastBest rank first = lastBest rank second := by
  cases found : lastBest rank first with
  | none =>
      rw [lastBest_eq_none_iff] at found
      subst found
      exact (lastBest_eq_none_iff.mpr permuted.nil_eq.symm).symm
  | some chosen =>
      have best := mem_of_lastBest found
      have unique : ∀ other ∈ second, rank other = rank chosen → other = chosen := by
        intro other listed
        exact distinct other (permuted.mem_iff.mpr listed) chosen best.1
      refine ((lastBest_eq_some_iff unique).mpr ⟨permuted.mem_iff.mp best.1, ?_⟩).symm
      intro other listed
      exact best.2 other (permuted.mem_iff.mpr listed)

end FirstBest

/-! ## First occurrences

The loop that goes through a list and keeps each item the first time that it meets it.
-/

section FirstOccurrence

variable {α : Type u} [BEq α] [LawfulBEq α]

/-- Append an item unless it is there already. -/
def pushUnique (kept : List α) (item : α) : List α :=
  if kept.contains item then kept else kept ++ [item]

omit [LawfulBEq α] in
theorem removeAll_append (items first second : List α) :
    items.removeAll (first ++ second) = (items.removeAll first).removeAll second := by
  simp only [List.removeAll, List.filter_filter]
  apply List.filter_congr
  intro item _
  simp [Bool.and_comm]

/-- The loop appends the first occurrences of the items that were not kept before. -/
theorem foldl_pushUnique (items kept : List α) :
    items.foldl pushUnique kept = kept ++ (items.removeAll kept).eraseDups := by
  induction items generalizing kept with
  | nil => simp
  | cons item rest ih =>
      rw [List.foldl_cons, ih, pushUnique, List.cons_removeAll]
      by_cases present : kept.contains item = true
      · rw [if_pos present, if_neg (by simpa using present)]
      · rw [if_neg present, if_pos (by simpa using present), removeAll_append,
          List.eraseDups_cons, List.append_assoc, List.singleton_append]
        congr 3
        simp [List.removeAll]

theorem nodup_foldl_pushUnique {kept : List α} (unique : kept.Nodup) (items : List α) :
    (items.foldl pushUnique kept).Nodup := by
  induction items generalizing kept with
  | nil => exact unique
  | cons item rest ih =>
      refine ih ?_
      rw [pushUnique]
      split
      · exact unique
      · next absent =>
          refine List.nodup_append.mpr ⟨unique, by simp, ?_⟩
          intro first isKept second isItem same
          rw [List.mem_singleton.mp isItem] at same
          rw [same] at isKept
          exact absent (by simpa using isKept)

theorem foldl_pushUnique_nil (items : List α) : items.foldl pushUnique [] = items.eraseDups := by
  rw [foldl_pushUnique, List.removeAll_nil, List.nil_append]

theorem nodup_eraseDups (items : List α) : items.eraseDups.Nodup := by
  rw [← foldl_pushUnique_nil]
  exact nodup_foldl_pushUnique List.nodup_nil items

theorem eraseDups_eq_self {items : List α} (unique : items.Nodup) : items.eraseDups = items := by
  induction items with
  | nil => rfl
  | cons item rest ih =>
      rcases List.nodup_cons.mp unique with ⟨absent, restUnique⟩
      rw [List.eraseDups_cons]
      have untouched : (rest.filter fun other => !other == item) = rest := by
        rw [List.filter_eq_self]
        intro other isRest
        simp only [Bool.not_eq_eq_eq_not, Bool.not_true, beq_eq_false_iff_ne, ne_eq]
        intro same
        exact absent (same ▸ isRest)
      rw [untouched, ih restUnique]

end FirstOccurrence

end DecisionEngine.Search
