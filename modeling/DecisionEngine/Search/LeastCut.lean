import Mathlib.Algebra.Order.Monoid.Defs
import Mathlib.Algebra.BigOperators.Group.List.Basic
import Mathlib.Data.List.Induction

/-!
# Partitions of least cost

A segment of the natural numbers is cut into consecutive pieces, each of which has a cost or
cannot be used.  A partition of least cost with one more piece is found from those of least
cost that end where its last piece starts.
-/

namespace DecisionEngine.Search

universe u v

/-! ## The first of the least -/

section Least

variable {ι : Type v} {ρ : Type u} [LinearOrder ρ] {value : ι → Option ρ}

variable (value) in
/-- Keep the least value so far, and what has it, unless the next one is less. -/
def keepLeast (best : Option (ρ × ι)) (candidate : ι) : Option (ρ × ι) :=
  match value candidate with
  | some v => if best.all fun entry => v < entry.1 then some (v, candidate) else best
  | none => best

/-- What a scan finds after some candidates. -/
def IsLeastOf (value : ι → Option ρ) (candidates : List ι) : Option (ρ × ι) → Prop
  | none => ∀ candidate ∈ candidates, value candidate = none
  | some found => found.2 ∈ candidates ∧ value found.2 = some found.1 ∧
      ∀ candidate ∈ candidates, ∀ v, value candidate = some v → found.1 ≤ v

theorem isLeastOf_keepLeast {candidates : List ι} {best : Option (ρ × ι)}
    (isLeast : IsLeastOf value candidates best) (candidate : ι) :
    IsLeastOf value (candidates ++ [candidate]) (keepLeast value best candidate) := by
  have inBoth : ∀ {p : ι → Prop}, (∀ other ∈ candidates ++ [candidate], p other) ↔
      (∀ other ∈ candidates, p other) ∧ p candidate := by
    intro p
    rw [List.forall_mem_append, List.forall_mem_singleton]
  have isLast : candidate ∈ candidates ++ [candidate] :=
    List.mem_append_right _ List.mem_cons_self
  rw [keepLeast]
  cases isValue : value candidate with
  | none =>
      cases best with
      | none => exact inBoth.mpr ⟨isLeast, isValue⟩
      | some found =>
          rcases isLeast with ⟨listed, isFound, least⟩
          refine ⟨List.mem_append_left _ listed, isFound, inBoth.mpr ⟨least, ?_⟩⟩
          intro v isOtherValue
          rw [isValue] at isOtherValue
          cases isOtherValue
  | some v =>
      have ofLast : ∀ w, value candidate = some w → v = w := by
        intro w isOtherValue
        rw [isValue] at isOtherValue
        exact Option.some.inj isOtherValue
      cases best with
      | none =>
          refine ⟨isLast, isValue, inBoth.mpr ⟨?_, fun w isOwn => (ofLast w isOwn).le⟩⟩
          intro other before w isOtherValue
          rw [isLeast other before] at isOtherValue
          cases isOtherValue
      | some found =>
          rcases isLeast with ⟨listed, isFound, least⟩
          dsimp only
          by_cases less : v < found.1
          · rw [Option.all_some, if_pos (decide_eq_true less)]
            refine ⟨isLast, isValue, inBoth.mpr ⟨?_, fun w isOwn => (ofLast w isOwn).le⟩⟩
            intro other before w isOtherValue
            exact less.le.trans (least other before w isOtherValue)
          · rw [Option.all_some, if_neg (by simpa using less)]
            refine ⟨List.mem_append_left _ listed, isFound, inBoth.mpr ⟨least, ?_⟩⟩
            intro w isOwn
            exact ofLast w isOwn ▸ not_lt.mp less

variable (value) in
/-- A scan finds the least value of its candidates. -/
theorem isLeastOf_foldl_keepLeast (candidates : List ι) :
    IsLeastOf value candidates (candidates.foldl (keepLeast value) none) := by
  induction candidates using List.reverseRecOn with
  | nil =>
      intro other listed
      cases listed
  | append_singleton before last ih =>
      rw [List.foldl_append, List.foldl_cons, List.foldl_nil]
      exact isLeastOf_keepLeast ih last

end Least

/-! ## Partitions -/

/-- The pieces from zero to a boundary, each of them nonempty. -/
inductive Cuts : ℕ → List (ℕ × ℕ) → Prop
  | nil : Cuts 0 []
  | snoc {start stop : ℕ} {parts : List (ℕ × ℕ)} (before : Cuts start parts)
      (nonempty : start < stop) : Cuts stop (parts ++ [(start, stop)])

variable {stop : ℕ}

theorem Cuts.single (nonempty : 0 < stop) : Cuts stop [(0, stop)] :=
  Cuts.snoc .nil nonempty

variable {parts : List (ℕ × ℕ)}

theorem Cuts.eq_zero (cuts : Cuts stop parts) (none : parts.length = 0) :
    stop = 0 ∧ parts = [] := by
  cases cuts with
  | nil => exact ⟨rfl, rfl⟩
  | snoc before nonempty => simp at none

/-- A partition with a piece is the last piece after a partition with one piece less. -/
theorem Cuts.exists_last {pieces : ℕ} (cuts : Cuts stop parts) (count : parts.length = pieces + 1) :
    ∃ start earlier, parts = earlier ++ [(start, stop)] ∧ Cuts start earlier ∧
      earlier.length = pieces ∧ start < stop := by
  cases cuts with
  | nil => cases count
  | snoc before nonempty =>
      refine ⟨_, _, rfl, before, ?_, nonempty⟩
      simpa using count

theorem Cuts.lt_of_mem (cuts : Cuts stop parts) {part : ℕ × ℕ} (listed : part ∈ parts) :
    part.1 < part.2 ∧ part.2 ≤ stop := by
  induction cuts with
  | nil => cases listed
  | snoc before nonempty ih =>
      rcases List.mem_append.mp listed with isEarlier | isLast
      · exact ⟨(ih isEarlier).1, (ih isEarlier).2.trans nonempty.le⟩
      · rw [List.mem_singleton.mp isLast]
        exact ⟨nonempty, le_refl _⟩

/-- The pieces come one after another. -/
theorem Cuts.pairwise (cuts : Cuts stop parts) :
    parts.Pairwise fun first second => first.2 ≤ second.1 := by
  induction cuts with
  | nil => exact List.Pairwise.nil
  | snoc before nonempty ih =>
      refine List.pairwise_append.mpr ⟨ih, List.pairwise_singleton _ _, ?_⟩
      intro first isEarlier second isLast
      rw [List.mem_singleton.mp isLast]
      exact (before.lt_of_mem isEarlier).2

section Cost

variable {ρ : Type u} [AddCommMonoid ρ] (cost : ℕ → ℕ → Option ρ)

/-- Every piece can be used. -/
def Usable (parts : List (ℕ × ℕ)) : Prop :=
  ∀ part ∈ parts, (cost part.1 part.2).isSome

def totalCost (parts : List (ℕ × ℕ)) : ρ :=
  (parts.map fun part => (cost part.1 part.2).getD 0).sum

variable {cost}

omit [AddCommMonoid ρ] in
theorem usable_append_singleton {parts : List (ℕ × ℕ)} {part : ℕ × ℕ} :
    Usable cost (parts ++ [part]) ↔
      Usable cost parts ∧ (cost part.1 part.2).isSome := by
  simp only [Usable, List.mem_append, List.mem_singleton, or_imp, forall_and, forall_eq]

theorem totalCost_append_singleton (parts : List (ℕ × ℕ)) (part : ℕ × ℕ) :
    totalCost cost (parts ++ [part]) =
      totalCost cost parts + (cost part.1 part.2).getD 0 := by
  simp [totalCost]

variable [LinearOrder ρ]

variable (cost) in
/-- A partition of the least cost among those with as many pieces. -/
structure IsLeastCut (pieces stop : ℕ) (parts : List (ℕ × ℕ)) : Prop where
  cuts : Cuts stop parts
  count : parts.length = pieces
  usable : Usable cost parts
  least : ∀ other, Cuts stop other → other.length = pieces → Usable cost other →
    totalCost cost parts ≤ totalCost cost other

variable (cost) in
/-- There is no such partition, or a given one is of the least cost, which is given too. -/
def IsLeastEntry (pieces stop : ℕ) : Option (ρ × List (ℕ × ℕ)) → Prop
  | none => ∀ other, Cuts stop other → other.length = pieces → ¬Usable cost other
  | some entry => IsLeastCut cost pieces stop entry.2 ∧ totalCost cost entry.2 = entry.1

theorem isLeastEntry_zero : IsLeastEntry cost 0 0 (some (0, [])) := by
  refine ⟨⟨.nil, rfl, ?_, ?_⟩, rfl⟩
  · intro part listed
    cases listed
  · intro other cuts count _
    rw [(cuts.eq_zero count).2]

theorem isLeastEntry_zero_succ (stop : ℕ) : IsLeastEntry cost 0 (stop + 1) none := by
  intro other cuts count _
  exact absurd (cuts.eq_zero count).1 (Nat.succ_ne_zero stop)

variable [IsOrderedAddMonoid ρ]

/-- A partition with one more piece costs at least as much as the entry of its start together
with its last piece. -/
theorem exists_entry_le_totalCost {pieces stop : ℕ} {entries : ℕ → Option (ρ × List (ℕ × ℕ))}
    (earlier : ∀ start < stop, IsLeastEntry cost pieces start (entries start))
    {other : List (ℕ × ℕ)} (cuts : Cuts stop other) (count : other.length = pieces + 1)
    (usable : Usable cost other) :
    ∃ start < stop, ∃ entry c, entries start = some entry ∧ cost start stop = some c ∧
      entry.1 + c ≤ totalCost cost other := by
  rcases cuts.exists_last count with ⟨start, parts, rfl, before, partCount, nonempty⟩
  rcases usable_append_singleton.mp usable with ⟨partsUsable, lastUsable⟩
  rcases Option.isSome_iff_exists.mp lastUsable with ⟨c, isCost⟩
  have isEntry := earlier start nonempty
  cases found : entries start with
  | none =>
      rw [found] at isEntry
      exact absurd partsUsable (isEntry parts before partCount)
  | some entry =>
      rw [found] at isEntry
      refine ⟨start, nonempty, entry, c, found, isCost, ?_⟩
      rw [totalCost_append_singleton, isCost, Option.getD_some, ← isEntry.2]
      exact add_le_add_left (isEntry.1.least parts before partCount partsUsable) c

/-- The least cost with one more piece, from the least costs up to each start of the last
piece. -/
theorem isLeastEntry_succ {pieces stop : ℕ} {entries : ℕ → Option (ρ × List (ℕ × ℕ))}
    (earlier : ∀ start < stop, IsLeastEntry cost pieces start (entries start))
    {best : Option (ρ × ℕ)}
    (isBest : IsLeastOf
      (fun start => (entries start).bind fun entry =>
        (cost start stop).map fun c => entry.1 + c)
      (List.range stop) best) :
    IsLeastEntry cost (pieces + 1) stop
      (best.bind fun found => (entries found.2).map fun entry =>
        (found.1, entry.2 ++ [(found.2, stop)])) := by
  cases best with
  | none =>
      intro other cuts count usable
      rcases exists_entry_le_totalCost earlier cuts count usable with
        ⟨start, inRange, entry, c, isEntry, isCost, -⟩
      have unreached := isBest start (List.mem_range.mpr inRange)
      dsimp only at unreached
      rw [isEntry, isCost] at unreached
      cases unreached
  | some found =>
      rcases isBest with ⟨listed, isValue, least⟩
      have inRange := List.mem_range.mp listed
      dsimp only at isValue
      rcases Option.bind_eq_some_iff.mp isValue with ⟨entry, isEntry, hasCost⟩
      rcases Option.map_eq_some_iff.mp hasCost with ⟨c, isCost, isSum⟩
      have before := earlier found.2 inRange
      rw [isEntry] at before
      rw [Option.bind_some, isEntry, Option.map_some]
      have total : totalCost cost (entry.2 ++ [(found.2, stop)]) = found.1 := by
        rw [totalCost_append_singleton, before.2, isCost, Option.getD_some, isSum]
      refine ⟨⟨.snoc before.1.cuts inRange, ?_, ?_, ?_⟩, total⟩
      · rw [List.length_append, before.1.count, List.length_singleton]
      · rw [usable_append_singleton, isCost]
        exact ⟨before.1.usable, rfl⟩
      · intro other cuts count usable
        rcases exists_entry_le_totalCost earlier cuts count usable with
          ⟨start, startInRange, otherEntry, d, isOther, isOtherCost, atMost⟩
        rw [total]
        refine le_trans (least start (List.mem_range.mpr startInRange) _ ?_) atMost
        dsimp only
        rw [isOther, Option.bind_some, isOtherCost, Option.map_some]

end Cost

end DecisionEngine.Search
