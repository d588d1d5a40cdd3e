import Mathlib.Data.List.Sort
import Mathlib.Data.List.TakeWhile

/-!
# Searching a sorted list

A list is sorted by a rank, and elements of one rank stay in their order.  What a search
finds then is of the least rank, and which of several such elements it is depends on the
order in which they were listed.
-/

namespace DecisionEngine.Search

universe u v

variable {α : Type u} {ρ : Type v} [LinearOrder ρ] (rank : α → ρ)

def sortBy (listed : List α) : List α :=
  listed.insertionSort fun first second => rank first ≤ rank second

variable {listed : List α}

@[simp]
theorem mem_sortBy {element : α} : element ∈ sortBy rank listed ↔
    element ∈ listed :=
  List.mem_insertionSort _

theorem sortBy_eq_nil : sortBy rank listed = [] ↔ listed = [] := by
  rw [← List.length_eq_zero_iff, sortBy, List.length_insertionSort, List.length_eq_zero_iff]

theorem pairwise_sortBy (listed : List α) :
    (sortBy rank listed).Pairwise fun first second => rank first ≤ rank second :=
  @List.pairwise_insertionSort _ (fun first second => rank first ≤ rank second) _
    ⟨fun first second => le_total (rank first) (rank second)⟩
    ⟨fun _ _ _ lower upper => le_trans lower upper⟩ listed

variable {rank}

/-- What is found is the least that passes the test. -/
theorem least_of_find?_sortBy {test : α → Bool} {listed : List α} {found : α}
    (isFound : (sortBy rank listed).find? test = some found) :
    found ∈ listed ∧ test found = true ∧
      ∀ other ∈ listed, test other = true → rank found ≤ rank other := by
  rcases List.find?_eq_some_iff_append.mp isFound with ⟨passes, before, after, split, fails⟩
  have sorted := pairwise_sortBy rank listed
  rw [split] at sorted
  have afterFound := List.pairwise_cons.mp (List.pairwise_append.mp sorted).2.1
  refine ⟨(mem_sortBy rank).mp (List.mem_of_find?_eq_some isFound), passes, ?_⟩
  intro other isListed otherPasses
  have inSorted := (mem_sortBy rank).mpr isListed
  rw [split] at inSorted
  rcases List.mem_append.mp inSorted with isBefore | rest
  · have otherFails := fails other isBefore
    rw [otherPasses] at otherFails
    cases otherFails
  · rcases List.mem_cons.mp rest with rfl | isAfter
    · exact le_refl _
    · exact afterFound.1 other isAfter

/-- An element of the least rank that passes the test is found if it is listed first. -/
theorem find?_sortBy_cons {test : α → Bool} {first : α} {rest : List α}
    (passes : test first = true)
    (isLeast : ∀ other ∈ rest, test other = true → rank first ≤ rank other) :
    (sortBy rank (first :: rest)).find? test = some first := by
  rw [sortBy, List.insertionSort_cons_eq_take_drop, List.find?_append,
    List.find?_eq_none.mpr, Option.none_or, List.find?_cons_of_pos passes]
  intro other isBefore otherPasses
  have isLower := List.mem_takeWhile_imp isBefore
  rw [decide_eq_true_eq] at isLower
  have isListed : other ∈ rest :=
    (mem_sortBy rank).mp ((List.takeWhile_sublist _).mem isBefore)
  exact isLower (isLeast other isListed otherPasses)

theorem getLast?_orderedInsert {element last : α} {sorted : List α}
    (isLast : sorted.getLast? = some last) (notAbove : rank element ≤ rank last) :
    (sorted.orderedInsert (fun first second => rank first ≤ rank second) element).getLast? =
      some last := by
  induction sorted with
  | nil => cases isLast
  | cons head rest ih =>
      rw [List.orderedInsert_cons]
      by_cases isFirst : rank element ≤ rank head
      · rw [if_pos isFirst, List.getLast?_cons_cons, isLast]
      · rw [if_neg isFirst]
        cases rest with
        | nil =>
            rw [List.getLast?_singleton, Option.some.injEq] at isLast
            exact absurd (isLast ▸ notAbove) isFirst
        | cons next rest =>
            rw [List.getLast?_cons_cons] at isLast
            rw [List.getLast?_cons, ih isLast, Option.getD_some]

/-- An element of the greatest rank stays the last one. -/
theorem getLast?_sortBy_concat {last : α} {rest : List α}
    (isGreatest : ∀ other ∈ rest, rank other ≤ rank last) :
    (sortBy rank (rest ++ [last])).getLast? = some last := by
  induction rest with
  | nil => rfl
  | cons first rest ih =>
      rw [List.forall_mem_cons] at isGreatest
      exact getLast?_orderedInsert (ih isGreatest.2) isGreatest.1

theorem le_getLast?_sortBy {last : α} (isLast : (sortBy rank listed).getLast? = some last) :
    last ∈ listed ∧ ∀ other ∈ listed, rank other ≤ rank last := by
  have sorted := pairwise_sortBy rank listed
  rcases List.getLast?_eq_some_iff.mp isLast with ⟨before, split⟩
  rw [split] at sorted
  have inSorted : ∀ {other}, other ∈ listed ↔ other ∈ before ++ [last] := by
    intro other
    rw [← split, mem_sortBy]
  refine ⟨inSorted.mpr (List.mem_append_right before List.mem_cons_self), ?_⟩
  intro other isListed
  rcases List.mem_append.mp (inSorted.mp isListed) with isBefore | isLast
  · exact (List.pairwise_append.mp sorted).2.2 other isBefore last List.mem_cons_self
  · rw [List.mem_singleton.mp isLast]

/-! ## Stable orders -/

/-! ## The greatest element -/

end DecisionEngine.Search
