import Mathlib.Data.List.Basic

/-!
# Short-circuit searches with errors

A loop that tests the items of a list in order, goes on while the test gives
one fixed truth value and stops at the first item where it gives the other one
or fails.  With `true` as the value to go on with this is a conjunction, with
`false` a disjunction; an error stops both.

The item that decides the loop is described without running it: `Reached` says
that every earlier item let the loop go on.
-/

namespace DecisionEngine.Search

universe u v

variable {ε : Type u} {α : Type v}

/-- Test the items in order; go on while the test gives `go`, stop with the
first other outcome, and give `go` when the items run out. -/
def scan (go : Bool) (test : α → Except ε Bool) : List α → Except ε Bool
  | [] => .ok go
  | item :: rest =>
      match test item with
      | .ok result => if result = go then scan go test rest else .ok result
      | .error failure => .error failure

/-- The loop tests `item`: all items before this occurrence of it let the loop
go on. -/
def Reached (go : Bool) (test : α → Except ε Bool) (items : List α) (item : α) : Prop :=
  ∃ earlier later, items = earlier ++ item :: later ∧
    ∀ other ∈ earlier, test other = .ok go

@[simp]
theorem scan_nil (go : Bool) (test : α → Except ε Bool) :
    scan go test [] = .ok go :=
  rfl

variable {go : Bool} {test : α → Except ε Bool}

theorem scan_cons_of_go {item : α} (passes : test item = .ok go) (rest : List α) :
    scan go test (item :: rest) = scan go test rest := by
  simp [scan, passes]

theorem scan_cons_of_stop {item : α} (stops : test item ≠ .ok go) (rest : List α) :
    scan go test (item :: rest) = test item := by
  cases outcome : test item with
  | error failure => simp [scan, outcome]
  | ok result =>
      have result_ne : result ≠ go := fun equal => stops (by rw [outcome, equal])
      simp [scan, outcome, result_ne]

theorem Reached.mem {items : List α} {item : α} (reached : Reached go test items item) :
    item ∈ items := by
  obtain ⟨earlier, later, rfl, -⟩ := reached
  simp

theorem Reached.head (go : Bool) (test : α → Except ε Bool) (item : α) (rest : List α) :
    Reached go test (item :: rest) item :=
  ⟨[], rest, rfl, by simp⟩

theorem Reached.tail {first item : α} {rest : List α} (passes : test first = .ok go)
    (reached : Reached go test rest item) :
    Reached go test (first :: rest) item := by
  obtain ⟨earlier, later, rfl, passed⟩ := reached
  refine ⟨first :: earlier, later, rfl, ?_⟩
  intro other otherMem
  rcases List.mem_cons.mp otherMem with rfl | otherMem
  · exact passes
  · exact passed other otherMem

/-- The loop runs through exactly when every item lets it go on. -/
theorem scan_eq_go_iff (items : List α) :
    scan go test items = .ok go ↔ ∀ item ∈ items, test item = .ok go := by
  induction items with
  | nil => simp
  | cons item rest ih =>
      by_cases passes : test item = .ok go
      · rw [scan_cons_of_go passes, ih]
        simp [passes]
      · rw [scan_cons_of_stop passes]
        simp [passes]

/-- Any other outcome is the outcome of a reached item. -/
theorem scan_eq_iff_of_ne {items : List α} {outcome : Except ε Bool} (stops : outcome ≠ .ok go) :
    scan go test items = outcome ↔
      ∃ item, Reached go test items item ∧ test item = outcome := by
  induction items with
  | nil =>
      simp only [scan_nil, Reached]
      constructor
      · intro equal
        exact absurd equal.symm stops
      · rintro ⟨item, ⟨earlier, later, equal, -⟩, -⟩
        simp at equal
  | cons first rest ih =>
      by_cases passes : test first = .ok go
      · rw [scan_cons_of_go passes, ih]
        constructor
        · rintro ⟨item, reached, tested⟩
          exact ⟨item, reached.tail passes, tested⟩
        · rintro ⟨item, ⟨earlier, later, split, passed⟩, tested⟩
          cases earlier with
          | nil =>
              obtain ⟨rfl, rfl⟩ := List.cons.inj split
              exact absurd (tested.symm.trans passes) stops
          | cons other earlier =>
              obtain ⟨rfl, rfl⟩ := List.cons.inj split
              exact ⟨item, ⟨earlier, later, rfl,
                fun x xMem => passed x (List.mem_cons_of_mem _ xMem)⟩, tested⟩
      · rw [scan_cons_of_stop passes]
        constructor
        · intro tested
          exact ⟨first, Reached.head go test first rest, tested⟩
        · rintro ⟨item, ⟨earlier, later, split, passed⟩, tested⟩
          cases earlier with
          | nil =>
              obtain ⟨rfl, rfl⟩ := List.cons.inj split
              exact tested
          | cons other earlier =>
              obtain ⟨rfl, rfl⟩ := List.cons.inj split
              exact absurd (passed first List.mem_cons_self) passes

end DecisionEngine.Search
