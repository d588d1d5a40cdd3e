import Mathlib.Data.Nat.Find
import Mathlib.Data.List.Basic

/-!
# Readers

A reader hands out a list in parts, each of at most the size that is asked for.  What it is
still to deliver determines what any sequence of reads gets.
-/

namespace DecisionEngine.Stream

universe u v

/-! ## Delivery -/

section Delivery

variable {σ : Type u} {α : Type v} {read : σ → ℕ → List α × σ} {pending : σ → List α}

/-- Each read takes a part off the front of what is still to be delivered, and takes nothing
only if nothing is left. -/
structure Delivers (read : σ → ℕ → List α × σ) (pending : σ → List α) : Prop where
  front : ∀ state size, pending state = (read state size).1 ++ pending (read state size).2
  atMost : ∀ state size, (read state size).1.length ≤ size
  progress : ∀ state size, 0 < size → (read state size).1 = [] → pending state = []

/-- The reader after a number of reads. -/
def stateAfter (read : σ → ℕ → List α × σ) (sizes : ℕ → ℕ) (start : σ) : ℕ → σ
  | 0 => start
  | n + 1 => (read (stateAfter read sizes start n) (sizes n)).2

/-- What a read gets. -/
def part (read : σ → ℕ → List α × σ) (sizes : ℕ → ℕ) (start : σ) (n : ℕ) : List α :=
  (read (stateAfter read sizes start n) (sizes n)).1

/-- What the first reads get together. -/
def delivered (read : σ → ℕ → List α × σ) (sizes : ℕ → ℕ) (start : σ) (n : ℕ) : List α :=
  (List.range n).flatMap (part read sizes start)

theorem delivered_succ (sizes : ℕ → ℕ) (start : σ) (n : ℕ) :
    delivered read sizes start (n + 1) =
      delivered read sizes start n ++ part read sizes start n := by
  rw [delivered, List.range_succ, List.flatMap_append, List.flatMap_singleton, delivered]

namespace Delivers

variable {sizes : ℕ → ℕ}

/-- Nothing is lost between what was delivered and what is left. -/
theorem delivered_append (delivers : Delivers read pending) (sizes : ℕ → ℕ) (start : σ) (n : ℕ) :
    delivered read sizes start n ++ pending (stateAfter read sizes start n) = pending start := by
  induction n with
  | zero => rfl
  | succ n ih =>
      rw [delivered_succ, List.append_assoc, ← ih,
        delivers.front (stateAfter read sizes start n) (sizes n)]
      rfl

theorem part_eq_nil_iff (delivers : Delivers read pending) (positive : ∀ n, 1 ≤ sizes n)
    (start : σ) (n : ℕ) :
    part read sizes start n = [] ↔ pending (stateAfter read sizes start n) = [] := by
  constructor
  · exact delivers.progress _ _ (positive n)
  · intro nothing
    have taken := delivers.front (stateAfter read sizes start n) (sizes n)
    rw [nothing] at taken
    exact (List.append_eq_nil_iff.mp taken.symm).1

/-- Once nothing is left, nothing is left. -/
theorem pending_eq_nil_mono (delivers : Delivers read pending) {start : σ} {n m : ℕ}
    (atMost : n ≤ m) (nothing : pending (stateAfter read sizes start n) = []) :
    pending (stateAfter read sizes start m) = [] := by
  induction m, atMost using Nat.le_induction with
  | base => exact nothing
  | succ m _ ih =>
      have taken := delivers.front (stateAfter read sizes start m) (sizes m)
      rw [ih] at taken
      exact (List.append_eq_nil_iff.mp taken.symm).2

/-- Reads that get something are at most as many as there are elements. -/
theorem le_length_delivered {start : σ} {n : ℕ}
    (something : ∀ m < n, part read sizes start m ≠ []) :
    n ≤ (delivered read sizes start n).length := by
  induction n with
  | zero => exact Nat.zero_le _
  | succ n ih =>
      have before := ih fun m isBefore => something m (Nat.lt_succ_of_lt isBefore)
      have last := List.length_pos_iff.mpr (something n (Nat.lt_succ_self n))
      rw [delivered_succ, List.length_append]
      omega

/-- A reader delivers everything in finitely many reads of any sizes, and then nothing. -/
theorem exists_end (delivers : Delivers read pending) (positive : ∀ n, 1 ≤ sizes n) (start : σ) :
    ∃ count ≤ (pending start).length, delivered read sizes start count = pending start ∧
      (∀ n < count, part read sizes start n ≠ []) ∧
      ∀ n, count ≤ n → part read sizes start n = [] := by
  have bounded : ∀ n, (∀ m < n, part read sizes start m ≠ []) → n ≤ (pending start).length := by
    intro n something
    have total := congrArg List.length (delivers.delivered_append sizes start n)
    have enough := le_length_delivered something
    rw [List.length_append] at total
    omega
  have ends : ∃ n, part read sizes start n = [] := by
    by_contra never
    have something := fun m (_ : m < (pending start).length + 1) => not_exists.mp never m
    exact absurd (bounded _ something) (Nat.not_succ_le_self _)
  have last := (delivers.part_eq_nil_iff positive start (Nat.find ends)).mp (Nat.find_spec ends)
  have something : ∀ n < Nat.find ends, part read sizes start n ≠ [] :=
    fun n isBefore => Nat.find_min ends isBefore
  refine ⟨Nat.find ends, bounded _ something, ?_, something, ?_⟩
  · have total := delivers.delivered_append sizes start (Nat.find ends)
    rw [last, List.append_nil] at total
    exact total
  · intro n isAfter
    exact (delivers.part_eq_nil_iff positive start n).mpr
      (delivers.pending_eq_nil_mono isAfter last)

end Delivers

end Delivery

/-! ## Lines -/

section Lines

variable {α : Type u} [DecidableEq α] {delimiter : α}

/-- The elements up to the first delimiter, which is the last of them, and the others. -/
def readUntil (delimiter : α) : List α → List α × List α
  | [] => ([], [])
  | first :: rest =>
      if first = delimiter then ([first], rest)
      else
        let (line, others) := readUntil delimiter rest
        (first :: line, others)

/-- The list cut after each delimiter. -/
def linesOf (delimiter : α) : List α → List (List α)
  | [] => []
  | first :: rest =>
      if first = delimiter then [first] :: linesOf delimiter rest
      else
        match linesOf delimiter rest with
        | [] => [[first]]
        | line :: others => (first :: line) :: others

@[simp]
theorem readUntil_append (delimiter : α) (input : List α) :
    (readUntil delimiter input).1 ++ (readUntil delimiter input).2 = input := by
  induction input with
  | nil => rfl
  | cons first rest ih =>
      rw [readUntil]
      by_cases isDelimiter : first = delimiter
      · rw [if_pos isDelimiter]
        rfl
      · rw [if_neg isDelimiter]
        exact congrArg (first :: ·) ih

theorem readUntil_fst_eq_nil_iff {input : List α} :
    (readUntil delimiter input).1 = [] ↔ input = [] := by
  cases input with
  | nil => exact iff_of_true rfl rfl
  | cons first rest =>
      apply iff_of_false _ (List.cons_ne_nil _ _)
      rw [readUntil]
      by_cases isDelimiter : first = delimiter
      · rw [if_pos isDelimiter]
        exact List.cons_ne_nil _ _
      · rw [if_neg isDelimiter]
        exact List.cons_ne_nil _ _

/-- Elements before the first delimiter are read with the first line. -/
theorem readUntil_append_left {before : List α} (absent : delimiter ∉ before) (rest : List α) :
    readUntil delimiter (before ++ rest) =
      (before ++ (readUntil delimiter rest).1, (readUntil delimiter rest).2) := by
  induction before with
  | nil => rfl
  | cons first others ih =>
      rw [List.mem_cons, not_or] at absent
      rw [List.cons_append, readUntil, if_neg (Ne.symm absent.1), ih absent.2]
      rfl

/-- The first line is what is read first. -/
theorem linesOf_eq_cons {input : List α} (nonempty : input ≠ []) :
    linesOf delimiter input =
      (readUntil delimiter input).1 :: linesOf delimiter (readUntil delimiter input).2 := by
  induction input with
  | nil => exact absurd rfl nonempty
  | cons first rest ih =>
      rw [linesOf, readUntil]
      by_cases isDelimiter : first = delimiter
      · rw [if_pos isDelimiter, if_pos isDelimiter]
      · rw [if_neg isDelimiter, if_neg isDelimiter]
        by_cases isLast : rest = []
        · rw [isLast]
          rfl
        · rw [ih isLast]

end Lines

end DecisionEngine.Stream
