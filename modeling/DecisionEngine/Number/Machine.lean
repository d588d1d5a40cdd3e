import Mathlib.Data.Rat.Floor
import Mathlib.Data.Rat.Sqrt
import Mathlib.Data.List.Sort

/-!
# Machine numbers

The operations that a program has on its floating-point numbers, as a class
without laws.  What is proved over the class holds of rounded numbers, with their
incomparable values, and of exact rationals alike.
-/

namespace DecisionEngine.Number

/-- The operations of a type of machine numbers. -/
class MachineNumber (F : Type) extends Add F, Sub F, Mul F, Div F where
  /-- The number of a literal. -/
  ofRat : ℚ → F
  sqrt : F → F
  /-- The comparison, which has no answer for the values that are not numbers. -/
  partialCmp : F → F → Option Ordering
  /-- The integer part from below, in the range of 32 bits. -/
  floorToI32 : F → Int
  isFinite : F → Bool

section Operations

variable {F : Type} [MachineNumber F]

export MachineNumber (ofRat partialCmp)

def ofInt (value : Int) : F :=
  ofRat value

def lt (left right : F) : Bool :=
  partialCmp left right == some .lt

def gt (left right : F) : Bool :=
  partialCmp left right == some .gt

def le (left right : F) : Bool :=
  lt left right || partialCmp left right == some .eq

def ge (left right : F) : Bool :=
  gt left right || partialCmp left right == some .eq

def eq (left right : F) : Bool :=
  partialCmp left right == some .eq

/-- The comparison that takes incomparable values for equal. -/
def compareOrEqual (left right : F) : Ordering :=
  (partialCmp left right).getD .eq

/-- The larger number; a value that is not a number gives way to the other one. -/
def max (left right : F) : F :=
  match partialCmp left right with
  | some .lt => right
  | some _ => left
  | none => if partialCmp left left = none then right else left

/-- The smaller number; a value that is not a number gives way to the other one. -/
def min (left right : F) : F :=
  match partialCmp left right with
  | some .gt => right
  | some _ => left
  | none => if partialCmp left left = none then right else left

def clamp (value low high : F) : F :=
  let raised := if lt value low then low else value
  if gt raised high then high else raised

def abs (value : F) : F :=
  if lt value (ofRat 0) then ofRat 0 - value else value

end Operations

/-! ## Choices and orders by a number -/

section Orders

variable {F : Type} [MachineNumber F] {α : Type}

/-- The last of the elements with the greatest number. -/
def maxBy (number : α → F) : List α → Option α
  | [] => none
  | first :: rest =>
      some (rest.foldl
        (fun best next =>
          if compareOrEqual (number best) (number next) = .gt then best else next) first)

/-- The stable order from the greatest number to the least. -/
def sortDescending (number : α → F) (elements : List α) : List α :=
  elements.insertionSort fun left right =>
    compareOrEqual (number right) (number left) ≠ .gt

theorem perm_sortDescending (number : α → F) (elements : List α) :
    (sortDescending number elements).Perm elements :=
  List.perm_insertionSort _ elements

theorem mem_sortDescending {number : α → F} {elements : List α} {element : α} :
    element ∈ sortDescending number elements ↔ element ∈ elements :=
  (perm_sortDescending number elements).mem_iff

end Orders

/-! ## Exact numbers -/

/-- Exact rationals, with a given square root. -/
@[reducible]
def exactNumbers (sqrt : ℚ → ℚ) : MachineNumber ℚ where
  ofRat value := value
  sqrt := sqrt
  partialCmp left right := some (compare left right)
  floorToI32 value := Max.max (-2 ^ 31) (Min.min value.floor (2 ^ 31 - 1))
  isFinite _ := true

instance : MachineNumber ℚ := exactNumbers Rat.sqrt

end DecisionEngine.Number
