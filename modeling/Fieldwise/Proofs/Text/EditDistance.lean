import Fieldwise.Text.EditDistance

/-!
The edit distance by the first characters of two texts. A row holds the distances from one text to all ends
of the other, so the row for a shorter text is the tail of the row for a longer one, and each distance comes
from the three that are a character away from it.
-/

namespace Fieldwise

variable {a b : List Char} {x y : Char}

theorem tail_distanceRow (a b : List Char) (y : Char) :
    (distanceRow a (y :: b)).tail = distanceRow a b := by
  induction a with
  | nil => simp [distanceRow, List.range_succ]
  | cons x a ih => rw [distanceRow, nextRow, List.tail_cons, ih, distanceRow]

theorem distanceRow_nil (a : List Char) : distanceRow a [] = [a.length] := by
  induction a with
  | nil => rfl
  | cons x a ih => rw [distanceRow, ih]; rfl

/-! ### Distances by the first characters -/

theorem editDistance_nil_left (b : List Char) : editDistance [] b = b.length := by
  simp [editDistance, distanceRow, List.range_succ]

theorem editDistance_nil_right (a : List Char) : editDistance a [] = a.length := by
  rw [editDistance, distanceRow_nil]
  rfl

/-- The first character is deleted, or inserted, or kept or replaced, whichever is the least. -/
theorem editDistance_cons_cons (x y : Char) (a b : List Char) :
    editDistance (x :: a) (y :: b) = min (editDistance a (y :: b) + 1)
      (min (editDistance (x :: a) b + 1) (editDistance a b + if x = y then 0 else 1)) := by
  simp only [editDistance, distanceRow, nextRow, tail_distanceRow, List.headD_cons]

/-- Nothing need be edited in a text to come to itself, and something to come to another. -/
theorem editDistance_eq_zero_iff : editDistance a b = 0 ↔ a = b := by
  induction a generalizing b with
  | nil => rw [editDistance_nil_left, List.length_eq_zero_iff, eq_comm]
  | cons x a ih =>
    cases b with
    | nil => simp [editDistance_nil_right]
    | cons y b =>
      rw [editDistance_cons_cons, List.cons.injEq, ← ih]
      split
      · next h => simp [h]
      · next h => simp [h]

end Fieldwise
