/-!
The edit distance of two texts: how many characters must at least be inserted, deleted or replaced
to turn one into the other. `distanceRow` computes the distances from one text to all ends of the
other at once, row by row.
-/

namespace Fieldwise

/-- The row for `x :: a` out of the row for `a`. A row holds the distances to the ends of a text,
    beginning with the whole text. -/
def nextRow (x : Char) : (b : List Char) → (row : List Nat) → List Nat
  | [], row => row.take 1 |>.map (· + 1)
  | y :: b, row =>
    let shorter := nextRow x b row.tail
    let replaced := row.tail.headD 0 + if x = y then 0 else 1
    min (row.headD 0 + 1) (min (shorter.headD 0 + 1) replaced) :: shorter

/-- The distances from `a` to `b` and to every end of `b`, down to the empty one. -/
def distanceRow : (a b : List Char) → List Nat
  | [], b => (List.range (b.length + 1)).reverse
  | x :: a, b => nextRow x b (distanceRow a b)

/-- The least number of single character edits from `a` to `b`. -/
def editDistance (a b : List Char) : Nat := (distanceRow a b).headD 0

example : editDistance "kitten".toList "sitting".toList = 3 := by decide +kernel

end Fieldwise
