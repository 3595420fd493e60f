import Fieldwise.Proofs.Text.EditScript

/-!
The edit distance with two rows. A row holds the distances from the beginning of one text that has been read
to all beginnings of the other text, and is filled from left to right out of the row before; only that row is
needed, so the next one is written over the row before it. Whatever stood in the cells, the row that comes out
last ends with the edit distance.
-/

namespace Fieldwise

/-- Fills the cell behind a character of the second text, out of the row above and the cell to the left. -/
def fillCell (x : Char) (above row : List Nat) (column : Char × Nat) : List Nat :=
  row.set (column.2 + 1)
    (min (min (above.getD (column.2 + 1) 0 + 1) (row.getD column.2 0 + 1))
      (above.getD column.2 0 + if x = column.1 then 0 else 1))

/-- Fills the row for a character of the first text from left to right. -/
def fillRow (b : List Char) (above row : List Nat) (line : Char × Nat) : List Nat :=
  b.zipIdx.foldl (fillCell line.1 above) (row.set 0 (line.2 + 1))

/-- Fills the next row, over the older one of two. -/
def fillOlder (b : List Char) (rows : List Nat × List Nat) (line : Char × Nat) :
    List Nat × List Nat :=
  (fillRow b rows.1 rows.2 line, rows.1)

/-- The edit distance, counted with two rows that take turns. -/
def twoRowDistance (a b : List Char) : Nat :=
  let rows := a.zipIdx.foldl (fillOlder b)
    (List.range (b.length + 1), List.replicate (b.length + 1) 0)
  rows.1.getD b.length 0

/-- The first cells of the row, up to the one behind `k` characters, hold the distances from `a` to the
    beginnings of `b`. -/
structure IsFilled (a b : List Char) (k : Nat) (row : List Nat) : Prop where
  length_eq : row.length = b.length + 1
  cell : ∀ j ≤ k, row.getD j 0 = editDistance a (b.take j)

namespace IsFilled
variable {a b : List Char} {x y : Char} {k : Nat} {above row : List Nat}

theorem nextCell (habove : IsFilled a b b.length above) (h : IsFilled (a ++ [x]) b k row)
    (hy : b[k]? = some y) : IsFilled (a ++ [x]) b (k + 1) (fillCell x above row (y, k)) where
  length_eq := by rw [fillCell, List.length_set, h.length_eq]
  cell j hj := by
    obtain ⟨hk, -⟩ := List.getElem?_eq_some_iff.mp hy
    rcases Nat.lt_or_eq_of_le hj with hlt | rfl
    · have hne : k + 1 ≠ j := by omega
      rw [fillCell, List.getD_eq_getElem?_getD, List.getElem?_set_ne hne,
        ← List.getD_eq_getElem?_getD]
      exact h.cell j (by omega)
    · have htake : b.take (k + 1) = b.take k ++ [y] := by
        rw [List.take_add_one, hy, Option.toList_some]
      have hbound : k + 1 < row.length := by
        rw [h.length_eq]
        omega
      rw [fillCell, List.getD_eq_getElem?_getD, List.getElem?_set_self hbound,
        Option.getD_some, htake, editDistance_concat_concat, ← htake, habove.cell (k + 1) hk,
        habove.cell k (Nat.le_of_lt hk), h.cell k (Nat.le_refl k), Nat.min_assoc]

theorem nextCells (habove : IsFilled a b b.length above) (h : IsFilled (a ++ [x]) b k row)
    {rest : List Char} (hrest : b.drop k = rest) :
    IsFilled (a ++ [x]) b (k + rest.length) ((rest.zipIdx k).foldl (fillCell x above) row) := by
  induction rest generalizing k row with
  | nil => exact h
  | cons y rest ih =>
    have hy : b[k]? = some y := by rw [← List.head?_drop, hrest, List.head?_cons]
    have htail : b.drop (k + 1) = rest := by rw [← List.tail_drop, hrest, List.tail_cons]
    have hlength : k + (y :: rest).length = k + 1 + rest.length := by
      rw [List.length_cons]
      omega
    rw [List.zipIdx_cons, List.foldl_cons, hlength]
    exact ih (habove.nextCell h hy) htail

/-- What stood in a row before it is filled does not count. -/
theorem nextRow (habove : IsFilled a b b.length above) (hlength : row.length = b.length + 1) :
    IsFilled (a ++ [x]) b b.length (fillRow b above row (x, a.length)) := by
  have hstart : IsFilled (a ++ [x]) b 0 (row.set 0 (a.length + 1)) := by
    refine ⟨by rw [List.length_set, hlength], fun j hj => ?_⟩
    obtain rfl := Nat.le_zero.mp hj
    have hpos : 0 < row.length := hlength ▸ Nat.succ_pos _
    rw [List.getD_eq_getElem?_getD, List.getElem?_set_self hpos, Option.getD_some, List.take_zero,
      editDistance_nil_right, List.length_append, List.length_singleton]
  have hfilled := habove.nextCells hstart List.drop_zero
  rwa [Nat.zero_add] at hfilled

theorem range (b : List Char) : IsFilled [] b b.length (List.range (b.length + 1)) where
  length_eq := List.length_range
  cell j hj := by
    rw [List.getD_eq_getElem?_getD, List.getElem?_range (Nat.lt_succ_of_le hj), Option.getD_some,
      editDistance_nil_left, List.length_take, Nat.min_eq_left hj]

/-- After each character of the first text one row is filled, and the other one is as long. -/
theorem nextRows {older : List Nat} (h : IsFilled a b b.length row)
    (holder : older.length = b.length + 1) (rest : List Char) :
    IsFilled (a ++ rest) b b.length
      ((rest.zipIdx a.length).foldl (fillOlder b) (row, older)).1 := by
  induction rest generalizing a row older with
  | nil => rwa [List.append_nil]
  | cons x rest ih =>
    have hfilled : IsFilled (a ++ [x]) b b.length (fillRow b row older (x, a.length)) :=
      h.nextRow holder
    have hnext := ih hfilled h.length_eq
    rwa [List.append_assoc, List.length_append, List.length_singleton] at hnext

end IsFilled

theorem twoRowDistance_eq (a b : List Char) : twoRowDistance a b = editDistance a b := by
  have hfilled : IsFilled a b b.length (a.zipIdx.foldl (fillOlder b)
      (List.range (b.length + 1), List.replicate (b.length + 1) 0)).1 :=
    (IsFilled.range b).nextRows List.length_replicate a
  have hlast := hfilled.cell b.length (Nat.le_refl _)
  rwa [List.take_length] at hlast

/-- The edit distance is the least number of single edits that lead from one text to the other, and two rows
    that take turns come to it. Only a text itself is without distance to a text, both directions are equally
    long, and no way round by a third text is shorter. -/
theorem edit_distance_is_least_number_of_edits (a b c : List Char) :
    IsLeast {n | EditsIn n a b} (editDistance a b) ∧ twoRowDistance a b = editDistance a b ∧
    (editDistance a b = 0 ↔ a = b) ∧ editDistance a b = editDistance b a ∧
    editDistance a c ≤ editDistance a b + editDistance b c :=
  ⟨isLeast_editDistance a b, twoRowDistance_eq a b, editDistance_eq_zero_iff, editDistance_comm a b,
    editDistance_triangle a b c⟩

end Fieldwise
