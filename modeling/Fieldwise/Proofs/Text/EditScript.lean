import Fieldwise.Proofs.Text.EditDistance
import Mathlib.Order.Bounds.Defs

/-!
Edits one after the other. An edit inserts, deletes or replaces one character somewhere in a text. No single
edit brings a text nearer to another one by more than 1, and the edit distance is reached by that many edits:
it is the least number of edits that lead from one text to the other. Edits can be taken back, taken in turn
and seen from the other end of the texts, and so distances are symmetric, keep the triangle inequality and
may be counted by the last characters as well as by the first ones.
-/

namespace Fieldwise

/-- The second text is the first one with one character inserted, deleted or replaced. -/
inductive IsEdit : List Char → List Char → Prop where
  | insert (before after : List Char) (c : Char) : IsEdit (before ++ after) (before ++ c :: after)
  | delete (before after : List Char) (c : Char) : IsEdit (before ++ c :: after) (before ++ after)
  | replace (before after : List Char) (c d : Char) :
    IsEdit (before ++ c :: after) (before ++ d :: after)

/-- So many edits, one after the other, lead from the first text to the second. -/
inductive EditsIn : Nat → List Char → List Char → Prop where
  | refl (a : List Char) : EditsIn 0 a a
  | step {n : Nat} {a b c : List Char} (first : IsEdit a b) (others : EditsIn n b c) :
    EditsIn (n + 1) a c

variable {a b c : List Char} {x y : Char} {m n : Nat}

/-! ### Edits -/

namespace IsEdit

theorem cons (x : Char) (h : IsEdit a b) : IsEdit (x :: a) (x :: b) := by
  cases h with
  | insert before after c => exact insert (x :: before) after c
  | delete before after c => exact delete (x :: before) after c
  | replace before after c d => exact replace (x :: before) after c d

theorem symm (h : IsEdit a b) : IsEdit b a := by
  cases h with
  | insert before after c => exact delete before after c
  | delete before after c => exact insert before after c
  | replace before after c d => exact replace before after d c

theorem reverse (h : IsEdit a b) : IsEdit a.reverse b.reverse := by
  cases h with
  | insert before after c =>
    have hedit := insert after.reverse before.reverse c
    simpa using hedit
  | delete before after c =>
    have hedit := delete after.reverse before.reverse c
    simpa using hedit
  | replace before after c d =>
    have hedit := replace after.reverse before.reverse c d
    simpa using hedit

end IsEdit

namespace EditsIn

theorem single (h : IsEdit a b) : EditsIn 1 a b := step h (refl b)

theorem trans (hab : EditsIn m a b) (hbc : EditsIn n b c) : EditsIn (m + n) a c := by
  induction hab with
  | refl => rwa [Nat.zero_add]
  | step first _ ih =>
    rw [Nat.add_right_comm]
    exact step first (ih hbc)

theorem cons (x : Char) (h : EditsIn n a b) : EditsIn n (x :: a) (x :: b) := by
  induction h with
  | refl => exact refl _
  | step first _ ih => exact step (first.cons x) ih

theorem symm (h : EditsIn n a b) : EditsIn n b a := by
  induction h with
  | refl => exact refl _
  | step first _ ih => exact ih.trans (single first.symm)

theorem reverse (h : EditsIn n a b) : EditsIn n a.reverse b.reverse := by
  induction h with
  | refl => exact refl _
  | step first _ ih => exact step first.reverse ih

theorem inMin (hm : EditsIn m a b) (hn : EditsIn n a b) : EditsIn (min m n) a b := by
  rcases Nat.le_total m n with hle | hle
  · rwa [Nat.min_eq_left hle]
  · rwa [Nat.min_eq_right hle]

end EditsIn

/-! ### The least number of edits -/

theorem editDistance_cons_left_le (x : Char) (a b : List Char) :
    editDistance (x :: a) b ≤ editDistance a b + 1 := by
  cases b with
  | nil => simp [editDistance_nil_right]
  | cons y b =>
    rw [editDistance_cons_cons]
    omega

theorem editDistance_cons_right_le (a : List Char) (y : Char) (b : List Char) :
    editDistance a (y :: b) ≤ editDistance a b + 1 := by
  cases a with
  | nil => simp [editDistance_nil_left]
  | cons x a =>
    rw [editDistance_cons_cons]
    omega

theorem editDistance_le_cons_left (x : Char) (a b : List Char) :
    editDistance a b ≤ editDistance (x :: a) b + 1 := by
  induction b with
  | nil =>
    rw [editDistance_nil_right, editDistance_nil_right, List.length_cons]
    omega
  | cons y b ih =>
    have hinsert := editDistance_cons_right_le a y b
    rw [editDistance_cons_cons]
    omega

theorem editDistance_replace_le (x y : Char) (a b : List Char) :
    editDistance (x :: a) b ≤ editDistance (y :: a) b + 1 := by
  induction b with
  | nil => simp [editDistance_nil_right]
  | cons z b ih =>
    have hcost : (if x = z then 0 else 1) ≤ 1 := by split <;> decide
    rw [editDistance_cons_cons, editDistance_cons_cons]
    omega

/-- Where two texts begin alike, their distances to a third differ by no more than those of their rests. -/
theorem editDistance_cons_le (h : ∀ c, editDistance a c ≤ editDistance b c + 1) (x : Char)
    (c : List Char) : editDistance (x :: a) c ≤ editDistance (x :: b) c + 1 := by
  induction c with
  | nil =>
    have hlength := h []
    rw [editDistance_nil_right, editDistance_nil_right] at hlength ⊢
    simpa using hlength
  | cons z c ih =>
    have hdeleted := h (z :: c)
    have hreplaced := h c
    rw [editDistance_cons_cons, editDistance_cons_cons]
    omega

theorem editDistance_append_le (h : ∀ c, editDistance a c ≤ editDistance b c + 1)
    (before c : List Char) : editDistance (before ++ a) c ≤ editDistance (before ++ b) c + 1 := by
  induction before generalizing c with
  | nil => exact h c
  | cons x before ih => exact editDistance_cons_le ih x c

/-- No edit brings a text nearer to another one by more than 1. -/
theorem editDistance_le_of_isEdit (h : IsEdit a b) (c : List Char) :
    editDistance a c ≤ editDistance b c + 1 := by
  cases h with
  | insert before after x =>
    exact editDistance_append_le (fun c => editDistance_le_cons_left x after c) before c
  | delete before after x =>
    exact editDistance_append_le (fun c => editDistance_cons_left_le x after c) before c
  | replace before after x y =>
    exact editDistance_append_le (fun c => editDistance_replace_le x y after c) before c

theorem editDistance_le_of_editsIn (h : EditsIn n a b) : editDistance a b ≤ n := by
  induction h with
  | refl a => exact Nat.le_of_eq (editDistance_eq_zero_iff.mpr rfl)
  | step first _ ih => exact Nat.le_trans (editDistance_le_of_isEdit first _) (Nat.succ_le_succ ih)

theorem editsIn_length_nil (a : List Char) : EditsIn a.length a [] := by
  induction a with
  | nil => exact .refl []
  | cons x a ih => exact .step (.delete [] a x) ih

/-- As many edits as the distance counts are enough. -/
theorem editsIn_editDistance (a b : List Char) : EditsIn (editDistance a b) a b := by
  induction a generalizing b with
  | nil =>
    rw [editDistance_nil_left]
    exact (editsIn_length_nil b).symm
  | cons x a ihA =>
    induction b with
    | nil =>
      rw [editDistance_nil_right]
      exact editsIn_length_nil (x :: a)
    | cons y b ihB =>
      have hdeleted : EditsIn (editDistance a (y :: b) + 1) (x :: a) (y :: b) :=
        .step (.delete [] a x) (ihA (y :: b))
      have hinserted : EditsIn (editDistance (x :: a) b + 1) (x :: a) (y :: b) :=
        .step (.insert [] (x :: a) y) (ihB.cons y)
      have hreplaced : EditsIn (editDistance a b + if x = y then 0 else 1) (x :: a) (y :: b) := by
        split
        · next heq => exact heq ▸ (ihA b).cons x
        · exact .step (.replace [] a x y) ((ihA b).cons y)
      rw [editDistance_cons_cons]
      exact hdeleted.inMin (hinserted.inMin hreplaced)

theorem isLeast_editDistance (a b : List Char) : IsLeast {n | EditsIn n a b} (editDistance a b) :=
  ⟨editsIn_editDistance a b, fun _ h => editDistance_le_of_editsIn h⟩

/-! ### Distances as a metric -/

theorem editDistance_comm (a b : List Char) : editDistance a b = editDistance b a :=
  Nat.le_antisymm (editDistance_le_of_editsIn (editsIn_editDistance b a).symm)
    (editDistance_le_of_editsIn (editsIn_editDistance a b).symm)

theorem editDistance_triangle (a b c : List Char) :
    editDistance a c ≤ editDistance a b + editDistance b c :=
  editDistance_le_of_editsIn ((editsIn_editDistance a b).trans (editsIn_editDistance b c))

theorem editDistance_reverse (a b : List Char) :
    editDistance a.reverse b.reverse = editDistance a b := by
  refine Nat.le_antisymm (editDistance_le_of_editsIn (editsIn_editDistance a b).reverse) ?_
  have hback := (editsIn_editDistance a.reverse b.reverse).reverse
  rw [List.reverse_reverse, List.reverse_reverse] at hback
  exact editDistance_le_of_editsIn hback

/-- The last character is deleted, or inserted, or kept or replaced, whichever is the least. -/
theorem editDistance_concat_concat (a b : List Char) (x y : Char) :
    editDistance (a ++ [x]) (b ++ [y]) = min (editDistance a (b ++ [y]) + 1)
      (min (editDistance (a ++ [x]) b + 1) (editDistance a b + if x = y then 0 else 1)) := by
  have hfirst := editDistance_cons_cons x y a.reverse b.reverse
  rw [← List.reverse_concat, ← List.reverse_concat] at hfirst
  simpa only [editDistance_reverse] using hfirst

end Fieldwise
