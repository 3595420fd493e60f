import Fieldwise.Text.Blank
import Mathlib.Data.List.DropRight

/-!
Texts without the blanks at their ends. `trimBlank` cuts blank characters off both ends of a text and
leaves a text that neither begins nor ends with one; a text that does not is left as it is.
-/

namespace Fieldwise

/-- The text neither begins nor ends with a blank character. -/
structure HasNoBlankEnd (text : List Char) : Prop where
  head : ∀ c ∈ text.head?, isBlank c = false
  last : ∀ c ∈ text.getLast?, isBlank c = false

/-- `trimmed` is `text` without the blank characters at its two ends. -/
structure IsTrimmed (text trimmed : List Char) : Prop where
  ends : ∃ before after, text = before ++ trimmed ++ after ∧
    (∀ c ∈ before, isBlank c = true) ∧ ∀ c ∈ after, isBlank c = true
  hasNoBlankEnd : HasNoBlankEnd trimmed

theorem trimBlank_eq (text : List Char) :
    trimBlank text = (text.dropWhile isBlank).rdropWhile isBlank := rfl

theorem isBlank_head_dropWhile (text : List Char) {c : Char}
    (h : c ∈ (text.dropWhile isBlank).head?) : isBlank c = false := by
  have hnot := List.head?_dropWhile_not isBlank text
  rw [Option.mem_def.mp h] at hnot
  exact hnot

theorem hasNoBlankEnd_trimBlank (text : List Char) : HasNoBlankEnd (trimBlank text) where
  head c hc := by
    -- What is cut off at the end leaves the first character where it is.
    obtain ⟨after, hafter⟩ := List.rdropWhile_prefix isBlank (text.dropWhile isBlank)
    refine isBlank_head_dropWhile text ?_
    rw [← hafter, List.head?_append, ← trimBlank_eq, Option.mem_def.mp hc]
    rfl
  last c hc := by
    rw [trimBlank, List.getLast?_reverse] at hc
    exact isBlank_head_dropWhile _ hc

theorem isTrimmed_trimBlank (text : List Char) : IsTrimmed text (trimBlank text) where
  ends := by
    refine ⟨text.takeWhile isBlank, (text.dropWhile isBlank).rtakeWhile isBlank, ?_, ?_, ?_⟩
    · rw [trimBlank_eq, List.append_assoc, List.rdropWhile_append_rtakeWhile,
        List.takeWhile_append_dropWhile]
    · exact List.all_eq_true.mp List.all_takeWhile
    · exact fun c => List.mem_rtakeWhile_imp
  hasNoBlankEnd := hasNoBlankEnd_trimBlank text

/-- Nothing else is left of a text without the blanks at its ends. -/
theorem trimBlank_of_isTrimmed {text trimmed : List Char} (h : IsTrimmed text trimmed) :
    trimBlank text = trimmed := by
  obtain ⟨⟨before, after, rfl, hbefore, hafter⟩, hends⟩ := h
  rw [trimBlank_eq, List.append_assoc, List.dropWhile_append_of_pos hbefore]
  cases trimmed with
  | nil => rw [List.nil_append, List.dropWhile_eq_nil_iff.mpr hafter, List.rdropWhile_nil]
  | cons c rest =>
    have hblank : ∀ c ∈ after.reverse, isBlank c = true :=
      fun c hc => hafter c (List.mem_reverse.mp hc)
    rw [List.cons_append, List.dropWhile_cons_of_neg (by simp [hends.head c rfl]),
      ← List.cons_append, List.rdropWhile, List.reverse_append,
      List.dropWhile_append_of_pos hblank, ← List.rdropWhile, List.rdropWhile_eq_self_iff]
    exact fun hne => by simp [hends.last _ (List.getLast?_eq_some_getLast hne)]

theorem isTrimmed_iff {text trimmed : List Char} :
    IsTrimmed text trimmed ↔ trimmed = trimBlank text := by
  refine ⟨fun h => (trimBlank_of_isTrimmed h).symm, ?_⟩
  rintro rfl
  exact isTrimmed_trimBlank text

theorem trimBlank_of_hasNoBlankEnd {text : List Char} (h : HasNoBlankEnd text) :
    trimBlank text = text :=
  trimBlank_of_isTrimmed ⟨⟨[], [], by simp, List.forall_mem_nil _, List.forall_mem_nil _⟩, h⟩

end Fieldwise
