import Fieldwise.Proofs.Text.Run
import Fieldwise.Text.Case

/-!
Texts in upper case. No character of an upper case partner has another partner, so that a text in upper case
is its own upper case; and no partner is empty, so that no text vanishes.
-/

namespace Fieldwise

theorem mappedTexts_apart_mappedCodePoints :
    bitSet ((mappedTexts upperExpansions upperShifts).flatten.map Char.toNat) &&&
      bitSet (mappedCodePoints upperExpansions upperShifts) = 0 := by decide +kernel

theorem nil_not_mem_mappedTexts :
    (mappedTexts upperExpansions upperShifts).all (fun text => !text.isEmpty) = true := by
  decide +kernel

/-- The characters of an upper case partner are their own upper case. -/
theorem upperChar_of_mem_upperChar {c x : Char} (h : x ∈ upperChar c) : upperChar x = [x] := by
  rcases mapCase_eq_or_mem upperExpansions upperShifts c with hself | hmapped
  · have hx : x ∈ [c] := hself ▸ h
    rw [List.mem_singleton.mp hx]
    exact hself
  · refine mapCase_of_not_mem (not_mem_of_bitSet_and mappedTexts_apart_mappedCodePoints ?_)
    exact List.mem_map_of_mem (List.mem_flatten.mpr ⟨_, hmapped, h⟩)

theorem upperChar_ne_nil (c : Char) : upperChar c ≠ [] := by
  unfold upperChar
  rcases mapCase_eq_or_mem upperExpansions upperShifts c with hself | hmapped
  · rw [hself]
    exact List.cons_ne_nil c []
  · simpa using List.all_eq_true.mp nil_not_mem_mappedTexts _ hmapped

theorem upperText_of_forall {text : List Char} (h : ∀ c ∈ text, upperChar c = [c]) :
    upperText text = text := by
  induction text with
  | nil => rfl
  | cons c text ih =>
    obtain ⟨hc, htext⟩ := List.forall_mem_cons.mp h
    rw [upperText, List.flatMap_cons, hc, ← upperText, ih htext, List.singleton_append]

theorem upperText_upperText (text : List Char) : upperText (upperText text) = upperText text := by
  refine upperText_of_forall fun x hx => ?_
  obtain ⟨c, -, hc⟩ := List.mem_flatMap.mp hx
  exact upperChar_of_mem_upperChar hc

theorem upperString_upperString (s : String) : upperString (upperString s) = upperString s := by
  rw [upperString, upperString, String.toList_ofList, upperText_upperText]

theorem upperString_ne_empty {s : String} (h : s ≠ "") : upperString s ≠ "" := by
  unfold upperString
  rw [Ne, String.ofList_eq_empty_iff, upperText, List.flatMap_eq_nil_iff]
  intro hnil
  obtain ⟨c, text, htext⟩ := List.exists_cons_of_ne_nil (mt String.toList_eq_nil_iff.mp h)
  exact upperChar_ne_nil c (hnil c (htext ▸ List.mem_cons_self))

end Fieldwise
