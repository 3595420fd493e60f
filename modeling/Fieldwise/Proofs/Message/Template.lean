import Fieldwise.Message.Template
import Fieldwise.Proofs.Decimal.Numeral
import Mathlib.Data.List.Forall2

/-!
Substitution in one pass. There is one way to cut a template into dollar signs with all the digits that
follow them and single characters, and each piece becomes a text of its own: the substitution with its
number, or itself. So the pieces are all that counts. What is put in is not looked at again, and two
templates one behind the other give what each of them gives, unless the cut between them falls into the
digits of a placeholder.
-/

namespace Fieldwise

/-- The text ends in a dollar sign with any number of digits behind it, so that more digits could follow. -/
def EndsInPlaceholder (text : List Char) : Prop :=
  ∃ before digits, text = before ++ '$' :: digits ∧ ∀ d ∈ digits, d.isDigit = true

theorem EndsInPlaceholder.append_left {text : List Char} (h : EndsInPlaceholder text)
    (before : List Char) : EndsInPlaceholder (before ++ text) := by
  obtain ⟨first, digits, rfl, hdigits⟩ := h
  exact ⟨before ++ first, digits, (List.append_assoc _ _ _).symm, hdigits⟩

namespace TemplatePiece

/-! ### Cutting -/

/-- The text is cut into the pieces from left to right: each dollar sign with all the digits that follow
    it, and any other character by itself. -/
inductive Cuts : List TemplatePiece → List Char → Prop where
  | nil : Cuts [] []
  | placeholder {digits : List Char} {pieces : List TemplatePiece} {text : List Char}
      (isDigit : ∀ d ∈ digits, d.isDigit = true) (longest : NoDigitAhead text)
      (others : Cuts pieces text) : Cuts (placeholder digits :: pieces) ('$' :: (digits ++ text))
  | character {c : Char} {pieces : List TemplatePiece} {text : List Char} (notDollar : c ≠ '$')
      (others : Cuts pieces text) : Cuts (character c :: pieces) (c :: text)

section Cut
variable {pieces pieces' : List TemplatePiece} {text text' digits : List Char}

theorem noDigitAhead_dropWhile (text : List Char) :
    NoDigitAhead (text.dropWhile Char.isDigit) := by
  intro c hc
  have hnot := List.head?_dropWhile_not Char.isDigit text
  rw [Option.mem_def.mp hc] at hnot
  exact hnot

theorem cuts_cut (text : List Char) : Cuts (cut text) text := by
  fun_induction cut text with
  | case1 => exact .nil
  | case2 rest ih =>
    have hdigits : ∀ d ∈ rest.takeWhile Char.isDigit, d.isDigit = true :=
      List.all_eq_true.mp List.all_takeWhile
    have hcuts := Cuts.placeholder hdigits (noDigitAhead_dropWhile rest) ih
    rwa [List.takeWhile_append_dropWhile] at hcuts
  | case3 c rest hc ih => exact .character hc ih

theorem cut_of_cuts (h : Cuts pieces text) : cut text = pieces := by
  induction h with
  | nil => rw [cut]
  | placeholder hdigits hlongest _ ih =>
    rw [cut, if_pos rfl, Numeral.takeWhile_isDigit_append hdigits hlongest,
      Numeral.dropWhile_isDigit_append hdigits hlongest, ih]
  | character hc _ ih => rw [cut, if_neg hc, ih]

/-- There is one way to cut a text. -/
theorem cut_eq_iff : cut text = pieces ↔ Cuts pieces text :=
  ⟨fun h => h ▸ cuts_cut text, cut_of_cuts⟩

theorem NoDigitAhead.append (h : NoDigitAhead text) (hne : text ≠ []) (text' : List Char) :
    NoDigitAhead (text ++ text') := by
  unfold NoDigitAhead
  rwa [List.head?_append_of_ne_nil _ hne]

theorem Cuts.append (h : Cuts pieces text) (h' : Cuts pieces' text')
    (hcut : ¬ EndsInPlaceholder text ∨ NoDigitAhead text') :
    Cuts (pieces ++ pieces') (text ++ text') := by
  induction h with
  | nil => exact h'
  | @placeholder digits pieces text hdigits hlongest _ ih =>
    have hrest : ¬ EndsInPlaceholder text ∨ NoDigitAhead text' :=
      hcut.imp_left fun hends hopen => hends (hopen.append_left ('$' :: digits))
    -- The run of digits ends where it did, unless the first text ends with it.
    have hahead : NoDigitAhead (text ++ text') := by
      by_cases hnil : text = []
      · subst hnil
        exact hcut.resolve_left fun hends => hends ⟨[], digits, by simp, hdigits⟩
      · exact NoDigitAhead.append hlongest hnil text'
    have hcuts := Cuts.placeholder hdigits hahead (ih hrest)
    rwa [← List.append_assoc] at hcuts
  | @character c pieces text hc _ ih =>
    exact .character hc (ih (hcut.imp_left fun hends hopen => hends (hopen.append_left [c])))

end Cut

/-! ### What becomes of a piece -/

/-- A placeholder becomes the substitution with its number, counting from one, if there is one; any other
    piece becomes what it is. -/
inductive Becomes (substitutions : List String) : TemplatePiece → List Char → Prop where
  | substituted {digits : List Char} {n : Nat} {s : String}
      (number : Nat.ofDigitChars 10 digits 0 = n) (positive : 1 ≤ n)
      (given : substitutions[n - 1]? = some s) : Becomes substitutions (placeholder digits) s.toList
  | kept {digits : List Char} {n : Nat} (number : Nat.ofDigitChars 10 digits 0 = n)
      (notGiven : n = 0 ∨ substitutions.length < n) :
      Becomes substitutions (placeholder digits) ('$' :: digits)
  | character (c : Char) : Becomes substitutions (character c) [c]

section Become
variable {substitutions : List String} {digits out text : List Char} {n : Nat} {s : String}
  {pieces : List TemplatePiece} {texts : List (List Char)}

theorem expand_of_given (hdigits : ∀ d ∈ digits, d.isDigit = true)
    (hnumber : Nat.ofDigitChars 10 digits 0 = n) (hpos : 1 ≤ n)
    (hgiven : substitutions[n - 1]? = some s) :
    expand substitutions (placeholder digits) = s.toList := by
  have hne : digits ≠ [] := by
    rintro rfl
    exact absurd hnumber (Nat.ne_of_lt hpos)
  have hread : Numeral.natural? digits = some (n - 1 + 1) :=
    Numeral.natural?_eq_some_iff.mpr ⟨hne, hdigits, by omega⟩
  simp only [expand, hread, hgiven]

theorem expand_of_not_given (hnumber : Nat.ofDigitChars 10 digits 0 = n)
    (hnot : n = 0 ∨ substitutions.length < n) :
    expand substitutions (placeholder digits) = '$' :: digits := by
  cases hread : Numeral.natural? digits with
  | none => simp only [expand, hread]
  | some number =>
    cases number with
    | zero => simp only [expand, hread]
    | succ m =>
      obtain ⟨-, -, hm⟩ := Numeral.natural?_eq_some_iff.mp hread
      have hnone : substitutions[m]? = none := List.getElem?_eq_none (by omega)
      simp only [expand, hread, hnone]

theorem becomes_placeholder_iff (hdigits : ∀ d ∈ digits, d.isDigit = true) :
    Becomes substitutions (placeholder digits) out ↔
      out = expand substitutions (placeholder digits) := by
  constructor
  · intro h
    cases h with
    | substituted hnumber hpos hgiven => exact (expand_of_given hdigits hnumber hpos hgiven).symm
    | kept hnumber hnot => exact (expand_of_not_given hnumber hnot).symm
  · rintro rfl
    by_cases hgiven : 1 ≤ Nat.ofDigitChars 10 digits 0 ∧
        Nat.ofDigitChars 10 digits 0 ≤ substitutions.length
    · obtain ⟨hpos, hle⟩ := hgiven
      have hs : substitutions[Nat.ofDigitChars 10 digits 0 - 1]? = some _ :=
        List.getElem?_eq_getElem (by omega)
      rw [expand_of_given hdigits rfl hpos hs]
      exact .substituted rfl hpos hs
    · have hnot : Nat.ofDigitChars 10 digits 0 = 0 ∨
          substitutions.length < Nat.ofDigitChars 10 digits 0 := by omega
      rw [expand_of_not_given rfl hnot]
      exact .kept rfl hnot

theorem becomes_character_iff {c : Char} : Becomes substitutions (character c) out ↔ out = [c] := by
  refine ⟨fun h => by cases h; rfl, ?_⟩
  rintro rfl
  exact .character c

/-- Each piece of a template becomes one text. -/
theorem forall₂_becomes_iff (h : Cuts pieces text) :
    List.Forall₂ (Becomes substitutions) pieces texts ↔ texts = pieces.map (expand substitutions) := by
  induction h generalizing texts with
  | nil => rw [List.forall₂_nil_left_iff, List.map_nil]
  | placeholder hdigits _ _ ih =>
    simp [List.forall₂_cons_left_iff, becomes_placeholder_iff hdigits, ih]
  | character _ _ ih => simp [List.forall₂_cons_left_iff, becomes_character_iff, ih, expand]

theorem expand_nil (h : Cuts pieces text) : pieces.flatMap (expand []) = text := by
  induction h with
  | nil => rfl
  | @placeholder digits pieces text _ _ _ ih =>
    have hkept : expand [] (placeholder digits) = '$' :: digits :=
      expand_of_not_given rfl (by rw [List.length_nil]; omega)
    rw [List.flatMap_cons, ih, hkept, List.cons_append]
  | character _ _ ih => rw [List.flatMap_cons, ih, expand, List.singleton_append]

end Become

end TemplatePiece

open TemplatePiece

/-! ### Whole templates -/

section Substitute
variable {template before after digits s : String} {substitutions : List String} {n : Nat}

theorem toList_substitute (template : String) (substitutions : List String) :
    (substitute template substitutions).toList =
      (cut template.toList).flatMap (expand substitutions) := String.toList_ofList

theorem substitute_eq_iff {out : String} : substitute template substitutions = out ↔
    ∃ pieces texts, Cuts pieces template.toList ∧
      List.Forall₂ (Becomes substitutions) pieces texts ∧ out.toList = texts.flatten := by
  have hcuts := cuts_cut template.toList
  rw [← String.toList_inj, toList_substitute]
  constructor
  · intro h
    exact ⟨_, _, hcuts, (forall₂_becomes_iff hcuts).mpr rfl, by rw [← h, List.flatMap_def]⟩
  · rintro ⟨pieces, texts, hpieces, htexts, hout⟩
    rw [cut_eq_iff.mpr hpieces, List.flatMap_def, ← (forall₂_becomes_iff hpieces).mp htexts, hout]

theorem substitute_append
    (h : ¬ EndsInPlaceholder before.toList ∨ NoDigitAhead after.toList) :
    substitute (before ++ after) substitutions =
      substitute before substitutions ++ substitute after substitutions := by
  have hcut := cut_eq_iff.mpr ((cuts_cut before.toList).append (cuts_cut after.toList) h)
  rw [← String.toList_inj, String.toList_append, toList_substitute, toList_substitute,
    toList_substitute, String.toList_append, hcut, List.flatMap_append]

/-- What is put in for a placeholder stands in the result as it is. -/
theorem substitute_placeholder (hdigits : ∀ d ∈ digits.toList, d.isDigit = true)
    (hahead : NoDigitAhead after.toList) (hnumber : Nat.ofDigitChars 10 digits.toList 0 = n)
    (hpos : 1 ≤ n) (hgiven : substitutions[n - 1]? = some s) :
    substitute (before ++ "$" ++ digits ++ after) substitutions =
      substitute before substitutions ++ s ++ substitute after substitutions := by
  have hcuts : Cuts (placeholder digits.toList :: cut after.toList) ("$" ++ digits ++ after).toList := by
    simpa using Cuts.placeholder hdigits hahead (cuts_cut after.toList)
  have hdollar : NoDigitAhead ("$" ++ digits ++ after).toList := by simp [NoDigitAhead]
  have hput : substitute ("$" ++ digits ++ after) substitutions =
      s ++ substitute after substitutions := by
    rw [← String.toList_inj, toList_substitute, cut_eq_iff.mpr hcuts, List.flatMap_cons,
      expand_of_given hdigits hnumber hpos hgiven, String.toList_append, toList_substitute]
  have hassoc : before ++ "$" ++ digits ++ after = before ++ ("$" ++ digits ++ after) := by
    simp only [String.append_assoc]
  rw [hassoc, substitute_append (Or.inr hdollar), hput, String.append_assoc]

end Substitute

/-- A template is cut from left to right into dollar signs with all the digits that follow them and single
    characters, and the result is what becomes of one piece after the other. So what is put in for a
    placeholder is not looked at again, nothing changes where nothing is given, and two templates can be
    taken one after the other unless the second one goes on with digits of a placeholder at the end of the
    first one. -/
theorem substitution_is_one_pass (substitutions : List String) :
    (∀ template out : String, substitute template substitutions = out ↔
      ∃ pieces texts, Cuts pieces template.toList ∧
        List.Forall₂ (Becomes substitutions) pieces texts ∧ out.toList = texts.flatten) ∧
    (∀ (before digits after s : String) (n : Nat), (∀ d ∈ digits.toList, d.isDigit = true) →
      NoDigitAhead after.toList → Nat.ofDigitChars 10 digits.toList 0 = n → 1 ≤ n →
      substitutions[n - 1]? = some s →
      substitute (before ++ "$" ++ digits ++ after) substitutions =
        substitute before substitutions ++ s ++ substitute after substitutions) ∧
    (∀ template : String, substitute template [] = template) ∧
    ∀ before after : String, ¬ EndsInPlaceholder before.toList ∨ NoDigitAhead after.toList →
      substitute (before ++ after) substitutions =
        substitute before substitutions ++ substitute after substitutions := by
  refine ⟨fun template out => substitute_eq_iff, fun before digits after s n => ?_,
    fun template => ?_, fun before after => substitute_append⟩
  · exact substitute_placeholder
  · rw [← String.toList_inj, toList_substitute, expand_nil (cuts_cut template.toList)]

/-- A number with zeros in front behind two dollar signs, for which a placeholder is put in; and a
    placeholder that is cut in two is not put together again. -/
theorem placeholders_put_in_stay :
    substitute "é$$01$" ["$2$1", "x"] = "é$$2$1$" ∧
      substitute ("1$" ++ "é2") ["$2$1", "x"] = "1$é2" ∧
      substitute ("$" ++ "2") ["$2$1", "x"] ≠
        substitute "$" ["$2$1", "x"] ++ substitute "2" ["$2$1", "x"] := by
  obtain ⟨-, hput, -, happend⟩ := substitution_is_one_pass ["$2$1", "x"]
  refine ⟨?_, ?_, ?_⟩
  · have h := hput "é$" "01" "$" "$2$1" 1 (List.all_eq_true.mp (by decide +kernel))
      (by simp [NoDigitAhead]) (by decide +kernel) (by decide) rfl
    have hends : substitute "é$" ["$2$1", "x"] = "é$" ∧ substitute "$" ["$2$1", "x"] = "$" := by
      decide +kernel
    rw [hends.1, hends.2] at h
    exact h
  · rw [happend "1$" "é2" (Or.inr (by simp [NoDigitAhead]))]
    decide +kernel
  · decide +kernel

end Fieldwise
