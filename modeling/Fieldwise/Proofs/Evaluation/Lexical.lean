import Fieldwise.Proofs.Evaluation.DateRule

/-!
Numbers and booleans as texts. A rule judges a number or a boolean as it judges the text in which it sees
it. The rules do not get there in one way: a date rule refuses a boolean without reading it, and a rule
that asks for a value asks only of a text whether it is blank. But no format reads a text without a digit,
and no number is written with blanks alone.
-/

namespace Fieldwise

/-! ### Numbers are not blank -/

theorem isBlank_of_isDigit {c : Char} (h : c.isDigit = true) : isBlank c = false := by
  obtain ⟨hpos, hle⟩ := Numeral.isDigit_iff.mp h
  simp only [isBlank, List.any_eq_false, Bool.and_eq_true, decide_eq_true_eq]
  intro range hrange
  have hapart : range.2 < 48 ∨ 57 < range.1 := by
    revert range
    decide
  omega

namespace Numeral

theorem exists_isDigit_natural (n : Nat) : ∃ c ∈ natural n, c.isDigit = true := by
  obtain ⟨c, hc⟩ := List.exists_mem_of_ne_nil _ (natural_ne_nil n)
  exact ⟨c, hc, isDigit_of_mem_natural hc⟩

theorem exists_isDigit_integer (n : Int) : ∃ c ∈ integer n, c.isDigit = true := by
  obtain ⟨c, hc, hdigit⟩ := exists_isDigit_natural n.natAbs
  refine ⟨c, ?_, hdigit⟩
  unfold integer
  split
  · exact List.mem_cons_of_mem _ hc
  · exact hc

end Numeral

namespace Layout
variable {l : Layout} {c : Char}

theorem mem_plain {digits : List Char} {exponent : Int} (h : c ∈ digits) :
    c ∈ l.plain digits exponent := by
  simp only [plain]
  split
  · exact List.mem_append_left _ (List.mem_append_left _ h)
  · split
    · next whole _ =>
      rw [← List.take_append_drop (exponent + digits.length).toNat digits, List.mem_append] at h
      exact List.mem_append.mpr (h.imp_right (List.mem_cons_of_mem _))
    · exact List.mem_cons_of_mem _ (List.mem_cons_of_mem _ (List.mem_append_right _ h))

theorem exists_isDigit_decimal (l : Layout) (d : Decimal) :
    ∃ c ∈ l.decimal d, c.isDigit = true := by
  simp only [decimal]
  split
  · obtain ⟨c, hc, hdigit⟩ := Numeral.exists_isDigit_natural d.digits
    exact ⟨c, mem_plain hc, hdigit⟩
  · -- The exponent at the end is a number too.
    obtain ⟨c, hc, hdigit⟩ := Numeral.exists_isDigit_natural
      (d.exponent + (Numeral.natural d.digits).length - 1).natAbs
    exact ⟨c, List.mem_append_right _ (List.mem_cons_of_mem _ (List.mem_cons_of_mem _ hc)), hdigit⟩

theorem exists_isDigit_signed (l : Layout) (negative : Bool) (m : Magnitude) :
    ∃ c ∈ l.signed negative m, c.isDigit = true := by
  have hmagnitude : ∃ c ∈ l.magnitude m, c.isDigit = true := by
    unfold magnitude
    split
    · exact ⟨'0', mem_plain List.mem_cons_self, rfl⟩
    · exact exists_isDigit_decimal l _
  obtain ⟨c, hc, hdigit⟩ := hmagnitude
  refine ⟨c, ?_, hdigit⟩
  unfold signed
  split
  · exact List.mem_cons_of_mem _ hc
  · exact hc

end Layout

namespace FieldValue

theorem exists_not_blank_floatText (x : Float) : ∃ c ∈ floatText x, isBlank c = false := by
  unfold floatText
  split
  · exact ⟨'N', by decide, by decide⟩
  · split
    · exact ⟨'i', by decide, by decide⟩
    · exact ⟨'i', by decide, by decide⟩
  · next negative m _ =>
    obtain ⟨c, hc, hdigit⟩ := numberLayout.exists_isDigit_signed negative m
    exact ⟨c, hc, isBlank_of_isDigit hdigit⟩

/-- The value is a text or stands for one; it is neither absent nor a date. -/
inductive IsTextual : FieldValue → Prop where
  | boolean (b : Bool) : IsTextual (.boolean b)
  | integer (n : Int64) : IsTextual (.integer n)
  | float (x : Float) : IsTextual (.float x)
  | text (s : String) : IsTextual (.text s)

end FieldValue

/-! ### Values and their texts -/

section Lexical
variable {value : FieldValue} {s : String}

theorem evaluateRequired_text {c : Char} (hc : c ∈ s.toList) (hblank : isBlank c = false) :
    evaluateRequired (.text s) = .passed := by
  refine if_neg fun hall => ?_
  rw [List.all_eq_true.mp hall c hc] at hblank
  cases hblank

theorem evaluateRequired_lexical (htextual : value.IsTextual) (h : value.lexical? = some s) :
    evaluateRequired value = evaluateRequired (.text s) := by
  cases htextual with
  | boolean b =>
    cases h
    cases b <;> decide
  | integer n =>
    cases h
    obtain ⟨c, hc, hdigit⟩ := Numeral.exists_isDigit_integer n.toInt
    rw [← String.toList_ofList (l := Numeral.integer n.toInt)] at hc
    exact (evaluateRequired_text hc (isBlank_of_isDigit hdigit)).symm
  | float x =>
    cases h
    obtain ⟨c, hc, hblank⟩ := FieldValue.exists_not_blank_floatText x
    rw [← String.toList_ofList (l := FieldValue.floatText x)] at hc
    exact (evaluateRequired_text hc hblank).symm
  | text t =>
    cases h
    rfl

theorem evaluateInteger_lexical (h : value.lexical? = some s) :
    evaluateInteger value = evaluateInteger (.text s) := by
  have htext : (FieldValue.text s).lexical? = some s := rfl
  unfold evaluateInteger
  rw [h, htext]

namespace DateFormat
variable {f : DateFormat} {year : Int} {p : Period}

/-- A text without a digit names no period in any format. -/
theorem readPeriod_ne_ok {text : List Char} (h : text.any Char.isDigit = false) :
    f.readPeriod text year ≠ .ok p := by
  intro hread
  obtain ⟨parts, hparts⟩ := exists_readComponents_of_readPeriod hread
  obtain ⟨hfits, rfl⟩ := readComponents_eq_ok_iff.mp hparts
  obtain ⟨c, hc, hdigit⟩ := exists_isDigit_writeComponents hfits
  exact List.any_eq_false.mp h c hc hdigit

theorem periodOf_lexical (htextual : value.IsTextual) (h : value.lexical? = some s) :
    f.periodOf value year = .ok p ↔ f.periodOf (.text s) year = .ok p := by
  cases htextual with
  | boolean b =>
    cases h
    have hnoDigit : (if b then "true" else "false").toList.any Char.isDigit = false := by
      cases b <;> decide
    exact iff_of_false nofun (readPeriod_ne_ok hnoDigit)
  | integer n =>
    cases h
    simp only [periodOf, String.toList_ofList]
  | float x =>
    cases h
    simp only [periodOf, String.toList_ofList]
  | text t =>
    cases h
    exact Iff.rfl

end DateFormat

theorem FieldValue.exists_lexical (htextual : value.IsTextual) : ∃ s, value.lexical? = some s := by
  cases htextual <;> exact ⟨_, rfl⟩

theorem FieldValue.isNull_of_isTextual (htextual : value.IsTextual) : value.isNull = false := by
  cases htextual <;> rfl

end Lexical

/-- Every rule evaluates a number, a boolean and a text to what it evaluates the text to in which it
    sees the value. -/
theorem RuleSpec.numbers_and_booleans_judged_as_texts (spec : RuleSpec) (context : EvaluationContext)
    {value : FieldValue} (htextual : value.IsTextual) :
    ∃ s, value.lexical? = some s ∧ spec.evaluate value context = spec.evaluate (.text s) context := by
  obtain ⟨s, hs⟩ := FieldValue.exists_lexical htextual
  have hnull := FieldValue.isNull_of_isTextual htextual
  have htext : (FieldValue.text s).isNull = false := rfl
  refine ⟨s, hs, ?_⟩
  cases spec with
  | required =>
    simp only [evaluate, hnull, htext]
    exact evaluateRequired_lexical htextual hs
  | integer =>
    simp only [evaluate, hnull, htext]
    exact evaluateInteger_lexical hs
  | date direction c =>
    refine evaluate_date_congr (hnull.trans htext.symm) ?_
    simp only [evaluate_date_eq_passed_iff, DateFormat.periodOf_lexical htextual hs]

/-- A year in an integer and in a floating point number lies before the next one, as its digits do; and
    what is not a number at all is no integer, and no blank text either. -/
theorem RuleSpec.year_judged_as_digits :
    ∃ c, parse "dateBefore:YYYY:2025:0:days" = .ok (.date .before c) ∧
      (date .before c).evaluate (.integer 2024) ⟨.first, 2000⟩ = .passed ∧
      (date .before c).evaluate (.float 2024) ⟨.first, 2000⟩ = .passed ∧
      (date .before c).evaluate (.boolean true) ⟨.first, 2000⟩ = .failed (.date .before "2025") ∧
      integer.evaluate (.float (0 / 0)) ⟨.first, 2000⟩ = .failed .notInteger ∧
      required.evaluate (.float (0 / 0)) ⟨.first, 2000⟩ = .passed := by
  let f : DateFormat := ⟨[.component .year], by decide, by decide, by decide⟩
  let c : DateComparison := ⟨f, .literal "2025".toList ⟨some 2025, none, none⟩, ⟨0, .days⟩⟩
  have hjudged : ∀ (spec : RuleSpec) (value : FieldValue) (text : String), value.IsTextual →
      value.lexical? = some text →
      spec.evaluate value ⟨.first, 2000⟩ = spec.evaluate (.text text) ⟨.first, 2000⟩ := by
    intro spec value text htextual htext
    obtain ⟨s, hs, heq⟩ := numbers_and_booleans_judged_as_texts spec ⟨.first, 2000⟩ htextual
    rw [heq, Option.some.inj (hs.symm.trans htext)]
  refine ⟨c, by decide +kernel, ?_, ?_, ?_, ?_, ?_⟩
  · rw [hjudged _ _ "2024" (.integer 2024) (by decide +kernel)]
    decide +kernel
  · rw [hjudged _ _ "2024" (.float 2024) (by decide +kernel)]
    decide +kernel
  · rw [hjudged _ _ "true" (.boolean true) rfl]
    decide +kernel
  · rw [hjudged _ _ "NaN" (.float (0 / 0)) (by decide +kernel)]
    decide +kernel
  · rw [hjudged _ _ "NaN" (.float (0 / 0)) (by decide +kernel)]
    decide +kernel

end Fieldwise
