import Fieldwise.Proofs.Evaluation.Lexical
import Fieldwise.Proofs.Validation.SingleRule

/-!
Blank texts and missing values. A blank text is a value, and a wrong one for every rule: it has no digit,
so it is no integer and no date in any format, even in one whose literals are blank. A missing value is
passed over, except by the rule that asks for a value.
-/

namespace Fieldwise

variable {s : String} {text : List Char}

theorem any_isDigit_of_blank (h : ∀ c ∈ text, isBlank c = true) :
    text.any Char.isDigit = false := by
  rw [List.any_eq_false]
  intro c hc hdigit
  exact absurd (h c hc) (by simp [isBlank_of_isDigit hdigit])

theorem exists_isDigit_of_isIntegerText (h : isIntegerText text = true) :
    ∃ c ∈ text, c.isDigit = true := by
  -- The digits are all of the text, or all but the minus sign.
  obtain ⟨digits, hsub, hne, hall⟩ : ∃ digits : List Char, digits ⊆ text ∧ digits ≠ [] ∧
      ∀ c ∈ digits, c.isDigit = true := by
    unfold isIntegerText at h
    split at h
    · next rest => exact ⟨rest, List.subset_cons_self _ _, by simpa using h⟩
    · exact ⟨text, List.Subset.refl _, by simpa using h⟩
  obtain ⟨c, hc⟩ := List.exists_mem_of_ne_nil _ hne
  exact ⟨c, hsub hc, hall c hc⟩

theorem evaluateInteger_of_no_digit (h : s.toList.any Char.isDigit = false) :
    evaluateInteger (.text s) = .failed .notInteger := by
  refine if_neg fun hinteger => ?_
  obtain ⟨c, hc, hdigit⟩ := exists_isDigit_of_isIntegerText hinteger
  exact List.any_eq_false.mp h c hc hdigit

namespace RuleSpec
variable {direction : Direction} {c : DateComparison} {context : EvaluationContext}

theorem evaluate_date_of_no_digit (h : s.toList.any Char.isDigit = false) :
    (date direction c).evaluate (.text s) context = .failed (.date direction c.describe) := by
  refine (evaluate_date_eq_failed_iff rfl).mpr fun hpassed => ?_
  obtain ⟨-, p, -, hp, -⟩ := evaluate_date_eq_passed_iff.mp hpassed
  exact DateFormat.readPeriod_ne_ok h hp

theorem evaluate_null (spec : RuleSpec) (context : EvaluationContext) :
    spec.evaluate .null context = if spec = .required then .failed .missing else .skipped := by
  cases spec with
  | required => rfl
  | integer => rfl
  | date direction c =>
    rw [if_neg nofun]
    exact evaluate_date_of_isNull rfl

/-- Every rule fails a blank text, in the one way in which the rule is broken. A missing value is passed
    over by every rule but one, which fails it. -/
theorem blank_text_fails_every_rule (spec : RuleSpec) (context : EvaluationContext) :
    (∀ s : String, (∀ c ∈ s.toList, isBlank c = true) →
      spec.evaluate (.text s) context = .failed spec.failure) ∧
    spec.evaluate .null context = if spec = .required then .failed .missing else .skipped := by
  refine ⟨fun s hblank => ?_, spec.evaluate_null context⟩
  have hdigit := any_isDigit_of_blank hblank
  cases spec with
  | required => exact if_pos (List.all_eq_true.mpr hblank)
  | integer => exact evaluateInteger_of_no_digit hdigit
  | date direction c => exact evaluate_date_of_no_digit hdigit

/-- Blanks that begin as the pattern does, and as many as it has characters. -/
theorem blanks_are_no_year_between_blanks :
    ∃ c, parse "dateAfter:\t YYYY\u3000:now:-2:years" = .ok (.date .after c) ∧
      (date .after c).evaluate (.text "\t     \u3000") ⟨.first, 2000⟩ =
        .failed (.date .after "now minus 2 years") ∧
      (date .after c).evaluate (.text "") ⟨.first, 2000⟩ =
        .failed (.date .after "now minus 2 years") ∧
      (date .after c).evaluate .null ⟨.first, 2000⟩ = .skipped := by
  let f : DateFormat := ⟨[.literal ['\t', ' '], .component .year, .literal ['\u3000']],
    by decide, by decide, by decide⟩
  let c : DateComparison := ⟨f, .now, ⟨-2, .years⟩⟩
  obtain ⟨hblank, hnull⟩ := blank_text_fails_every_rule (.date .after c) ⟨.first, 2000⟩
  have hfailure : (date .after c).failure = .date .after "now minus 2 years" := by decide +kernel
  rw [hfailure] at hblank
  exact ⟨c, by decide +kernel, hblank _ (List.all_eq_true.mp (by decide +kernel)),
    hblank "" (List.forall_mem_nil _), hnull⟩

end RuleSpec

end Fieldwise
