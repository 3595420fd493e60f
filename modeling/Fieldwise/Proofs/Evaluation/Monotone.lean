import Fieldwise.Proofs.Evaluation.DateRule

/-!
Date rules along the calendar. A rule whose format writes the year accepts an initial or a final
segment of the calendar, and when it compares with the current date, that segment only moves forward
as time passes.
-/

namespace Fieldwise

namespace DateComparison
variable {c : DateComparison} {today : Date} {year : Int} {target : Period}

/-- The current date at the precision of the format, shifted, if that date can be represented. -/
def shiftedNow? (c : DateComparison) (today : Date) : Option Date :=
  c.offset.shift? (c.format.granularity.truncate today)

theorem target_now_eq_ok_iff (hyear : c.format.has .year = true) (hnow : c.anchor = .now) :
    c.target today year = .ok target ↔
      ∃ d, c.shiftedNow? today = some d ∧ target = .containing d c.format.granularity := by
  have hbase : c.anchor.period c.format today year =
      .ok (.containing today c.format.granularity) := by
    rw [hnow]
    exact DateFormat.project_of_has_year hyear today year
  rw [target_eq_ok_iff]
  constructor
  · rintro ⟨base, d, hbase', hd, htarget⟩
    cases hbase.symm.trans hbase'
    exact ⟨d, hd, htarget⟩
  · rintro ⟨d, hd, htarget⟩
    exact ⟨_, d, hbase, hd, htarget⟩

theorem exists_target_now (hyear : c.format.has .year = true) (hnow : c.anchor = .now) (year : Int)
    (h : (c.shiftedNow? today).isSome = true) : ∃ target, c.target today year = .ok target := by
  obtain ⟨d, hd⟩ := Option.isSome_iff_exists.mp h
  exact ⟨_, (target_now_eq_ok_iff hyear hnow).mpr ⟨d, hd, rfl⟩⟩

/-- The target of a later day is no earlier one: what the format leaves out, the shift and the cut to
    the length of a month all keep the order. -/
theorem target_now_mono (hyear : c.format.has .year = true) (hnow : c.anchor = .now) {t₁ t₂ : Date}
    (hle : t₁ ≤ t₂) {target₁ target₂ : Period} (h₁ : c.target t₁ year = .ok target₁)
    (h₂ : c.target t₂ year = .ok target₂) : target₁.start ≤ target₂.start := by
  obtain ⟨d₁, hd₁, rfl⟩ := (target_now_eq_ok_iff hyear hnow).mp h₁
  obtain ⟨d₂, hd₂, rfl⟩ := (target_now_eq_ok_iff hyear hnow).mp h₂
  have hshifted : d₁ ≤ d₂ := Offset.shift?_mono (c.format.granularity.truncate_mono hle) hd₁ hd₂
  exact c.format.granularity.truncate_mono hshifted

end DateComparison

/-- In a format with a year, a date passes if it lies on the asked side of the target, both at the
    precision of the format. -/
theorem RuleSpec.evaluate_typed_date_iff {c : DateComparison} (hyear : c.format.has .year = true)
    {direction : Direction} {d : Date} {context : EvaluationContext} :
    (date direction c).evaluate (.date d) context = .passed ↔
      ∃ target, c.target context.today context.referenceYear = .ok target ∧
        direction.Separates (c.format.granularity.truncate d) target.start := by
  have hd : c.format.periodOf (.date d) context.referenceYear =
      .ok (.containing d c.format.granularity) := DateFormat.project_of_has_year hyear d _
  simp [evaluate_date_eq_passed_iff, hd, Period.containing]

/-- A rule whose format writes the year accepts with a date every earlier one, or every later one; and
    when it compares with the current date, and the shifted dates can be represented, then what it
    accepts before a date it accepts on every later day, and what after a date on every earlier day. -/
theorem date_rules_monotone {c : DateComparison} (hyear : c.format.has .year = true) (year : Int) :
    (∀ today d₁ d₂ : Date, d₁ ≤ d₂ →
      ((RuleSpec.date .before c).evaluate (.date d₂) ⟨today, year⟩ = .passed →
        (RuleSpec.date .before c).evaluate (.date d₁) ⟨today, year⟩ = .passed) ∧
      ((RuleSpec.date .after c).evaluate (.date d₁) ⟨today, year⟩ = .passed →
        (RuleSpec.date .after c).evaluate (.date d₂) ⟨today, year⟩ = .passed)) ∧
    (c.anchor = .now → ∀ t₁ t₂ : Date, t₁ ≤ t₂ →
      (c.shiftedNow? t₁).isSome = true → (c.shiftedNow? t₂).isSome = true →
      ∀ value : FieldValue,
        ((RuleSpec.date .before c).evaluate value ⟨t₁, year⟩ = .passed →
          (RuleSpec.date .before c).evaluate value ⟨t₂, year⟩ = .passed) ∧
        ((RuleSpec.date .after c).evaluate value ⟨t₂, year⟩ = .passed →
          (RuleSpec.date .after c).evaluate value ⟨t₁, year⟩ = .passed)) := by
  constructor
  · intro today d₁ d₂ hle
    have htruncated := c.format.granularity.truncate_mono hle
    simp only [RuleSpec.evaluate_typed_date_iff hyear]
    constructor
    · rintro ⟨target, htarget, hlt⟩
      exact ⟨target, htarget, lt_of_le_of_lt htruncated hlt⟩
    · rintro ⟨target, htarget, hlt⟩
      exact ⟨target, htarget, lt_of_lt_of_le hlt htruncated⟩
  · intro hnow t₁ t₂ hle hrange₁ hrange₂ value
    obtain ⟨target₁, h₁⟩ := DateComparison.exists_target_now hyear hnow year hrange₁
    obtain ⟨target₂, h₂⟩ := DateComparison.exists_target_now hyear hnow year hrange₂
    have htargets := DateComparison.target_now_mono hyear hnow hle h₁ h₂
    simp only [RuleSpec.evaluate_date_eq_passed_iff]
    constructor
    · rintro ⟨target, p, htarget, hp, hlt⟩
      cases h₁.symm.trans htarget
      exact ⟨target₂, p, h₂, hp, lt_of_lt_of_le hlt htargets⟩
    · rintro ⟨target, p, htarget, hp, hlt⟩
      cases h₂.symm.trans htarget
      exact ⟨target₁, p, h₁, hp, lt_of_le_of_lt htargets hlt⟩

/-- The last two days of January 2024, a month later, are one day. What lies before it lies before it on
    the second day too, what lies after it did so on the first day, and so do days further off. -/
theorem end_of_february_is_kept :
    ∃ c, c.format.pattern = "DD/MM/YYYY".toList ∧
      c.shiftedNow? ⟨2024, 1, 30, by decide⟩ = c.shiftedNow? ⟨2024, 1, 31, by decide⟩ ∧
      (RuleSpec.date .before c).evaluate (.text "28/02/2024") ⟨⟨2024, 1, 31, by decide⟩, 2000⟩ =
        .passed ∧
      (RuleSpec.date .after c).evaluate (.text "01/03/2024") ⟨⟨2024, 1, 30, by decide⟩, 2000⟩ =
        .passed ∧
      (RuleSpec.date .before c).evaluate (.date .first) ⟨⟨2024, 1, 31, by decide⟩, 2000⟩ = .passed ∧
      (RuleSpec.date .after c).evaluate (.date .last) ⟨⟨2024, 1, 31, by decide⟩, 2000⟩ = .passed := by
  let f : DateFormat := ⟨[.component .day, .literal ['/'], .component .month, .literal ['/'],
    .component .year], by decide, by decide, by decide⟩
  let c : DateComparison := ⟨f, .now, ⟨1, .months⟩⟩
  let t₁ : Date := ⟨2024, 1, 30, by decide⟩
  let t₂ : Date := ⟨2024, 1, 31, by decide⟩
  have hyear : c.format.has .year = true := by decide
  obtain ⟨hdates, hdays⟩ := date_rules_monotone hyear 2000
  have hvalues := hdays rfl t₁ t₂ (by decide) (by decide) (by decide)
  have hsegment := hdates t₂ .first ⟨2024, 2, 28, by decide⟩ (by decide)
  have hsegment' := hdates t₂ ⟨2024, 3, 1, by decide⟩ .last (by decide)
  exact ⟨c, by decide, by decide, (hvalues _).1 (by decide +kernel), (hvalues _).2 (by decide +kernel),
    hsegment.1 (by decide +kernel), hsegment'.2 (by decide +kernel)⟩

end Fieldwise
