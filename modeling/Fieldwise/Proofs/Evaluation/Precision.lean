import Fieldwise.Proofs.DateFormat.TypedDate
import Fieldwise.Proofs.Evaluation.Independence

/-!
The precision of a comparison. What a format does not write of a date is dropped before the date is
used, and in particular before a target is shifted. So dates that differ only in what the format does
not write are one date to every comparison in the format, as values and as the current date.
-/

namespace Fieldwise

namespace DateFormat
variable {f : DateFormat} {d d' : Date}

/-- The dates have the same components, as far as the format writes them. -/
structure Agree (f : DateFormat) (d d' : Date) : Prop where
  day : f.has .day = true → d.day = d'.day
  month : f.has .month = true → d.month = d'.month
  year : f.has .year = true → d.year = d'.year

theorem agree_iff : f.Agree d d' ↔ f.componentsOf d = f.componentsOf d' := by
  have hcomponent {α : Type} (b : Bool) (x y : α) :
      (if b = true then some x else none) = (if b = true then some y else none) ↔
        (b = true → x = y) := by
    cases b <;> simp
  simp only [componentsOf, PartialDate.mk.injEq, hcomponent]
  constructor
  · intro h
    exact ⟨h.year, h.month, h.day⟩
  · rintro ⟨hyear, hmonth, hday⟩
    exact ⟨hday, hmonth, hyear⟩

instance (f : DateFormat) (d d' : Date) : Decidable (f.Agree d d') :=
  decidable_of_iff _ agree_iff.symm

theorem Agree.project_eq (h : f.Agree d d') (year : Int) : f.project d year = f.project d' year := by
  rw [DateFormat.project_eq, DateFormat.project_eq, agree_iff.mp h]

end DateFormat

/-- The date of a value that is a date, with a time of day or without. -/
def FieldValue.typedDate? : FieldValue → Option Date
  | date d => some d
  | dateTime t => some t.date
  | _ => none

section TypedDate
variable {d : Date} {value : FieldValue}

theorem FieldValue.isNull_of_typedDate (h : value.typedDate? = some d) : value.isNull = false := by
  cases value with
  | null => cases h
  | _ => rfl

theorem DateFormat.periodOf_of_typedDate (h : value.typedDate? = some d) (f : DateFormat)
    (year : Int) : f.periodOf value year = f.project d year := by
  cases value with
  | date => cases h; rfl
  | dateTime => cases h; rfl
  | _ => cases h

end TypedDate

namespace DateComparison
variable {c : DateComparison} {d d' : Date}

/-- The shift starts from what the format tells of the current date. -/
theorem target_eq_of_agree (hnow : c.anchor = .now) (h : c.format.Agree d d') (year : Int) :
    c.target d year = c.target d' year := by
  have hperiod : c.anchor.period c.format d year = c.anchor.period c.format d' year := by
    rw [hnow]
    exact h.project_eq year
  simp only [target, hperiod]

/-- Dates that differ only in what the format of a comparison does not write are evaluated alike, as
    values of either type, and as the current date for any value and any shift. -/
theorem evaluated_at_format_precision (c : DateComparison) (direction : Direction) (year : Int)
    {d d' : Date} (h : c.format.Agree d d') :
    (∀ today value value', value.typedDate? = some d → value'.typedDate? = some d' →
      (RuleSpec.date direction c).evaluate value ⟨today, year⟩ =
        (RuleSpec.date direction c).evaluate value' ⟨today, year⟩) ∧
    (c.anchor = .now → ∀ value, (RuleSpec.date direction c).evaluate value ⟨d, year⟩ =
      (RuleSpec.date direction c).evaluate value ⟨d', year⟩) := by
  constructor
  · intro today value value' hvalue hvalue'
    rw [RuleSpec.evaluate_date, RuleSpec.evaluate_date]
    refine evaluate_congr ?_ (order_congr rfl ?_)
    · rw [FieldValue.isNull_of_typedDate hvalue, FieldValue.isNull_of_typedDate hvalue']
    · rw [DateFormat.periodOf_of_typedDate hvalue, DateFormat.periodOf_of_typedDate hvalue']
      exact h.project_eq year
  · intro hnow value
    rw [RuleSpec.evaluate_date, RuleSpec.evaluate_date]
    exact evaluate_congr rfl (order_congr (target_eq_of_agree hnow h year) rfl)

/-- In a format of month and year, a day is added to the first of the month. So February lies after the
    last of January and a day, and the last of January, late in the evening, is to a comparison what the
    first is. -/
theorem day_after_end_of_month :
    ∃ c, RuleSpec.parse "dateAfter:MM-YYYY:now:1:days" = .ok (.date .after c) ∧
      (RuleSpec.date .after c).evaluate (.text "02-2024") ⟨⟨2024, 1, 31, by decide⟩, 2000⟩ = .passed ∧
      (RuleSpec.date .after c).evaluate (.dateTime ⟨⟨2024, 1, 31, by decide⟩, 23, 59, 59, 0⟩)
          ⟨⟨2024, 1, 1, by decide⟩, 2000⟩ =
        (RuleSpec.date .after c).evaluate (.date ⟨2024, 1, 1, by decide⟩)
          ⟨⟨2024, 1, 1, by decide⟩, 2000⟩ := by
  let f : DateFormat := ⟨[.component .month, .literal ['-'], .component .year],
    by decide, by decide, by decide⟩
  let c : DateComparison := ⟨f, .now, ⟨1, .days⟩⟩
  have hagree : c.format.Agree ⟨2024, 1, 31, by decide⟩ ⟨2024, 1, 1, by decide⟩ := by decide
  obtain ⟨hvalue, htoday⟩ := evaluated_at_format_precision c .after 2000 hagree
  refine ⟨c, by decide +kernel, ?_, hvalue _ _ _ rfl rfl⟩
  rw [htoday rfl]
  decide +kernel

end DateComparison

end Fieldwise
