import Fieldwise.Proofs.Evaluation.Monotone

/-!
Days from the current date. A rule that compares whole dates with the current date, shifted by days,
compares numbers: it passes exactly when the number of the day is less, or greater, than that of the
current date plus the amount, and the sum is the number of a day that can be represented. The numbers
are those of any count of days that goes on by one from day to day.
-/

namespace Fieldwise

namespace DateFormat
variable {f : DateFormat} {d : Date}

theorem granularity_eq_day (h : f.has .day = true) : f.granularity = .day := by simp [granularity, h]

/-- The value is the date, or the text that writes it in the format with a year of four digits. -/
inductive Shows (f : DateFormat) (d : Date) : FieldValue → Prop where
  | typed : Shows f d (.date d)
  | written (h : 0 ≤ d.year ∧ d.year ≤ 9999) : Shows f d (.text (String.ofList (f.writeDate d)))

/-- Typed or written, the whole date is seen in the value. -/
theorem periodOf_of_shows (hday : f.has .day = true) (hyear : f.has .year = true)
    {value : FieldValue} (h : f.Shows d value) (year : Int) :
    f.periodOf value year = .ok (.containing d .day) := by
  rw [← granularity_eq_day hday]
  cases h with
  | typed => exact project_of_has_year hyear d year
  | written hwrites =>
    rw [periodOf, String.toList_ofList]
    exact readPeriod_writeDate_of_has_year hyear fun _ => hwrites

end DateFormat

/-- The target is the day with the number of the current date plus the amount. -/
theorem DateComparison.target_days_from_now_iff {f : DateFormat} (hday : f.has .day = true)
    (hyear : f.has .year = true) {today : Date} {n year : Int} {target : Period} :
    (DateComparison.mk f .now ⟨n, .days⟩).target today year = .ok target ↔
      ∃ e : Date, e.dayNumber = today.dayNumber + n ∧ target = .containing e .day := by
  have hshifted : ∀ e, (DateComparison.mk f .now ⟨n, .days⟩).shiftedNow? today = some e ↔
      e.dayNumber = today.dayNumber + n := by
    intro e
    rw [shiftedNow?, DateFormat.granularity_eq_day hday]
    exact Date.addDays?_eq_some_iff
  rw [target_now_eq_ok_iff hyear rfl, DateFormat.granularity_eq_day hday]
  exact exists_congr fun e => and_congr (hshifted e) Iff.rfl

theorem RuleSpec.evaluate_days_from_now_iff {f : DateFormat} (hday : f.has .day = true)
    (hyear : f.has .year = true) {d : Date} {value : FieldValue} (hvalue : f.Shows d value)
    {direction : Direction} {today : Date} {n year : Int} :
    (date direction ⟨f, .now, ⟨n, .days⟩⟩).evaluate value ⟨today, year⟩ = .passed ↔
      ∃ e : Date, e.dayNumber = today.dayNumber + n ∧ direction.Separates d e := by
  have hp := DateFormat.periodOf_of_shows hday hyear hvalue year
  rw [evaluate_date_eq_passed_iff]
  constructor
  · rintro ⟨target, p, htarget, hp', hsep⟩
    cases hp.symm.trans hp'
    obtain ⟨e, he, rfl⟩ := (DateComparison.target_days_from_now_iff hday hyear).mp htarget
    exact ⟨e, he, hsep⟩
  · rintro ⟨e, he, hsep⟩
    exact ⟨_, _, (DateComparison.target_days_from_now_iff hday hyear).mpr ⟨e, he, rfl⟩, hp, hsep⟩

/-- A day with a number is to be found within the range, and nowhere else. -/
theorem Date.exists_dayNumber_and_iff {m : Int} {P : Date → Prop} {b : Prop}
    (h : ∀ e : Date, e.dayNumber = m → (P e ↔ b)) :
    (∃ e : Date, e.dayNumber = m ∧ P e) ↔
      (first.dayNumber ≤ m ∧ m ≤ last.dayNumber) ∧ b := by
  rw [← exists_dayNumber_eq_iff, ← exists_and_right]
  exact exists_congr fun e => and_congr_right (h e)

/-- A whole date, typed or written, lies before, or after, the day that is a number of days from the
    current date exactly when that day can be represented and has the greater, or the lesser, number
    of the two, in any count of days. -/
theorem days_from_now_compare_day_numbers {count : Date → Int} (hcount : Date.IsDayCount count)
    {f : DateFormat} (hday : f.has .day = true) (hyear : f.has .year = true) {d : Date}
    {value : FieldValue} (hvalue : f.Shows d value) (today : Date) (n year : Int) :
    ((RuleSpec.date .before ⟨f, .now, ⟨n, .days⟩⟩).evaluate value ⟨today, year⟩ = .passed ↔
      (count .first ≤ count today + n ∧ count today + n ≤ count .last) ∧
        count d < count today + n) ∧
    ((RuleSpec.date .after ⟨f, .now, ⟨n, .days⟩⟩).evaluate value ⟨today, year⟩ = .passed ↔
      (count .first ≤ count today + n ∧ count today + n ≤ count .last) ∧
        count today + n < count d) := by
  obtain rfl := Date.isDayCount_iff.mp hcount
  rw [RuleSpec.evaluate_days_from_now_iff hday hyear hvalue,
    RuleSpec.evaluate_days_from_now_iff hday hyear hvalue]
  constructor
  · refine Date.exists_dayNumber_and_iff fun e he => ?_
    rw [← he]
    exact Date.dayNumber_lt_iff.symm
  · refine Date.exists_dayNumber_and_iff fun e he => ?_
    rw [← he]
    exact Date.dayNumber_lt_iff.symm

/-- Over a leap day, typed and written; and on the last day there is no tomorrow to lie before. -/
theorem days_over_leap_day :
    ∃ f : DateFormat, f.pattern = "DD/MM/YYYY".toList ∧
      f.writeDate ⟨2025, 2, 27, by decide⟩ = "27/02/2025".toList ∧
      (RuleSpec.date .before ⟨f, .now, ⟨366, .days⟩⟩).evaluate
        (.text (String.ofList (f.writeDate ⟨2025, 2, 27, by decide⟩)))
        ⟨⟨2024, 2, 28, by decide⟩, 2001⟩ = .passed ∧
      (RuleSpec.date .after ⟨f, .now, ⟨-366, .days⟩⟩).evaluate (.date ⟨2024, 2, 29, by decide⟩)
        ⟨⟨2025, 2, 28, by decide⟩, 2001⟩ = .passed ∧
      (RuleSpec.date .before ⟨f, .now, ⟨1, .days⟩⟩).evaluate (.date .first) ⟨.last, 2001⟩ ≠
        .passed := by
  let f : DateFormat := ⟨[.component .day, .literal ['/'], .component .month, .literal ['/'],
    .component .year], by decide, by decide, by decide⟩
  have hcompare := fun {d value} => @days_from_now_compare_day_numbers _ Date.isDayCount_dayNumber f
    (by decide) (by decide) d value
  refine ⟨f, by decide, by decide +kernel, ?_, ?_, ?_⟩
  · exact (hcompare (.written (by decide)) _ _ _).1.mpr (by decide +kernel)
  · exact (hcompare .typed _ _ _).2.mpr (by decide +kernel)
  · intro hpassed
    exact absurd ((hcompare .typed _ _ _).1.mp hpassed) (by decide +kernel)

end Fieldwise
