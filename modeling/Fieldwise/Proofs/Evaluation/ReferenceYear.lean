import Fieldwise.Proofs.Calendar.Correspondence
import Fieldwise.Proofs.Evaluation.Independence

/-!
Reference years of one length. Where a format writes no year, values and anchors are put into the
reference year. In another year of the same length they are the same days, and a shifted target stays on
the same day of the year or on the same side of it. So a rule cannot tell the two years apart, as long as
its target can be represented in both.
-/

namespace Fieldwise

open Date

section SameLength
variable {year year' : Int} {f : DateFormat}

/-! ### Components without a year -/

theorem PartialDate.isDateIn_iff_of_sameLength (hyears : SameLength year year') {p : PartialDate}
    (hp : p.year = none) : p.IsDateIn year ↔ p.IsDateIn year' := by
  rw [isDateIn_iff_of_year_eq_none hp, isDateIn_iff_of_year_eq_none hp]
  exact hyears.isCalendarDate_iff _ _

theorem PartialDate.exists_containing_sameDay (hyears : SameLength year year') {p : PartialDate}
    (hp : p.year = none) {g : Granularity} {q : Period}
    (h : (p.toDate year).map (fun d => Period.containing d g) = .ok q) :
    ∃ q', (p.toDate year').map (fun d => Period.containing d g) = .ok q' ∧
      SameDay year year' q.start q'.start := by
  have hdate := isDateIn_iff_of_sameLength hyears hp
  by_cases hin : p.IsDateIn year
  · have hsame : SameDay year year' (p.dateIn year hin) (p.dateIn year' (hdate.mp hin)) :=
      ⟨by simp [dateIn, hp], by simp [dateIn, hp], rfl, rfl⟩
    rw [toDate_of_isDateIn hin] at h
    cases h
    rw [toDate_of_isDateIn (hdate.mp hin)]
    exact ⟨_, rfl, hsame.truncate g⟩
  · rw [toDate_of_not_isDateIn hin] at h
    cases h

namespace DateFormat

theorem year_eq_none_of_fits (hformat : f.has .year = false) {p : PartialDate} (h : f.Fits p) :
    p.year = none := by
  rw [← Option.isNone_iff_eq_none, ← Option.isSome_eq_false_iff, (fits_iff.mp h).1.1, hformat]

/-- The leap day is moved in both years or in neither. -/
theorem moveLeapDay_congr (hyears : SameLength year year') (p : PartialDate) :
    moveLeapDay year p = moveLeapDay year' p := by
  unfold moveLeapDay
  simp only [Date.ofParts?_eq_none_iff, hyears.isCalendarDate_iff]

theorem year_moveLeapDay (p : PartialDate) : (moveLeapDay year p).year = p.year := by
  unfold moveLeapDay
  split <;> rfl

theorem year_moveLeapDay_componentsOf (hformat : f.has .year = false) (d : Date) (year : Int) :
    (moveLeapDay year (f.componentsOf d)).year = none := by
  rw [year_moveLeapDay]
  exact componentsOf_year_eq_none_iff.mpr hformat

/-! ### Values and anchors -/

/-- What a value names in the one year, it names in the other. -/
theorem exists_periodOf_sameDay (hyears : SameLength year year') (hformat : f.has .year = false)
    {value : FieldValue} {q : Period} (h : f.periodOf value year = .ok q) :
    ∃ q', f.periodOf value year' = .ok q' ∧ SameDay year year' q.start q'.start := by
  rcases periodOf_cases value with ⟨d, hd⟩ | ⟨text, htext⟩ | ⟨e, he⟩
  · have hmoved := year_moveLeapDay_componentsOf hformat d year
    rw [hd, project_eq] at h ⊢
    rw [← moveLeapDay_congr hyears]
    exact PartialDate.exists_containing_sameDay hyears hmoved h
  · rw [htext] at h ⊢
    obtain ⟨p, hp⟩ := exists_readComponents_of_readPeriod h
    have hnone := year_eq_none_of_fits hformat (readComponents_eq_ok_iff.mp hp).1
    rw [readPeriod_of_readComponents hp] at h ⊢
    exact PartialDate.exists_containing_sameDay hyears hnone h
  · cases (he f year).symm.trans h

end DateFormat

namespace Anchor
variable {a : Anchor}

theorem exists_period_sameDay (hyears : SameLength year year') (hformat : f.has .year = false)
    (ha : a.FitsIn f) {today : Date} {q : Period} (h : a.period f today year = .ok q) :
    ∃ q', a.period f today year' = .ok q' ∧ SameDay year year' q.start q'.start := by
  cases a with
  | now => exact @DateFormat.exists_periodOf_sameDay _ _ _ hyears hformat (.date today) _ h
  | literal text p =>
    exact PartialDate.exists_containing_sameDay hyears (DateFormat.year_eq_none_of_fits hformat ha) h

theorem holdsIn_iff_of_sameLength (hyears : SameLength year year') (hformat : f.has .year = false)
    (ha : a.FitsIn f) : a.HoldsIn year ↔ a.HoldsIn year' := by
  cases a with
  | now => exact Iff.rfl
  | literal text p =>
    exact PartialDate.isDateIn_iff_of_sameLength hyears (DateFormat.year_eq_none_of_fits hformat ha)

end Anchor

end SameLength

/-! ### Rules -/

namespace DateComparison
variable {c : DateComparison} {today : Date} {year year' : Int}

/-- The shifted anchor, where there is an anchor to shift, can be represented. -/
def StaysInRange (c : DateComparison) (today : Date) (year : Int) : Prop :=
  match c.anchor.period c.format today year with
  | .ok base => (c.offset.shift? base.start).isSome = true
  | .error _ => True

instance (c : DateComparison) (today : Date) (year : Int) :
    Decidable (c.StaysInRange today year) := by
  unfold StaysInRange
  split <;> infer_instance

theorem exists_target_corresponds (hyears : SameLength year year')
    (hformat : c.format.has .year = false) (hanchor : c.anchor.FitsIn c.format)
    (hstays : c.StaysInRange today year') {target : Period} (h : c.target today year = .ok target) :
    ∃ target', c.target today year' = .ok target' ∧
      Corresponds year year' target.start target'.start := by
  obtain ⟨base, d, hbase, hd, rfl⟩ := target_eq_ok_iff.mp h
  obtain ⟨base', hbase', hsame⟩ := Anchor.exists_period_sameDay hyears hformat hanchor hbase
  unfold StaysInRange at hstays
  rw [hbase'] at hstays
  obtain ⟨d', hd'⟩ := Option.isSome_iff_exists.mp hstays
  have hshifted : Corresponds year year' d d' := .shift? hyears.isLeapYear_eq hsame hd hd'
  exact ⟨_, target_eq_ok_iff.mpr ⟨base', d', hbase', hd', rfl⟩,
    hshifted.truncate c.format.granularity⟩

/-- What passes in the one year passes in the other. -/
theorem passed_of_sameLength (hyears : SameLength year year') (hformat : c.format.has .year = false)
    (hanchor : c.anchor.FitsIn c.format) (hstays : c.StaysInRange today year')
    {direction : Direction} {value : FieldValue}
    (h : (RuleSpec.date direction c).evaluate value ⟨today, year⟩ = .passed) :
    (RuleSpec.date direction c).evaluate value ⟨today, year'⟩ = .passed := by
  obtain ⟨target, p, htarget, hp, hsep⟩ := RuleSpec.evaluate_date_eq_passed_iff.mp h
  obtain ⟨target', htarget', hcorresponds⟩ :=
    exists_target_corresponds hyears hformat hanchor hstays htarget
  obtain ⟨p', hp', hsame⟩ := DateFormat.exists_periodOf_sameDay hyears hformat hp
  obtain ⟨hbefore, hafter⟩ := hcorresponds.lt_iff_lt hsame
  refine RuleSpec.evaluate_date_eq_passed_iff.mpr ⟨target', p', htarget', hp', ?_⟩
  cases direction with
  | before => exact hbefore.mp hsep
  | after => exact hafter.mp hsep

/-- Where a rule writes no year, two reference years that are both leap years or both common years give
    the same check of the anchor, and the same evaluation of every value on every day on which the
    shifted anchor can be represented in both, in whatever year it then lies. -/
theorem evaluated_alike_in_years_of_one_length {c : DateComparison}
    (hformat : c.format.has .year = false) (hanchor : c.anchor.FitsIn c.format) {year year' : Int}
    (hy : YearInRange year) (hy' : YearInRange year') (hleap : isLeapYear year = isLeapYear year') :
    c.checkAnchor year = c.checkAnchor year' ∧
    ∀ today, c.StaysInRange today year → c.StaysInRange today year' → ∀ direction value,
      (RuleSpec.date direction c).evaluate value ⟨today, year⟩ =
        (RuleSpec.date direction c).evaluate value ⟨today, year'⟩ := by
  have hyears : SameLength year year' := ⟨hy, hy', hleap⟩
  constructor
  · have hholds := Anchor.holdsIn_iff_of_sameLength hyears hformat hanchor
    simp only [checkAnchor_eq, hholds]
  · intro today hstays hstays' direction value
    exact RuleSpec.evaluate_date_congr rfl
      ⟨passed_of_sameLength hyears hformat hanchor hstays',
        passed_of_sameLength hyears.symm hformat hanchor hstays⟩

/-- Five years and a day after Christmas, counted in days, there is one leap day fewer where the century
    is a common year: the targets lie a day apart, and beyond the end of both reference years. On the
    current date, a leap day, half a year back is the same day of both. -/
theorem christmas_in_two_leap_years :
    ∃ c c', RuleSpec.parse "dateBefore:DD/MM:25/12:1827:days" = .ok (.date .before c) ∧
      RuleSpec.parse "dateAfter:MM-DD:now:-6:months" = .ok (.date .after c') ∧
      c.target .first 1996 = .ok (.containing ⟨2001, 12, 26, by decide⟩ .day) ∧
      c.target .first 2096 = .ok (.containing ⟨2101, 12, 27, by decide⟩ .day) ∧
      (RuleSpec.date .before c).evaluate (.text "31/12") ⟨.first, 2096⟩ = .passed ∧
      (RuleSpec.date .after c').evaluate (.text "02-29") ⟨⟨2024, 8, 29, by decide⟩, 2096⟩ =
        (RuleSpec.date .after c').evaluate (.text "02-29") ⟨⟨2024, 8, 29, by decide⟩, 1996⟩ := by
  let f : DateFormat := ⟨[.component .day, .literal ['/'], .component .month],
    by decide, by decide, by decide⟩
  let f' : DateFormat := ⟨[.component .month, .literal ['-'], .component .day],
    by decide, by decide, by decide⟩
  let c : DateComparison := ⟨f, .literal "25/12".toList ⟨none, some 12, some 25⟩, ⟨1827, .days⟩⟩
  let c' : DateComparison := ⟨f', .now, ⟨-6, .months⟩⟩
  have hparse : RuleSpec.parse "dateBefore:DD/MM:25/12:1827:days" = .ok (.date .before c) := by
    decide +kernel
  have hparse' : RuleSpec.parse "dateAfter:MM-DD:now:-6:months" = .ok (.date .after c') := by
    decide +kernel
  have hyears : YearInRange 2096 ∧ YearInRange 1996 ∧ isLeapYear 2096 = isLeapYear 1996 := by decide
  obtain ⟨hy, hy', hleap⟩ := hyears
  obtain ⟨-, halike⟩ := @evaluated_alike_in_years_of_one_length c (by decide)
    (RuleSpec.anchor_fitsIn_of_parse hparse) 2096 1996 hy hy' hleap
  obtain ⟨-, halike'⟩ := @evaluated_alike_in_years_of_one_length c' (by decide)
    (RuleSpec.anchor_fitsIn_of_parse hparse') 2096 1996 hy hy' hleap
  refine ⟨c, c', hparse, hparse', by decide +kernel, by decide +kernel, ?_, ?_⟩
  · rw [halike .first (by decide) (by decide)]
    decide +kernel
  · exact halike' _ (by decide) (by decide) _ _

end DateComparison

end Fieldwise
