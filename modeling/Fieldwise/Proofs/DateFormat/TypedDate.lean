import Fieldwise.DateFormat.Value
import Fieldwise.Proofs.Calendar.Date
import Fieldwise.Proofs.Rule.Grammar

/-!
Typed dates and written dates. A date can be seen through a format directly, or written in the format
and read again. Both ways lead to the same period, and to the same targets of comparisons, except
for one date: the last of February of a leap year, in a format that writes day and month but no year,
when the reference year is a common one. The text is then no date, and the date is moved one day
back.
-/

namespace Fieldwise

/-- The last but one day of February of a leap year, the last one of a common year. -/
def Date.february28 (year : Int) (hy : YearInRange year) : Date :=
  ⟨year, 2, 28, hy, by decide, by decide, le_monthLength (by decide) (by decide)⟩

namespace DateFormat

variable {f : DateFormat} {d : Date} {year : Int}

/-- A date in a format: day and month with two digits, the year with four, and the literals of the
    pattern between them. -/
def writeDate (f : DateFormat) (d : Date) : List Char :=
  f.writeComponents ⟨some d.year, some d.month, some d.day⟩

/-- The one date that a format does not keep: the last of February of a leap year, where the format
    writes no year and the reference year has no such day. -/
def LosesLeapDay (f : DateFormat) (d : Date) (year : Int) : Prop :=
  (f.has .day = true ∧ f.has .month = true ∧ f.has .year = false) ∧
    (d.month = 2 ∧ d.day = 29) ∧ isLeapYear year = false

instance (f : DateFormat) (d : Date) (year : Int) : Decidable (f.LosesLeapDay d year) :=
  inferInstanceAs (Decidable (_ ∧ _))

/-- The year of the date can be written in the format. -/
def WritesYearOf (f : DateFormat) (d : Date) : Prop :=
  f.has .year = true → 0 ≤ d.year ∧ d.year ≤ 9999

theorem has_iff {c : Component} : f.has c = true ↔ c ∈ f.components := decide_eq_true_iff

/-- A day is written only together with a month. -/
theorem has_month_of_has_day (h : f.has .day = true) : f.has .month = true :=
  has_iff.mpr (f.month_mem_of_day_mem (has_iff.mp h))

theorem writeDate_eq (f : DateFormat) (d : Date) :
    f.writeDate d = f.writeComponents (f.componentsOf d) := by
  refine List.flatMap_congr fun token htoken => ?_
  cases token with
  | literal l => rfl
  | component c =>
    have hc : f.has c = true := has_iff.mpr (mem_components_iff.mpr htoken)
    cases c <;> simp [FormatToken.write, componentsOf, hc]

theorem fits_componentsOf (h : f.WritesYearOf d) : f.Fits (f.componentsOf d) where
  known c hc := by
    have hc := has_iff.mpr hc
    cases c with
    | day =>
      have hle := d.day_le.trans (monthLength_le d.year d.month)
      refine ⟨d.day, by simp [componentsOf, PartialDate.get?, hc], ?_⟩
      exact hle.trans_lt (by decide)
    | month =>
      refine ⟨d.month, by simp [componentsOf, PartialDate.get?, hc], ?_⟩
      exact d.month_le.trans_lt (by decide)
    | year =>
      obtain ⟨hpos, hle⟩ := h hc
      have hnat : (d.year.toNat : Int) = d.year := Int.toNat_of_nonneg hpos
      refine ⟨d.year.toNat, ?_, ?_⟩
      · rw [hnat]
        simp [componentsOf, PartialDate.get?, hc]
      · have hlt : d.year.toNat ≤ 9999 := by omega
        exact hlt.trans_lt (by decide)
  unknown c hc := by
    have hc : f.has c = false := by
      rw [← Bool.not_eq_true, has_iff]
      exact hc
    cases c <;> simp [componentsOf, PartialDate.get?, hc]

theorem readComponents_writeDate (h : f.WritesYearOf d) :
    f.readComponents (f.writeDate d) = .ok (f.componentsOf d) := by
  rw [writeDate_eq]
  exact readComponents_writeComponents (fits_componentsOf h)

theorem project_eq (f : DateFormat) (d : Date) (year : Int) :
    f.project d year = ((moveLeapDay year (f.componentsOf d)).toDate year).map
      fun e => .containing e f.granularity := by
  rw [project]
  cases (moveLeapDay year (f.componentsOf d)).toDate year <;> rfl

/-! ### The day that is lost -/

theorem componentsOf_year_eq_none_iff : (f.componentsOf d).year = none ↔ f.has .year = false := by
  simp [componentsOf]

theorem componentsOf_month_eq_some_iff {n : Nat} :
    (f.componentsOf d).month = some n ↔ f.has .month = true ∧ d.month = n := by
  simp [componentsOf]

theorem componentsOf_day_eq_some_iff {n : Nat} :
    (f.componentsOf d).day = some n ↔ f.has .day = true ∧ d.day = n := by
  simp [componentsOf]

theorem not_isCalendarDate_of_losesLeapDay (h : f.LosesLeapDay d year) :
    ¬ IsCalendarDate year 2 29 := by
  intro hdate
  rw [isCalendarDate_leapDay_iff hdate.1, h.2.2] at hdate
  cases hdate

/-- A date is moved only if it is the one that the format does not keep. -/
theorem moveLeapDay_componentsOf (hy : YearInRange year) (h : ¬ f.LosesLeapDay d year) :
    moveLeapDay year (f.componentsOf d) = f.componentsOf d := by
  rw [moveLeapDay, if_neg]
  rintro ⟨hyear, hmonth, hday, hnone⟩
  obtain ⟨hasMonth, hm⟩ := componentsOf_month_eq_some_iff.mp hmonth
  obtain ⟨hasDay, hd⟩ := componentsOf_day_eq_some_iff.mp hday
  have hcommon : ¬ isLeapYear year = true := by
    rw [← isCalendarDate_leapDay_iff hy]
    exact Date.ofParts?_eq_none_iff.mp hnone
  have hasYear := componentsOf_year_eq_none_iff.mp hyear
  exact h ⟨⟨hasDay, hasMonth, hasYear⟩, ⟨hm, hd⟩, Bool.not_eq_true _ |>.mp hcommon⟩

/-- Any other date names a day of the calendar again, whatever the format leaves out. -/
theorem isDateIn_componentsOf (hy : YearInRange year) (h : ¬ f.LosesLeapDay d year) :
    (f.componentsOf d).IsDateIn year := by
  cases hasDay : f.has .day with
  | false =>
    have hyear : YearInRange ((f.componentsOf d).year.getD year) := by
      cases hasYear : f.has .year with
      | false => simpa [componentsOf, hasYear] using hy
      | true => simpa [componentsOf, hasYear] using d.valid.1
    have hmonth : 1 ≤ (f.componentsOf d).month.getD 1 ∧ (f.componentsOf d).month.getD 1 ≤ 12 := by
      cases hasMonth : f.has .month with
      | false => simp [componentsOf, hasMonth]
      | true => simpa [componentsOf, hasMonth] using d.valid.2.1
    have hday : (f.componentsOf d).day = none := by simp [componentsOf, hasDay]
    rw [PartialDate.IsDateIn, hday]
    exact isCalendarDate_first hyear hmonth
  | true =>
    have hasMonth := has_month_of_has_day hasDay
    cases hasYear : f.has .year with
    | true => simpa [PartialDate.IsDateIn, componentsOf, hasDay, hasMonth, hasYear] using d.valid
    | false =>
      suffices IsCalendarDate year d.month d.day by
        simpa [PartialDate.IsDateIn, componentsOf, hasDay, hasMonth, hasYear] using this
      by_cases hleap : d.month = 2 ∧ d.day = 29
      · rw [hleap.1, hleap.2, isCalendarDate_leapDay_iff hy, ← Bool.not_eq_false]
        exact fun hcommon => h ⟨⟨hasDay, hasMonth, hasYear⟩, hleap, hcommon⟩
      · exact isCalendarDate_of_ne_leapDay hy d hleap

theorem project_of_not_losesLeapDay (hy : YearInRange year) (h : ¬ f.LosesLeapDay d year) :
    f.project d year =
      .ok (.containing ((f.componentsOf d).dateIn year (isDateIn_componentsOf hy h)) f.granularity) := by
  rw [project, moveLeapDay_componentsOf hy h,
    PartialDate.toDate_of_isDateIn (isDateIn_componentsOf hy h)]
  rfl

theorem componentsOf_of_losesLeapDay (h : f.LosesLeapDay d year) :
    f.componentsOf d = ⟨none, some 2, some 29⟩ := by
  obtain ⟨⟨hasDay, hasMonth, hasYear⟩, ⟨hm, hd⟩, -⟩ := h
  simp [componentsOf, hasDay, hasMonth, hasYear, hm, hd]

theorem project_of_losesLeapDay (hy : YearInRange year) (h : f.LosesLeapDay d year) :
    f.project d year = .ok (.containing (.february28 year hy) .day) := by
  have hmove : moveLeapDay year (f.componentsOf d) = ⟨none, some 2, some 28⟩ := by
    rw [componentsOf_of_losesLeapDay h, moveLeapDay, if_pos]
    exact ⟨rfl, rfl, rfl, Date.ofParts?_eq_none_iff.mpr (not_isCalendarDate_of_losesLeapDay h)⟩
  have hin : PartialDate.IsDateIn ⟨none, some 2, some 28⟩ year := (Date.february28 year hy).valid
  have hg : f.granularity = .day := if_pos h.1.1
  rw [project, hmove, PartialDate.toDate_of_isDateIn hin, hg]
  rfl

/-! ### The date in the text -/

theorem readPeriod_of_readComponents {text : List Char} {p : PartialDate}
    (h : f.readComponents text = .ok p) (year : Int) :
    f.readPeriod text year = (p.toDate year).map fun e => .containing e f.granularity := by
  rw [readPeriod, h]
  rfl

theorem readPeriod_writeDate (hd : f.WritesYearOf d) :
    f.readPeriod (f.writeDate d) year =
      ((f.componentsOf d).toDate year).map fun e => .containing e f.granularity :=
  readPeriod_of_readComponents (readComponents_writeDate hd) year

/-! ### Formats with a year -/

/-- What a format with a year leaves out of a date is finer than the precision of the format. -/
theorem toDate_componentsOf_of_has_year (h : f.has .year = true) (d : Date) (year : Int) :
    ((f.componentsOf d).toDate year).map (fun e => Period.containing e f.granularity) =
      .ok (.containing d f.granularity) := by
  have hy : YearInRange d.year := d.valid.1
  cases hasDay : f.has .day with
  | true =>
    have hasMonth := has_month_of_has_day hasDay
    have hparts : f.componentsOf d = ⟨some d.year, some d.month, some d.day⟩ := by
      simp [componentsOf, h, hasDay, hasMonth]
    have hin : PartialDate.IsDateIn ⟨some d.year, some d.month, some d.day⟩ year := d.valid
    have hg : f.granularity = .day := by simp [granularity, hasDay]
    rw [hparts, PartialDate.toDate_of_isDateIn hin, hg]
    rfl
  | false =>
    cases hasMonth : f.has .month with
    | true =>
      have hparts : f.componentsOf d = ⟨some d.year, some d.month, none⟩ := by
        simp [componentsOf, h, hasDay, hasMonth]
      have hin : PartialDate.IsDateIn ⟨some d.year, some d.month, none⟩ year :=
        isCalendarDate_first hy d.valid.2.1
      have hg : f.granularity = .month := by simp [granularity, hasDay, hasMonth]
      rw [hparts, PartialDate.toDate_of_isDateIn hin, hg]
      rfl
    | false =>
      have hparts : f.componentsOf d = ⟨some d.year, none, none⟩ := by
        simp [componentsOf, h, hasDay, hasMonth]
      have hin : PartialDate.IsDateIn ⟨some d.year, none, none⟩ year :=
        isCalendarDate_first hy (show 1 ≤ 1 ∧ 1 ≤ 12 by decide)
      have hg : f.granularity = .year := by simp [granularity, hasDay, hasMonth]
      rw [hparts, PartialDate.toDate_of_isDateIn hin, hg]
      rfl

theorem project_of_has_year (h : f.has .year = true) (d : Date) (year : Int) :
    f.project d year = .ok (.containing d f.granularity) := by
  have hmove : moveLeapDay year (f.componentsOf d) = f.componentsOf d := by
    simp [moveLeapDay, componentsOf, h]
  rw [project_eq, hmove, toDate_componentsOf_of_has_year h]

theorem readPeriod_writeDate_of_has_year (h : f.has .year = true) (hd : f.WritesYearOf d) :
    f.readPeriod (f.writeDate d) year = .ok (.containing d f.granularity) := by
  rw [readPeriod_writeDate hd, toDate_componentsOf_of_has_year h]

end DateFormat

/-- A written date is an anchor, and never the word for the current date. -/
theorem Anchor.read_writeDate {f : DateFormat} {d : Date} (hd : f.WritesYearOf d) :
    read f (f.writeDate d) = .ok (.literal (f.writeDate d) (f.componentsOf d)) :=
  read_of_readComponents (DateFormat.readComponents_writeDate hd)

theorem DateComparison.target_of_period {f : DateFormat} {a : Anchor} {today : Date} {year : Int}
    {base : Period} (h : a.period f today year = .ok base) (offset : Offset) :
    (DateComparison.mk f a offset).target today year =
      match offset.shift? base.start with
      | some d => .ok (.containing d f.granularity)
      | none => .error .outOfRange := by
  cases hs : offset.shift? base.start with
  | none => simp only [target, h, hs]
  | some e => simp only [target, h, hs]

/-- A date and the text that writes it have the same period, and give the same targets as the
    current date and as a written anchor. Where the day is lost, the text is refused, and the date
    stands for the last of February. -/
theorem typed_and_written_dates_agree {f : DateFormat} {d : Date} {year : Int}
    (hy : YearInRange year) (hd : f.WritesYearOf d) :
    (¬ f.LosesLeapDay d year →
      (∃ p, f.periodOf (.date d) year = .ok p ∧
        f.periodOf (.text (String.ofList (f.writeDate d))) year = .ok p) ∧
      ∃ a, Anchor.read f (f.writeDate d) = .ok a ∧ a.isNow = false ∧
        ∀ offset today, (DateComparison.mk f .now offset).target d year =
          (DateComparison.mk f a offset).target today year) ∧
    (f.LosesLeapDay d year →
      f.periodOf (.text (String.ofList (f.writeDate d))) year =
        .error (.notACalendarDate year 2 29) ∧
      f.periodOf (.date d) year = .ok (.containing (.february28 year hy) .day) ∧
      ∀ offset, (DateComparison.mk f .now offset).target d year =
        match offset.shift? (.february28 year hy) with
        | some e => .ok (.containing e .day)
        | none => .error .outOfRange) := by
  have htext : f.periodOf (.text (String.ofList (f.writeDate d))) year =
      ((f.componentsOf d).toDate year).map fun e => .containing e f.granularity := by
    rw [DateFormat.periodOf, String.toList_ofList, DateFormat.readPeriod_writeDate hd]
  constructor
  · intro h
    have hin := DateFormat.isDateIn_componentsOf hy h
    have hproject := DateFormat.project_of_not_losesLeapDay hy h
    rw [PartialDate.toDate_of_isDateIn hin] at htext
    refine ⟨⟨_, hproject, htext⟩, _, Anchor.read_writeDate hd, rfl, fun offset today => ?_⟩
    have hliteral : (Anchor.literal (f.writeDate d) (f.componentsOf d)).period f today year =
        .ok (.containing ((f.componentsOf d).dateIn year hin) f.granularity) := by
      rw [Anchor.period, PartialDate.toDate_of_isDateIn hin]
      rfl
    have hnow : Anchor.now.period f d year = _ := hproject
    rw [DateComparison.target_of_period hnow, DateComparison.target_of_period hliteral]
  · intro h
    have hproject := DateFormat.project_of_losesLeapDay hy h
    have hin : ¬ (f.componentsOf d).IsDateIn year := by
      rw [DateFormat.componentsOf_of_losesLeapDay h]
      exact DateFormat.not_isCalendarDate_of_losesLeapDay h
    rw [PartialDate.toDate_of_not_isDateIn hin, DateFormat.componentsOf_of_losesLeapDay h] at htext
    refine ⟨htext, hproject, fun offset => ?_⟩
    have hg : f.granularity = .day := if_pos h.1.1
    have hnow : Anchor.now.period f d year = _ := hproject
    rw [DateComparison.target_of_period hnow, hg]
    rfl

/-- The leap day of 2024 in a format of day and month: in 2000 it is the same day typed and written,
    in 2001 it is the day before, or no day. -/
theorem leapDay_typed_and_written :
    ∃ f d, f.pattern = "MM/DD".toList ∧ f.writeDate d = "02/29".toList ∧
      ¬ f.LosesLeapDay d 2000 ∧ f.LosesLeapDay d 2001 ∧
      f.periodOf (.text "02/29") 2000 = f.periodOf (.date d) 2000 ∧
      f.periodOf (.text "02/29") 2001 = .error (.notACalendarDate 2001 2 29) ∧
      f.periodOf (.date d) 2001 =
        .ok (.containing ⟨2001, 2, 28, by decide⟩ .day) ∧
      (DateComparison.mk f .now ⟨1, .years⟩).target d 2001 =
        .ok (.containing ⟨2002, 2, 28, by decide⟩ .day) := by
  let f : DateFormat := ⟨[.component .month, .literal ['/'], .component .day],
    by decide, by decide, by decide⟩
  let d : Date := ⟨2024, 2, 29, by decide⟩
  have hd : f.WritesYearOf d := fun _ => by decide
  have hwrite : f.writeDate d = "02/29".toList := by decide +kernel
  have hkept : ¬ f.LosesLeapDay d 2000 := by decide
  have hlost : f.LosesLeapDay d 2001 := by decide
  have htext : String.ofList (f.writeDate d) = "02/29" := by rw [hwrite, String.ofList_toList]
  obtain ⟨⟨p, hdate, hsame⟩, -⟩ := (typed_and_written_dates_agree (by decide) hd).1 hkept
  obtain ⟨herror, hmoved, hnow⟩ := (typed_and_written_dates_agree (by decide) hd).2 hlost
  rw [htext] at hsame herror
  refine ⟨f, d, by decide, hwrite, hkept, hlost, hsame.trans hdate.symm, herror, hmoved, ?_⟩
  rw [hnow]
  decide +kernel

end Fieldwise
