import Fieldwise.Proofs.Calendar.Arithmetic
import Fieldwise.Proofs.Rule.AnchorYear
import Fieldwise.Proofs.Validation.Composition

/-!
Targets of rules whose anchors hold. In a year that is represented the current date and an anchor that
holds always have a period in the format, so a target is missing only where the shift leaves the range of
dates. In a validation that gives a report, a date rule therefore fails a value because the value is no
date, because of the shift or because of the order, and never because of what is written as its anchor.
-/

namespace Fieldwise

/-! ### Periods of dates and anchors -/

namespace DateFormat
variable {f : DateFormat} {d : Date} {year : Int} {p : PartialDate}

theorem exists_project (f : DateFormat) (d : Date) (hy : YearInRange year) :
    ∃ base, f.project d year = .ok base := by
  by_cases h : f.LosesLeapDay d year
  · exact ⟨_, project_of_losesLeapDay hy h⟩
  · exact ⟨_, project_of_not_losesLeapDay hy h⟩

/-- What a format does not write is filled up with the first day and month, so that nothing is forgotten
    of a date that is read. -/
theorem truncate_dateIn_of_fits (hfits : f.Fits p) (hin : p.IsDateIn year) :
    f.granularity.truncate (p.dateIn year hin) = p.dateIn year hin := by
  have hunknown : ∀ c, f.has c = false → p.get? c = none := fun c hc =>
    hfits.unknown c (of_decide_eq_false hc)
  unfold granularity
  cases hasDay : f.has .day with
  | true => rfl
  | false =>
    have hday : p.day = none := by simpa [PartialDate.get?] using hunknown .day hasDay
    cases hasMonth : f.has .month with
    | true => ext <;> simp [Granularity.truncate, Date.firstOfMonth, PartialDate.dateIn, hday]
    | false =>
      have hmonth : p.month = none := by simpa [PartialDate.get?] using hunknown .month hasMonth
      ext <;> simp [Granularity.truncate, Date.firstOfYear, PartialDate.dateIn, hday, hmonth]

end DateFormat

namespace Anchor
variable {a : Anchor} {f : DateFormat} {today : Date} {year : Int}

theorem period_of_isDateIn {text : List Char} {p : PartialDate} (h : p.IsDateIn year) :
    (literal text p).period f today year = .ok (.containing (p.dateIn year h) f.granularity) := by
  rw [period, PartialDate.toDate_of_isDateIn h]
  rfl

theorem exists_period (hy : YearInRange year ∨ f.has .year = true) (h : a.HoldsIn year) :
    ∃ base, a.period f today year = .ok base := by
  cases a with
  | now =>
    rcases hy with hy | hyear
    · exact f.exists_project today hy
    · exact ⟨_, DateFormat.project_of_has_year hyear today year⟩
  | literal text p => exact ⟨_, period_of_isDateIn h⟩

theorem toDate_of_period {text : List Char} {p : PartialDate} {base : Period} (hfits : f.Fits p)
    (hin : p.IsDateIn year) (h : (literal text p).period f today year = .ok base) :
    p.toDate year = .ok base.start := by
  rw [period_of_isDateIn hin] at h
  cases h
  rw [PartialDate.toDate_of_isDateIn hin]
  exact congrArg Except.ok (DateFormat.truncate_dateIn_of_fits hfits hin).symm

end Anchor

/-! ### Rules whose anchors hold -/

namespace DateComparison
variable {c : DateComparison} {today : Date} {year : Int} {base : Period}

theorem target_eq_error_iff (h : c.anchor.period c.format today year = .ok base) {e : DateError} :
    c.target today year = .error e ↔ e = .outOfRange ∧ c.offset.LeavesRange base.start := by
  rw [← Offset.shift?_eq_none_iff]
  cases hs : c.offset.shift? base.start with
  | none => simp [target_of_period h, hs, eq_comm]
  | some d => simp [target_of_period h, hs]

end DateComparison

/-- Where a reference year that is not represented is needed, no value is a date. -/
theorem DateFormat.exists_error_of_not_yearInRange {f : DateFormat} {year : Int}
    (hyear : f.has .year = false) (hy : ¬ YearInRange year) (value : FieldValue) :
    ∃ e, f.periodOf value year = .error e := by
  have hnone : ∀ p : PartialDate, p.year = none → p.toDate year = .error (p.notADate year) :=
    fun p hp => PartialDate.toDate_of_not_isDateIn (PartialDate.not_isDateIn_of_not_yearInRange hp hy)
  rcases periodOf_cases value with ⟨d, hd⟩ | ⟨text, htext⟩ | ⟨e, he⟩
  · rw [hd, project_eq, hnone _ (year_moveLeapDay_componentsOf hyear d year)]
    exact ⟨_, rfl⟩
  · rw [htext]
    cases hread : f.readComponents text with
    | error e =>
      rw [readPeriod, hread]
      exact ⟨e, rfl⟩
    | ok p =>
      have hp := year_eq_none_of_fits hyear (readComponents_eq_ok_iff.mp hread).1
      rw [readPeriod_of_readComponents hread, hnone _ hp]
      exact ⟨_, rfl⟩
  · exact ⟨e, he f year⟩

namespace RuleSpec
variable {c : DateComparison} {direction : Direction} {value : FieldValue}
  {context : EvaluationContext}

theorem evaluate_date_ne_passed_iff : (date direction c).evaluate value context ≠ .passed ↔
    (∃ e, c.target context.today context.referenceYear = .error e) ∨
      (∃ e, c.format.periodOf value context.referenceYear = .error e) ∨
      ∃ target p, c.target context.today context.referenceYear = .ok target ∧
        c.format.periodOf value context.referenceYear = .ok p ∧
        ¬ direction.Separates p.start target.start := by
  rw [ne_eq, evaluate_date_eq_passed_iff]
  cases c.target context.today context.referenceYear with
  | error e => simp
  | ok target => cases c.format.periodOf value context.referenceYear <;> simp

theorem exists_failed_date_iff (hvalue : value.isNull = false) :
    (∃ failure, (date direction c).evaluate value context = .failed failure) ↔
      (date direction c).evaluate value context ≠ .passed := by
  rw [← evaluate_date_eq_failed_iff hvalue]
  constructor
  · rintro ⟨failure, h⟩
    obtain rfl := eq_failure_of_evaluate h
    exact h
  · exact fun h => ⟨_, h⟩

/-- A date rule whose anchor holds fails a value that is no date, for a shift that leaves the range, or
    for its place in the order. -/
theorem failed_date_iff (hvalue : value.isNull = false)
    (hholds : c.anchor.HoldsIn context.referenceYear) :
    (∃ failure, (date direction c).evaluate value context = .failed failure) ↔
      (∃ e, c.format.periodOf value context.referenceYear = .error e) ∨
      (∃ base, c.anchor.period c.format context.today context.referenceYear = .ok base ∧
        c.offset.LeavesRange base.start) ∨
      ∃ target p, c.target context.today context.referenceYear = .ok target ∧
        c.format.periodOf value context.referenceYear = .ok p ∧
        ¬ direction.Separates p.start target.start := by
  rw [exists_failed_date_iff hvalue, evaluate_date_ne_passed_iff, or_left_comm]
  by_cases hy : YearInRange context.referenceYear ∨ c.format.has .year = true
  · obtain ⟨base, hbase⟩ : ∃ base,
        c.anchor.period c.format context.today context.referenceYear = .ok base :=
      c.anchor.exists_period hy hholds
    have hshift : (∃ e, c.target context.today context.referenceYear = .error e) ↔
        ∃ base, c.anchor.period c.format context.today context.referenceYear = .ok base ∧
          c.offset.LeavesRange base.start := by
      simp [DateComparison.target_eq_error_iff hbase, hbase]
    rw [hshift]
  · -- Without a year in the format or a year to stand in for it, there is no value to compare.
    rw [not_or, Bool.not_eq_true] at hy
    have herror := DateFormat.exists_error_of_not_yearInRange hy.2 hy.1 value
    exact iff_of_true (Or.inl herror) (Or.inl herror)

end RuleSpec

/-- When the anchors of a rule set hold in a year that is represented, the current date and every anchor
    have a period, and a target is missing exactly when the shift of its first day leaves the range, which
    is then the error. That day is the written date itself where the anchor is written in the format. So in
    a validation that gives a report the anchors hold, and on whatever day, a date rule fails a value
    exactly when the value is no date, the shift leaves the range or the order is wrong. -/
theorem targets_fail_only_by_leaving_range :
    (∀ (rules : RuleSet) (year : Int), YearInRange year → rules.checkReferenceYear year = .ok () →
      ∀ e ∈ rules.entries, ∀ direction c, .date direction c ∈ e.2 → ∀ today,
        ∃ base, c.anchor.period c.format today year = .ok base ∧
          (∀ text p, c.anchor = .literal text p → c.format.Fits p → p.toDate year = .ok base.start) ∧
          (c.target today year = .error .outOfRange ↔ c.offset.LeavesRange base.start) ∧
          ∀ e, c.target today year = .error e → e = .outOfRange) ∧
    ∀ (v : Validator) (table : FieldRules) (record : Record) (report : Report),
      (v.validate table record).value = .ok report →
      ∀ r ∈ table.members, ∀ direction c, RuleSpec.parse r.2 = .ok (.date direction c) →
        c.anchor.HoldsIn v.referenceYear ∧
        ((record.value r.1).isNull = false → ∀ today,
          (∃ failure, (RuleSpec.date direction c).evaluate (record.value r.1) ⟨today, v.referenceYear⟩ =
              .failed failure) ↔
            (∃ e, c.format.periodOf (record.value r.1) v.referenceYear = .error e) ∨
            (∃ base, c.anchor.period c.format today v.referenceYear = .ok base ∧
              c.offset.LeavesRange base.start) ∨
            ∃ target p, c.target today v.referenceYear = .ok target ∧
              c.format.periodOf (record.value r.1) v.referenceYear = .ok p ∧
              ¬ direction.Separates p.start target.start) := by
  constructor
  · intro rules year hy hcheck e he direction c hc today
    have hholds : c.anchor.HoldsIn year :=
      RuleSet.checkReferenceYear_eq_ok_iff.mp hcheck e he (.date direction c) hc
    obtain ⟨base, hbase⟩ := c.anchor.exists_period (Or.inl hy) hholds
    refine ⟨base, hbase, fun text p ha hfits => ?_, ?_, fun e he => ?_⟩
    · rw [ha] at hbase hholds
      exact Anchor.toDate_of_period hfits hholds hbase
    · rw [DateComparison.target_eq_error_iff hbase]
      exact and_iff_right rfl
    · exact ((DateComparison.target_eq_error_iff hbase).mp he).1
  · intro v table record report hreport r hr direction c hparse
    obtain ⟨spec, hspec, hholds⟩ := Validator.exists_validate_eq_ok_iff.mp ⟨report, hreport⟩ r hr
    cases hspec.symm.trans hparse
    exact ⟨hholds, fun hvalue today => RuleSpec.failed_date_iff hvalue hholds⟩

/-- On a leap day, in the last year that is represented: the current date is taken back to the end of
    February and a year is added, which leads out of the range, and every date fails for it. -/
theorem year_after_last_is_out_of_range :
    let today : Date := ⟨2024, 2, 29, by decide⟩
    let v := (Validator.default today).inYear 262142
    ∃ c base report, RuleSpec.parse "dateAfter:DD-MM:now:1:years" = .ok (.date .after c) ∧
      RuleSet.checkReferenceYear (.ofList [("due", [.date .after c])]) 262142 = .ok () ∧
      c.anchor.period c.format today 262142 = .ok base ∧ c.offset.LeavesRange base.start ∧
      c.target today 262142 = .error .outOfRange ∧
      (v.validate (.ofList [("due", ["dateAfter:DD-MM:now:1:years"])])
        (.ofList [("due", .text "31-12")])).value = .ok report ∧
      ∃ failure, (RuleSpec.date .after c).evaluate (.text "31-12") ⟨today, 262142⟩ =
        .failed failure := by
  intro today v
  let f : DateFormat := ⟨[.component .day, .literal ['-'], .component .month],
    by decide, by decide, by decide⟩
  let c : DateComparison := ⟨f, .now, ⟨1, .years⟩⟩
  let base : Period := .containing ⟨262142, 2, 28, by decide⟩ .day
  have hparse : RuleSpec.parse "dateAfter:DD-MM:now:1:years" = .ok (.date .after c) := by
    decide +kernel
  have hcheck : RuleSet.checkReferenceYear (.ofList [("due", [.date .after c])]) 262142 = .ok () := by
    decide +kernel
  have hbase : c.anchor.period c.format today 262142 = .ok base := by decide +kernel
  have hleaves : c.offset.LeavesRange base.start := by decide +kernel
  have hmembers : (Table.ofList [("due", ["dateAfter:DD-MM:now:1:years"])]).members =
      [("due", "dateAfter:DD-MM:now:1:years")] := by decide +kernel
  obtain ⟨report, hreport⟩ : ∃ report, (v.validate
      (.ofList [("due", ["dateAfter:DD-MM:now:1:years"])])
      (.ofList [("due", .text "31-12")])).value = .ok report := by
    rw [Validator.exists_validate_eq_ok_iff, hmembers, List.forall_mem_singleton]
    exact ⟨_, hparse, trivial⟩
  obtain ⟨htargets, hvalidations⟩ := targets_fail_only_by_leaving_range
  obtain ⟨base', hbase', -, htarget, -⟩ := htargets (.ofList [("due", [.date .after c])]) 262142
    (by decide) hcheck ("due", [.date .after c]) (by decide) .after c (by decide) today
  cases hbase.symm.trans hbase'
  have hfailed := (hvalidations v _ _ report hreport ("due", "dateAfter:DD-MM:now:1:years")
    (by simp [hmembers]) .after c hparse).2 rfl today
  exact ⟨c, base, report, hparse, hcheck, hbase, hleaves, htarget.mpr hleaves, hreport,
    hfailed.mpr (Or.inr (Or.inl ⟨base, hbase, hleaves⟩))⟩

end Fieldwise
