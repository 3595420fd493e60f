import Fieldwise.Rule.Set

/-!
Written anchors against the calendar. An anchor holds in a year when it is the current date, or
when its components are a day of the calendar once the year stands in for a year that is not
written; the checks of a comparison, of a rule and of a rule set ask for exactly that.
-/

namespace Fieldwise

namespace PartialDate

/-- Filled up with a year, the components are a day of the calendar. -/
def IsDateIn (p : PartialDate) (year : Int) : Prop :=
  IsCalendarDate (p.year.getD year) (p.month.getD 1) (p.day.getD 1)

instance (p : PartialDate) (year : Int) : Decidable (p.IsDateIn year) :=
  inferInstanceAs (Decidable (IsCalendarDate _ _ _))

/-- The day of the calendar that the components are. -/
def dateIn (p : PartialDate) (year : Int) (h : p.IsDateIn year) : Date :=
  ⟨p.year.getD year, p.month.getD 1, p.day.getD 1, h⟩

/-- What components that are no day of the calendar are refused with. -/
def notADate (p : PartialDate) (year : Int) : DateError :=
  .notACalendarDate (p.year.getD year) (p.month.getD 1) (p.day.getD 1)

theorem isDateIn_iff_of_year_eq_none {p : PartialDate} {year : Int} (hp : p.year = none) :
    p.IsDateIn year ↔ IsCalendarDate year (p.month.getD 1) (p.day.getD 1) := by
  rw [IsDateIn, hp, Option.getD_none]

theorem toDate_of_isDateIn {p : PartialDate} {year : Int} (h : p.IsDateIn year) :
    p.toDate year = .ok (p.dateIn year h) := by
  have hd : Date.ofParts? (p.year.getD year) (p.month.getD 1) (p.day.getD 1) =
      some (p.dateIn year h) := Date.ofParts?_eq_some_iff.mpr ⟨rfl, rfl, rfl⟩
  simp only [toDate, hd]

theorem toDate_of_not_isDateIn {p : PartialDate} {year : Int} (h : ¬ p.IsDateIn year) :
    p.toDate year = .error (p.notADate year) := by
  have hd : Date.ofParts? (p.year.getD year) (p.month.getD 1) (p.day.getD 1) = none :=
    Date.ofParts?_eq_none_iff.mpr h
  simp only [toDate, hd, notADate]

end PartialDate

/-- The anchor is a day of the calendar when `year` stands in for a year that is not written. -/
def Anchor.HoldsIn (a : Anchor) (year : Int) : Prop :=
  match a with
  | .now => True
  | .literal _ p => p.IsDateIn year

instance (a : Anchor) (year : Int) : Decidable (a.HoldsIn year) := by
  unfold Anchor.HoldsIn
  split <;> infer_instance

/-- The error for an anchor that is no date. -/
def DateComparison.anchorError (c : DateComparison) : RuleError :=
  .invalidAnchor (String.ofList c.anchor.text) (String.ofList c.format.pattern)

/-- An anchor passes the check if it holds, and is itself the fault otherwise. -/
theorem DateComparison.checkAnchor_eq (c : DateComparison) (year : Int) :
    c.checkAnchor year = if c.anchor.HoldsIn year then .ok () else .error c.anchorError := by
  obtain ⟨f, a, o⟩ := c
  cases a with
  | now => rfl
  | literal text p =>
    by_cases h : p.IsDateIn year
    · simp [checkAnchor, Anchor.HoldsIn, PartialDate.toDate_of_isDateIn h, h]
    · simp [checkAnchor, Anchor.HoldsIn, PartialDate.toDate_of_not_isDateIn h, h, anchorError,
        Anchor.text]

theorem DateComparison.checkAnchor_eq_ok_iff {c : DateComparison} {year : Int} :
    c.checkAnchor year = .ok () ↔ c.anchor.HoldsIn year := by
  rw [checkAnchor_eq]
  split <;> simp_all

/-- The written anchor of a rule, if it has one, holds in a year. -/
def RuleSpec.AnchorHolds (spec : RuleSpec) (year : Int) : Prop :=
  match spec with
  | .date _ c => c.anchor.HoldsIn year
  | _ => True

instance (spec : RuleSpec) (year : Int) : Decidable (spec.AnchorHolds year) := by
  unfold RuleSpec.AnchorHolds
  split <;> infer_instance

theorem RuleSpec.checkAnchor_eq_ok_iff {spec : RuleSpec} {year : Int} :
    spec.checkAnchor year = .ok () ↔ spec.AnchorHolds year := by
  cases spec with
  | required => simp [checkAnchor, AnchorHolds]
  | integer => simp [checkAnchor, AnchorHolds]
  | date direction c => exact DateComparison.checkAnchor_eq_ok_iff

namespace RuleSet

theorem checkField_eq_ok_iff {year : Int} (field : String) {specs : List RuleSpec} :
    checkField year field specs = .ok () ↔ ∀ spec ∈ specs, spec.AnchorHolds year := by
  induction specs with
  | nil => simp [checkField]
  | cons spec rest ih =>
    rw [List.forall_mem_cons, ← RuleSpec.checkAnchor_eq_ok_iff, ← ih]
    cases h : spec.checkAnchor year with
    | error cause => simp [checkField, h]
    | ok => simp [checkField, h]

theorem checkFields_eq_ok_iff {year : Int} {entries : List (String × List RuleSpec)} :
    checkFields year entries = .ok () ↔ ∀ e ∈ entries, ∀ spec ∈ e.2, spec.AnchorHolds year := by
  induction entries with
  | nil => simp [checkFields]
  | cons e rest ih =>
    rw [List.forall_mem_cons, ← checkField_eq_ok_iff e.1, ← ih]
    cases h : checkField year e.1 e.2 with
    | error error => simp [checkFields, h]
    | ok => simp [checkFields, h]

/-- A rule set passes the check of a year if all its anchors hold in the year. -/
theorem checkReferenceYear_eq_ok_iff {rules : RuleSet} {year : Int} :
    rules.checkReferenceYear year = .ok () ↔
      ∀ e ∈ rules.entries, ∀ spec ∈ e.2, spec.AnchorHolds year :=
  checkFields_eq_ok_iff

end RuleSet

end Fieldwise
