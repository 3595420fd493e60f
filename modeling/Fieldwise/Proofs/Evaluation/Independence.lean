import Fieldwise.Proofs.Evaluation.DateRule

/-!
What the evaluation of a rule depends on. A rule sees two contexts alike when they put every value in
the same place, seen from its target. A comparison with a written anchor sees every two days alike, and
a comparison whose format writes the year, and whose anchor is written in the format, sees every two
reference years alike: the year that stands in for one that is not written is then never asked for.
-/

namespace Fieldwise

/-! ### Two contexts -/

namespace DateComparison
variable {c : DateComparison} {direction : Direction} {value value' : FieldValue}
  {a b : EvaluationContext}

/-- A comparison looks at a value only through its place, seen from the target. -/
theorem evaluate_congr (hnull : value.isNull = value'.isNull)
    (horder : c.order value a = c.order value' b) :
    c.evaluate direction value a = c.evaluate direction value' b := by
  simp only [evaluate, hnull, horder]

theorem unresolved?_congr (horder : c.order value a = c.order value b) :
    c.unresolved? value a = c.unresolved? value b := by
  simp only [unresolved?, horder]

theorem order_congr
    (htarget : c.target a.today a.referenceYear = c.target b.today b.referenceYear)
    (hperiod : c.format.periodOf value a.referenceYear =
      c.format.periodOf value' b.referenceYear) :
    c.order value a = c.order value' b := by
  simp only [order, htarget, hperiod]

end DateComparison

/-- In both contexts the rule finds every value in the same place. -/
def RuleSpec.SeesAlike (spec : RuleSpec) (a b : EvaluationContext) : Prop :=
  match spec with
  | .date _ c => ∀ value, c.order value a = c.order value b
  | _ => True

theorem RuleSpec.SeesAlike.evaluate_eq {spec : RuleSpec} {a b : EvaluationContext}
    (h : spec.SeesAlike a b) (value : FieldValue) : spec.evaluate value a = spec.evaluate value b := by
  cases spec with
  | required => rfl
  | integer => rfl
  | date direction c =>
    rw [evaluate_date, evaluate_date]
    exact DateComparison.evaluate_congr rfl (h value)

/-! ### The current date -/

theorem Anchor.period_eq_of_ne_now {anchor : Anchor} (h : anchor ≠ .now) (f : DateFormat)
    (today today' : Date) (year : Int) :
    anchor.period f today year = anchor.period f today' year := by
  cases anchor with
  | now => exact absurd rfl h
  | literal text p => rfl

theorem DateComparison.target_eq_of_ne_now {c : DateComparison} (h : c.anchor ≠ .now)
    (today today' : Date) (year : Int) : c.target today year = c.target today' year := by
  unfold target
  rw [Anchor.period_eq_of_ne_now h _ today today']

/-- Without the current date as an anchor, one day is like another. -/
theorem RuleSpec.seesAlike_of_ne_now {spec : RuleSpec}
    (h : ∀ direction c, spec = .date direction c → c.anchor ≠ .now) (today today' : Date)
    (year : Int) : spec.SeesAlike ⟨today, year⟩ ⟨today', year⟩ := by
  cases spec with
  | required => trivial
  | integer => trivial
  | date direction c =>
    intro value
    exact DateComparison.order_congr
      (DateComparison.target_eq_of_ne_now (h direction c rfl) today today' year) rfl

/-! ### The reference year -/

namespace PartialDate
variable {p : PartialDate}

theorem toDate_eq_of_year (h : p.year.isSome = true) (year year' : Int) :
    p.toDate year = p.toDate year' := by
  obtain ⟨y, hy⟩ := Option.isSome_iff_exists.mp h
  simp only [toDate, hy, Option.getD_some]

theorem isDateIn_iff_of_year (h : p.year.isSome = true) (year year' : Int) :
    p.IsDateIn year ↔ p.IsDateIn year' := by
  obtain ⟨y, hy⟩ := Option.isSome_iff_exists.mp h
  simp only [IsDateIn, hy, Option.getD_some]

end PartialDate

namespace DateFormat
variable {f : DateFormat}

theorem year_isSome_of_fits (hyear : f.has .year = true) {p : PartialDate} (h : f.Fits p) :
    p.year.isSome = true := by
  rw [(fits_iff.mp h).1.1, hyear]

theorem readPeriod_eq_of_has_year (hyear : f.has .year = true) (text : List Char)
    (year year' : Int) : f.readPeriod text year = f.readPeriod text year' := by
  cases hread : f.readComponents text with
  | error e => simp only [readPeriod, hread]; rfl
  | ok p =>
    have hp := year_isSome_of_fits hyear (readComponents_eq_ok_iff.mp hread).1
    rw [readPeriod_of_readComponents hread, readPeriod_of_readComponents hread,
      PartialDate.toDate_eq_of_year hp year year']

/-- Typed or written, a value names the same period in every reference year. -/
theorem periodOf_eq_of_has_year (hyear : f.has .year = true) (value : FieldValue)
    (year year' : Int) : f.periodOf value year = f.periodOf value year' := by
  rcases periodOf_cases value with ⟨d, hd⟩ | ⟨text, htext⟩ | ⟨e, he⟩
  · -- No leap day is moved where the year is written, so a typed date is kept in every year.
    rw [hd, hd, project_of_has_year hyear, project_of_has_year hyear]
  · rw [htext, htext, readPeriod_eq_of_has_year hyear]
  · rw [he, he]

end DateFormat

/-- The components of a written anchor are those of a format. -/
def Anchor.FitsIn (anchor : Anchor) (f : DateFormat) : Prop :=
  match anchor with
  | .now => True
  | .literal _ p => f.Fits p

theorem Anchor.IsWritten.fitsIn {f : DateFormat} {text : List Char} {anchor : Anchor}
    (h : IsWritten f text anchor) : anchor.FitsIn f := by
  cases h with
  | now => trivial
  | literal fits => exact fits

theorem RuleSpec.IsWritten.anchor_fitsIn {text : List Char} {direction : Direction}
    {c : DateComparison} (h : IsWritten text (.date direction c)) : c.anchor.FitsIn c.format := by
  cases h with
  | date cut comparison => exact comparison.anchor.fitsIn

/-- The anchor of a rule that has been read is written in the format of the rule. -/
theorem RuleSpec.anchor_fitsIn_of_parse {s : String} {direction : Direction} {c : DateComparison}
    (h : parse s = .ok (.date direction c)) : c.anchor.FitsIn c.format :=
  (parseTrimmed_eq_ok_iff.mp h).anchor_fitsIn

namespace Anchor
variable {anchor : Anchor} {f : DateFormat}

theorem holdsIn_iff_of_has_year (hyear : f.has .year = true) (h : anchor.FitsIn f)
    (year year' : Int) : anchor.HoldsIn year ↔ anchor.HoldsIn year' := by
  cases anchor with
  | now => exact Iff.rfl
  | literal text p =>
    exact PartialDate.isDateIn_iff_of_year (DateFormat.year_isSome_of_fits hyear h) year year'

theorem period_eq_of_has_year (hyear : f.has .year = true) (h : anchor.FitsIn f) (today : Date)
    (year year' : Int) : anchor.period f today year = anchor.period f today year' := by
  cases anchor with
  | now =>
    show f.project today year = f.project today year'
    rw [DateFormat.project_of_has_year hyear, DateFormat.project_of_has_year hyear]
  | literal text p =>
    rw [period, period, PartialDate.toDate_eq_of_year
      (DateFormat.year_isSome_of_fits hyear h) year year']

end Anchor

namespace RuleSpec
variable {s : String} {spec : RuleSpec}

/-- Where the year is always written, one reference year is like another. -/
theorem seesAlike_of_has_year (h : parse s = .ok spec)
    (hyear : ∀ direction c, spec = .date direction c → c.format.has .year = true) (today : Date)
    (year year' : Int) : spec.SeesAlike ⟨today, year⟩ ⟨today, year'⟩ := by
  cases spec with
  | required => trivial
  | integer => trivial
  | date direction c =>
    intro value
    have htarget : c.target today year = c.target today year' := by
      unfold DateComparison.target
      rw [Anchor.period_eq_of_has_year (hyear direction c rfl) (anchor_fitsIn_of_parse h) today
        year year']
    exact DateComparison.order_congr htarget
      (DateFormat.periodOf_eq_of_has_year (hyear direction c rfl) value year year')

theorem checkAnchor_eq_of_has_year (h : parse s = .ok spec)
    (hyear : ∀ direction c, spec = .date direction c → c.format.has .year = true)
    (year year' : Int) : spec.checkAnchor year = spec.checkAnchor year' := by
  cases spec with
  | required => rfl
  | integer => rfl
  | date direction c =>
    have hholds := Anchor.holdsIn_iff_of_has_year (hyear direction c rfl)
      (anchor_fitsIn_of_parse h) year year'
    simp only [checkAnchor, DateComparison.checkAnchor_eq, hholds]

end RuleSpec

end Fieldwise
