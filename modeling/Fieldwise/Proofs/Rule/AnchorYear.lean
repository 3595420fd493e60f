import Fieldwise.Proofs.Evaluation.ReferenceYear

/-!
The years in which a written anchor is a date. Rules are read with a leap year in place of a year that is
not written. A day that some year has, every leap year has, so an anchor is refused then only if it is a
date in no year at all. Of the anchors that are not refused only the last of February, in a format without
a year, can fail in another year that is represented.
-/

namespace Fieldwise

theorem yearInRange_defaultReferenceYear : YearInRange defaultReferenceYear := by decide

/-- A year has the days of the default year, which is a leap year, but for the leap day of a common
    year. -/
theorem isCalendarDate_iff_default {year : Int} {month day : Nat} (hy : YearInRange year) :
    IsCalendarDate year month day ↔ IsCalendarDate defaultReferenceYear month day ∧
      ¬ (month = 2 ∧ day = 29 ∧ isLeapYear year = false) := by
  have hdefault := yearInRange_defaultReferenceYear
  by_cases hleap : month = 2 ∧ day = 29
  · obtain ⟨rfl, rfl⟩ := hleap
    have hleapYear : isLeapYear defaultReferenceYear = true := by decide
    rw [isCalendarDate_leapDay_iff hy, isCalendarDate_leapDay_iff hdefault]
    simp [hleapYear]
  · have hkept : ¬ (month = 2 ∧ day = 29 ∧ isLeapYear year = false) :=
      fun h => hleap ⟨h.1, h.2.1⟩
    constructor
    · intro h
      exact ⟨isCalendarDate_of_ne_leapDay hdefault ⟨year, month, day, h⟩ hleap, hkept⟩
    · rintro ⟨h, -⟩
      exact isCalendarDate_of_ne_leapDay hy ⟨defaultReferenceYear, month, day, h⟩ hleap

namespace PartialDate
variable {p : PartialDate} {year : Int}

theorem not_isDateIn_of_not_yearInRange (hp : p.year = none) (hy : ¬ YearInRange year) :
    ¬ p.IsDateIn year := by
  rw [isDateIn_iff_of_year_eq_none hp]
  exact fun h => hy h.1

theorem isDateIn_default (h : p.IsDateIn year) : p.IsDateIn defaultReferenceYear := by
  cases hp : p.year with
  | some y => exact (isDateIn_iff_of_year (by rw [hp, Option.isSome_some]) _ _).mp h
  | none =>
    rw [isDateIn_iff_of_year_eq_none hp] at h ⊢
    exact ((isCalendarDate_iff_default h.1).mp h).1

theorem exists_isDateIn_iff :
    (∃ year, YearInRange year ∧ p.IsDateIn year) ↔ p.IsDateIn defaultReferenceYear :=
  ⟨fun ⟨_, _, h⟩ => isDateIn_default h, fun h => ⟨_, yearInRange_defaultReferenceYear, h⟩⟩

end PartialDate

/-! ### Anchors that are refused when they are read -/

namespace DateComparison
variable {pattern anchor amount unit : List Char} {f : DateFormat} {p : PartialDate} {n : Int}
  {u : OffsetUnit}

/-- A written anchor with a right amount and unit is taken or refused as a date of the default year. -/
theorem ofParameters_of_readComponents (hf : DateFormat.ofPattern pattern = .ok f)
    (ha : f.readComponents anchor = .ok p) (hn : Numeral.IsInteger amount n ∧ Numeral.FitsInt32 n)
    (hu : String.ofList unit ∈ u.spellings) :
    ofParameters [pattern, anchor, amount, unit] =
      if p.IsDateIn defaultReferenceYear then .ok ⟨f, .literal anchor p, ⟨n, u⟩⟩
      else .error (.invalidAnchor (String.ofList anchor) (String.ofList pattern)) := by
  have hwritten : Anchor.IsWritten f anchor (.literal anchor p) :=
    Anchor.read_eq_ok_iff.mp (Anchor.read_of_readComponents ha)
  split
  · next hd => exact ofParameters_of_isWritten ⟨hf, hwritten, hn.1, hn.2, hu, hd⟩
  · next hd => exact ofParameters_of_isFaulty (.date hf hwritten hn hu hd)

theorem exists_isWritten_of_ofParameters {parameters : List (List Char)} {c : DateComparison}
    (h : ofParameters parameters = .ok c) :
    ∃ pattern anchor amount unit, IsWritten pattern anchor amount unit c := by
  have hlength : ∃ pattern anchor amount unit, parameters = [pattern, anchor, amount, unit] := by
    unfold ofParameters at h
    split at h
    · exact ⟨_, _, _, _, rfl⟩
    · cases h
  obtain ⟨pattern, anchor, amount, unit, rfl⟩ := hlength
  rcases isWritten_or_isFaulty pattern anchor amount unit with ⟨c', hc'⟩ | ⟨e, he⟩
  · rw [ofParameters_of_isWritten hc'] at h
    cases h
    exact ⟨_, _, _, _, hc'⟩
  · rw [ofParameters_of_isFaulty he] at h
    cases h

end DateComparison

/-! ### Anchors that fail in another year -/

namespace Anchor
variable {a : Anchor} {f : DateFormat} {year : Int}

theorem holdsIn_of_has_year (hfits : a.FitsIn f) (hdefault : a.HoldsIn defaultReferenceYear)
    (hyear : f.has .year = true) : a.HoldsIn year :=
  (holdsIn_iff_of_has_year hyear hfits _ _).mp hdefault

theorem not_holdsIn_iff (hfits : a.FitsIn f) (hdefault : a.HoldsIn defaultReferenceYear)
    (hy : YearInRange year) : ¬ a.HoldsIn year ↔ ∃ text p, a = .literal text p ∧
      f.has .year = false ∧ p.day = some 29 ∧ p.month = some 2 ∧ isLeapYear year = false := by
  cases a with
  | now => simp [HoldsIn]
  | literal text p =>
    cases hyear : f.has .year with
    | true => simp [holdsIn_of_has_year hfits hdefault hyear]
    | false =>
      have hp := DateFormat.year_eq_none_of_fits hyear hfits
      have hmonth : p.month.getD 1 = 2 ↔ p.month = some 2 := by cases p.month <;> simp
      have hday : p.day.getD 1 = 29 ↔ p.day = some 29 := by cases p.day <;> simp
      simp only [HoldsIn, PartialDate.isDateIn_iff_of_year_eq_none hp] at hdefault ⊢
      rw [isCalendarDate_iff_default hy]
      simp [hdefault, hmonth, hday, and_left_comm]

theorem not_holdsIn_iff_of_not_yearInRange (hfits : a.FitsIn f)
    (hdefault : a.HoldsIn defaultReferenceYear) (hy : ¬ YearInRange year) :
    ¬ a.HoldsIn year ↔ a.isNow = false ∧ f.has .year = false := by
  cases a with
  | now => simp [HoldsIn, isNow]
  | literal text p =>
    cases hyear : f.has .year with
    | true => simp [holdsIn_of_has_year hfits hdefault hyear]
    | false =>
      have hnone := PartialDate.not_isDateIn_of_not_yearInRange
        (DateFormat.year_eq_none_of_fits hyear hfits) hy
      simp [HoldsIn, hnone, isNow]

end Anchor

/-- A written anchor, with an amount and a unit that are right, is refused exactly when it is a date in no
    year that is represented. Of a comparison that has been read, the check of such a year refuses the
    anchor exactly when it is the last of February in a format without a year and the year is a common
    one; the check of any other year refuses every written anchor in a format without a year. -/
theorem anchors_are_read_in_most_permissive_year :
    (∀ pattern anchor amount unit f p n u, DateFormat.ofPattern pattern = .ok f →
      f.readComponents anchor = .ok p → Numeral.IsInteger amount n ∧ Numeral.FitsInt32 n →
      String.ofList unit ∈ OffsetUnit.spellings u →
      (DateComparison.ofParameters [pattern, anchor, amount, unit] =
          .error (.invalidAnchor (String.ofList anchor) (String.ofList pattern)) ↔
        ¬ ∃ year, YearInRange year ∧ p.IsDateIn year) ∧
      (DateComparison.ofParameters [pattern, anchor, amount, unit] =
          .ok ⟨f, .literal anchor p, ⟨n, u⟩⟩ ↔ ∃ year, YearInRange year ∧ p.IsDateIn year)) ∧
    ∀ parameters c, DateComparison.ofParameters parameters = .ok c →
      (∀ year, YearInRange year → (c.checkAnchor year ≠ .ok () ↔ ∃ text p,
        c.anchor = .literal text p ∧ c.format.has .year = false ∧ p.day = some 29 ∧
          p.month = some 2 ∧ isLeapYear year = false)) ∧
      ∀ year, ¬ YearInRange year →
        (c.checkAnchor year ≠ .ok () ↔ c.anchor.isNow = false ∧ c.format.has .year = false) := by
  constructor
  · intro pattern anchor amount unit f p n u hf ha hn hu
    rw [DateComparison.ofParameters_of_readComponents hf ha hn hu, PartialDate.exists_isDateIn_iff]
    split
    · next hd => simp [hd]
    · next hd => simp [hd]
  · intro parameters c hc
    obtain ⟨pattern, anchor, amount, unit, hwritten⟩ :=
      DateComparison.exists_isWritten_of_ofParameters hc
    have hfits := hwritten.anchor.fitsIn
    simp only [ne_eq, DateComparison.checkAnchor_eq_ok_iff]
    exact ⟨fun year => Anchor.not_holdsIn_iff hfits hwritten.holds,
      fun year => Anchor.not_holdsIn_iff_of_not_yearInRange hfits hwritten.holds⟩

/-- The last of February, without a year, is taken with a sign and a unit in the singular. Then it fails
    in a common century, holds in a leap year, and fails in a year that is not represented. The thirtieth of
    February is refused at once. -/
theorem leap_day_anchor_from_year_to_year :
    ∃ c, DateComparison.ofParameters ["DD-MM".toList, "29-02".toList, "+3".toList, "day".toList] =
        .ok c ∧
      c.checkAnchor 1900 ≠ .ok () ∧ c.checkAnchor 1904 = .ok () ∧ c.checkAnchor 262143 ≠ .ok () ∧
      DateComparison.ofParameters ["DD-MM".toList, "30-02".toList, "+3".toList, "day".toList] =
        .error (.invalidAnchor "30-02" "DD-MM") := by
  let f : DateFormat := ⟨[.component .day, .literal ['-'], .component .month],
    by decide, by decide, by decide⟩
  let p : PartialDate := ⟨none, some 2, some 29⟩
  have hf : DateFormat.ofPattern "DD-MM".toList = .ok f := by decide +kernel
  have hn : Numeral.IsInteger "+3".toList 3 ∧ Numeral.FitsInt32 3 :=
    Numeral.int32?_eq_some_iff.mp (by decide +kernel)
  have hu : String.ofList "day".toList ∈ OffsetUnit.days.spellings := by decide +kernel
  obtain ⟨hread, hchecked⟩ := anchors_are_read_in_most_permissive_year
  have hc := (hread "DD-MM".toList "29-02".toList "+3".toList "day".toList f p 3 .days hf
    (by decide +kernel) hn hu).2.mpr ⟨1904, by decide, by decide⟩
  have hnone : ¬ ∃ year, YearInRange year ∧ PartialDate.IsDateIn ⟨none, some 2, some 30⟩ year :=
    fun h => absurd (PartialDate.exists_isDateIn_iff.mp h) (by decide)
  have hrefused := (hread "DD-MM".toList "30-02".toList "+3".toList "day".toList f _ 3 .days hf
    (by decide +kernel) hn hu).1.mpr hnone
  obtain ⟨hin, hout⟩ := hchecked _ _ hc
  refine ⟨_, hc, (hin 1900 (by decide)).mpr ⟨_, p, rfl, by decide, rfl, rfl, by decide⟩, ?_,
    (hout 262143 (by decide)).mpr (by decide), hrefused⟩
  by_contra hfails
  obtain ⟨_, _, -, -, -, -, hcommon⟩ := (hin 1904 (by decide)).mp hfails
  exact absurd hcommon (by decide)

end Fieldwise
