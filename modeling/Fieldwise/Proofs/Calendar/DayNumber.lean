import Fieldwise.Calendar.DayNumber
import Fieldwise.Proofs.Calendar.Date
import Mathlib.Data.Int.Init

/-!
Day numbers and the calendar. `Date.dayNumber` keeps the order of dates and takes every value between
the numbers of the first and the last date, and `Date.ofDayNumber?` finds the date of each of these
numbers. It is the only count that gives the first day of the year one the number 1 and every other
day the number after that of the day before.
-/

namespace Fieldwise

/-! ### Years -/

theorem isLeapYear_iff {year : Int} :
    isLeapYear year = true ↔ year % 4 = 0 ∧ (year % 100 ≠ 0 ∨ year % 400 = 0) := by
  simp [isLeapYear]

def yearLength (year : Int) : Int := if isLeapYear year then 366 else 365

theorem daysBeforeYear_succ (year : Int) :
    daysBeforeYear (year + 1) = daysBeforeYear year + yearLength year := by
  unfold daysBeforeYear yearLength
  split
  · next hleap =>
    rw [isLeapYear_iff] at hleap
    omega
  · next hleap =>
    rw [isLeapYear_iff] at hleap
    omega

theorem daysBeforeYear_mono {a b : Int} (h : a ≤ b) : daysBeforeYear a ≤ daysBeforeYear b := by
  unfold daysBeforeYear
  omega

/-- The day `n` cut into whole cycles of 400 years, centuries, groups of four years, years and days.
    A day 365 stands only at the end of a year that is a leap year. -/
structure IsYearCut (n cycle century group year day : Int) : Prop where
  sum : n - 1 = 146097 * cycle + 36524 * century + 1461 * group + 365 * year + day
  century_mem : 0 ≤ century ∧ century ≤ 3
  group_mem : 0 ≤ group ∧ group ≤ 24
  year_mem : 0 ≤ year ∧ year ≤ 3
  day_mem : 0 ≤ day ∧ (day < 365 ∨ day = 365 ∧ year = 3 ∧ (group = 24 → century = 3))

theorem exists_isYearCut (n : Int) : ∃ cycle century group year day,
    yearOfDayNumber n = 400 * cycle + 100 * century + 4 * group + year + 1 ∧
      IsYearCut n cycle century group year day := by
  obtain ⟨inCycle, hinCycle⟩ : ∃ m, m = (n - 1) % 146097 := ⟨_, rfl⟩
  obtain ⟨century, hcentury⟩ : ∃ c, c = min (inCycle / 36524) 3 := ⟨_, rfl⟩
  obtain ⟨inCentury, hinCentury⟩ : ∃ m, m = inCycle - 36524 * century := ⟨_, rfl⟩
  obtain ⟨inGroup, hinGroup⟩ : ∃ m, m = inCentury % 1461 := ⟨_, rfl⟩
  obtain ⟨year, hyear⟩ : ∃ y, y = min (inGroup / 365) 3 := ⟨_, rfl⟩
  refine ⟨(n - 1) / 146097, century, inCentury / 1461, year, inGroup - 365 * year, ?_, ?_⟩
  · subst hyear hinGroup hinCentury hcentury hinCycle
    rfl
  · have hlast : inCentury < 36524 ∨ inCentury = 36524 ∧ century = 3 := by omega
    constructor <;> omega

namespace IsYearCut
variable {n cycle century group year day : Int}

theorem daysBeforeYear_eq (h : IsYearCut n cycle century group year day) :
    daysBeforeYear (400 * cycle + 100 * century + 4 * group + year + 1) =
      146097 * cycle + 36524 * century + 1461 * group + 365 * year := by
  obtain ⟨-, hcentury, hgroup, hyear, -⟩ := h
  unfold daysBeforeYear
  omega

theorem day_lt (h : IsYearCut n cycle century group year day) :
    day < yearLength (400 * cycle + 100 * century + 4 * group + year + 1) := by
  obtain ⟨-, hcentury, hgroup, hyear, -, hday | ⟨rfl, rfl, hlast⟩⟩ := h
  · unfold yearLength
    split <;> omega
  · have hleap : isLeapYear (400 * cycle + 100 * century + 4 * group + 3 + 1) = true := by
      rw [isLeapYear_iff]
      omega
    rw [yearLength, if_pos hleap]
    decide

end IsYearCut

/-- A day lies in the year that is found for it. -/
theorem mem_yearOfDayNumber (n : Int) :
    daysBeforeYear (yearOfDayNumber n) < n ∧
      n ≤ daysBeforeYear (yearOfDayNumber n) + yearLength (yearOfDayNumber n) := by
  obtain ⟨cycle, century, group, year, day, heq, hcut⟩ := exists_isYearCut n
  have hbefore := hcut.daysBeforeYear_eq
  have hlt := hcut.day_lt
  have hsum := hcut.sum
  have hday := hcut.day_mem.1
  rw [← heq] at hbefore hlt
  omega

theorem yearOfDayNumber_eq {n year : Int} (hlt : daysBeforeYear year < n)
    (hle : n ≤ daysBeforeYear year + yearLength year) : yearOfDayNumber n = year := by
  obtain ⟨hlt', hle'⟩ := mem_yearOfDayNumber n
  rw [← daysBeforeYear_succ] at hle hle'
  by_contra hne
  rcases Int.lt_or_gt_of_ne hne with h | h
  · have := daysBeforeYear_mono (Int.add_one_le_iff.mpr h)
    omega
  · have := daysBeforeYear_mono (Int.add_one_le_iff.mpr h)
    omega

/-! ### Months -/

theorem daysBeforeMonth_thirteen (year : Int) : (daysBeforeMonth year 13 : Int) = yearLength year := by
  cases hleap : isLeapYear year <;> simp [daysBeforeMonth, monthLength, yearLength, hleap]

theorem daysBeforeMonth_succ (year : Int) (month : Nat) :
    daysBeforeMonth year (month + 1) = daysBeforeMonth year month + monthLength year month := rfl

theorem daysBeforeMonth_mono (year : Int) : Monotone (daysBeforeMonth year) :=
  monotone_nat_of_le_succ fun _ => Nat.le_add_right _ _

/-- The month and day that are found for a day of a year lie in the year, and are that day. -/
theorem monthAndDay_spec (year : Int) (count month ordinal : Nat)
    (hmonth : 1 ≤ month ∧ month + count = 12)
    (hordinal : 1 ≤ ordinal ∧ daysBeforeMonth year month + ordinal ≤ daysBeforeMonth year 13) :
    ∃ m k, monthAndDay year count month ordinal = (m, k) ∧ (1 ≤ m ∧ m ≤ 12) ∧
      (1 ≤ k ∧ k ≤ monthLength year m) ∧
      daysBeforeMonth year m + k = daysBeforeMonth year month + ordinal := by
  induction count generalizing month ordinal with
  | zero =>
    obtain rfl : month = 12 := hmonth.2
    have hlast : daysBeforeMonth year 13 = daysBeforeMonth year 12 + monthLength year 12 :=
      daysBeforeMonth_succ year 12
    exact ⟨12, ordinal, rfl, by decide, ⟨hordinal.1, by omega⟩, rfl⟩
  | succ count ih =>
    rw [monthAndDay]
    split
    · next hle => exact ⟨month, ordinal, rfl, by omega, ⟨hordinal.1, hle⟩, rfl⟩
    · next hgt =>
      have hnext := daysBeforeMonth_succ year month
      obtain ⟨m, k, heq, hm, hk, hsum⟩ := ih (month + 1) (ordinal - monthLength year month)
        (by omega) (by omega)
      exact ⟨m, k, heq, hm, hk, by omega⟩

namespace Date

/-! ### Dates -/

theorem dayNumber_mem_year (d : Date) : daysBeforeYear d.year < d.dayNumber ∧
    d.dayNumber ≤ daysBeforeYear d.year + yearLength d.year := by
  have hpos := d.day_pos
  have hle := d.day_le
  have hmonth : daysBeforeMonth d.year (d.month + 1) ≤ daysBeforeMonth d.year 13 :=
    daysBeforeMonth_mono d.year (Nat.add_le_add_right d.month_le 1)
  rw [daysBeforeMonth_succ] at hmonth
  have hyear := daysBeforeMonth_thirteen d.year
  unfold dayNumber
  omega

theorem dayNumber_lt {a b : Date} (h : a < b) : a.dayNumber < b.dayNumber := by
  rcases h with hyear | ⟨hyear, hmonth | ⟨hmonth, hday⟩⟩
  · have ha := a.dayNumber_mem_year.2
    have hb := b.dayNumber_mem_year.1
    have hyears := daysBeforeYear_mono (Int.add_one_le_iff.mpr hyear)
    rw [daysBeforeYear_succ] at hyears
    omega
  · have hle := a.day_le
    have hpos := b.day_pos
    have hmonths := daysBeforeMonth_mono a.year (Nat.add_one_le_iff.mpr hmonth)
    rw [daysBeforeMonth_succ] at hmonths
    unfold dayNumber
    rw [← hyear]
    omega
  · unfold dayNumber
    rw [← hyear, ← hmonth]
    omega

theorem dayNumber_lt_iff {a b : Date} : a.dayNumber < b.dayNumber ↔ a < b := by
  have hmono : StrictMono dayNumber := fun _ _ => dayNumber_lt
  exact hmono.lt_iff_lt

theorem dayNumber_le_iff {a b : Date} : a.dayNumber ≤ b.dayNumber ↔ a ≤ b := by
  rw [← not_lt, ← not_lt, dayNumber_lt_iff]

theorem dayNumber_inj {a b : Date} : a.dayNumber = b.dayNumber ↔ a = b := by
  rw [le_antisymm_iff, le_antisymm_iff, dayNumber_le_iff, dayNumber_le_iff]

/-- A number is the number of a day as soon as the year that is found for it can be represented. -/
theorem exists_ofDayNumber? {n : Int} (h : YearInRange (yearOfDayNumber n)) :
    ∃ d, ofDayNumber? n = some d ∧ d.dayNumber = n := by
  obtain ⟨hlt, hle⟩ := mem_yearOfDayNumber n
  rw [← daysBeforeMonth_thirteen] at hle
  have hfirst : ∀ year, daysBeforeMonth year 1 = 0 := fun _ => rfl
  obtain ⟨m, k, heq, hm, hk, hsum⟩ := monthAndDay_spec (yearOfDayNumber n) 11 1
    (n - daysBeforeYear (yearOfDayNumber n)).toNat (by decide) (by rw [hfirst]; omega)
  let d : Date := ⟨yearOfDayNumber n, m, k, h, hm, hk⟩
  refine ⟨d, ?_, ?_⟩
  · rw [ofDayNumber?, heq]
    exact ofParts?_eq_some_iff.mpr ⟨rfl, rfl, rfl⟩
  · rw [hfirst] at hsum
    show daysBeforeYear (yearOfDayNumber n) + daysBeforeMonth (yearOfDayNumber n) m + k = n
    omega

theorem ofDayNumber?_dayNumber (d : Date) : ofDayNumber? d.dayNumber = some d := by
  have hyear : yearOfDayNumber d.dayNumber = d.year :=
    yearOfDayNumber_eq d.dayNumber_mem_year.1 d.dayNumber_mem_year.2
  obtain ⟨e, he, hnumber⟩ := exists_ofDayNumber? (hyear ▸ d.valid.1)
  rw [he, dayNumber_inj.mp hnumber]

theorem ofDayNumber?_eq_some_iff {n : Int} {d : Date} :
    ofDayNumber? n = some d ↔ d.dayNumber = n := by
  constructor
  · intro h
    have hyear : YearInRange (yearOfDayNumber n) := by
      have hd := (ofParts?_eq_some_iff.mp h).1
      exact hd ▸ d.valid.1
    obtain ⟨e, he, hnumber⟩ := exists_ofDayNumber? hyear
    rw [h] at he
    cases he
    exact hnumber
  · rintro rfl
    exact ofDayNumber?_dayNumber d

/-! ### The range of day numbers -/

/-- The first day that can be represented. -/
def first : Date := ⟨minYear, 1, 1, by decide⟩

/-- The last day that can be represented. -/
def last : Date := ⟨maxYear, 12, 31, by decide⟩

theorem first_le (d : Date) : first ≤ d := by
  have hyear := d.valid.1.1
  have hmonth := d.month_pos
  have hday := d.day_pos
  rw [le_iff]
  show minYear < d.year ∨ minYear = d.year ∧ (1 < d.month ∨ 1 = d.month ∧ 1 ≤ d.day)
  omega

theorem le_last (d : Date) : d ≤ last := by
  have hyear := d.valid.1.2
  have hmonth := d.month_le
  have hday := d.day_le.trans (monthLength_le d.year d.month)
  rw [le_iff]
  show d.year < maxYear ∨ d.year = maxYear ∧ (d.month < 12 ∨ d.month = 12 ∧ d.day ≤ 31)
  omega

/-- The day numbers are the integers from that of the first day to that of the last one. -/
theorem exists_dayNumber_eq_iff {n : Int} :
    (∃ d : Date, d.dayNumber = n) ↔ first.dayNumber ≤ n ∧ n ≤ last.dayNumber := by
  constructor
  · rintro ⟨d, rfl⟩
    exact ⟨dayNumber_le_iff.mpr d.first_le, dayNumber_le_iff.mpr d.le_last⟩
  · rintro ⟨hfirst, hlast⟩
    obtain ⟨hlt, hle⟩ := mem_yearOfDayNumber n
    have hmin : daysBeforeYear minYear < first.dayNumber := first.dayNumber_mem_year.1
    have hmax : last.dayNumber ≤ daysBeforeYear maxYear + yearLength maxYear :=
      last.dayNumber_mem_year.2
    rw [← daysBeforeYear_succ] at hle hmax
    have hrange : YearInRange (yearOfDayNumber n) := by
      constructor
      · by_contra hout
        have := daysBeforeYear_mono (Int.add_one_le_iff.mpr (Int.not_le.mp hout))
        omega
      · by_contra hout
        have := daysBeforeYear_mono (Int.add_one_le_iff.mpr (Int.not_le.mp hout))
        omega
    obtain ⟨d, -, hd⟩ := exists_ofDayNumber? hrange
    exact ⟨d, hd⟩

/-! ### Day after day -/

/-- The second date is the day after the first: in the same month, on the first of the next month, or
    on the first of the next year. -/
inductive IsNext (d e : Date) : Prop where
  | day (hyear : e.year = d.year) (hmonth : e.month = d.month) (hday : e.day = d.day + 1)
  | month (hlast : d.day = monthLength d.year d.month) (hyear : e.year = d.year)
      (hmonth : e.month = d.month + 1) (hday : e.day = 1)
  | year (hlast : d.month = 12 ∧ d.day = 31) (hyear : e.year = d.year + 1) (hmonth : e.month = 1)
      (hday : e.day = 1)

theorem IsNext.dayNumber_eq {d e : Date} (h : d.IsNext e) : e.dayNumber = d.dayNumber + 1 := by
  unfold dayNumber
  cases h with
  | day hyear hmonth hday =>
    rw [hyear, hmonth, hday]
    omega
  | month hlast hyear hmonth hday =>
    rw [hyear, hmonth, hday, hlast, daysBeforeMonth_succ]
    omega
  | year hlast hyear hmonth hday =>
    have hlength := daysBeforeMonth_thirteen d.year
    have hmonths : daysBeforeMonth d.year 13 = daysBeforeMonth d.year 12 + 31 :=
      daysBeforeMonth_succ d.year 12
    have hzero : daysBeforeMonth (d.year + 1) 1 = 0 := rfl
    rw [hyear, hmonth, hday, hlast.1, hlast.2, daysBeforeYear_succ, hzero]
    omega

theorem exists_isNext {d : Date} (h : d < last) : ∃ e, d.IsNext e := by
  obtain ⟨hyear, hmonth, hday⟩ := d.valid
  by_cases hk : d.day < monthLength d.year d.month
  · exact ⟨⟨d.year, d.month, d.day + 1, hyear, hmonth, by omega, hk⟩, .day rfl rfl rfl⟩
  · have hk : d.day = monthLength d.year d.month := Nat.le_antisymm hday.2 (Nat.not_lt.mp hk)
    by_cases hm : d.month < 12
    · have hfirst : IsCalendarDate d.year (d.month + 1) 1 := isCalendarDate_first hyear (by omega)
      exact ⟨⟨d.year, d.month + 1, 1, hfirst⟩, .month hk rfl rfl rfl⟩
    · have hm : d.month = 12 := Nat.le_antisymm hmonth.2 (Nat.not_lt.mp hm)
      have hk : d.day = 31 := by rw [hk, hm]; rfl
      rw [lt_def, hm, hk] at h
      have hrange : YearInRange (d.year + 1) := by
        obtain hlt | ⟨-, hlt | ⟨-, hlt⟩⟩ := h
        · exact ⟨hyear.1.trans (Int.le_add_one (Int.le_refl _)), hlt⟩
        · exact absurd hlt (by decide)
        · exact absurd hlt (by decide)
      exact ⟨⟨d.year + 1, 1, 1, isCalendarDate_first hrange (by decide)⟩, .year ⟨hm, hk⟩ rfl rfl rfl⟩

/-- The day after a day is the one with the next number. -/
theorem isNext_iff {d e : Date} : d.IsNext e ↔ e.dayNumber = d.dayNumber + 1 := by
  constructor
  · exact IsNext.dayNumber_eq
  · intro h
    have hlt : d < e := dayNumber_lt_iff.mp (by omega)
    obtain ⟨e', he'⟩ := exists_isNext (hlt.trans_le e.le_last)
    have heq : e' = e := dayNumber_inj.mp (he'.dayNumber_eq.trans h.symm)
    exact heq ▸ he'

/-- The first day of the year one. -/
def epoch : Date := ⟨1, 1, 1, by decide⟩

theorem dayNumber_epoch : epoch.dayNumber = 1 := by decide

/-- The function counts the days of the calendar one by one, and the first day of the year one as 1. -/
structure IsDayCount (count : Date → Int) : Prop where
  epoch : count epoch = 1
  next : ∀ d e, d.IsNext e → count e = count d + 1

theorem isDayCount_dayNumber : IsDayCount dayNumber :=
  ⟨dayNumber_epoch, fun _ _ => IsNext.dayNumber_eq⟩

/-- What holds of the first day of the year one, and of two days in a row together, holds always. -/
theorem forall_of_isNext {P : Date → Prop} (hepoch : P epoch)
    (hnext : ∀ d e, d.IsNext e → (P d ↔ P e)) (d : Date) : P d := by
  suffices hall : ∀ n : Int, ∀ d : Date, d.dayNumber = n → P d from hall _ d rfl
  intro n
  have hrange := exists_dayNumber_eq_iff.mp ⟨epoch, dayNumber_epoch⟩
  induction n using Int.inductionOn' (b := 1) with
  | zero =>
    intro d hd
    rwa [dayNumber_inj.mp (hd.trans dayNumber_epoch.symm)]
  | succ k hk ih =>
    intro d hd
    have hlast := (exists_dayNumber_eq_iff.mp ⟨d, hd⟩).2
    obtain ⟨e, he⟩ := exists_dayNumber_eq_iff.mpr ⟨hrange.1.trans hk, by omega⟩
    exact (hnext e d (isNext_iff.mpr (by omega))).mp (ih e he)
  | pred k hk ih =>
    intro d hd
    have hfirst := (exists_dayNumber_eq_iff.mp ⟨d, hd⟩).1
    obtain ⟨e, he⟩ := exists_dayNumber_eq_iff.mpr ⟨by omega, hk.trans hrange.2⟩
    exact (hnext d e (isNext_iff.mpr (by omega))).mpr (ih e he)

/-- There is no other day count. -/
theorem isDayCount_iff {count : Date → Int} : IsDayCount count ↔ count = dayNumber := by
  constructor
  · intro h
    refine funext (forall_of_isNext (h.epoch.trans dayNumber_epoch.symm) fun d e hde => ?_)
    rw [h.next d e hde, hde.dayNumber_eq]
    omega
  · rintro rfl
    exact isDayCount_dayNumber

end Date

end Fieldwise
