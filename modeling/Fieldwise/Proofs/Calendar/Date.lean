import Fieldwise.Calendar.Period
import Mathlib.Order.Monotone.Basic

/-!
The days of the calendar and their order. Only February has not the same days in every year. Dates are
linearly ordered by year, month and day; to forget what is finer than a granularity keeps the order,
and two periods of one granularity compare like their first days.
-/

namespace Fieldwise

/-! ### Days of a month -/

theorem monthLength_eq_of_ne_two {month : Nat} (h : month ≠ 2) (year year' : Int) :
    monthLength year month = monthLength year' month := by
  rw [monthLength, monthLength, if_neg h, if_neg h]

theorem monthLength_two (year : Int) :
    monthLength year 2 = if isLeapYear year = true then 29 else 28 := rfl

theorem isCalendarDate_leapDay_iff {year : Int} (hy : YearInRange year) :
    IsCalendarDate year 2 29 ↔ isLeapYear year = true := by
  rw [IsCalendarDate, monthLength_two]
  constructor
  · rintro ⟨-, -, -, hle⟩
    by_contra hleap
    rw [if_neg hleap] at hle
    omega
  · intro hleap
    rw [if_pos hleap]
    exact ⟨hy, by decide, by decide, le_refl 29⟩

theorem isCalendarDate_first {year : Int} {month : Nat} (hy : YearInRange year)
    (hm : 1 ≤ month ∧ month ≤ 12) : IsCalendarDate year month 1 :=
  ⟨hy, hm, le_refl 1, le_trans (by decide) (le_monthLength hm.1 hm.2)⟩

/-- Every day of the calendar but the last of February of a leap year comes in every year. -/
theorem isCalendarDate_of_ne_leapDay {year : Int} (hy : YearInRange year) (d : Date)
    (h : ¬ (d.month = 2 ∧ d.day = 29)) : IsCalendarDate year d.month d.day := by
  refine ⟨hy, d.valid.2.1, d.day_pos, ?_⟩
  have hle := d.day_le
  by_cases hm : d.month = 2
  · have h28 : 28 ≤ monthLength year 2 := le_monthLength (by decide) (by decide)
    have h29 : monthLength d.year 2 ≤ 29 := by
      rw [monthLength_two]
      split <;> decide
    rw [hm] at hle ⊢
    have hne : d.day ≠ 29 := fun hd => h ⟨hm, hd⟩
    omega
  · rwa [monthLength_eq_of_ne_two hm year d.year]

/-! ### The order of dates -/

namespace Date

theorem le_iff {a b : Date} : a ≤ b ↔
    a.year < b.year ∨ a.year = b.year ∧ (a.month < b.month ∨ a.month = b.month ∧ a.day ≤ b.day) := by
  rw [le_def, lt_def]
  omega

instance : LinearOrder Date where
  le_refl a := by
    rw [le_iff]
    omega
  le_trans a b c hab hbc := by
    rw [le_iff] at hab hbc ⊢
    omega
  lt_iff_le_not_ge a b := by
    rw [le_def, le_def, lt_def, lt_def]
    omega
  le_antisymm a b hab hba := by
    rw [le_iff] at hab hba
    ext <;> omega
  le_total a b := by
    rw [le_iff, le_iff]
    omega
  toDecidableLE := inferInstance
  toDecidableLT := inferInstance
  toDecidableEq := inferInstance
  compare_eq_compareOfLessAndEq a b := by
    have heq : a = b ↔ ¬ a < b ∧ ¬ b < a := by
      rw [lt_def, lt_def, Date.ext_iff]
      omega
    by_cases hlt : a < b
    · simp [Ord.compare, compareOfLessAndEq, hlt]
    · by_cases hgt : b < a <;> simp [Ord.compare, compareOfLessAndEq, hlt, hgt, heq]

theorem year_mono {a b : Date} (h : a ≤ b) : a.year ≤ b.year := by
  rw [le_iff] at h
  omega

end Date

/-! ### Periods -/

namespace Granularity

theorem truncate_mono (g : Granularity) {a b : Date} (h : a ≤ b) : g.truncate a ≤ g.truncate b := by
  cases g with
  | day => exact h
  | month =>
    rw [Date.le_iff] at h ⊢
    simp only [truncate, Date.firstOfMonth]
    omega
  | year =>
    have hyear := Int.lt_or_eq_of_le (Date.year_mono h)
    rw [Date.le_iff]
    simpa [truncate, Date.firstOfYear] using hyear

theorem coarsest_self (g : Granularity) : g.coarsest g = g := by cases g <;> rfl

end Granularity

namespace Period

theorem compare_of_granularity_eq {p q : Period} (h : p.granularity = q.granularity) :
    p.compare q = Ord.compare p.start q.start := by
  rw [compare, ← h, Granularity.coarsest_self, p.truncate_start, h, q.truncate_start]

theorem ext_start {p q : Period} (h : p.granularity = q.granularity) (hs : p.start = q.start) :
    p = q := by
  obtain ⟨s, g, hp⟩ := p
  obtain ⟨s', g', hq⟩ := q
  cases h
  cases hs
  rfl

end Period

end Fieldwise
