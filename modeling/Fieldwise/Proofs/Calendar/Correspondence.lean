import Fieldwise.Proofs.Calendar.Shift

/-!
Two years of one length. Leap years have the same days as each other, and so have common years. A day of
one year, shifted, and the same day of the other, shifted alike, come to the same day of the two years
again or leave both on the same side. What lies further off is not compared: there the leap years stand
at other distances.
-/

namespace Fieldwise

/-! ### The days of a year -/

section Years
variable {year year' : Int}

theorem monthLength_congr (hleap : isLeapYear year = isLeapYear year') (month : Nat) :
    monthLength year month = monthLength year' month := by
  unfold monthLength
  rw [hleap]

theorem daysBeforeMonth_congr (hleap : isLeapYear year = isLeapYear year') (month : Nat) :
    daysBeforeMonth year month = daysBeforeMonth year' month := by
  induction month with
  | zero => rfl
  | succ month ih => rw [daysBeforeMonth_succ, daysBeforeMonth_succ, ih, monthLength_congr hleap]

theorem yearLength_congr (hleap : isLeapYear year = isLeapYear year') :
    yearLength year = yearLength year' := by
  unfold yearLength
  rw [hleap]

/-- The years can be represented and have the same days. -/
structure SameLength (year year' : Int) : Prop where
  inRange : YearInRange year
  inRange' : YearInRange year'
  isLeapYear_eq : isLeapYear year = isLeapYear year'

namespace SameLength

theorem symm (h : SameLength year year') : SameLength year' year :=
  ⟨h.inRange', h.inRange, h.isLeapYear_eq.symm⟩

theorem isCalendarDate_iff (h : SameLength year year') (month day : Nat) :
    IsCalendarDate year month day ↔ IsCalendarDate year' month day := by
  unfold IsCalendarDate
  rw [monthLength_congr h.isLeapYear_eq]
  exact ⟨fun hd => ⟨h.inRange', hd.2⟩, fun hd => ⟨h.inRange, hd.2⟩⟩

end SameLength

end Years

namespace Date
variable {year year' : Int} {a a' b b' : Date} {n : Int}

theorem year_lt_iff {d : Date} : d.year < year ↔ d.dayNumber ≤ daysBeforeYear year := by
  obtain ⟨hlt, hle⟩ := d.dayNumber_mem_year
  rw [← daysBeforeYear_succ] at hle
  constructor
  · intro h
    exact hle.trans (daysBeforeYear_mono (Int.add_one_le_iff.mpr h))
  · intro h
    by_contra hge
    have := daysBeforeYear_mono (Int.not_lt.mp hge)
    omega

theorem lt_year_iff {d : Date} :
    year < d.year ↔ daysBeforeYear year + yearLength year < d.dayNumber := by
  rw [← daysBeforeYear_succ, ← not_le, ← not_le, ← Int.lt_add_one_iff, year_lt_iff]

/-! ### One day in two years -/

/-- The dates lie in the two years, in the same month and on the same day of it. -/
structure SameDay (year year' : Int) (d d' : Date) : Prop where
  year_eq : d.year = year
  year_eq' : d'.year = year'
  month_eq : d.month = d'.month
  day_eq : d.day = d'.day

/-- The dates are the same day of the two years, or both lie before the years, or both after them. -/
inductive Corresponds (year year' : Int) (d d' : Date) : Prop where
  | within (h : SameDay year year' d d')
  | earlier (h : d.year < year) (h' : d'.year < year')
  | later (h : year < d.year) (h' : year' < d'.year)

namespace SameDay

theorem truncate (h : SameDay year year' a a') (g : Granularity) :
    SameDay year year' (g.truncate a) (g.truncate a') := by
  cases g with
  | day => exact h
  | month => exact ⟨h.year_eq, h.year_eq', h.month_eq, rfl⟩
  | year => exact ⟨h.year_eq, h.year_eq', rfl, rfl⟩

/-- The dates are equally many days from the start of their years. -/
theorem dayNumber_eq (h : SameDay year year' a a') (hleap : isLeapYear year = isLeapYear year') :
    a.dayNumber - daysBeforeYear year = a'.dayNumber - daysBeforeYear year' := by
  unfold dayNumber
  rw [h.year_eq, h.year_eq', h.month_eq, h.day_eq, daysBeforeMonth_congr hleap]
  omega

/-- Days of the two years that are equally far from the start are the same day. -/
theorem of_dayNumber_eq (hleap : isLeapYear year = isLeapYear year') (hb : b.year = year)
    (hb' : b'.year = year')
    (h : b.dayNumber - daysBeforeYear year = b'.dayNumber - daysBeforeYear year') :
    SameDay year year' b b' := by
  have hyears : SameLength year year' := ⟨hb ▸ b.valid.1, hb' ▸ b'.valid.1, hleap⟩
  have hvalid : IsCalendarDate year' b.month b.day :=
    (hyears.isCalendarDate_iff _ _).mp (hb ▸ b.valid)
  have hmoved : SameDay year year' b ⟨year', b.month, b.day, hvalid⟩ := ⟨hb, rfl, rfl, rfl⟩
  have hnumber := hmoved.dayNumber_eq hleap
  have heq : (⟨year', b.month, b.day, hvalid⟩ : Date) = b' := dayNumber_inj.mp (by omega)
  exact heq ▸ hmoved

end SameDay

namespace Corresponds

theorem truncate (h : Corresponds year year' a a') (g : Granularity) :
    Corresponds year year' (g.truncate a) (g.truncate a') := by
  have hkept : ∀ d : Date, (g.truncate d).year = d.year := fun d => by cases g <;> rfl
  rcases h with h | ⟨h, h'⟩ | ⟨h, h'⟩
  · exact .within (h.truncate g)
  · exact .earlier ((hkept a).symm ▸ h) ((hkept a').symm ▸ h')
  · exact .later ((hkept a).symm ▸ h) ((hkept a').symm ▸ h')

/-- A day of the one year lies to a date as the same day of the other year lies to the date that
    corresponds. -/
theorem lt_iff_lt (h : Corresponds year year' b b') (ha : SameDay year year' a a') :
    (a < b ↔ a' < b') ∧ (b < a ↔ b' < a') := by
  obtain ⟨hy, hy', hm, hd⟩ := ha
  rw [lt_def, lt_def, lt_def, lt_def]
  rcases h with ⟨hby, hby', hbm, hbd⟩ | ⟨h, h'⟩ | ⟨h, h'⟩
  · omega
  · omega
  · omega

theorem addDays? (hleap : isLeapYear year = isLeapYear year') (h : SameDay year year' a a')
    (hb : a.addDays? n = some b) (hb' : a'.addDays? n = some b') : Corresponds year year' b b' := by
  rw [addDays?_eq_some_iff] at hb hb'
  have hdistance : b.dayNumber - daysBeforeYear year = b'.dayNumber - daysBeforeYear year' := by
    have := h.dayNumber_eq hleap
    omega
  have hlength := yearLength_congr hleap
  rcases Int.lt_trichotomy b.year year with hlt | heq | hgt
  · refine .earlier hlt ?_
    rw [year_lt_iff] at hlt ⊢
    omega
  · refine .within (.of_dayNumber_eq hleap heq ?_ hdistance)
    have hnot : ¬ b'.year < year' ∧ ¬ year' < b'.year := by
      have hnot : ¬ b.year < year ∧ ¬ year < b.year := by omega
      rw [year_lt_iff, lt_year_iff] at hnot ⊢
      omega
    omega
  · refine .later hgt ?_
    rw [lt_year_iff] at hgt ⊢
    omega

theorem addMonths? (hleap : isLeapYear year = isLeapYear year') (h : SameDay year year' a a')
    (hb : a.addMonths? n = some b) (hb' : a'.addMonths? n = some b') :
    Corresponds year year' b b' := by
  obtain ⟨hindex, hday⟩ := addMonths?_eq_some_iff.mp hb
  obtain ⟨hindex', hday'⟩ := addMonths?_eq_some_iff.mp hb'
  obtain ⟨hy, hy', hm, hd⟩ := h
  have hb := b.valid.2.1
  have hb' := b'.valid.2.1
  unfold monthIndex at hindex hindex'
  rcases Int.lt_trichotomy b.year year with hlt | heq | hgt
  · exact .earlier hlt (by omega)
  · have heq' : b'.year = year' := by omega
    have hmonth : b.month = b'.month := by omega
    refine .within ⟨heq, heq', hmonth, ?_⟩
    rw [hday, hday', heq, heq', hmonth, hd, monthLength_congr hleap]
  · exact .later hgt (by omega)

/-- One day of two years of one length, shifted alike, comes to dates that correspond. -/
theorem shift? (hleap : isLeapYear year = isLeapYear year') (h : SameDay year year' a a')
    {o : Offset} (hb : o.shift? a = some b) (hb' : o.shift? a' = some b') :
    Corresponds year year' b b' := by
  unfold Offset.shift? at hb hb'
  cases hunit : o.unit with
  | days =>
    rw [hunit] at hb hb'
    exact addDays? hleap h hb hb'
  | months =>
    rw [hunit] at hb hb'
    exact addMonths? hleap h hb hb'
  | years =>
    rw [hunit] at hb hb'
    exact addMonths? hleap h hb hb'

end Corresponds

end Date

end Fieldwise
