import Fieldwise.Proofs.Calendar.Shift

/-!
Shifts compared with each other. The greater of two amounts of one unit leads to the later date, and of two
dates that are shifted alike the later one stays the later one, though months may bring both to one day. To
shift a date forth and back gives it again when days are counted; when months are counted it gives a day of
the same month, and what is lost is what lay beyond the end of the month in between.
-/

namespace Fieldwise

namespace Date

section Order
variable {a b d : Date} {m n : Int}

theorem addDays?_strictMono {a' b' : Date} (h : a < b) (ha : a.addDays? n = some a')
    (hb : b.addDays? n = some b') : a' < b' := by
  rw [addDays?_eq_some_iff] at ha hb
  rw [← dayNumber_lt_iff] at h ⊢
  omega

theorem addDays?_lt_addDays? (h : m < n) (ha : d.addDays? m = some a) (hb : d.addDays? n = some b) :
    a < b := by
  rw [addDays?_eq_some_iff] at ha hb
  rw [← dayNumber_lt_iff]
  omega

theorem lt_of_monthIndex_lt (h : a.monthIndex < b.monthIndex) : a < b := by
  rw [← not_le, le_iff_monthIndex]
  omega

theorem addMonths?_lt_addMonths? (h : m < n) (ha : d.addMonths? m = some a)
    (hb : d.addMonths? n = some b) : a < b := by
  obtain ⟨hindex, -⟩ := addMonths?_eq_some_iff.mp ha
  obtain ⟨hindex', -⟩ := addMonths?_eq_some_iff.mp hb
  exact lt_of_monthIndex_lt (by omega)

end Order

section Back
variable {d e : Date} {n : Int}

theorem addDays?_neg (h : d.addDays? n = some e) : e.addDays? (-n) = some d := by
  rw [addDays?_eq_some_iff] at h ⊢
  omega

/-- The day in the month of `d` to which the way back leads from `e`: the same day of the month, unless the
    month of `e` is too short to have it. -/
def returnFrom (d e : Date) : Date where
  year := d.year
  month := d.month
  day := min d.day (monthLength e.year e.month)
  valid := by
    have hlength : 28 ≤ monthLength e.year e.month := le_monthLength e.month_pos e.month_le
    have hday := d.day_pos
    exact ⟨d.valid.1, d.valid.2.1, by omega, (Nat.min_le_left _ _).trans d.day_le⟩

theorem returnFrom_le (d e : Date) : d.returnFrom e ≤ d :=
  le_iff.mpr (Or.inr ⟨rfl, Or.inr ⟨rfl, Nat.min_le_left _ _⟩⟩)

theorem addMonths?_neg (h : d.addMonths? n = some e) : e.addMonths? (-n) = some (d.returnFrom e) := by
  obtain ⟨hindex, hday⟩ := addMonths?_eq_some_iff.mp h
  have hback : (d.returnFrom e).monthIndex = d.monthIndex := monthIndex_eq_iff.mpr ⟨rfl, rfl⟩
  have hle := d.day_le
  refine addMonths?_eq_some_iff.mpr ⟨by omega, ?_⟩
  -- The month of `d` has room for its own day, so only the month in between cuts it down.
  show min d.day (monthLength e.year e.month) = min e.day (monthLength d.year d.month)
  omega

end Back

/-! ### Amounts within the range -/

theorem natAbs_le_of_addDays? {d e : Date} {n : Int} (h : d.addDays? n = some e) :
    n.natAbs ≤ last.dayNumber - first.dayNumber := by
  rw [addDays?_eq_some_iff] at h
  have hd := exists_dayNumber_eq_iff.mp ⟨d, rfl⟩
  have he := exists_dayNumber_eq_iff.mp ⟨e, rfl⟩
  omega

theorem natAbs_lt_of_addMonths? {d e : Date} {n : Int} (h : d.addMonths? n = some e) :
    n.natAbs < 12 * (maxYear - minYear + 1) := by
  have hindex := (addMonths?_eq_some_iff.mp h).1
  have hd := d.valid.1
  have hmonth := d.valid.2.1
  have he := e.valid.1
  have hmonth' := e.valid.2.1
  unfold YearInRange at hd he
  unfold monthIndex at hindex
  omega

end Date

namespace Offset
variable {unit : OffsetUnit} {m n : Int} {d e a b : Date}

theorem shift?_lt_shift? (h : m < n) (ha : shift? ⟨m, unit⟩ d = some a)
    (hb : shift? ⟨n, unit⟩ d = some b) : a < b := by
  cases unit with
  | days => exact Date.addDays?_lt_addDays? h ha hb
  | months => exact Date.addMonths?_lt_addMonths? h ha hb
  | years =>
    have hmonths : 12 * m < 12 * n := by omega
    exact Date.addMonths?_lt_addMonths? hmonths ha hb

theorem shift?_neg (h : shift? ⟨n, unit⟩ d = some e) :
    shift? ⟨-n, unit⟩ e = some (if unit = .days then d else d.returnFrom e) := by
  cases unit with
  | days => exact Date.addDays?_neg h
  | months => exact Date.addMonths?_neg h
  | years =>
    show e.addMonths? (12 * -n) = some (d.returnFrom e)
    rw [Int.mul_neg]
    exact Date.addMonths?_neg h

/-- An amount that leads to a date is one of 32 bits, and so is the opposite amount. -/
theorem fitsInt32_of_shift? (h : shift? ⟨n, unit⟩ d = some e) :
    Numeral.FitsInt32 n ∧ Numeral.FitsInt32 (-n) := by
  unfold Numeral.FitsInt32
  cases unit with
  | days =>
    have hle := Date.natAbs_le_of_addDays? h
    have hrange : Date.last.dayNumber - Date.first.dayNumber ≤ 2147483647 := by decide
    dsimp only at hle
    omega
  | months =>
    have hlt := Date.natAbs_lt_of_addMonths? h
    unfold maxYear minYear at hlt
    dsimp only at hlt
    omega
  | years =>
    have hlt := Date.natAbs_lt_of_addMonths? h
    unfold maxYear minYear at hlt
    dsimp only at hlt
    omega

/-- A shift keeps the order of the dates, and a shift by days keeps different dates apart. A greater amount
    leads to a later date. What was shifted can be shifted back by the opposite amount, which is one of 32
    bits: by days to the date itself, by months and years to the month of the date and to its day, or to the
    last day that the month in between has if that is earlier. -/
theorem shifts_keep_order_and_lead_back (unit : OffsetUnit) (n : Int) (d : Date) :
    (∀ e d' e', d ≤ e → shift? ⟨n, unit⟩ d = some d' → shift? ⟨n, unit⟩ e = some e' →
      d' ≤ e' ∧ (unit = .days → d < e → d' < e')) ∧
    (∀ m d' e', n < m → shift? ⟨n, unit⟩ d = some d' → shift? ⟨m, unit⟩ d = some e' → d' < e') ∧
    ∀ d', shift? ⟨n, unit⟩ d = some d' → Numeral.FitsInt32 (-n) ∧
      ∃ back, shift? ⟨-n, unit⟩ d' = some back ∧ back ≤ d ∧ (unit = .days → back = d) ∧
        (unit ≠ .days → back.year = d.year ∧ back.month = d.month ∧
          back.day = min d.day (monthLength d'.year d'.month)) := by
  refine ⟨fun e d' e' hle hd he => ⟨shift?_mono hle hd he, ?_⟩, fun m d' e' => shift?_lt_shift?,
    fun d' hd => ⟨(fitsInt32_of_shift? hd).2, _, shift?_neg hd, ?_⟩⟩
  · rintro rfl hlt
    exact Date.addDays?_strictMono hlt hd he
  · by_cases hunit : unit = .days
    · rw [if_pos hunit]
      exact ⟨le_refl d, fun _ => rfl, fun hne => absurd hunit hne⟩
    · rw [if_neg hunit]
      exact ⟨d.returnFrom_le d', fun hdays => absurd hdays hunit, fun _ => ⟨rfl, rfl, rfl⟩⟩

/-- The last two days of January come to one day a month later, from which both would come back to the 28th;
    a month more is later still. By days they stay apart, and each comes back to itself. -/
theorem last_days_of_january_meet_in_february :
    let d : Date := ⟨2023, 1, 30, by decide⟩
    let e : Date := ⟨2023, 1, 31, by decide⟩
    let february : Date := ⟨2023, 2, 28, by decide⟩
    let march : Date := ⟨2023, 3, 2, by decide⟩
    shift? ⟨1, .months⟩ d = some february ∧ shift? ⟨1, .months⟩ e = some february ∧
      february < ⟨2023, 3, 30, by decide⟩ ∧
      (∃ back, shift? ⟨-1, .months⟩ february = some back ∧ back ≤ d ∧ back.month = 1 ∧ back.day = 28) ∧
      shift? ⟨31, .days⟩ d = some march ∧ march < ⟨2023, 3, 3, by decide⟩ ∧
      ∃ back, shift? ⟨-31, .days⟩ march = some back ∧ back = d := by
  intro d e february march
  have hd : shift? ⟨1, .months⟩ d = some february := by decide
  have hd' : shift? ⟨31, .days⟩ d = some march := by decide
  obtain ⟨-, hlater, hback⟩ := shifts_keep_order_and_lead_back .months 1 d
  obtain ⟨horder, -, hback'⟩ := shifts_keep_order_and_lead_back .days 31 d
  obtain ⟨-, back, hshift, hle, -, hparts⟩ := hback _ hd
  obtain ⟨-, hmonth, hday⟩ := hparts (by decide)
  obtain ⟨-, back', hshift', -, hsame, -⟩ := hback' _ hd'
  have he' : shift? ⟨31, .days⟩ e = some ⟨2023, 3, 3, by decide⟩ := by decide
  have hapart := (horder e march _ (by decide) hd' he').2 rfl (by decide)
  exact ⟨hd, by decide, hlater 2 _ _ (by decide) hd (by decide), ⟨back, hshift, hle, hmonth, hday⟩, hd',
    hapart, back', hshift', hsame rfl⟩

end Offset

end Fieldwise
