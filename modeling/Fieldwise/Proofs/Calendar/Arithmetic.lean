import Fieldwise.Proofs.Calendar.Shift
import Mathlib.Algebra.Group.Int.Defs
import Mathlib.Algebra.Group.Nat.Defs

/-!
Shifts as arithmetic. A shift by months or years gives the month that an addition without bounds gives,
and fails exactly where the year of that month cannot be represented; a shift by days gives the day that
counting gives. The same dates come out when the amount is a word of 32 bits, the months of a year are
multiplied with a check for overflow, and the sign is split off before the months are counted forwards
or backwards: no overflow on the way is mistaken for a date, and none hides one.
-/

namespace Fieldwise

/-! ### Words of 32 bits -/

namespace Word

/-- The product of two words, unless it overflows. -/
def product? (a b : Int32) : Option Int32 :=
  if (a * b).toInt = a.toInt * b.toInt then some (a * b) else none

/-- The magnitude of a word, as a word without a sign; that of the least word is no word with a sign. -/
def magnitude (a : Int32) : UInt32 := if 0 ≤ a then a.toUInt32 else -a.toUInt32

theorem product?_eq_some_iff {a b c : Int32} :
    product? a b = some c ↔ c.toInt = a.toInt * b.toInt := by
  unfold product?
  constructor
  · intro h
    obtain ⟨hexact, hc⟩ := Option.ite_none_right_eq_some.mp h
    rwa [Option.some.inj hc] at hexact
  · intro h
    have hc : c = a * b := by
      rw [← Int32.toInt_inj, Int32.toInt_mul, ← h]
      exact c.toInt_bmod.symm
    rw [← hc, if_pos h]

theorem product?_eq_none_iff {a b : Int32} :
    product? a b = none ↔ ¬ (-2 ^ 31 ≤ a.toInt * b.toInt ∧ a.toInt * b.toInt < 2 ^ 31) := by
  constructor
  · rintro hnone ⟨hle, hlt⟩
    have hsome : product? a b = some (.ofInt (a.toInt * b.toInt)) :=
      product?_eq_some_iff.mpr (Int32.toInt_ofInt_of_le hle hlt)
    rw [hnone] at hsome
    cases hsome
  · intro hout
    rw [Option.eq_none_iff_forall_ne_some]
    intro c hc
    rw [product?_eq_some_iff] at hc
    exact hout (hc ▸ ⟨c.le_toInt, c.toInt_lt⟩)

theorem toInt_eq_toNat (a : Int32) : a.toInt =
    if 2 * a.toUInt32.toNat < 2 ^ 32 then (a.toUInt32.toNat : Int)
    else (a.toUInt32.toNat : Int) - (2 ^ 32 : Nat) :=
  BitVec.toInt_eq_toNat_cond a.toBitVec

theorem toNat_magnitude (a : Int32) : (magnitude a).toNat = a.toInt.natAbs := by
  have hvalue := toInt_eq_toNat a
  have hlt := a.toUInt32.toNat_lt
  unfold magnitude
  split
  · next hpos =>
    have hpos : 0 ≤ a.toInt := Int32.le_iff_toInt_le.mp hpos
    omega
  · next hneg =>
    have hneg : ¬ 0 ≤ a.toInt := fun h => hneg (Int32.le_iff_toInt_le.mpr h)
    rw [UInt32.toNat_neg, UInt32.size]
    omega

end Word

namespace Date

/-! ### Months -/

/-- Every number of months leads into one month of one year. -/
theorem exists_month (d : Date) (n : Int) : ∃ (y : Int) (m : Nat), (1 ≤ m ∧ m ≤ 12) ∧
    12 * y + ((m : Int) - 1) = 12 * d.year + ((d.month : Int) - 1) + n := by
  refine ⟨(12 * d.year + ((d.month : Int) - 1) + n) / 12,
    ((12 * d.year + ((d.month : Int) - 1) + n) % 12).toNat + 1, ?_, ?_⟩
  · omega
  · omega

section Months
variable {d : Date} {n y : Int} {m : Nat} (hm : 1 ≤ m ∧ m ≤ 12)
  (hindex : 12 * y + ((m : Int) - 1) = 12 * d.year + ((d.month : Int) - 1) + n)
include hm hindex

theorem addMonths?_eq_some_iff_of_index {e : Date} :
    d.addMonths? n = some e ↔ e.year = y ∧ e.month = m ∧ e.day = min d.day (monthLength y m) := by
  have he := e.valid.2.1
  have hd := d.valid.2.1
  have hmonth : e.monthIndex = d.monthIndex + n ↔ e.year = y ∧ e.month = m := by
    unfold monthIndex
    omega
  rw [addMonths?_eq_some_iff, hmonth, and_assoc]
  refine and_congr_right fun hyear => and_congr_right fun hmonth => ?_
  rw [hyear, hmonth]

theorem exists_addMonths? (hy : YearInRange y) : ∃ e, d.addMonths? n = some e ∧
    e.year = y ∧ e.month = m ∧ e.day = min d.day (monthLength y m) := by
  have hday : 1 ≤ min d.day (monthLength y m) :=
    le_min d.day_pos ((by decide : 1 ≤ 28).trans (le_monthLength hm.1 hm.2))
  let e : Date := ⟨y, m, min d.day (monthLength y m), hy, hm, hday, min_le_right _ _⟩
  exact ⟨e, (addMonths?_eq_some_iff_of_index hm hindex).mpr ⟨rfl, rfl, rfl⟩, rfl, rfl, rfl⟩

theorem addMonths?_eq_none (hy : ¬ YearInRange y) : d.addMonths? n = none := by
  rw [Option.eq_none_iff_forall_ne_some]
  intro e he
  obtain ⟨hyear, -⟩ := (addMonths?_eq_some_iff_of_index hm hindex).mp he
  exact hy (hyear ▸ e.valid.1)

end Months

/-- A number of months leads to no date exactly when the year of its month cannot be represented. -/
theorem addMonths?_eq_none_iff {d : Date} {n : Int} :
    d.addMonths? n = none ↔ ¬ YearInRange ((d.monthIndex + n) / 12) := by
  obtain ⟨y, m, hm, hindex⟩ := d.exists_month n
  have hd := d.valid.2.1
  have hyear : (d.monthIndex + n) / 12 = y := by
    unfold monthIndex
    omega
  rw [hyear]
  constructor
  · intro hnone hy
    obtain ⟨e, he, -⟩ := exists_addMonths? hm hindex hy
    cases hnone.symm.trans he
  · exact addMonths?_eq_none hm hindex

/-- A number of months that is no word of 32 bits leads out of the years that can be represented. -/
theorem addMonths?_eq_none_of_overflow {d : Date} {n : Int} (h : ¬ (-2 ^ 31 ≤ n ∧ n < 2 ^ 31)) :
    d.addMonths? n = none := by
  rw [addMonths?_eq_none_iff]
  refine fun hy => h ?_
  have hd := d.valid.2.1
  have hyear := d.valid.1
  unfold YearInRange minYear maxYear monthIndex at hy
  unfold YearInRange minYear maxYear at hyear
  omega

/-! ### Days -/

section Days
variable {count : Date → Int} {d : Date} {n : Int}

theorem addDays?_eq_some_iff_of_isDayCount (h : IsDayCount count) {e : Date} :
    d.addDays? n = some e ↔ count e = count d + n := by
  rw [isDayCount_iff.mp h]
  exact addDays?_eq_some_iff

theorem addDays?_eq_none_iff_of_isDayCount (h : IsDayCount count) :
    d.addDays? n = none ↔ ¬ (count first ≤ count d + n ∧ count d + n ≤ count last) := by
  rw [isDayCount_iff.mp h, ← exists_dayNumber_eq_iff, Option.eq_none_iff_forall_ne_some, not_exists]
  exact forall_congr' fun e => not_congr addDays?_eq_some_iff

end Days

end Date

/-! ### Shifts that leave the range -/

namespace Offset
variable {o : Offset} {d : Date}

/-- The shift leads beyond the first or the last day, counted in days, or into a year that is not
    represented, counted in months or years. -/
def LeavesRange (o : Offset) (d : Date) : Prop :=
  match o.unit with
  | .days => ¬ (Date.first.dayNumber ≤ d.dayNumber + o.amount ∧
      d.dayNumber + o.amount ≤ Date.last.dayNumber)
  | .months => ¬ YearInRange ((d.monthIndex + o.amount) / 12)
  | .years => ¬ YearInRange (d.year + o.amount)

theorem shift?_eq_none_iff : o.shift? d = none ↔ o.LeavesRange d := by
  obtain ⟨n, unit⟩ := o
  cases unit with
  | days => exact Date.addDays?_eq_none_iff_of_isDayCount Date.isDayCount_dayNumber
  | months => exact Date.addMonths?_eq_none_iff
  | years =>
    have hd := d.valid.2.1
    have hyear : (d.monthIndex + 12 * n) / 12 = d.year + n := by
      unfold Date.monthIndex
      omega
    rw [LeavesRange, ← hyear]
    exact Date.addMonths?_eq_none_iff

instance (o : Offset) (d : Date) : Decidable (o.LeavesRange d) :=
  decidable_of_iff _ shift?_eq_none_iff

end Offset

namespace Date

/-! ### Shifts by words -/

/-- Counts months forwards or backwards, as the sign of the word says. -/
def countMonths? (d : Date) (months : Int32) : Option Date :=
  if 0 ≤ months then d.addMonths? (Word.magnitude months).toNat
  else d.addMonths? (-(Word.magnitude months).toNat)

/-- Shifts a date by an amount that is a word; a number of years is turned into a word of months. -/
def shiftByWord? (d : Date) (amount : Int32) : OffsetUnit → Option Date
  | .days => d.addDays? amount.toInt
  | .months => d.countMonths? amount
  | .years => (Word.product? amount 12).bind d.countMonths?

theorem countMonths?_eq (d : Date) (months : Int32) :
    d.countMonths? months = d.addMonths? months.toInt := by
  unfold countMonths?
  rw [Word.toNat_magnitude]
  split
  · next hpos =>
    have hpos : 0 ≤ months.toInt := Int32.le_iff_toInt_le.mp hpos
    rw [Int.natAbs_of_nonneg hpos]
  · next hneg =>
    have hneg : ¬ 0 ≤ months.toInt := fun h => hneg (Int32.le_iff_toInt_le.mpr h)
    rw [Int.ofNat_natAbs_of_nonpos (by omega), Int.neg_neg]

/-- In words of 32 bits every shift comes to the same. -/
theorem shiftByWord?_eq (d : Date) (amount : Int32) (unit : OffsetUnit) :
    d.shiftByWord? amount unit = Offset.shift? ⟨amount.toInt, unit⟩ d := by
  cases unit with
  | days => rfl
  | months => exact countMonths?_eq d amount
  | years =>
    show (Word.product? amount 12).bind d.countMonths? = d.addMonths? (12 * amount.toInt)
    have htwelve : (12 : Int32).toInt = 12 := rfl
    cases hproduct : Word.product? amount 12 with
    | some months =>
      rw [Word.product?_eq_some_iff, htwelve] at hproduct
      rw [Option.bind_some, countMonths?_eq, hproduct, Int.mul_comm]
    | none =>
      rw [Word.product?_eq_none_iff, htwelve, Int.mul_comm] at hproduct
      exact (addMonths?_eq_none_of_overflow hproduct).symm

end Date

/-- A shift by months or years comes to the month that the addition without bounds gives, with the day
    cut down to its length, and to no date exactly when the year cannot be represented. A shift by days
    comes to the day that every count of the days gives, and to no date exactly when the count leaves
    the days that there are. Nothing is changed by an amount of zero, and in words of 32 bits it all
    comes to the same. -/
theorem Offset.shift_is_calendar_arithmetic (d : Date) :
    (∀ n unit k, (unit, k) ∈ [(OffsetUnit.months, n), (OffsetUnit.years, 12 * n)] →
      ∃ (y : Int) (m : Nat), (1 ≤ m ∧ m ≤ 12) ∧
        12 * y + ((m : Int) - 1) = 12 * d.year + ((d.month : Int) - 1) + k ∧
        (-262143 ≤ y ∧ y ≤ 262142 → ∃ e, Offset.shift? ⟨n, unit⟩ d = some e ∧
          e.year = y ∧ e.month = m ∧ e.day = min d.day (monthLength y m)) ∧
        (¬ (-262143 ≤ y ∧ y ≤ 262142) → Offset.shift? ⟨n, unit⟩ d = none)) ∧
    (∀ count, Date.IsDayCount count → ∀ n,
      (∀ e, Offset.shift? ⟨n, .days⟩ d = some e ↔ count e = count d + n) ∧
      (Offset.shift? ⟨n, .days⟩ d = none ↔
        ¬ (count .first ≤ count d + n ∧ count d + n ≤ count .last))) ∧
    (∀ unit, Offset.shift? ⟨0, unit⟩ d = some d) ∧
    ∀ (n : Int32) unit, d.shiftByWord? n unit = Offset.shift? ⟨n.toInt, unit⟩ d := by
  refine ⟨fun n unit k hk => ?_, fun count hcount n => ⟨fun e => ?_, ?_⟩, fun unit => ?_,
    d.shiftByWord?_eq⟩
  · obtain ⟨y, m, hm, hindex⟩ := d.exists_month k
    have hshift : Offset.shift? ⟨n, unit⟩ d = d.addMonths? k := by
      simp only [List.mem_cons, Prod.mk.injEq, List.not_mem_nil, or_false] at hk
      rcases hk with ⟨rfl, rfl⟩ | ⟨rfl, rfl⟩ <;> rfl
    rw [hshift]
    exact ⟨y, m, hm, hindex, Date.exists_addMonths? hm hindex, Date.addMonths?_eq_none hm hindex⟩
  · exact Date.addDays?_eq_some_iff_of_isDayCount hcount
  · exact Date.addDays?_eq_none_iff_of_isDayCount hcount
  · exact shift?_of_amount_eq_zero rfl d

/-- A year before the end of February, the same by days, and the least word of years: its months are no
    word any more, and by words as well as by unbounded numbers it leads to no date. -/
theorem leap_day_by_years_days_and_the_least_word :
    let d : Date := ⟨2024, 2, 29, by decide⟩
    (∃ e, Offset.shift? ⟨-1, .years⟩ d = some e ∧ e.year = 2023 ∧ e.month = 2 ∧ e.day = 28) ∧
    Offset.shift? ⟨-366, .days⟩ d = some ⟨2023, 2, 28, by decide⟩ ∧
    Word.product? Int32.minValue 12 = none ∧ d.shiftByWord? Int32.minValue .years = none := by
  intro d
  obtain ⟨hmonths, hdays, -, hwords⟩ := Offset.shift_is_calendar_arithmetic d
  refine ⟨?_, ?_, by decide, ?_⟩
  · obtain ⟨y, m, hm, hindex, hin, -⟩ := hmonths (-1) .years (-12) (by simp)
    change 12 * y + ((m : Int) - 1) = 12 * 2024 + (2 - 1) + -12 at hindex
    obtain rfl : y = 2023 := by omega
    obtain rfl : m = 2 := by omega
    exact hin (by decide)
  · exact ((hdays Date.dayNumber Date.isDayCount_dayNumber (-366)).1 _).mpr (by decide)
  · obtain ⟨y, m, hm, hindex, -, hout⟩ :=
      hmonths Int32.minValue.toInt .years (12 * Int32.minValue.toInt) (by simp)
    change 12 * y + ((m : Int) - 1) = 12 * 2024 + (2 - 1) + 12 * -2147483648 at hindex
    rw [hwords]
    exact hout (by omega)

end Fieldwise
