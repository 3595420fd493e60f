import Fieldwise.Calendar.Offset
import Fieldwise.Proofs.Calendar.DayNumber

/-!
Shifted dates. A shift by days adds to the day number; a shift by months adds to the number of the
month and cuts the day down to the length of the month. Nothing changes when the amount is zero, and
every shift keeps the order of dates, though several days may be cut down to one.
-/

namespace Fieldwise

namespace Date

/-- The number of the month of a date, the first month of the year zero being month 0. -/
def monthIndex (d : Date) : Int := 12 * d.year + (d.month - 1 : Nat)

theorem monthIndex_eq_iff {a b : Date} :
    a.monthIndex = b.monthIndex ↔ a.year = b.year ∧ a.month = b.month := by
  have ha := a.valid.2.1
  have hb := b.valid.2.1
  unfold monthIndex
  omega

theorem le_iff_monthIndex {a b : Date} :
    a ≤ b ↔ a.monthIndex < b.monthIndex ∨ a.monthIndex = b.monthIndex ∧ a.day ≤ b.day := by
  have ha := a.valid.2.1
  have hb := b.valid.2.1
  rw [le_iff, monthIndex_eq_iff]
  unfold monthIndex
  omega

theorem addDays?_eq_some_iff {d e : Date} {n : Int} :
    d.addDays? n = some e ↔ e.dayNumber = d.dayNumber + n := ofDayNumber?_eq_some_iff

theorem addMonths?_eq_some_iff {d e : Date} {n : Int} :
    d.addMonths? n = some e ↔
      e.monthIndex = d.monthIndex + n ∧ e.day = min d.day (monthLength e.year e.month) := by
  have hparts : e.monthIndex = d.monthIndex + n ↔ e.year = (d.monthIndex + n) / 12 ∧
      e.month = ((d.monthIndex + n) % 12).toNat + 1 := by
    have he := e.valid.2.1
    generalize d.monthIndex + n = index
    unfold monthIndex
    omega
  rw [hparts, addMonths?, ofParts?_eq_some_iff, and_assoc]
  refine and_congr_right fun hyear => and_congr_right fun hmonth => ?_
  rw [hyear, hmonth]

theorem addDays?_zero (d : Date) : d.addDays? 0 = some d :=
  addDays?_eq_some_iff.mpr (Int.add_zero _).symm

theorem addMonths?_zero (d : Date) : d.addMonths? 0 = some d :=
  addMonths?_eq_some_iff.mpr ⟨(Int.add_zero _).symm, (Nat.min_eq_left d.day_le).symm⟩

section Order
variable {a b a' b' : Date} {n : Int}

theorem addDays?_mono (h : a ≤ b) (ha : a.addDays? n = some a') (hb : b.addDays? n = some b') :
    a' ≤ b' := by
  rw [addDays?_eq_some_iff] at ha hb
  rw [← dayNumber_le_iff] at h ⊢
  omega

theorem addMonths?_mono (h : a ≤ b) (ha : a.addMonths? n = some a')
    (hb : b.addMonths? n = some b') : a' ≤ b' := by
  obtain ⟨hindex, hday⟩ := addMonths?_eq_some_iff.mp ha
  obtain ⟨hindex', hday'⟩ := addMonths?_eq_some_iff.mp hb
  rw [le_iff_monthIndex] at h ⊢
  rcases h with hlt | ⟨heq, hle⟩
  · exact Or.inl (by omega)
  · -- Both dates come into one month, whose length cuts both days down.
    have hsame : a'.monthIndex = b'.monthIndex := by omega
    obtain ⟨hyear, hmonth⟩ := monthIndex_eq_iff.mp hsame
    rw [hyear, hmonth] at hday
    exact Or.inr ⟨hsame, by omega⟩

end Order

end Date

namespace Offset

theorem shift?_of_amount_eq_zero {o : Offset} (h : o.amount = 0) (d : Date) : o.shift? d = some d := by
  unfold shift?
  rw [h]
  split
  · exact d.addDays?_zero
  · exact d.addMonths?_zero
  · exact d.addMonths?_zero

/-- A shift keeps the order of the dates that it shifts. -/
theorem shift?_mono {o : Offset} {a b a' b' : Date} (h : a ≤ b) (ha : o.shift? a = some a')
    (hb : o.shift? b = some b') : a' ≤ b' := by
  unfold shift? at ha hb
  split at ha
  · next hunit =>
    rw [hunit] at hb
    exact Date.addDays?_mono h ha hb
  · next hunit =>
    rw [hunit] at hb
    exact Date.addMonths?_mono h ha hb
  · next hunit =>
    rw [hunit] at hb
    exact Date.addMonths?_mono h ha hb

end Offset

end Fieldwise
