import Fieldwise.Proofs.Calendar.Date
import Mathlib.Order.Lattice

/-!
Periods of different granularities. Granularities are ordered from fine to coarse. To forget first what
is finer than one granularity and then what is finer than a coarser one is to forget the latter at once,
so periods compare like any dates that lie in them. Dates that differ at a granularity differ in the same
direction at every finer one; this is why the periods that lie before one another do so transitively,
though each two of them are compared at a granularity of their own.
-/

namespace Fieldwise

namespace Granularity
variable {g g' : Granularity} {a b : Date}

/-- The place of a granularity when the finest comes first. -/
def rank : Granularity → Nat
  | day => 0
  | month => 1
  | year => 2

theorem rank_injective : Function.Injective rank := by
  intro g g' h
  revert h
  cases g <;> cases g' <;> decide

/-- A granularity is less than every coarser one. -/
instance : LinearOrder Granularity := LinearOrder.lift' rank rank_injective

theorem coarsest_eq_max (g g' : Granularity) : g.coarsest g' = max g g' := by
  cases g <;> cases g' <;> rfl

/-- What is forgotten at a granularity counts at no coarser one. -/
theorem truncate_truncate_of_le (h : g ≤ g') (d : Date) :
    g'.truncate (g.truncate d) = g'.truncate d := by
  revert h
  cases g <;> cases g' <;> first | exact fun _ => rfl | exact fun h => absurd h (by decide)

theorem truncate_le_of_le (h : g ≤ g') (hle : g.truncate a ≤ g.truncate b) :
    g'.truncate a ≤ g'.truncate b := by
  have hcoarse := g'.truncate_mono hle
  rwa [truncate_truncate_of_le h, truncate_truncate_of_le h] at hcoarse

/-- Dates that differ at a granularity differ in the same direction at every finer one. -/
theorem truncate_lt_of_le (h : g ≤ g') (hlt : g'.truncate a < g'.truncate b) :
    g.truncate a < g.truncate b :=
  lt_imp_lt_of_le_imp_le (truncate_le_of_le h) hlt

end Granularity

namespace Period
variable {a b c : Period}

theorem compare_eq (a b : Period) :
    a.compare b = Ord.compare ((max a.granularity b.granularity).truncate a.start)
      ((max a.granularity b.granularity).truncate b.start) := by
  rw [compare, Granularity.coarsest_eq_max]

theorem compare_eq_lt_iff : a.compare b = .lt ↔
    (max a.granularity b.granularity).truncate a.start <
      (max a.granularity b.granularity).truncate b.start := by
  rw [compare_eq, compare_lt_iff_lt]

theorem compare_containing (d e : Date) (g h : Granularity) :
    (containing d g).compare (containing e h) =
      Ord.compare ((max g h).truncate d) ((max g h).truncate e) := by
  have hd := Granularity.truncate_truncate_of_le (le_max_left g h) d
  have he := Granularity.truncate_truncate_of_le (le_max_right g h) e
  rw [compare_eq]
  show Ord.compare ((max g h).truncate (g.truncate d)) ((max g h).truncate (h.truncate e)) = _
  rw [hd, he]

theorem swap_compare (a b : Period) : (a.compare b).swap = b.compare a := by
  rw [compare_eq, compare_eq, max_comm]
  exact Std.OrientedOrd.eq_swap.symm

theorem compare_lt_trans (hab : a.compare b = .lt) (hbc : b.compare c = .lt) : a.compare c = .lt := by
  rw [compare_eq_lt_iff] at hab hbc ⊢
  rcases le_total b.granularity (max a.granularity c.granularity) with hb | hb
  · -- One of the ends is coarsest. It is compared with the middle at its own granularity, which is
    -- coarse enough for the other end not to pass the middle.
    rcases le_total a.granularity c.granularity with hac | hac
    · rw [max_eq_right hac] at hb ⊢
      rw [max_eq_right hb] at hbc
      exact lt_of_le_of_lt (Granularity.truncate_le_of_le (max_le hac hb) hab.le) hbc
    · rw [max_eq_left hac] at hb ⊢
      rw [max_eq_left hb] at hab
      exact lt_of_lt_of_le hab (Granularity.truncate_le_of_le (max_le hb hac) hbc.le)
  · -- The middle is coarsest, and both ends are on different sides of it.
    rw [max_eq_right ((le_max_left _ _).trans hb)] at hab
    rw [max_eq_left ((le_max_right _ _).trans hb)] at hbc
    exact Granularity.truncate_lt_of_le hb (hab.trans hbc)

/-- Two periods compare at the coarser of their granularities like any dates that lie in them: it loses
    nothing that each of them has forgotten the rest of its date before. The comparison turned around is
    the reverse, and periods of whatever granularities that lie before one another do so transitively. -/
theorem mixed_granularities_compare_lawfully :
    (∀ (d e : Date) (g h : Granularity), (containing d g).compare (containing e h) =
      Ord.compare ((max g h).truncate d) ((max g h).truncate e)) ∧
    (∀ a b : Period, b.compare a = (a.compare b).swap) ∧
    ∀ a b c : Period, a.compare b = .lt → b.compare c = .lt → a.compare c = .lt :=
  ⟨compare_containing, fun a b => (swap_compare a b).symm, fun _ _ _ => compare_lt_trans⟩

/-- Two days of one month are equal to the month and not to each other. A day, a month and a year that
    follow upon one another stand in order from the first to the last. -/
theorem day_month_and_year_in_order :
    let day : Period := .containing ⟨2023, 12, 31, by decide⟩ .day
    let month : Period := .containing ⟨2024, 1, 20, by decide⟩ .month
    let year : Period := .containing ⟨2025, 6, 4, by decide⟩ .year
    (Period.containing ⟨2024, 1, 3, by decide⟩ .day).compare month = .eq ∧
      month.compare (.containing ⟨2024, 1, 31, by decide⟩ .day) = .eq ∧
      (Period.containing ⟨2024, 1, 3, by decide⟩ .day).compare
        (.containing ⟨2024, 1, 31, by decide⟩ .day) = .lt ∧
      day.compare month = .lt ∧ month.compare year = .lt ∧ day.compare year = .lt ∧
      year.compare day = .gt := by
  intro day month year
  obtain ⟨hcontaining, hswap, htrans⟩ := mixed_granularities_compare_lawfully
  have hfirst : day.compare month = .lt := by
    rw [hcontaining]
    decide
  have hsecond : month.compare year = .lt := by
    rw [hcontaining]
    decide
  have hends := htrans day month year hfirst hsecond
  refine ⟨by decide, by decide, by decide, hfirst, hsecond, hends, ?_⟩
  rw [hswap day year, hends]
  rfl

end Period

end Fieldwise
