import Fieldwise.Decimal.Numeral
import Fieldwise.Decimal.Shortest
import Mathlib.Algebra.Order.Field.Power
import Mathlib.Algebra.Order.Group.Unbundled.Abs
import Mathlib.Tactic.FieldSimp
import Mathlib.Tactic.Linarith
import Mathlib.Tactic.Positivity
import Mathlib.Tactic.Ring

/-!
The shortest decimal of a floating point number. It rounds to the number, so it lies within half a place of
it, and no decimal that rounds to the number is a multiple of a greater power of ten. A multiple of the last
binary place can therefore not lie between a number and its shortest decimal: the one is whole if the other
is, and the two lie on the same side of such a multiple.
-/

namespace Fieldwise

/-! ### Powers of two and of ten -/

theorem two_pow_zpow_le {a b : ℕ} (hle : 2 ^ a ≤ 10 ^ b) (hge : 10 ^ b ≤ 2 ^ (a + 1)) {p : ℤ}
    (hp : -a ≤ p) : ((2 : ℚ) ^ a) ^ p ≤ 10 ^ a * (10 ^ b) ^ p := by
  have hle : (2 : ℚ) ^ a ≤ 10 ^ b := by exact_mod_cast hle
  have hge : (10 : ℚ) ^ b ≤ 2 ^ (a + 1) := by exact_mod_cast hge
  obtain ⟨m, rfl | rfl⟩ := p.eq_nat_or_neg
  · rw [zpow_natCast, zpow_natCast]
    calc ((2 : ℚ) ^ a) ^ m ≤ (10 ^ b) ^ m := pow_le_pow_left₀ (by positivity) hle m
      _ ≤ 10 ^ a * (10 ^ b) ^ m := le_mul_of_one_le_left (by positivity) (one_le_pow₀ (by norm_num))
  · rw [zpow_neg, zpow_neg, zpow_natCast, zpow_natCast, inv_le_comm₀ (by positivity) (by positivity),
      mul_inv, inv_inv, inv_mul_le_iff₀ (by positivity)]
    calc ((10 : ℚ) ^ b) ^ m ≤ (2 ^ (a + 1)) ^ m := pow_le_pow_left₀ (by positivity) hge m
      _ = 2 ^ m * (2 ^ a) ^ m := by rw [pow_succ, mul_pow, mul_comm]
      _ ≤ 10 ^ a * (2 ^ a) ^ m := by
        refine mul_le_mul_of_nonneg_right ?_ (by positivity)
        calc (2 : ℚ) ^ m ≤ 10 ^ m := pow_le_pow_left₀ (by norm_num) (by norm_num) m
          _ ≤ 10 ^ a := pow_le_pow_right₀ (by norm_num) (by omega)

/-- If `a` binary places are a little less than `b` decimal ones, then two decimal places more than `b / a`
    of the binary places are enough, as long as these are not too far below the point. -/
theorem two_zpow_le_ten_zpow {a b : ℕ} (ha : 0 < a) (hle : 2 ^ a ≤ 10 ^ b) (hge : 10 ^ b ≤ 2 ^ (a + 1))
    {p : ℤ} (hp : -a ≤ p) : (2 : ℚ) ^ p ≤ 10 ^ (p * b / a + 2) := by
  have hdiv : p * b < (p * b / a + 1) * a := Int.lt_ediv_add_one_mul_self _ (by omega)
  refine le_of_pow_le_pow_left₀ ha.ne' (by positivity) ?_
  calc ((2 : ℚ) ^ p) ^ a = (2 ^ a) ^ p := by
        rw [← zpow_natCast, ← zpow_natCast, ← zpow_mul, ← zpow_mul, mul_comm]
    _ ≤ 10 ^ a * (10 ^ b) ^ p := two_pow_zpow_le hle hge hp
    _ = 10 ^ (a + b * p : ℤ) := by
        rw [zpow_add₀ (by norm_num), zpow_mul, zpow_natCast, zpow_natCast]
    _ ≤ 10 ^ ((p * b / a + 2) * a) := zpow_le_zpow_right₀ (by norm_num) (by linarith)
    _ = (10 ^ (p * b / a + 2)) ^ a := by rw [zpow_mul, zpow_natCast]

theorem exists_natCast_eq_mul_zpow (m b : ℕ) {e : ℤ} (h : 0 ≤ e) : ∃ n : ℕ, (m : ℚ) * b ^ e = n := by
  obtain ⟨k, rfl⟩ := Int.eq_ofNat_of_zero_le h
  exact ⟨m * b ^ k, by push_cast; rw [zpow_natCast]⟩

/-- A multiple of a power of ten is one of the power of two with the same exponent, and of the lesser ones. -/
theorem exists_mul_two_zpow {e : ℤ} {t : ℕ} (h : e ≤ t) (m : ℕ) :
    ∃ a : ℤ, (a : ℚ) * 2 ^ e = m * 10 ^ t := by
  obtain ⟨d, hd⟩ := Int.eq_ofNat_of_zero_le (sub_nonneg.mpr h)
  refine ⟨m * 5 ^ t * 2 ^ d, ?_⟩
  rw [show e = t - d by omega, zpow_sub₀ (by norm_num), zpow_natCast, zpow_natCast,
    show (10 : ℚ) = 5 * 2 by norm_num, mul_pow]
  push_cast
  field_simp

/-! ### What decimals and magnitudes stand for -/

namespace Decimal

/-- What a decimal stands for. -/
def toRat (d : Decimal) : ℚ := d.digits * 10 ^ d.exponent

/-- A decimal is below a power of ten exactly when its leading digit is. -/
theorem toRat_lt_pow_iff {d : Decimal} (h : 0 < d.digits) {t : ℤ} :
    d.toRat < 10 ^ t ↔ d.exponent + (Numeral.natural d.digits).length ≤ t := by
  obtain ⟨len, hlen⟩ := Nat.exists_eq_succ_of_ne_zero
    (List.length_pos_iff.mpr (Numeral.natural_ne_nil d.digits)).ne'
  have hlt : d.digits < 10 ^ (len + 1) :=
    (Nat.length_toDigits_le_iff (by decide) (Nat.succ_pos len)).mp hlen.le
  have hge : 10 ^ len ≤ d.digits := by
    rcases Nat.eq_zero_or_pos len with rfl | hpos
    · exact h
    · exact le_of_not_gt fun hd =>
        absurd ((Nat.length_toDigits_le_iff (by decide) hpos).mpr hd) (by
          rw [Numeral.natural] at hlen
          omega)
  have hunit : (0 : ℚ) < 10 ^ d.exponent := by positivity
  have hupper : d.toRat < 10 ^ (d.exponent + len.succ) := by
    rw [toRat, zpow_add₀ (by norm_num), mul_comm, zpow_natCast]
    exact mul_lt_mul_of_pos_left (by exact_mod_cast hlt) hunit
  have hlower : 10 ^ (d.exponent + len) ≤ d.toRat := by
    rw [toRat, zpow_add₀ (by norm_num), mul_comm (d.digits : ℚ), zpow_natCast]
    exact mul_le_mul_of_nonneg_left (by exact_mod_cast hge) hunit.le
  rw [hlen]
  constructor
  · intro hd
    have hexponent := (zpow_lt_zpow_iff_right₀ (by norm_num)).mp (hlower.trans_lt hd)
    push_cast
    omega
  · exact fun ht => hupper.trans_le (zpow_le_zpow_right₀ (by norm_num) ht)

end Decimal

namespace Magnitude

/-- What a magnitude stands for. -/
def toRat (x : Magnitude) : ℚ := x.mantissa * 2 ^ x.exponent

/-- The number rounds to the magnitude: it lies between the half ways to the neighbours, which count
    themselves when the mantissa is even. -/
def Covers (x : Magnitude) (r : ℚ) : Prop :=
  if x.mantissa % 2 = 0 then x.lower * 2 ^ (x.exponent - 2) ≤ r ∧ r ≤ x.upper * 2 ^ (x.exponent - 2)
  else x.lower * 2 ^ (x.exponent - 2) < r ∧ r < x.upper * 2 ^ (x.exponent - 2)

variable {x : Magnitude} {tie : Tie} {j k : ℤ} {n : ℕ} {r s : ℚ}

/-! ### The common unit -/

/-- How many of the units in which `gridStep` and `quarter` count make one. -/
def unit (x : Magnitude) (k : ℤ) : ℚ := 10 ^ (-k).toNat * 2 ^ (2 - x.exponent).toNat

theorem unit_pos : 0 < x.unit k := by
  unfold unit
  positivity

theorem pow_toNat {b : ℚ} (hb : b ≠ 0) (k : ℤ) : b ^ k.toNat = b ^ k * b ^ (-k).toNat := by
  rw [← zpow_natCast b k.toNat, ← zpow_natCast b (-k).toNat, ← zpow_add₀ hb]
  congr 1
  omega

theorem gridStep_eq : (x.gridStep k : ℚ) = 10 ^ k * x.unit k := by
  have hstep : x.gridStep k = 10 ^ k.toNat * 2 ^ (2 - x.exponent).toNat := rfl
  rw [hstep, unit]
  push_cast
  rw [pow_toNat (by norm_num) k]
  ring

theorem quarter_eq : (x.quarter k : ℚ) = 2 ^ (x.exponent - 2) * x.unit k := by
  have hquarter : x.quarter k = 2 ^ (x.exponent - 2).toNat * 10 ^ (-k).toNat := rfl
  rw [hquarter, unit]
  push_cast
  rw [pow_toNat (by norm_num) (x.exponent - 2), neg_sub]
  ring

theorem gridStep_pos : 0 < x.gridStep k := by
  have h : (0 : ℚ) < x.gridStep k := by
    rw [gridStep_eq]
    exact mul_pos (by positivity) unit_pos
  exact_mod_cast h

/-! ### What rounds to the number -/

theorem readsBack_iff : x.readsBack k n = true ↔ x.Covers (n * 10 ^ k) := by
  have hscale : ∀ m : ℕ, (m * x.quarter k ≤ n * x.gridStep k ↔
      (m : ℚ) * 2 ^ (x.exponent - 2) ≤ n * 10 ^ k) ∧
      (n * x.gridStep k ≤ m * x.quarter k ↔ (n : ℚ) * 10 ^ k ≤ m * 2 ^ (x.exponent - 2)) := by
    intro m
    rw [← Nat.cast_le (α := ℚ), ← Nat.cast_le (α := ℚ)]
    push_cast
    rw [gridStep_eq, quarter_eq, ← mul_assoc, ← mul_assoc, mul_le_mul_iff_left₀ unit_pos,
      mul_le_mul_iff_left₀ unit_pos]
    exact ⟨Iff.rfl, Iff.rfl⟩
  unfold readsBack Covers
  split
  · simp only [Bool.and_eq_true, decide_eq_true_eq, (hscale _).1, (hscale _).2]
  · simp only [Bool.and_eq_true, decide_eq_true_eq, ← not_le, (hscale _).1, (hscale _).2]

theorem Covers.between {t : ℚ} (hr : x.Covers r) (ht : x.Covers t) (hrs : r ≤ s) (hst : s ≤ t) :
    x.Covers s := by
  unfold Covers at *
  split
  · next h =>
    rw [if_pos h] at hr ht
    exact ⟨hr.1.trans hrs, hst.trans ht.2⟩
  · next h =>
    rw [if_neg h] at hr ht
    exact ⟨hr.1.trans_le hrs, hst.trans_lt ht.2⟩

theorem two_zpow_eq_four_mul (e : ℤ) : (2 : ℚ) ^ e = 4 * 2 ^ (e - 2) := by
  rw [zpow_sub₀ (by norm_num)]
  norm_num
  ring

theorem covers_toRat (h : x.mantissa ≠ 0) : x.Covers x.toRat := by
  have hpos : (0 : ℚ) < 2 ^ (x.exponent - 2) := by positivity
  have hmantissa : x.toRat = (4 * x.mantissa : ℕ) * 2 ^ (x.exponent - 2) := by
    rw [toRat, two_zpow_eq_four_mul]
    push_cast
    ring
  have hlower : x.lower < 4 * x.mantissa := by
    unfold lower
    split <;> omega
  have hlow : (x.lower : ℚ) * 2 ^ (x.exponent - 2) < x.toRat := by
    rw [hmantissa]
    exact mul_lt_mul_of_pos_right (Nat.cast_lt.mpr hlower) hpos
  have hhigh : x.toRat < (x.upper : ℚ) * 2 ^ (x.exponent - 2) := by
    rw [hmantissa]
    exact mul_lt_mul_of_pos_right (Nat.cast_lt.mpr (by unfold upper; omega)) hpos
  unfold Covers
  split
  · exact ⟨hlow.le, hhigh.le⟩
  · exact ⟨hlow, hhigh⟩

/-- What rounds to the number is within half of its last place. -/
theorem Covers.abs_sub_le (h : x.Covers r) : |r - x.toRat| ≤ 2 ^ x.exponent / 2 := by
  obtain ⟨hlow, hhigh⟩ : x.lower * 2 ^ (x.exponent - 2) ≤ r ∧ r ≤ x.upper * 2 ^ (x.exponent - 2) := by
    unfold Covers at h
    split at h
    · exact h
    · exact ⟨h.1.le, h.2.le⟩
  have hlower : (4 * x.mantissa - 2 : ℚ) ≤ x.lower := by
    have : 4 * x.mantissa ≤ x.lower + 2 := by
      unfold lower
      split <;> omega
    have : (4 * x.mantissa : ℚ) ≤ x.lower + 2 := by exact_mod_cast this
    linarith
  have hupper : (x.upper : ℚ) = 4 * x.mantissa + 2 := by
    unfold upper
    push_cast
    ring
  have hpos : (0 : ℚ) < 2 ^ (x.exponent - 2) := by positivity
  have hlow' := (mul_le_mul_of_nonneg_right hlower hpos.le).trans hlow
  rw [hupper] at hhigh
  rw [toRat, two_zpow_eq_four_mul, abs_le]
  constructor <;> linarith

theorem Covers.pos (h : x.Covers r) (hx : x.mantissa ≠ 0) : 0 < r := by
  have hplace : (0 : ℚ) < 2 ^ x.exponent := by positivity
  have hone : 2 ^ x.exponent ≤ x.toRat :=
    le_mul_of_one_le_left hplace.le (Nat.one_le_cast.mpr (Nat.pos_of_ne_zero hx))
  have hnear := (abs_le.mp h.abs_sub_le).1
  linarith

/-- The number is the only multiple of its last place within half of it. -/
theorem toRat_eq_of_abs_sub_le {a : ℤ} (h : |a * 2 ^ x.exponent - x.toRat| ≤ 2 ^ x.exponent / 2) :
    a * 2 ^ x.exponent = x.toRat := by
  have hpos : (0 : ℚ) < 2 ^ x.exponent := by positivity
  have hint : |a - (x.mantissa : ℤ)| < 1 := by
    rw [toRat, ← sub_mul, abs_mul, abs_of_pos hpos] at h
    have hhalf : |(a : ℚ) - x.mantissa| < 1 := by nlinarith
    exact_mod_cast hhalf
  rw [toRat, show a = x.mantissa by rw [Int.abs_lt_one_iff] at hint; omega, Int.cast_natCast]

/-! ### One grid -/

/-- The neighbour of the number on the grid of the multiples of `10 ^ k` that is not above it. -/
def below (x : Magnitude) (k : ℤ) : ℕ := 4 * x.mantissa * x.quarter k / x.gridStep k

theorem value_eq : ((4 * x.mantissa * x.quarter k : ℕ) : ℚ) = x.toRat * x.unit k := by
  push_cast
  rw [quarter_eq, toRat, two_zpow_eq_four_mul x.exponent]
  ring

theorem below_le : (x.below k : ℚ) * 10 ^ k ≤ x.toRat := by
  have h : x.below k * x.gridStep k ≤ 4 * x.mantissa * x.quarter k := Nat.div_mul_le_self _ _
  rw [← Nat.cast_le (α := ℚ), value_eq, Nat.cast_mul, gridStep_eq, ← mul_assoc] at h
  exact le_of_mul_le_mul_right h unit_pos

theorem lt_below_add_one : x.toRat < ((x.below k + 1 : ℕ) : ℚ) * 10 ^ k := by
  have h : 4 * x.mantissa * x.quarter k < (x.below k + 1) * x.gridStep k :=
    Nat.lt_mul_of_div_lt (Nat.lt_succ_self _) gridStep_pos
  rw [← Nat.cast_lt (α := ℚ), value_eq, Nat.cast_mul, gridStep_eq, ← mul_assoc] at h
  exact lt_of_mul_lt_mul_right h unit_pos.le

theorem covers_of_nearest? (h : x.nearest? tie k = some n) : x.Covers (n * 10 ^ k) := by
  rw [← readsBack_iff]
  simp only [nearest?] at h
  split at h
  · cases h
  · next hbelow _ =>
    cases h
    exact hbelow
  · next _ habove =>
    cases h
    exact habove
  · next hbelow habove =>
    have hboth : n = x.below k ∨ n = x.below k + 1 := by
      unfold below
      split at h <;> cases h
      · exact Or.inl rfl
      · exact Or.inr rfl
      · exact Or.inr rfl
      · split
        · exact Or.inl rfl
        · exact Or.inr rfl
    rcases hboth with rfl | rfl
    · exact hbelow
    · exact habove

/-- Nothing on the grid rounds to the number if neither neighbour does. -/
theorem not_covers_of_nearest? (hx : x.mantissa ≠ 0) (h : x.nearest? tie k = none) (n : ℕ) :
    ¬ x.Covers (n * 10 ^ k) := by
  obtain ⟨hbelow, habove⟩ : x.readsBack k (x.below k) = false ∧
      x.readsBack k (x.below k + 1) = false := by
    unfold below
    simp only [nearest?] at h
    split at h
    · next hbelow habove => exact ⟨hbelow, habove⟩
    · cases h
    · cases h
    · split at h <;> cases h
  rw [← Bool.not_eq_true, readsBack_iff] at hbelow habove
  have hgrid : (0 : ℚ) < 10 ^ k := by positivity
  intro hn
  rcases le_or_gt n (x.below k) with hle | hgt
  · have hn_le := mul_le_mul_of_nonneg_right (Nat.cast_le (α := ℚ).mpr hle) hgrid.le
    exact hbelow (hn.between (covers_toRat hx) hn_le below_le)
  · have hle_n := mul_le_mul_of_nonneg_right (Nat.cast_le (α := ℚ).mpr hgt) hgrid.le
    exact habove ((covers_toRat hx).between hn lt_below_add_one.le hle_n)

/-! ### Ever finer grids -/

/-- A search that comes to a grid on which a decimal rounds to the number ends there, or before. -/
theorem search_spec (hx : x.mantissa ≠ 0) {steps : ℕ} (hcovers : x.Covers (n * 10 ^ j)) (hj : j ≤ k)
    (hsteps : k < j + steps) :
    j ≤ (x.search tie k steps).exponent ∧ x.Covers (x.search tie k steps).toRat := by
  induction steps generalizing k with
  | zero => omega
  | succ steps ih =>
    unfold search
    cases hnearest : x.nearest? tie k with
    | some m => exact ⟨hj, covers_of_nearest? hnearest⟩
    | none =>
      have hne : j ≠ k := by
        rintro rfl
        exact not_covers_of_nearest? hx hnearest n hcovers
      exact ih (by omega) (by push_cast at hsteps; omega)

/-- A multiple of a power of two is one of the power of ten with the same exponent, or is whole. -/
theorem exists_eq_toRat (x : Magnitude) : ∃ n : ℕ, (n : ℚ) * 10 ^ min x.exponent 0 = x.toRat := by
  unfold toRat
  rcases le_or_gt 0 x.exponent with h | h
  · obtain ⟨n, hn⟩ := exists_natCast_eq_mul_zpow x.mantissa 2 h
    exact ⟨n, by rw [min_eq_right h, zpow_zero, mul_one, ← hn, Nat.cast_ofNat]⟩
  · obtain ⟨e, he⟩ := Int.eq_ofNat_of_zero_le (neg_nonneg.mpr h.le)
    refine ⟨x.mantissa * 5 ^ e, ?_⟩
    rw [min_eq_left h.le, show x.exponent = -(e : ℤ) by omega]
    push_cast
    rw [zpow_neg, zpow_neg, zpow_natCast, zpow_natCast, show (10 : ℚ) = 5 * 2 by norm_num, mul_pow]
    field_simp

theorem min_exponent_le_coarsestGrid : min x.exponent 0 ≤ x.coarsestGrid := by
  unfold coarsestGrid
  omega

theorem shortest_spec (hx : x.mantissa ≠ 0) (hcovers : x.Covers (n * 10 ^ j)) (hj : j ≤ x.coarsestGrid)
    (hmin : min x.exponent 0 ≤ j) :
    j ≤ (x.shortest tie).exponent ∧ x.Covers (x.shortest tie).toRat :=
  search_spec hx hcovers hj (by omega)

/-- The search ends by the grid of the last place, which holds the number itself. -/
theorem covers_shortest (tie : Tie) (hx : x.mantissa ≠ 0) :
    min x.exponent 0 ≤ (x.shortest tie).exponent ∧ x.Covers (x.shortest tie).toRat := by
  obtain ⟨n, hn⟩ := x.exists_eq_toRat
  exact shortest_spec hx (hn ▸ covers_toRat hx) min_exponent_le_coarsestGrid le_rfl

theorem abs_shortest_sub_le (tie : Tie) (hx : x.mantissa ≠ 0) :
    |(x.shortest tie).toRat - x.toRat| ≤ 2 ^ x.exponent / 2 :=
  (covers_shortest tie hx).2.abs_sub_le

theorem digits_shortest_pos (hx : x.mantissa ≠ 0) : 0 < (x.shortest tie).digits := by
  refine Nat.pos_of_ne_zero fun hzero => ?_
  have hpos := (covers_shortest tie hx).2.pos hx
  rw [Decimal.toRat, hzero, Nat.cast_zero, zero_mul] at hpos
  exact lt_irrefl _ hpos

/-! ### Numbers of 64 bits -/

/-- The mantissa has at most 53 binary digits, and as many unless its last place is the least there is. -/
structure IsDouble (x : Magnitude) : Prop where
  mantissa_lt : x.mantissa < 2 ^ 53
  least : -1074 ≤ x.exponent
  normal : -1074 < x.exponent → 2 ^ 52 ≤ x.mantissa

theorem isDouble_ofFields {exponentField fraction : ℕ} (h : fraction < 2 ^ 52) :
    (ofFields exponentField fraction).IsDouble := by
  unfold ofFields
  split
  · exact ⟨h.trans (by norm_num), le_rfl, fun hlt => absurd hlt (lt_irrefl _)⟩
  · exact ⟨by simp only; omega, by simp only; omega, fun _ => by simp only; omega⟩

namespace IsDouble
variable (h : x.IsDouble)
include h

theorem toRat_add_half_lt : x.toRat + 2 ^ x.exponent / 2 < 2 ^ (x.exponent + 53) := by
  have hmantissa : (x.mantissa : ℚ) + 1 ≤ 2 ^ 53 := by exact_mod_cast h.mantissa_lt
  have hplace : (0 : ℚ) < 2 ^ x.exponent := by positivity
  have hscaled := mul_le_mul_of_nonneg_right hmantissa hplace.le
  rw [toRat, zpow_add₀ (by norm_num), mul_comm _ (2 ^ (53 : ℤ)), zpow_ofNat]
  linarith

theorem lt_pow_coarsestGrid (hcovers : x.Covers r) : r < 10 ^ x.coarsestGrid := by
  have hpow : (2 : ℚ) ^ (x.exponent + 53) ≤ 10 ^ x.coarsestGrid := by
    have hleast := h.least
    exact two_zpow_le_ten_zpow (a := 100000) (b := 30103) (by decide) (by decide +kernel)
      (by decide +kernel) (by omega)
  have hnear := (abs_le.mp hcovers.abs_sub_le).2
  linarith [h.toRat_add_half_lt]

/-- No decimal that rounds to the number is a multiple of a greater power of ten than the shortest one. -/
theorem exponent_le_shortest (hx : x.mantissa ≠ 0) (hcovers : x.Covers (n * 10 ^ j)) :
    j ≤ (x.shortest tie).exponent := by
  have hgrid : (0 : ℚ) < 10 ^ j := by positivity
  have hn : (1 : ℚ) ≤ n := by
    refine Nat.one_le_cast.mpr (Nat.pos_of_ne_zero ?_)
    rintro rfl
    exact absurd (hcovers.pos hx) (by simp)
  have hj : (10 : ℚ) ^ j < 10 ^ x.coarsestGrid :=
    (le_mul_of_one_le_left hgrid.le hn).trans_lt (h.lt_pow_coarsestGrid hcovers)
  rcases le_or_gt (min x.exponent 0) j with hmin | hmin
  · exact (shortest_spec hx hcovers ((zpow_lt_zpow_iff_right₀ (by norm_num)).mp hj).le hmin).1
  · exact hmin.le.trans (covers_shortest tie hx).1

/-- The shortest decimal is written without a fraction exactly when the number is whole. -/
theorem shortest_exponent_nonneg_iff (hx : x.mantissa ≠ 0) :
    0 ≤ (x.shortest tie).exponent ↔ ∃ n : ℕ, x.toRat = n := by
  constructor
  · intro hexponent
    obtain ⟨n, hn⟩ := exists_natCast_eq_mul_zpow (x.shortest tie).digits 10 hexponent
    rcases le_or_gt 0 x.exponent with he | he
    · exact exists_natCast_eq_mul_zpow x.mantissa 2 he
    · -- A whole number is a multiple of the last place, so it is the number if it rounds to it.
      obtain ⟨a, ha⟩ := exists_mul_two_zpow (he.le.trans (Int.natCast_nonneg 0)) n
      rw [pow_zero, mul_one] at ha
      have hnear := abs_shortest_sub_le tie hx
      rw [show (x.shortest tie).toRat = n from hn, ← ha] at hnear
      exact ⟨n, (toRat_eq_of_abs_sub_le hnear).symm.trans ha⟩
  · rintro ⟨n, hn⟩
    refine h.exponent_le_shortest hx (n := n) ?_
    rw [zpow_zero, mul_one, ← hn]
    exact covers_toRat hx

theorem shortest_lt_iff_of_exponent_le (hx : x.mantissa ≠ 0) (he : x.exponent ≤ 21) :
    (x.shortest tie).toRat < 10 ^ 21 ↔ x.toRat < 10 ^ 21 := by
  obtain ⟨a, ha⟩ := exists_mul_two_zpow (t := 21) he 1
  rw [Nat.cast_one, one_mul] at ha
  -- `10 ^ 21` is a multiple of the last place, so it is the number if it lies between the two.
  have hbetween : |(10 : ℚ) ^ 21 - x.toRat| ≤ |(x.shortest tie).toRat - x.toRat| →
      (10 : ℚ) ^ 21 = x.toRat := by
    intro hle
    rw [← ha] at hle ⊢
    exact toRat_eq_of_abs_sub_le (hle.trans (abs_shortest_sub_le tie hx))
  constructor
  · intro hlt
    by_contra hge
    rw [not_lt] at hge
    have heq := hbetween (by rw [abs_of_nonpos, abs_of_nonpos] <;> linarith)
    -- Then the number is a decimal of one digit, and its shortest decimal is no finer.
    have hexponent : 21 ≤ (x.shortest tie).exponent := by
      refine h.exponent_le_shortest hx (n := 1) ?_
      rw [Nat.cast_one, one_mul, zpow_ofNat, heq]
      exact covers_toRat hx
    have hlead := (Decimal.toRat_lt_pow_iff (t := 21) (digits_shortest_pos hx)).mp hlt
    have hlen := List.length_pos_iff.mpr (Numeral.natural_ne_nil (x.shortest tie).digits)
    omega
  · intro hlt
    by_contra hge
    rw [not_lt] at hge
    have heq := hbetween (by rw [abs_of_pos, abs_of_pos] <;> linarith)
    linarith

theorem le_of_lt_exponent (tie : Tie) (hx : x.mantissa ≠ 0) (he : 21 < x.exponent) :
    10 ^ 21 ≤ (x.shortest tie).toRat ∧ 10 ^ 21 ≤ x.toRat := by
  have hmantissa : (2 : ℚ) ^ 52 ≤ x.mantissa := by exact_mod_cast h.normal (by omega)
  have hplace : (2 : ℚ) ^ (21 : ℤ) ≤ 2 ^ x.exponent := zpow_le_zpow_right₀ (by norm_num) he.le
  have htoRat : 2 ^ 52 * 2 ^ x.exponent ≤ x.toRat :=
    mul_le_mul_of_nonneg_right hmantissa (by positivity)
  have hlow := (abs_le.mp (abs_shortest_sub_le tie hx)).1
  rw [zpow_ofNat] at hplace
  constructor <;> linarith

/-- The number and its shortest decimal are on the same side of `10 ^ 21`. -/
theorem shortest_lt_iff (hx : x.mantissa ≠ 0) :
    (x.shortest tie).toRat < 10 ^ 21 ↔ x.toRat < 10 ^ 21 := by
  rcases le_or_gt x.exponent 21 with he | he
  · exact h.shortest_lt_iff_of_exponent_le hx he
  · obtain ⟨hshortest, hnumber⟩ := h.le_of_lt_exponent tie hx he
    exact iff_of_false (not_lt_of_ge hshortest) (not_lt_of_ge hnumber)

end IsDouble

end Magnitude

end Fieldwise
