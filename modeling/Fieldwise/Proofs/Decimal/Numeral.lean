import Fieldwise.Decimal.Numeral
import Mathlib.Algebra.Group.Nat.Defs

/-!
Numerals, read and written. Texts of equally many digits that stand for one number are equal, so
a number below `10 ^ width` has exactly one numeral of `width` digits, and reading a component of a
date undoes writing it. Integers of 32 bits are read from digits after at most one sign.
-/

namespace Fieldwise

/-- The text does not begin with a digit. -/
def NoDigitAhead (text : List Char) : Prop := ∀ c ∈ text.head?, c.isDigit = false

namespace Numeral

/-! ### Digits -/

theorem isDigit_iff {c : Char} : c.isDigit = true ↔ 48 ≤ c.toNat ∧ c.toNat ≤ 57 := by
  simp only [Char.isDigit, Bool.and_eq_true, decide_eq_true_eq, ge_iff_le, UInt32.le_iff_toNat_le]
  rfl

theorem ofDigitChars_cons (c : Char) (ds : List Char) :
    Nat.ofDigitChars 10 (c :: ds) 0 = 10 ^ ds.length * (c.toNat - 48) + Nat.ofDigitChars 10 ds 0 := by
  rw [Nat.ofDigitChars_cons, Nat.ofDigitChars_eq_ofDigitChars_zero, Nat.mul_zero, Nat.zero_add]
  rfl

theorem ofDigitChars_lt {ds : List Char} (h : ∀ c ∈ ds, c.isDigit = true) :
    Nat.ofDigitChars 10 ds 0 < 10 ^ ds.length := by
  induction ds with
  | nil => simp
  | cons c ds ih =>
    rw [List.forall_mem_cons, isDigit_iff] at h
    have hrest := ih h.2
    have hdigit : 10 ^ ds.length * (c.toNat - 48) ≤ 10 ^ ds.length * 9 :=
      Nat.mul_le_mul_left _ (by omega)
    rw [ofDigitChars_cons, List.length_cons, Nat.pow_succ]
    omega

/-- Two texts of equally many digits that stand for one number are equal. -/
theorem ofDigitChars_inj {a b : List Char} (ha : ∀ c ∈ a, c.isDigit = true)
    (hb : ∀ c ∈ b, c.isDigit = true) (hlen : a.length = b.length)
    (h : Nat.ofDigitChars 10 a 0 = Nat.ofDigitChars 10 b 0) : a = b := by
  induction a generalizing b with
  | nil => exact (List.length_eq_zero_iff.mp hlen.symm).symm
  | cons c a ih =>
    cases b with
    | nil => cases hlen
    | cons d b =>
      rw [List.forall_mem_cons, isDigit_iff] at ha hb
      have hlen' : a.length = b.length := Nat.succ.inj hlen
      have hla := ofDigitChars_lt ha.2
      have hlb := ofDigitChars_lt hb.2
      rw [ofDigitChars_cons, ofDigitChars_cons, hlen'] at h
      rw [hlen'] at hla
      -- The first digits are the quotients by the weight of their place.
      have hfirst : c.toNat - 48 = d.toNat - 48 := by
        have := congrArg (· / 10 ^ b.length) h
        simpa only [Nat.mul_add_div (Nat.lt_of_le_of_lt (Nat.zero_le _) hla),
          Nat.div_eq_of_lt hla, Nat.div_eq_of_lt hlb, Nat.add_zero] using this
      have hcd : c = d := Char.toNat_inj.mp (by omega)
      rw [hfirst] at h
      rw [hcd, ih ha.2 hb.2 hlen' (Nat.add_left_cancel h)]

/-! ### Digits in a text -/

section Ahead
variable {digits text : List Char}

theorem takeWhile_isDigit_append (hdigits : ∀ d ∈ digits, d.isDigit = true)
    (h : NoDigitAhead text) : (digits ++ text).takeWhile Char.isDigit = digits := by
  rw [List.takeWhile_append_of_pos hdigits]
  cases text with
  | nil => rw [List.takeWhile_nil, List.append_nil]
  | cons c text => rw [List.takeWhile_cons_of_neg (by simp [h c rfl]), List.append_nil]

theorem dropWhile_isDigit_append (hdigits : ∀ d ∈ digits, d.isDigit = true)
    (h : NoDigitAhead text) : (digits ++ text).dropWhile Char.isDigit = text := by
  rw [List.dropWhile_append_of_pos hdigits]
  cases text with
  | nil => rfl
  | cons c text => rw [List.dropWhile_cons_of_neg (by simp [h c rfl])]

end Ahead

/-! ### Padding -/

theorem padded_eq (width n : Nat) :
    padded width n = List.replicate (width - (natural n).length) '0' ++ natural n := rfl

theorem isDigit_of_mem_padded {width n : Nat} {c : Char} (h : c ∈ padded width n) :
    c.isDigit = true := by
  rw [padded_eq, List.mem_append] at h
  rcases h with h | h
  · rw [(List.mem_replicate.mp h).2]
    rfl
  · exact isDigit_of_mem_natural h

theorem ofDigitChars_padded (width n : Nat) : Nat.ofDigitChars 10 (padded width n) 0 = n := by
  rw [padded_eq, Nat.ofDigitChars_append, Nat.ofDigitChars_replicate_zero, Nat.mul_zero, natural,
    Nat.ofDigitChars_ten_toDigits]

theorem length_padded {width n : Nat} (hpos : 0 < width) (h : n < 10 ^ width) :
    (padded width n).length = width := by
  have hle : (natural n).length ≤ width := (Nat.length_toDigits_le_iff (by decide) hpos).mpr h
  rw [padded_eq, List.length_append, List.length_replicate]
  omega

/-- Digits are the padded numeral of the number that they stand for. -/
theorem eq_padded_ofDigitChars {ds : List Char} (hne : ds ≠ []) (h : ∀ c ∈ ds, c.isDigit = true) :
    ds = padded ds.length (Nat.ofDigitChars 10 ds 0) :=
  ofDigitChars_inj h (fun _ hc => isDigit_of_mem_padded hc)
    (length_padded (List.length_pos_iff.mpr hne) (ofDigitChars_lt h)).symm
    (ofDigitChars_padded _ _).symm

/-! ### Integers -/

/-- The text is one or more digits that stand for the number. -/
def IsNatural (text : List Char) (n : Nat) : Prop :=
  text ≠ [] ∧ (∀ c ∈ text, c.isDigit = true) ∧ n = Nat.ofDigitChars 10 text 0

theorem natural?_eq_some_iff {text : List Char} {n : Nat} :
    natural? text = some n ↔ IsNatural text n := by
  rw [natural?, Option.ite_none_right_eq_some, IsNatural, List.all_eq_true, and_assoc,
    Option.some.injEq, eq_comm (a := n)]

/-- A number is written without leading zeros. -/
theorem eq_nil_of_natural_eq_zero_cons {n : Nat} {ds : List Char} (h : natural n = '0' :: ds) :
    ds = [] := by
  refine Decidable.byContradiction fun hne => ?_
  have hdigits : ∀ c ∈ ds, c.isDigit = true := fun c hc =>
    isDigit_of_mem_natural (n := n) (h ▸ List.mem_cons_of_mem _ hc)
  have hvalue : Nat.ofDigitChars 10 (natural n) 0 = n := Nat.ofDigitChars_ten_toDigits
  rw [h, ofDigitChars_cons] at hvalue
  have hlt : n < 10 ^ ds.length := by
    rw [← hvalue]
    simpa using ofDigitChars_lt hdigits
  have hle : (natural n).length ≤ ds.length :=
    (Nat.length_toDigits_le_iff (by decide) (List.length_pos_iff.mpr hne)).mpr hlt
  rw [h, List.length_cons] at hle
  omega

theorem isNatural_natural (n : Nat) : IsNatural (natural n) n :=
  natural?_eq_some_iff.mp (natural?_natural n)

/-- The text is one or more digits, after at most one sign, that stand for the integer. -/
inductive IsInteger : List Char → Int → Prop where
  | unsigned {digits n} : IsNatural digits n → IsInteger digits n
  | plus {digits n} : IsNatural digits n → IsInteger ('+' :: digits) n
  | minus {digits n} : IsNatural digits n → IsInteger ('-' :: digits) (-n)

/-- Digits begin with no sign. -/
theorem integer?_of_isNatural {digits : List Char} {n : Nat} (h : IsNatural digits n) :
    integer? digits = some (n : Int) := by
  unfold integer?
  split
  · next rest => exact absurd (h.2.1 '-' List.mem_cons_self) (by decide)
  · next rest => exact absurd (h.2.1 '+' List.mem_cons_self) (by decide)
  · rw [natural?_eq_some_iff.mpr h]
    rfl

theorem integer?_eq_some_iff {text : List Char} {n : Int} :
    integer? text = some n ↔ IsInteger text n := by
  constructor
  · intro h
    unfold integer? at h
    split at h <;> obtain ⟨k, hk, rfl⟩ := Option.map_eq_some_iff.mp h <;>
      rw [natural?_eq_some_iff] at hk
    · exact .minus hk
    · exact .plus hk
    · exact .unsigned hk
  · rintro (hk | hk | hk)
    · exact integer?_of_isNatural hk
    · rw [integer?, natural?_eq_some_iff.mpr hk]
      rfl
    · rw [integer?, natural?_eq_some_iff.mpr hk]
      rfl

theorem isInteger_integer (n : Int) : IsInteger (integer n) n := by
  unfold integer
  split
  · next h =>
    have hn : n = -(n.natAbs : Int) := by omega
    rw [hn, Int.natAbs_neg, Int.natAbs_natCast]
    exact .minus (isNatural_natural _)
  · next h =>
    have hn : n = (n.natAbs : Int) := by omega
    rw [hn, Int.natAbs_natCast]
    exact .unsigned (isNatural_natural _)

theorem int32?_eq_some_iff {text : List Char} {n : Int} :
    int32? text = some n ↔ IsInteger text n ∧ FitsInt32 n := by
  rw [int32?, Option.filter_eq_some_iff, integer?_eq_some_iff, decide_eq_true_eq]

end Numeral

end Fieldwise
