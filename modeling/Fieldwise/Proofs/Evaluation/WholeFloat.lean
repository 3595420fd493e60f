import Fieldwise.Proofs.Decimal.Shortest
import Fieldwise.Proofs.Evaluation.BlankText

/-!
Floating point numbers as integers. The rule for integers sees a floating point number as its shortest
decimal is laid out. That text is digits alone exactly when the decimal has no fraction and is not written
with an exponent; and it is so exactly when the number itself is whole and below `10 ^ 21`.
-/

namespace Fieldwise

/-! ### Texts of digits -/

section Digits
variable {text : List Char}

theorem isDigit_or_minus_of_isIntegerText (h : isIntegerText text = true) :
    ∀ c ∈ text, c.isDigit = true ∨ c = '-' := by
  unfold isIntegerText at h
  simp only [Bool.and_eq_true, List.all_eq_true] at h
  intro c hc
  split at h
  · rcases List.mem_cons.mp hc with rfl | hc
    · exact Or.inr rfl
    · exact Or.inl (h.2 c hc)
  · exact Or.inl (h.2 c hc)

theorem isIntegerText_of_digits (hne : text ≠ []) (h : ∀ c ∈ text, c.isDigit = true) :
    isIntegerText text = true ∧ isIntegerText ('-' :: text) = true := by
  have hall : (!text.isEmpty && text.all Char.isDigit) = true := by
    rw [Bool.and_eq_true, Bool.not_eq_true', List.isEmpty_eq_false_iff, List.all_eq_true]
    exact ⟨hne, h⟩
  refine ⟨?_, hall⟩
  unfold isIntegerText
  split
  · next rest => exact absurd (h '-' List.mem_cons_self) (by decide)
  · exact hall

end Digits

namespace Layout
variable {l : Layout} {m : Magnitude}

theorem isDigit_plain (hpoint : l.pointZero = false) {digits : List Char} {exponent : ℤ}
    (hexponent : 0 ≤ exponent) (hdigits : ∀ c ∈ digits, c.isDigit = true) :
    ∀ c ∈ l.plain digits exponent, c.isDigit = true := by
  intro c hc
  simp only [plain, if_pos hexponent, hpoint, List.mem_append, List.mem_replicate] at hc
  rcases hc with (hc | ⟨-, rfl⟩) | hc
  · exact hdigits c hc
  · rfl
  · cases hc

theorem point_mem_plain {digits : List Char} {exponent : ℤ} (h : exponent < 0) :
    '.' ∈ l.plain digits exponent := by
  simp only [plain, if_neg (not_le.mpr h)]
  split
  · exact List.mem_append_right _ List.mem_cons_self
  · exact List.mem_cons_of_mem _ List.mem_cons_self

/-- A layout without points after whole numbers writes a decimal in digits alone, or with a point or an
    exponent. -/
theorem isDigit_decimal_or (hpoint : l.pointZero = false) (hleast : l.leastPlain ≤ 0) (d : Decimal) :
    (0 ≤ d.exponent ∧ d.exponent + (Numeral.natural d.digits).length ≤ l.greatestPlain + 1 ∧
      ∀ c ∈ l.decimal d, c.isDigit = true) ∨
    (¬ (0 ≤ d.exponent ∧ d.exponent + (Numeral.natural d.digits).length ≤ l.greatestPlain + 1) ∧
      ('.' ∈ l.decimal d ∨ 'e' ∈ l.decimal d)) := by
  have hlen := List.length_pos_iff.mpr (Numeral.natural_ne_nil d.digits)
  simp only [decimal]
  split
  · next hplain =>
    rcases le_or_gt 0 d.exponent with hexponent | hexponent
    · exact Or.inl ⟨hexponent, by omega,
        isDigit_plain hpoint hexponent fun _ => Numeral.isDigit_of_mem_natural⟩
    · exact Or.inr ⟨by omega, Or.inl (point_mem_plain hexponent)⟩
  · exact Or.inr ⟨by omega, Or.inr (List.mem_append_right _ List.mem_cons_self)⟩

theorem isIntegerText_signed_of_digits {negative : Bool} (hne : l.magnitude m ≠ [])
    (h : ∀ c ∈ l.magnitude m, c.isDigit = true) : isIntegerText (l.signed negative m) = true := by
  obtain ⟨hpositive, hnegative⟩ := isIntegerText_of_digits hne h
  cases negative with
  | false => exact hpositive
  | true => exact hnegative

/-- A magnitude with a sign is written as an integer exactly when it is zero or its shortest decimal has no
    fraction and is written without an exponent. -/
theorem isIntegerText_signed_iff (hpoint : l.pointZero = false) (hleast : l.leastPlain ≤ 0)
    (negative : Bool) (m : Magnitude) :
    isIntegerText (l.signed negative m) = true ↔ m.mantissa = 0 ∨ (0 ≤ (m.shortest l.tie).exponent ∧
      (m.shortest l.tie).exponent + (Numeral.natural (m.shortest l.tie).digits).length ≤
        l.greatestPlain + 1) := by
  by_cases hzero : m.mantissa = 0
  · have htext : l.magnitude m = l.plain ['0'] 0 := if_pos hzero
    refine iff_of_true (isIntegerText_signed_of_digits ?_ ?_) (Or.inl hzero) <;> rw [htext]
    · exact List.ne_nil_of_mem (mem_plain List.mem_cons_self)
    · exact isDigit_plain hpoint le_rfl (List.forall_mem_singleton.mpr rfl)
  · have htext : l.magnitude m = l.decimal (m.shortest l.tie) := if_neg hzero
    rcases isDigit_decimal_or hpoint hleast (m.shortest l.tie) with
      ⟨hexponent, hlead, hdigits⟩ | ⟨hnot, hmem⟩
    · obtain ⟨c, hc, -⟩ := exists_isDigit_decimal l (m.shortest l.tie)
      rw [← htext] at hc hdigits
      exact iff_of_true (isIntegerText_signed_of_digits (List.ne_nil_of_mem hc) hdigits)
        (Or.inr ⟨hexponent, hlead⟩)
    · refine iff_of_false (fun hinteger => ?_) (not_or.mpr ⟨hzero, hnot⟩)
      have hsigned : ∀ c ∈ l.magnitude m, c ∈ l.signed negative m := by
        intro c hc
        cases negative with
        | false => exact hc
        | true => exact List.mem_cons_of_mem _ hc
      have hall := isDigit_or_minus_of_isIntegerText hinteger
      rw [← htext] at hmem
      rcases hmem with hmem | hmem
      · exact absurd (hall _ (hsigned _ hmem)) (by decide)
      · exact absurd (hall _ (hsigned _ hmem)) (by decide)

end Layout

/-! ### Whole numbers -/

namespace FloatValue

/-- What a floating point number stands for, if it is a number and finite. -/
def toRat? : FloatValue → Option ℚ
  | notANumber => none
  | infinite _ => none
  | finite negative m => some (if negative then -m.toRat else m.toRat)

theorem isDouble_of_ofBits {bits : ℕ} {negative : Bool} {m : Magnitude}
    (h : ofBits bits = finite negative m) : m.IsDouble := by
  simp only [ofBits] at h
  split at h
  · split at h <;> cases h
  · cases h
    exact Magnitude.isDouble_ofFields (Nat.mod_lt _ (by norm_num))

end FloatValue

theorem Magnitude.toRat_eq_zero_iff {m : Magnitude} : m.toRat = 0 ↔ m.mantissa = 0 := by
  rw [toRat, mul_eq_zero, Nat.cast_eq_zero, or_iff_left (zpow_ne_zero _ (by norm_num))]

theorem Magnitude.toRat_nonneg (m : Magnitude) : 0 ≤ m.toRat := by
  unfold toRat
  positivity

namespace FieldValue
variable {m : Magnitude}

theorem isIntegerText_numberLayout_iff (h : m.IsDouble) (negative : Bool) :
    isIntegerText (numberLayout.signed negative m) = true ↔
      ∃ n : ℕ, m.toRat = n ∧ n < 10 ^ 21 := by
  rw [Layout.isIntegerText_signed_iff rfl (by decide)]
  by_cases hzero : m.mantissa = 0
  · exact iff_of_true (Or.inl hzero)
      ⟨0, by rw [Magnitude.toRat_eq_zero_iff.mpr hzero, Nat.cast_zero], by norm_num⟩
  · rw [or_iff_right hzero, h.shortest_exponent_nonneg_iff hzero,
      ← Decimal.toRat_lt_pow_iff (Magnitude.digits_shortest_pos hzero),
      show numberLayout.greatestPlain + 1 = 21 from rfl, zpow_ofNat, h.shortest_lt_iff hzero]
    constructor
    · rintro ⟨⟨n, hn⟩, hlt⟩
      rw [hn] at hlt
      exact ⟨n, hn, by exact_mod_cast hlt⟩
    · rintro ⟨n, hn, hlt⟩
      refine ⟨⟨n, hn⟩, ?_⟩
      rw [hn]
      exact_mod_cast hlt

theorem exists_int_iff (negative : Bool) :
    (∃ n : ℤ, (FloatValue.finite negative m).toRat? = some (n : ℚ) ∧ |n| < 10 ^ 21) ↔
      ∃ n : ℕ, m.toRat = n ∧ n < 10 ^ 21 := by
  simp only [FloatValue.toRat?, Option.some.injEq, Int.abs_eq_natAbs]
  constructor
  · rintro ⟨n, hn, hlt⟩
    refine ⟨n.natAbs, ?_, by omega⟩
    rw [Nat.cast_natAbs, Int.cast_abs, ← hn]
    cases negative with
    | false => exact (abs_of_nonneg m.toRat_nonneg).symm
    | true =>
      rw [if_pos rfl, abs_neg]
      exact (abs_of_nonneg m.toRat_nonneg).symm
  · rintro ⟨n, hn, hlt⟩
    cases negative with
    | false => exact ⟨n, hn, by omega⟩
    | true => exact ⟨-n, by rw [if_pos rfl, hn, Int.cast_neg, Int.cast_natCast], by omega⟩

end FieldValue

/-- The rule for integers accepts a floating point number exactly when it is finite, stands for an integer
    and is below `10 ^ 21`; it fails every other one. -/
theorem floats_accepted_as_integers_iff (x : Float) :
    (evaluateInteger (.float x) = .passed ↔
      ∃ n : ℤ, (FloatValue.ofFloat x).toRat? = some (n : ℚ) ∧ |n| < 10 ^ 21) ∧
    (evaluateInteger (.float x) = .passed ∨ evaluateInteger (.float x) = .failed .notInteger) := by
  have hevaluate : evaluateInteger (.float x) =
      if isIntegerText (FieldValue.floatText x) then .passed else .failed .notInteger := by
    simp only [evaluateInteger, FieldValue.lexical?, String.toList_ofList]
  have hpassed : evaluateInteger (.float x) = .passed ↔
      isIntegerText (FieldValue.floatText x) = true := by
    rw [hevaluate]
    split
    · next h => exact iff_of_true rfl h
    · next h => exact iff_of_false nofun h
  constructor
  · rw [hpassed, FieldValue.floatText]
    cases hvalue : FloatValue.ofFloat x with
    | notANumber => exact iff_of_false (by decide) (by rintro ⟨n, hn, -⟩; cases hn)
    | infinite negative =>
      exact iff_of_false (by cases negative <;> decide) (by rintro ⟨n, hn, -⟩; cases hn)
    | finite negative m =>
      rw [FieldValue.exists_int_iff]
      exact FieldValue.isIntegerText_numberLayout_iff (FloatValue.isDouble_of_ofBits hvalue) negative
  · rw [hevaluate]
    split
    · exact Or.inl rfl
    · exact Or.inr rfl

end Fieldwise
