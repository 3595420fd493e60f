import Fieldwise.DateFormat.Text
import Fieldwise.Proofs.Decimal.Numeral

/-!
Dates in a format, read and written. `DateFormat.readComponents` accepts exactly what
`DateFormat.writeComponents` writes, for components that the format has and that fit their number
of digits; so it finds those components in the text again, and no other text gives them.
-/

namespace Fieldwise

namespace PartialDate

/-- A component as far as it is known. -/
def get? (p : PartialDate) : Component → Option Int
  | .day => p.day.map fun n : Nat => (n : Int)
  | .month => p.month.map fun n : Nat => (n : Int)
  | .year => p.year

theorem get?_unknown (c : Component) : unknown.get? c = none := by cases c <;> rfl

theorem get?_set (p : PartialDate) (c : Component) (n : Nat) (c' : Component) :
    (p.set c n).get? c' = if c' = c then some (n : Int) else p.get? c' := by
  cases c <;> cases c' <;> rfl

theorem ext_get? {p q : PartialDate} (h : ∀ c, p.get? c = q.get? c) : p = q := by
  have hinj : Function.Injective (fun n : Nat => (n : Int)) := fun _ _ => Int.ofNat_inj.mp
  have hday : p.day = q.day := Option.map_injective hinj (h .day)
  have hmonth : p.month = q.month := Option.map_injective hinj (h .month)
  have hyear : p.year = q.year := h .year
  cases p
  cases q
  simp_all

/-- The component is known and can be written with its number of digits. -/
def Fits (p : PartialDate) (c : Component) : Prop :=
  ∃ n : Nat, p.get? c = some (n : Int) ∧ n < 10 ^ c.width

end PartialDate

/-! ### Pieces of a text -/

theorem dropLiteral?_eq_some_iff {l text rest : List Char} :
    dropLiteral? l text = some rest ↔ text = l ++ rest := by
  induction l generalizing text with
  | nil => simp [dropLiteral?]
  | cons c l ih =>
    cases text with
    | nil => simp [dropLiteral?]
    | cons d text =>
      by_cases h : c = d
      · simp [dropLiteral?, h, ih]
      · have h' : d ≠ c := fun he => h he.symm
        simp [dropLiteral?, h, h']

theorem takeDigits?_eq_some_iff {width n : Nat} {text rest : List Char} (hpos : 0 < width) :
    takeDigits? width text = some (n, rest) ↔
      n < 10 ^ width ∧ text = Numeral.padded width n ++ rest := by
  simp only [takeDigits?, Option.ite_none_right_eq_some, List.all_eq_true, Option.some.injEq,
    Prod.mk.injEq]
  constructor
  · rintro ⟨⟨hlen, hdigit⟩, rfl, rfl⟩
    have hne : text.take width ≠ [] := fun hnil => by
      rw [hnil] at hlen
      exact absurd hlen (Nat.ne_of_lt hpos)
    have hpad := Numeral.eq_padded_ofDigitChars hne hdigit
    have hlt := Numeral.ofDigitChars_lt hdigit
    rw [hlen] at hpad hlt
    refine ⟨hlt, ?_⟩
    rw [← hpad, List.take_append_drop]
  · rintro ⟨hlt, rfl⟩
    have hlen := Numeral.length_padded hpos hlt
    rw [List.take_left' hlen, List.drop_left' hlen]
    exact ⟨⟨hlen, fun c => Numeral.isDigit_of_mem_padded⟩, Numeral.ofDigitChars_padded _ _, rfl⟩

namespace FormatToken

theorem write_component {p : PartialDate} {c : Component} {n : Nat}
    (h : p.get? c = some (n : Int)) : write p (component c) = Numeral.padded c.width n := by
  cases c with
  | year =>
    have hy : p.year = some (n : Int) := h
    simp [write, hy]
  | day =>
    obtain ⟨k, hk, hkn⟩ := Option.map_eq_some_iff.mp h
    rw [write, hk, Option.getD_some, Int.ofNat_inj.mp hkn]
  | month =>
    obtain ⟨k, hk, hkn⟩ := Option.map_eq_some_iff.mp h
    rw [write, hk, Option.getD_some, Int.ofNat_inj.mp hkn]

/-! ### Reading piece by piece -/

section Read
variable {tokens : List FormatToken} {position : Nat} {found p : PartialDate}

theorem read_literal (l rest : List Char) :
    read (literal l :: tokens) position (l ++ rest) found =
      read tokens (position + utf8Length l) rest found := by
  simp only [read, dropLiteral?_eq_some_iff.mpr rfl]

theorem read_component {c : Component} {n : Nat} (h : n < 10 ^ c.width) (rest : List Char) :
    read (component c :: tokens) position (Numeral.padded c.width n ++ rest) found =
      read tokens (position + c.width) rest (found.set c n) := by
  simp only [read, (takeDigits?_eq_some_iff c.width_pos).mpr ⟨h, rfl⟩]

theorem exists_of_read_literal {l text : List Char}
    (h : read (literal l :: tokens) position text found = .ok p) : ∃ rest, text = l ++ rest := by
  cases hd : dropLiteral? l text with
  | none => simp [read, hd] at h
  | some rest => exact ⟨rest, dropLiteral?_eq_some_iff.mp hd⟩

theorem exists_of_read_component {c : Component} {text : List Char}
    (h : read (component c :: tokens) position text found = .ok p) :
    ∃ n rest, n < 10 ^ c.width ∧ text = Numeral.padded c.width n ++ rest := by
  cases hd : takeDigits? c.width text with
  | none => simp [read, hd] at h
  | some r =>
    obtain ⟨hlt, ht⟩ := (takeDigits?_eq_some_iff c.width_pos).mp hd
    exact ⟨r.1, r.2, hlt, ht⟩

end Read

/-- What is read from a text is what the text was written for, and was found before as far as the
    pieces have no such component. -/
theorem of_read {tokens : List FormatToken} (hn : (components tokens).Nodup) {position : Nat}
    {text : List Char} {found p : PartialDate} (h : read tokens position text found = .ok p) :
    (∀ c ∉ components tokens, p.get? c = found.get? c) ∧
      (∀ c ∈ components tokens, p.Fits c) ∧ text = tokens.flatMap (write p) := by
  induction tokens generalizing position text found with
  | nil =>
    cases text with
    | nil =>
      cases h
      exact ⟨fun _ _ => rfl, fun c hc => absurd hc List.not_mem_nil, rfl⟩
    | cons c rest => cases h
  | cons token tokens ih =>
    cases token with
    | literal l =>
      obtain ⟨rest, rfl⟩ := exists_of_read_literal h
      rw [read_literal] at h
      obtain ⟨hkept, hfits, hrest⟩ := ih hn h
      exact ⟨hkept, hfits, by rw [List.flatMap_cons, ← hrest, write]⟩
    | component c =>
      have hc : components (component c :: tokens) = c :: components tokens := rfl
      rw [hc, List.nodup_cons] at hn
      obtain ⟨n, rest, hlt, rfl⟩ := exists_of_read_component h
      rw [read_component hlt] at h
      obtain ⟨hkept, hfits, hrest⟩ := ih hn.2 h
      -- The component comes in no later piece, so it keeps the number that is read here.
      have hget : p.get? c = some (n : Int) := by
        rw [hkept c hn.1, PartialDate.get?_set, if_pos rfl]
      rw [hc]
      refine ⟨fun c' hc' => ?_, List.forall_mem_cons.mpr ⟨⟨n, hget, hlt⟩, hfits⟩, ?_⟩
      · rw [List.mem_cons, not_or] at hc'
        rw [hkept c' hc'.2, PartialDate.get?_set, if_neg hc'.1]
      · rw [List.flatMap_cons, ← hrest, write_component hget]

/-- What is written is read again. -/
theorem read_flatMap_write {tokens : List FormatToken} (hn : (components tokens).Nodup)
    {position : Nat} {found p : PartialDate}
    (hkept : ∀ c ∉ components tokens, p.get? c = found.get? c)
    (hfits : ∀ c ∈ components tokens, p.Fits c) :
    read tokens position (tokens.flatMap (write p)) found = .ok p := by
  induction tokens generalizing position found with
  | nil =>
    have heq : found = p := PartialDate.ext_get? fun c => (hkept c List.not_mem_nil).symm
    rw [heq]
    rfl
  | cons token tokens ih =>
    rw [List.flatMap_cons]
    cases token with
    | literal l =>
      rw [write, read_literal]
      exact ih hn hkept hfits
    | component c =>
      have hc : components (component c :: tokens) = c :: components tokens := rfl
      rw [hc] at hn hkept hfits
      rw [List.nodup_cons] at hn
      obtain ⟨⟨n, hget, hlt⟩, hfits⟩ := List.forall_mem_cons.mp hfits
      rw [write_component hget, read_component hlt]
      refine ih hn.2 (fun c' hc' => ?_) hfits
      rw [PartialDate.get?_set]
      split
      · next heq => rw [heq, hget]
      · next hne => exact hkept c' (by simp [hne, hc'])

end FormatToken

namespace DateFormat

theorem mem_components_iff {f : DateFormat} {c : Component} :
    c ∈ f.components ↔ .component c ∈ f.tokens := FormatToken.mem_components_iff

/-- The components are those of the format, and can be written in it. -/
structure Fits (f : DateFormat) (p : PartialDate) : Prop where
  known : ∀ c ∈ f.components, p.Fits c
  unknown : ∀ c ∉ f.components, p.get? c = none

theorem readComponents_writeComponents {f : DateFormat} {p : PartialDate} (h : f.Fits p) :
    f.readComponents (f.writeComponents p) = .ok p :=
  FormatToken.read_flatMap_write f.nodup_components
    (fun c hc => (h.unknown c hc).trans (PartialDate.get?_unknown c).symm) h.known

/-- A text gives components in a format exactly when it is what the format writes for them. -/
theorem readComponents_eq_ok_iff {f : DateFormat} {text : List Char} {p : PartialDate} :
    f.readComponents text = .ok p ↔ f.Fits p ∧ text = f.writeComponents p := by
  constructor
  · intro h
    obtain ⟨hkept, hfits, htext⟩ := FormatToken.of_read f.nodup_components h
    exact ⟨⟨hfits, fun c hc => (hkept c hc).trans (PartialDate.get?_unknown c)⟩, htext⟩
  · rintro ⟨hfits, rfl⟩
    exact readComponents_writeComponents hfits

/-- A written date has a digit, for the format has a component. -/
theorem exists_isDigit_writeComponents {f : DateFormat} {p : PartialDate} (h : f.Fits p) :
    ∃ c ∈ f.writeComponents p, c.isDigit = true := by
  obtain ⟨c, hc⟩ := List.exists_mem_of_ne_nil _ f.components_ne_nil
  obtain ⟨n, hget, hlt⟩ := h.known c hc
  have hne : Numeral.padded c.width n ≠ [] := List.ne_nil_of_length_pos
    (by rw [Numeral.length_padded c.width_pos hlt]; exact c.width_pos)
  obtain ⟨d, hd⟩ := List.exists_mem_of_ne_nil _ hne
  refine ⟨d, List.mem_flatMap.mpr ⟨_, mem_components_iff.mp hc, ?_⟩, Numeral.isDigit_of_mem_padded hd⟩
  rw [FormatToken.write_component hget]
  exact hd

/-! ### The texts that are read -/

theorem fits_iff_get? {f : DateFormat} {p : PartialDate} : f.Fits p ↔
    ∀ c, (p.get? c).isSome = f.has c ∧ ∀ n ∈ p.get? c, 0 ≤ n ∧ n.toNat < 10 ^ c.width := by
  constructor
  · rintro ⟨hknown, hunknown⟩ c
    by_cases hc : c ∈ f.components
    · obtain ⟨n, hget, hlt⟩ := hknown c hc
      rw [hget]
      refine ⟨(decide_eq_true hc).symm, ?_⟩
      rintro _ ⟨⟩
      exact ⟨Int.natCast_nonneg n, hlt⟩
    · rw [hunknown c hc]
      exact ⟨(decide_eq_false hc).symm, by rintro _ ⟨⟩⟩
  · intro h
    constructor
    · intro c hc
      obtain ⟨hsome, hbound⟩ := h c
      obtain ⟨n, hn⟩ := Option.isSome_iff_exists.mp (hsome.trans (decide_eq_true hc))
      obtain ⟨hpos, hlt⟩ := hbound n hn
      exact ⟨n.toNat, by rw [hn, Int.toNat_of_nonneg hpos], hlt⟩
    · intro c hc
      have hnone : (p.get? c).isSome = false := (h c).1.trans (decide_eq_false hc)
      rwa [Option.isSome_eq_false_iff, Option.isNone_iff_eq_none] at hnone

theorem forall_mem_map_natCast_iff {o : Option Nat} {b : Nat} :
    (∀ n ∈ o.map fun n : Nat => (n : Int), 0 ≤ n ∧ n.toNat < b) ↔ ∀ n ∈ o, n < b := by
  cases o <;> simp

/-- The components are those that the format writes, and have no more digits than it gives them. -/
theorem fits_iff {f : DateFormat} {p : PartialDate} : f.Fits p ↔
    (p.year.isSome = f.has .year ∧ p.month.isSome = f.has .month ∧ p.day.isSome = f.has .day) ∧
      (∀ y ∈ p.year, 0 ≤ y ∧ y ≤ 9999) ∧ (∀ m ∈ p.month, m ≤ 99) ∧ ∀ d ∈ p.day, d ≤ 99 := by
  have hyear : (∀ n ∈ p.get? .year, 0 ≤ n ∧ n.toNat < 10 ^ Component.year.width) ↔
      ∀ y ∈ p.year, 0 ≤ y ∧ y ≤ 9999 := by
    refine forall_congr' fun n => imp_congr_right fun _ => and_congr_right fun hpos => ?_
    simp only [Component.width]
    omega
  have hnat : ∀ n : Nat, n ≤ 99 ↔ n < 10 ^ 2 := fun n => by omega
  have hmonth : (∀ n ∈ p.get? .month, 0 ≤ n ∧ n.toNat < 10 ^ Component.month.width) ↔
      ∀ m ∈ p.month, m ≤ 99 := by
    simp only [hnat]
    exact forall_mem_map_natCast_iff
  have hday : (∀ n ∈ p.get? .day, 0 ≤ n ∧ n.toNat < 10 ^ Component.day.width) ↔
      ∀ d ∈ p.day, d ≤ 99 := by
    simp only [hnat]
    exact forall_mem_map_natCast_iff
  have hasMonth : (p.get? .month).isSome = p.month.isSome := Option.isSome_map
  have hasDay : (p.get? .day).isSome = p.day.isSome := Option.isSome_map
  rw [fits_iff_get?, ← hyear, ← hmonth, ← hday, ← hasMonth, ← hasDay]
  constructor
  · intro h
    exact ⟨⟨(h .year).1, (h .month).1, (h .day).1⟩, (h .year).2, (h .month).2, (h .day).2⟩
  · rintro ⟨⟨hyears, hmonths, hdays⟩, hyearFits, hmonthFits, hdayFits⟩ c
    cases c with
    | year => exact ⟨hyears, hyearFits⟩
    | month => exact ⟨hmonths, hmonthFits⟩
    | day => exact ⟨hdays, hdayFits⟩

/-- A text is read in a format exactly when it puts the pieces of the format one after the other:
    literals as they stand, days and months with two digits, years with four. So the components that
    are read tell the text. -/
theorem reads_exactly_what_is_rendered (f : DateFormat) :
    (∀ text p, f.readComponents text = .ok p ↔
      ((p.year.isSome = f.has .year ∧ p.month.isSome = f.has .month ∧ p.day.isSome = f.has .day) ∧
        (∀ y ∈ p.year, 0 ≤ y ∧ y ≤ 9999) ∧ (∀ m ∈ p.month, m ≤ 99) ∧ ∀ d ∈ p.day, d ≤ 99) ∧
      text = f.tokens.flatMap (FormatToken.write p)) ∧
    ∀ text text' p, f.readComponents text = .ok p → f.readComponents text' = .ok p →
      text = text' := by
  refine ⟨fun text p => ?_, fun text text' p h h' => ?_⟩
  · rw [← fits_iff]
    exact readComponents_eq_ok_iff
  · obtain ⟨-, rfl⟩ := readComponents_eq_ok_iff.mp h
    obtain ⟨-, rfl⟩ := readComponents_eq_ok_iff.mp h'
    rfl

/-- Digits as literals beside a day, a literal of three bytes, and a month that no year has. -/
theorem reads_digits_beside_digits :
    ∃ f p, ofPattern "00DDMM→YYYY".toList = .ok f ∧ p = ⟨some 5, some 99, some 7⟩ ∧
      f.readComponents "000799→0005".toList = .ok p ∧
      f.writeComponents p = "000799→0005".toList := by
  let f : DateFormat := ⟨[.literal ['0', '0'], .component .day, .component .month, .literal ['→'],
    .component .year], by decide, by decide, by decide⟩
  let p : PartialDate := ⟨some 5, some 99, some 7⟩
  have hfits : f.Fits p := fits_iff.mpr (by decide)
  have hread : f.readComponents "000799→0005".toList = .ok p :=
    ((reads_exactly_what_is_rendered f).1 _ p).mpr ⟨fits_iff.mp hfits, by decide +kernel⟩
  have hwritten := readComponents_writeComponents hfits
  exact ⟨f, p, rfl, rfl, hread,
    (reads_exactly_what_is_rendered f).2 _ _ p hwritten hread⟩

end DateFormat

end Fieldwise
