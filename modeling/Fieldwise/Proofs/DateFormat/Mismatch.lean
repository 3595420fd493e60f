import Fieldwise.Proofs.DateFormat.RoundTrip
import Fieldwise.Proofs.Text.Utf8

/-!
Texts that are no dates in a format. Reading goes through the pieces of the format as long as the text
goes on with what the next piece asks for. So an error for a piece tells how far the text is what the
pieces before it ask for, as a number of bytes, and an error for what follows the last piece tells what
is left of the text.
-/

namespace Fieldwise

namespace FormatToken

/-- The text is what a piece asks for: the literal itself, or as many digits as the component is written
    with. -/
inductive Matches : FormatToken → List Char → Prop where
  | literal (l : List Char) : Matches (literal l) l
  | component {c : Component} {digits : List Char} (length : digits.length = c.width)
      (isDigit : ∀ d ∈ digits, d.isDigit = true) : Matches (component c) digits

/-- The text is what one piece after the other asks for. -/
inductive Renders : List FormatToken → List Char → Prop where
  | nil : Renders [] []
  | cons {token : FormatToken} {tokens : List FormatToken} {text rest : List Char}
      (first : token.Matches text) (others : Renders tokens rest) :
      Renders (token :: tokens) (text ++ rest)

/-- The error for a text that does not go on with the piece at a position. -/
def expectedAt : FormatToken → Nat → DateError
  | literal l, position => .literalExpected l position
  | component c, position => .digitsExpected c position

theorem expectedAt_inj {t t' : FormatToken} {p p' : Nat} :
    t.expectedAt p = t'.expectedAt p' ↔ t = t' ∧ p = p' := by
  cases t <;> cases t' <;> simp [expectedAt]

theorem expectedAt_ne_trailingText (t : FormatToken) (p : Nat) (rest : List Char) :
    t.expectedAt p ≠ .trailingText rest := by
  cases t <;> simp [expectedAt]

/-! ### One piece -/

section Step
variable {token : FormatToken} {tokens : List FormatToken} {position : Nat} {text : List Char}
  {found : PartialDate}

/-- A text that goes on with the piece is read on behind it. -/
theorem exists_read_of_matches (h : token.Matches text) (found : PartialDate) :
    ∃ found', ∀ tokens position rest, read (token :: tokens) position (text ++ rest) found =
      read tokens (position + utf8Length text) rest found' := by
  cases h with
  | literal => exact ⟨found, fun tokens position rest => read_literal _ _⟩
  | component hlen hdigit =>
    rename_i c
    have hsize : utf8Length text = c.width := by
      rw [← hlen]
      exact utf8Length_of_ascii fun d hd =>
        (Numeral.isDigit_iff.mp (hdigit d hd)).2.trans (by decide)
    obtain ⟨n, hlt, htext⟩ : ∃ n, n < 10 ^ c.width ∧ text = Numeral.padded c.width n := by
      rw [← hlen]
      have hne : text ≠ [] := List.length_pos_iff.mp (hlen ▸ c.width_pos)
      exact ⟨_, Numeral.ofDigitChars_lt hdigit, Numeral.eq_padded_ofDigitChars hne hdigit⟩
    refine ⟨found.set c n, fun tokens position rest => ?_⟩
    rw [hsize, htext, read_component hlt]

/-- A text that does not go on with the piece is refused for it. -/
theorem read_of_not_matches (h : ∀ w, token.Matches w → ¬ w <+: text) :
    read (token :: tokens) position text found = .error (token.expectedAt position) := by
  cases token with
  | literal l =>
    cases hd : dropLiteral? l text with
    | none => simp only [read, hd, expectedAt]
    | some rest => exact absurd ⟨rest, (dropLiteral?_eq_some_iff.mp hd).symm⟩ (h l (.literal l))
  | component c =>
    cases hd : takeDigits? c.width text with
    | none => simp only [read, hd, expectedAt]
    | some r =>
      obtain ⟨hlt, ht⟩ := (takeDigits?_eq_some_iff c.width_pos).mp hd
      have hmatch : Matches (.component c) (Numeral.padded c.width r.1) :=
        .component (Numeral.length_padded c.width_pos hlt) fun _ => Numeral.isDigit_of_mem_padded
      exact absurd ⟨r.2, ht.symm⟩ (h _ hmatch)

end Step

/-! ### All pieces -/

section Run
variable {tokens before after : List FormatToken} {token : FormatToken} {position : Nat}
  {text written rest : List Char} {found : PartialDate}

/-- A text that begins with what pieces ask for is read on behind them. -/
theorem exists_read_of_renders (h : Renders before text) (found : PartialDate) :
    ∃ found', ∀ tokens position rest, read (before ++ tokens) position (text ++ rest) found =
      read tokens (position + utf8Length text) rest found' := by
  induction h generalizing found with
  | nil => exact ⟨found, fun _ _ _ => rfl⟩
  | cons first _ ih =>
    obtain ⟨found₁, hfirst⟩ := exists_read_of_matches first found
    obtain ⟨found₂, hothers⟩ := ih found₁
    refine ⟨found₂, fun tokens position rest => ?_⟩
    rw [List.cons_append, List.append_assoc, hfirst, hothers, utf8Length_append, Nat.add_assoc]

theorem read_of_mismatch (hw : Renders before written) (hrest : ∀ w, token.Matches w → ¬ w <+: rest) :
    read (before ++ token :: after) position (written ++ rest) found =
      .error (token.expectedAt (position + utf8Length written)) := by
  obtain ⟨found', hread⟩ := exists_read_of_renders hw found
  rw [hread, read_of_not_matches hrest]

theorem exists_read_of_renders_append (hw : Renders tokens written) (position : Nat)
    (rest : List Char) (found : PartialDate) : ∃ p, read tokens position (written ++ rest) found =
      if rest = [] then .ok p else .error (.trailingText rest) := by
  obtain ⟨p, hread⟩ := exists_read_of_renders hw found
  refine ⟨p, ?_⟩
  have hrun := hread [] position rest
  rw [List.append_nil] at hrun
  rw [hrun]
  cases rest <;> rfl

/-- A text stops before some piece to be what the pieces ask for, or begins with what all of them ask
    for. -/
theorem exists_mismatch_or_renders (tokens : List FormatToken) (text : List Char) :
    (∃ before token after written rest, tokens = before ++ token :: after ∧ text = written ++ rest ∧
        Renders before written ∧ ∀ w, token.Matches w → ¬ w <+: rest) ∨
      ∃ written rest, text = written ++ rest ∧ Renders tokens written := by
  induction tokens generalizing text with
  | nil => exact Or.inr ⟨[], text, rfl, .nil⟩
  | cons token tokens ih =>
    by_cases hmatch : ∃ w, token.Matches w ∧ w <+: text
    · obtain ⟨first, hfirst, text, rfl⟩ := hmatch
      rcases ih text with ⟨before, t, after, written, rest, rfl, rfl, hw, hrest⟩ |
        ⟨written, rest, rfl, hw⟩
      · exact Or.inl ⟨token :: before, t, after, first ++ written, rest, rfl,
          (List.append_assoc _ _ _).symm, .cons hfirst hw, hrest⟩
      · exact Or.inr ⟨first ++ written, rest, (List.append_assoc _ _ _).symm, .cons hfirst hw⟩
    · exact Or.inl ⟨[], token, tokens, [], text, rfl, rfl, .nil, fun w hw hprefix =>
        hmatch ⟨w, hw, hprefix⟩⟩

end Run

end FormatToken

namespace DateFormat
variable {f : DateFormat} {text : List Char} {token : FormatToken} {position : Nat}

open FormatToken

theorem readComponents_cases (f : DateFormat) (text : List Char) :
    (∃ before token after written rest, f.tokens = before ++ token :: after ∧ text = written ++ rest ∧
        Renders before written ∧ (∀ w, token.Matches w → ¬ w <+: rest) ∧
        f.readComponents text = .error (token.expectedAt (utf8Length written))) ∨
      ∃ written rest p, text = written ++ rest ∧ Renders f.tokens written ∧
        f.readComponents text = if rest = [] then .ok p else .error (.trailingText rest) := by
  rcases exists_mismatch_or_renders f.tokens text with
    ⟨before, token, after, written, rest, htokens, rfl, hw, hrest⟩ | ⟨written, rest, rfl, hw⟩
  · refine Or.inl ⟨before, token, after, written, rest, htokens, rfl, hw, hrest, ?_⟩
    rw [readComponents, htokens, read_of_mismatch hw hrest, Nat.zero_add]
  · obtain ⟨p, hread⟩ := exists_read_of_renders_append hw 0 rest .unknown
    exact Or.inr ⟨written, rest, p, rfl, hw, hread⟩

theorem readComponents_eq_expectedAt_iff :
    f.readComponents text = .error (token.expectedAt position) ↔
      ∃ before after written rest, f.tokens = before ++ token :: after ∧ text = written ++ rest ∧
        utf8Length written = position ∧ Renders before written ∧
        ∀ w, token.Matches w → ¬ w <+: rest := by
  constructor
  · intro h
    rcases f.readComponents_cases text with
      ⟨before, t, after, written, rest, htokens, htext, hw, hrest, hread⟩ | ⟨_, rest, p, -, -, hread⟩
    · rw [hread, Except.error.injEq, expectedAt_inj] at h
      obtain ⟨rfl, hposition⟩ := h
      exact ⟨before, after, written, rest, htokens, htext, hposition, hw, hrest⟩
    · rw [hread] at h
      split at h
      · cases h
      · exact absurd (Except.error.inj h).symm (expectedAt_ne_trailingText _ _ _)
  · rintro ⟨before, after, written, rest, htokens, rfl, rfl, hw, hrest⟩
    rw [readComponents, htokens, read_of_mismatch hw hrest, Nat.zero_add]

theorem readComponents_eq_trailingText_iff {rest : List Char} :
    f.readComponents text = .error (.trailingText rest) ↔
      rest ≠ [] ∧ ∃ written, text = written ++ rest ∧ Renders f.tokens written := by
  constructor
  · intro h
    rcases f.readComponents_cases text with
      ⟨_, t, _, written, _, -, -, -, -, hread⟩ | ⟨written, rest', p, htext, hw, hread⟩
    · rw [hread] at h
      exact absurd (Except.error.inj h) (expectedAt_ne_trailingText _ _ _)
    · rw [hread] at h
      split at h
      · cases h
      · next hne =>
        cases h
        exact ⟨hne, written, htext, hw⟩
  · rintro ⟨hne, written, rfl, hw⟩
    obtain ⟨p, hread⟩ := exists_read_of_renders_append hw 0 rest .unknown
    rw [readComponents, hread, if_neg hne]

theorem error_of_readComponents {e : DateError} (h : f.readComponents text = .error e) :
    (∃ (token : FormatToken) (position : Nat), e = token.expectedAt position) ∨
      ∃ rest, e = .trailingText rest := by
  rcases f.readComponents_cases text with
    ⟨_, t, _, written, _, -, -, -, -, hread⟩ | ⟨_, rest, p, -, -, hread⟩
  · exact Or.inl ⟨t, _, Except.error.inj (h.symm.trans hread)⟩
  · rw [hread] at h
    split at h
    · cases h
    · exact Or.inr ⟨rest, (Except.error.inj h).symm⟩

/-- An error for a piece of a format points at the first place where a text is not what the format asks
    for: a boundary between characters, counted in bytes, before which the text is what the pieces before
    it ask for, and behind which it does not go on with the piece. An error for what follows tells what
    follows a text that the whole format asks for. There are no other errors. -/
theorem reading_errors_point_at_first_mismatch (f : DateFormat) (s : String) :
    (∀ token position, f.readComponents s.toList = .error (token.expectedAt position) ↔
      (⟨position⟩ : String.Pos.Raw).IsValid s ∧
        ∃ before after written rest, f.tokens = before ++ token :: after ∧ s = written ++ rest ∧
          written.utf8ByteSize = position ∧ Renders before written.toList ∧
          ∀ w, token.Matches w → ¬ w <+: rest.toList) ∧
    (∀ rest : String, f.readComponents s.toList = .error (.trailingText rest.toList) ↔
      rest ≠ "" ∧ ∃ written, s = written ++ rest ∧ Renders f.tokens written.toList) ∧
    ∀ e, f.readComponents s.toList = .error e →
      (∃ (token : FormatToken) (position : Nat), e = token.expectedAt position) ∨
        ∃ rest : String, e = .trailingText rest.toList := by
  have hlist : Function.Surjective String.toList := fun l => ⟨String.ofList l, String.toList_ofList⟩
  have hcut : ∀ written rest : String, s.toList = written.toList ++ rest.toList ↔
      s = written ++ rest := fun written rest => by
    rw [← String.toList_append, String.toList_inj]
  refine ⟨fun token position => ?_, fun rest => ?_, fun e he => ?_⟩
  · rw [readComponents_eq_expectedAt_iff]
    simp only [hlist.exists, hcut, utf8Length_toList]
    refine ⟨fun h => ⟨?_, h⟩, And.right⟩
    obtain ⟨_, _, written, rest, -, hs, hposition, -⟩ := h
    exact String.Pos.Raw.isValid_iff_exists_append.mpr
      ⟨written, rest, hs, String.Pos.Raw.ext hposition.symm⟩
  · rw [readComponents_eq_trailingText_iff]
    simp only [hlist.exists, hcut, ne_eq, String.toList_eq_nil_iff]
  · rw [← hlist.exists (p := fun rest => e = .trailingText rest)]
    exact error_of_readComponents he

/-- A literal of three bytes, a day, and a month in whose second place stands a character of two bytes:
    the month is missed at the sixth byte. And a blank behind the whole date. -/
theorem month_is_missed_behind_day :
    ∃ f, ofPattern "→DDMM".toList = .ok f ∧
      f.readComponents "→071é".toList = .error (.digitsExpected .month 5) ∧
      (⟨5⟩ : String.Pos.Raw).IsValid "→071é" ∧
      f.readComponents "→0712 ".toList = .error (.trailingText [' ']) := by
  let f : DateFormat := ⟨[.literal ['→'], .component .day, .component .month],
    by decide, by decide, by decide⟩
  have hday : Matches (.component .day) ['0', '7'] := .component rfl (List.all_eq_true.mp rfl)
  have hmonth : Matches (.component .month) ['1', '2'] := .component rfl (List.all_eq_true.mp rfl)
  have hmissed : ∀ w, Matches (.component .month) w → ¬ w <+: ['1', 'é'] := by
    rintro w (_ | ⟨hlen, hdigit⟩) hprefix
    obtain rfl := hprefix.eq_of_length hlen
    exact absurd (hdigit 'é' (by decide)) (by decide)
  have hplace : (⟨5⟩ : String.Pos.Raw).IsValid "→071é" :=
    String.Pos.Raw.isValid_iff_exists_append.mpr ⟨"→07", "1é", by decide +kernel, by decide +kernel⟩
  have hread := ((reading_errors_point_at_first_mismatch f "→071é").1 (.component .month) 5).mpr
    ⟨hplace, [.literal ['→'], .component .day], [], "→07", "1é", rfl, by decide +kernel,
      by decide +kernel, .cons (.literal ['→']) (.cons hday .nil), hmissed⟩
  have htrailing := ((reading_errors_point_at_first_mismatch f "→0712 ").2.1 " ").mpr
    ⟨by decide, "→0712", by decide +kernel, .cons (.literal ['→']) (.cons hday (.cons hmonth .nil))⟩
  exact ⟨f, rfl, hread, hplace, htrailing⟩

end DateFormat

end Fieldwise
