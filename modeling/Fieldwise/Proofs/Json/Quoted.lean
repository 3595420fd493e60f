import Fieldwise.Json.Quoted
import Mathlib.Data.List.Basic

/-!
Quoted strings read back. Each character of a text is read from its escape as one unit, and the units stand
for the text again, whatever characters it has.
-/

namespace Fieldwise.Json

/-- The characters that are escaped by a letter or by themselves. -/
def namedEscapes : List Char := ['"', '\\', '\n', '\r', '\t', '\x08', '\x0c']

/-- What is read for a character that was written: its code if that was written, else the character. -/
def unitOf (c : Char) : QuotedUnit :=
  if c.toNat < 0x20 ∧ c ∉ namedEscapes then .code c.toNat else .character c

/-- What is read for a text that was written. -/
def unitsOf (text : List Char) : Quoted := text.map unitOf

section Escape
variable {c letter : Char}

theorem escape_of_named (h : c ∈ namedEscapes) :
    ∃ letter, escape c = ['\\', letter] ∧ letter ≠ 'u' ∧ unescape? letter = some c := by
  simp only [namedEscapes, List.mem_cons, List.not_mem_nil, or_false] at h
  rcases h with rfl | rfl | rfl | rfl | rfl | rfl | rfl <;> exact ⟨_, rfl, by decide, by decide⟩

theorem escape_of_not_named (h : c ∉ namedEscapes) : escape c =
    if c.toNat < 0x20 then
      ['\\', 'u', '0', '0', Nat.digitChar (c.toNat / 16), Nat.digitChar (c.toNat % 16)]
    else [c] := by
  simp only [namedEscapes, List.mem_cons, List.not_mem_nil, or_false, not_or] at h
  obtain ⟨h₁, h₂, h₃, h₄, h₅, h₆, h₇⟩ := h
  rw [escape, if_neg h₁, if_neg h₂, if_neg h₃, if_neg h₄, if_neg h₅, if_neg h₆, if_neg h₇]

theorem hexNumber?_code : ∀ n < 0x20,
    hexNumber? ['0', '0', Nat.digitChar (n / 16), Nat.digitChar (n % 16)] = some n := by
  decide

end Escape

/-! ### Reading -/

section Scan
variable {c letter : Char}

theorem scanQuoted_named (hne : letter ≠ 'u') (h : unescape? letter = some c) (rest : List Char) :
    scanQuoted ('\\' :: letter :: rest) =
      (scanQuoted rest).map fun read => (.character c :: read.1, read.2) := by
  rw [scanQuoted.eq_def]
  split
  · simp_all
  · simp_all
  · simp_all
  · next letter' rest' _ heq =>
    cases heq
    rw [h]
    cases scanQuoted rest <;> rfl
  · next c' rest' _ _ hslash heq =>
    cases heq
    exact absurd rfl (hslash letter rest rfl)

theorem scanQuoted_code {n : Nat} (hn : n < 0x20) (rest : List Char) :
    scanQuoted (['\\', 'u', '0', '0', Nat.digitChar (n / 16), Nat.digitChar (n % 16)] ++ rest) =
      (scanQuoted rest).map fun read => (.code n :: read.1, read.2) := by
  simp only [List.cons_append, List.nil_append]
  rw [scanQuoted, hexNumber?_code n hn]
  cases scanQuoted rest <;> rfl

theorem scanQuoted_plain (h : c ∉ namedEscapes) (hcode : ¬ c.toNat < 0x20) (rest : List Char) :
    scanQuoted (c :: rest) =
      (scanQuoted rest).map fun read => (.character c :: read.1, read.2) := by
  have hquote : c ≠ '"' := fun hc => h (hc ▸ by decide)
  have hslash : c ≠ '\\' := fun hc => h (hc ▸ by decide)
  rw [scanQuoted.eq_def]
  split
  · simp_all
  · simp_all
  · simp_all
  · simp_all
  · next c' rest' _ _ _ heq =>
    cases heq
    rw [if_neg (by simp [hcode, hslash])]
    cases scanQuoted rest <;> rfl

/-- A written character is read as its unit. -/
theorem scanQuoted_escape (c : Char) (rest : List Char) : scanQuoted (escape c ++ rest) =
    (scanQuoted rest).map fun read => (unitOf c :: read.1, read.2) := by
  by_cases hnamed : c ∈ namedEscapes
  · obtain ⟨letter, hescape, hne, hletter⟩ := escape_of_named hnamed
    rw [hescape, unitOf, if_neg fun h => h.2 hnamed]
    exact scanQuoted_named hne hletter rest
  · rw [escape_of_not_named hnamed]
    by_cases hcode : c.toNat < 0x20
    · rw [if_pos hcode, unitOf, if_pos ⟨hcode, hnamed⟩]
      exact scanQuoted_code hcode rest
    · rw [if_neg hcode, unitOf, if_neg fun h => hcode h.1]
      exact scanQuoted_plain hnamed hcode rest

/-- A written text is read as its units, up to the quote that closes it. -/
theorem scanQuoted_escapes (text rest : List Char) :
    scanQuoted (text.flatMap escape ++ '"' :: rest) = some (unitsOf text, rest) := by
  induction text with
  | nil => rfl
  | cons c text ih =>
    rw [List.flatMap_cons, List.append_assoc, scanQuoted_escape, ih]
    rfl

end Scan

/-! ### Meaning -/

/-- A code below the space is half of no surrogate pair, so what follows it does not count. -/
theorem text?_code_cons {n : Nat} (hn : n < 0x20) (units : Quoted) :
    Quoted.text? (.code n :: units) = (Quoted.text? units).map (Char.ofNat n :: ·) := by
  have hhigh : isHighSurrogate n = false := by
    rw [isHighSurrogate, Bool.and_eq_false_iff, decide_eq_false_iff_not]
    omega
  have hlow : isLowSurrogate n = false := by
    rw [isLowSurrogate, Bool.and_eq_false_iff, decide_eq_false_iff_not]
    omega
  rw [Quoted.text?.eq_def]
  split
  · simp_all
  · simp_all
  · next heq =>
    cases heq
    rw [hhigh, hlow]
    rfl
  · next heq =>
    cases heq
    rw [hhigh, hlow]
    rfl

theorem text?_unitOf_cons (c : Char) (units : Quoted) :
    Quoted.text? (unitOf c :: units) = (Quoted.text? units).map (c :: ·) := by
  unfold unitOf
  split
  · next h => rw [text?_code_cons h.1, Char.ofNat_toNat]
  · rfl

theorem text?_unitsOf (text : List Char) : Quoted.text? (unitsOf text) = some text := by
  induction text with
  | nil => rfl
  | cons c text ih =>
    have hcons : unitsOf (c :: text) = unitOf c :: unitsOf text := rfl
    rw [hcons, text?_unitOf_cons, ih, Option.map_some]

theorem string?_unitsOf (text : List Char) :
    Quoted.string? (unitsOf text) = some (String.ofList text) := by
  rw [Quoted.string?, text?_unitsOf, Option.map_some]

end Fieldwise.Json
