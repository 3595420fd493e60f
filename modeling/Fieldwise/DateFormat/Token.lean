import Fieldwise.Calendar.Component

/-!
The pieces of a date pattern. A pattern is cut from left to right into components, each named by its
symbol, and the literal texts between them; `tokenize` does the cutting and `spell` puts the pieces
together again.
-/

namespace Fieldwise

/-- A piece of a date pattern. -/
inductive FormatToken where
  | component (c : Component)
  | literal (text : List Char)
  deriving DecidableEq, Repr

namespace FormatToken

def spelling : FormatToken → List Char
  | component c => c.symbol
  | literal text => text

def component? : FormatToken → Option Component
  | component c => some c
  | literal _ => none

/-- The pattern that a list of pieces makes. -/
def spell (tokens : List FormatToken) : List Char := tokens.flatMap spelling

def components (tokens : List FormatToken) : List Component := tokens.filterMap component?

theorem mem_components_iff {c : Component} {tokens : List FormatToken} :
    c ∈ components tokens ↔ component c ∈ tokens := by
  constructor
  · intro h
    obtain ⟨token, htoken, hc⟩ := List.mem_filterMap.mp h
    cases token with
    | component c' => rwa [← Option.some.inj hc]
    | literal l => cases hc
  · intro h
    exact List.mem_filterMap.mpr ⟨_, h, rfl⟩

/-- Puts a character in front: into the literal at the head if there is one. -/
def consChar (c : Char) : List FormatToken → List FormatToken
  | literal text :: tokens => literal (c :: text) :: tokens
  | tokens => literal [c] :: tokens

/-- Cuts a pattern into its pieces. -/
def tokenize : List Char → List FormatToken
  | 'Y' :: 'Y' :: 'Y' :: 'Y' :: rest => component .year :: tokenize rest
  | 'D' :: 'D' :: rest => component .day :: tokenize rest
  | 'M' :: 'M' :: rest => component .month :: tokenize rest
  | c :: rest => consChar c (tokenize rest)
  | [] => []

theorem spell_consChar (c : Char) (tokens : List FormatToken) :
    spell (consChar c tokens) = c :: spell tokens := by
  unfold consChar
  split <;> simp [spell, spelling]

/-- Nothing of a pattern is lost in cutting it up. -/
theorem spell_tokenize (pattern : List Char) : spell (tokenize pattern) = pattern := by
  fun_induction tokenize pattern with
  | case1 rest ih => simpa [spell, spelling] using ih
  | case2 rest ih => simpa [spell, spelling] using ih
  | case3 rest ih => simpa [spell, spelling] using ih
  | case4 c rest _ _ _ ih => rw [spell_consChar, ih]
  | case5 => rfl

end FormatToken

end Fieldwise
