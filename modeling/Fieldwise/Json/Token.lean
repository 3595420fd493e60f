import Fieldwise.Json.Quoted

/-!
The tokens of JSON text. Blanks between tokens are space, tab, line feed and carriage return.
-/

namespace Fieldwise.Json

/-- A number as it is written: sign, digits before and after the point, and the exponent with its
    sign. -/
structure NumberLiteral where
  negative : Bool
  whole : List Char
  fraction : List Char
  exponent : Option (Bool × List Char)
  deriving DecidableEq, Repr

inductive Token where
  | openObject
  | closeObject
  | openArray
  | closeArray
  | comma
  | colon
  | null
  | boolean (b : Bool)
  | number (n : NumberLiteral)
  | string (s : Quoted)
  deriving DecidableEq, Repr

/-- The character may stand between tokens. -/
def isSpace (c : Char) : Bool := c = ' ' || c = '\t' || c = '\n' || c = '\r'

def skipSpace (text : List Char) : List Char := text.dropWhile isSpace

theorem length_dropWhile_le (p : Char → Bool) (text : List Char) :
    (text.dropWhile p).length ≤ text.length := (List.dropWhile_suffix p).length_le

/-- A text that is known to be shorter than another one. -/
abbrev Shorter (text : List Char) := { rest : List Char // rest.length < text.length }

/-- A text that is known to be no longer than another one. -/
abbrev NotLonger (text : List Char) := { rest : List Char // rest.length ≤ text.length }

/-- The digits at the start of a text, one at least, and what follows. -/
def scanDigits? (text : List Char) : Option (List Char × NotLonger text) :=
  if text.takeWhile Char.isDigit = [] then none
  else some (text.takeWhile Char.isDigit, ⟨text.dropWhile Char.isDigit, length_dropWhile_le ..⟩)

/-- The digits before the point: a zero alone, or digits that do not begin with zero. -/
def scanWhole? : (text : List Char) → Option (List Char × Shorter text)
  | [] => none
  | c :: rest =>
    if c = '0' then some (['0'], ⟨rest, Nat.lt_succ_self _⟩)
    else if c.isDigit then
      some (c :: rest.takeWhile Char.isDigit,
        ⟨rest.dropWhile Char.isDigit, Nat.lt_succ_of_le (length_dropWhile_le ..)⟩)
    else none

/-- The digits after the point, if there is a point. -/
def scanFraction? : (text : List Char) → Option (List Char × NotLonger text)
  | '.' :: rest =>
    (scanDigits? rest).map fun (digits, ⟨rest, h⟩) => (digits, ⟨rest, Nat.le_succ_of_le h⟩)
  | text => some ([], ⟨text, Nat.le_refl _⟩)

/-- The sign at the start of a text; `true` for a minus. -/
def scanSign : (text : List Char) → Bool × NotLonger text
  | '-' :: rest => (true, ⟨rest, Nat.le_succ _⟩)
  | '+' :: rest => (false, ⟨rest, Nat.le_succ _⟩)
  | text => (false, ⟨text, Nat.le_refl _⟩)

/-- The exponent, if there is one. -/
def scanExponent? : (text : List Char) →
    Option (Option (Bool × List Char) × NotLonger text)
  | [] => some (none, ⟨[], Nat.le_refl _⟩)
  | c :: rest =>
    if c = 'e' ∨ c = 'E' then
      let (negative, ⟨rest', h⟩) := scanSign rest
      (scanDigits? rest').map fun (digits, ⟨rest'', h'⟩) =>
        (some (negative, digits), ⟨rest'', Nat.le_succ_of_le (Nat.le_trans h' h)⟩)
    else some (none, ⟨c :: rest, Nat.le_refl _⟩)

/-- The number at the start of a text, but for its sign, and what follows. -/
def scanNumber? (negative : Bool) (text : List Char) : Option (Token × Shorter text) :=
  match scanWhole? text with
  | none => none
  | some (whole, ⟨rest, h⟩) =>
    match scanFraction? rest with
    | none => none
    | some (fraction, ⟨rest', h'⟩) =>
      match scanExponent? rest' with
      | none => none
      | some (exponent, ⟨rest'', h''⟩) =>
        some (.number ⟨negative, whole, fraction, exponent⟩,
          ⟨rest'', Nat.lt_of_le_of_lt (Nat.le_trans h'' h') h⟩)

/-- The words of JSON with their tokens. -/
def keywords : List (List Char × Token) :=
  [("null".toList, .null), ("true".toList, .boolean true), ("false".toList, .boolean false)]

/-- The keyword at the start of a text that is not empty, and what follows. -/
def scanKeyword? (text : List Char) (hne : text ≠ []) : Option (Token × Shorter text) :=
  (keywords.find? fun k => k.1.isPrefixOf text).map fun k =>
    (k.2, ⟨text.drop (max k.1.length 1), by
      have := List.length_pos_iff.mpr hne
      simp only [List.length_drop]
      omega⟩)

/-- The mark that a character is by itself. -/
def mark? (c : Char) : Option Token :=
  if c = '\x7b' then some .openObject
  else if c = '\x7d' then some .closeObject
  else if c = '[' then some .openArray
  else if c = ']' then some .closeArray
  else if c = ',' then some .comma
  else if c = ':' then some .colon
  else none

/-- The token at the start of a text, and what follows. -/
def nextToken? : (text : List Char) → Option (Token × Shorter text)
  | [] => none
  | c :: rest =>
    match mark? c with
    | some t => some (t, ⟨rest, Nat.lt_succ_self _⟩)
    | none =>
      if c = '"' then
        match h : scanQuoted rest with
        | none => none
        | some (units, rest') =>
          some (.string units, ⟨rest', Nat.lt_succ_of_lt (length_of_scanQuoted h)⟩)
      else if c = '-' then
        (scanNumber? true rest).map fun (t, ⟨rest', h⟩) => (t, ⟨rest', Nat.lt_succ_of_lt h⟩)
      else if c.isDigit then scanNumber? false (c :: rest)
      else scanKeyword? (c :: rest) (List.cons_ne_nil c rest)

/-- The tokens of a text that does not begin with a blank. -/
def tokensFrom? (text : List Char) : Option (List Token) :=
  if text = [] then some []
  else
    match nextToken? text with
    | none => none
    | some (t, ⟨rest, _⟩) => (tokensFrom? (skipSpace rest)).map (t :: ·)
termination_by text.length
decreasing_by exact Nat.lt_of_le_of_lt (length_dropWhile_le ..) ‹_›

def tokens? (text : List Char) : Option (List Token) := tokensFrom? (skipSpace text)

end Fieldwise.Json
