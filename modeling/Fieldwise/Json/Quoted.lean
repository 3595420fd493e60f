import Fieldwise.Text.Hexadecimal

/-!
Quoted strings. In writing, a quote, a backslash and the control characters below the space are
escaped, and nothing else. In reading, every escape of the standard is understood; an escape that
gives half of a surrogate pair is kept as it is, since whether it matters depends on what the string
is for.
-/

namespace Fieldwise.Json

/-- A character as it is written in a quoted string. -/
def escape (c : Char) : List Char :=
  if c = '"' then ['\\', '"']
  else if c = '\\' then ['\\', '\\']
  else if c = '\n' then ['\\', 'n']
  else if c = '\r' then ['\\', 'r']
  else if c = '\t' then ['\\', 't']
  else if c = '\x08' then ['\\', 'b']
  else if c = '\x0c' then ['\\', 'f']
  else if c.toNat < 0x20 then
    ['\\', 'u', '0', '0', Nat.digitChar (c.toNat / 16), Nat.digitChar (c.toNat % 16)]
  else [c]

/-- A text as a quoted string. -/
def quote (text : List Char) : List Char := '"' :: text.flatMap escape ++ ['"']

/-- A piece of a quoted string: a character, or the code of a numeric escape. -/
inductive QuotedUnit where
  | character (c : Char)
  | code (n : Nat)
  deriving DecidableEq, Repr

/-- What a quoted string holds. -/
abbrev Quoted := List QuotedUnit

/-- The character that an escape of one letter stands for. -/
def unescape? (c : Char) : Option Char :=
  if c = '"' ∨ c = '\\' ∨ c = '/' then some c
  else if c = 'n' then some '\n'
  else if c = 'r' then some '\r'
  else if c = 't' then some '\t'
  else if c = 'b' then some '\x08'
  else if c = 'f' then some '\x0c'
  else none

/-- Reads what stands between an opening quote and the quote that closes the string, and gives what
    follows. -/
def scanQuoted : List Char → Option (Quoted × List Char)
  | [] => none
  | '"' :: rest => some ([], rest)
  | '\\' :: 'u' :: a :: b :: c :: d :: rest =>
    match hexNumber? [a, b, c, d], scanQuoted rest with
    | some n, some (units, rest) => some (.code n :: units, rest)
    | _, _ => none
  | '\\' :: letter :: rest =>
    match unescape? letter, scanQuoted rest with
    | some c, some (units, rest) => some (.character c :: units, rest)
    | _, _ => none
  | c :: rest =>
    if c.toNat < 0x20 ∨ c = '\\' then none
    else
      match scanQuoted rest with
      | some (units, rest) => some (.character c :: units, rest)
      | none => none

theorem length_of_scanQuoted {text rest : List Char} {units : Quoted}
    (h : scanQuoted text = some (units, rest)) : rest.length < text.length := by
  fun_induction scanQuoted text generalizing units rest with
  | case3 a b c d tail n units' rest' hs hn ih =>
    cases h
    have := ih hs
    simp only [List.length_cons]
    omega
  | case2 => cases h; simp
  | case5 | case8 => cases h; grind
  | case1 | case4 | case6 | case7 | case9 => cases h

def isHighSurrogate (n : Nat) : Bool := 0xD800 ≤ n && n < 0xDC00

def isLowSurrogate (n : Nat) : Bool := 0xDC00 ≤ n && n < 0xE000

/-- The text of a quoted string, unless half of a surrogate pair stands alone. -/
def Quoted.text? : Quoted → Option (List Char)
  | [] => some []
  | .character c :: rest => (Quoted.text? rest).map (c :: ·)
  | .code high :: .code low :: rest =>
    if isHighSurrogate high then
      if isLowSurrogate low then
        (Quoted.text? rest).map (Char.ofNat (0x10000 + (high - 0xD800) * 0x400 + (low - 0xDC00)) :: ·)
      else none
    else if isLowSurrogate high then none
    else (Quoted.text? (.code low :: rest)).map (Char.ofNat high :: ·)
  | .code n :: rest =>
    if isHighSurrogate n || isLowSurrogate n then none
    else (Quoted.text? rest).map (Char.ofNat n :: ·)

/-- The string of a quoted string, unless half of a surrogate pair stands alone. -/
def Quoted.string? (q : Quoted) : Option String := q.text?.map String.ofList

end Fieldwise.Json
