import Fieldwise.Text.Hexadecimal
import Fieldwise.Yaml.Scalar

/-!
Scalars in quotes. In single quotes, a quote is written twice and nothing else is special. In double
quotes, a backslash escapes the character after it, or the end of the line.
-/

namespace Fieldwise.Yaml

/-- The character that an escape of one letter stands for. -/
def unescape? (c : Char) : Option Char :=
  match c with
  | '0' => some '\x00'
  | 'a' => some '\x07'
  | 'b' => some '\x08'
  | 't' => some '\t'
  | '\t' => some '\t'
  | 'n' => some '\n'
  | 'v' => some '\x0b'
  | 'f' => some '\x0c'
  | 'r' => some '\r'
  | 'e' => some '\x1b'
  | ' ' => some ' '
  | '"' => some '"'
  | '/' => some '/'
  | '\\' => some '\\'
  | 'N' => some '\u0085'
  | '_' => some '\u00a0'
  | 'L' => some '\u2028'
  | 'P' => some '\u2029'
  | _ => none

/-- The number of digits of a numeric escape. -/
def escapeWidth? (c : Char) : Option Nat :=
  if c = 'x' then some 2 else if c = 'u' then some 4 else if c = 'U' then some 8 else none

/-- The character with the code that hexadecimal digits give, if there is one. -/
def charOfHex? (digits : List Char) : Option Char :=
  (hexNumber? digits).bind fun n => if n.isValidChar then some (Char.ofNat n) else none

/-- What an escape after a backslash stands for, and how many characters it takes. -/
def readEscape? : List Char → Option (Char × Nat)
  | [] => none
  | c :: rest =>
    match escapeWidth? c with
    | some width =>
      if (rest.take width).length = width then
        (charOfHex? (rest.take width)).map fun e => (e, width + 1)
      else none
    | none => (unescape? c).map fun e => (e, 1)

/-- A line end that is escaped comes next. -/
def startsWithBreak (text : List Char) : Bool := text.head?.any isBreak

/-- Reads a scalar in double or single quotes, after the opening quote. Characters that an escape
    has already taken are passed over; `skipped` counts them. -/
def scanQuoted (double : Bool) (line column : Nat) (skipped : Nat) (gap : Gap) (done : List Char) :
    List Char → Option Scanned
  | [] => none
  | c :: rest =>
    if 0 < skipped then
      if isBreak c then scanQuoted double (line + 1) 0 (skipped - 1) gap done rest
      else scanQuoted double line (column + 1) (skipped - 1) gap done rest
    else if isPad c then scanQuoted double line (column + 1) 0 (gap.addPad c) done rest
    else if isBreak c then scanQuoted double (line + 1) 0 0 (gap.addBreak c) done rest
    else if column = 0 && isDocumentMark (c :: rest) then none
    else
      let done := gap.text.reverse ++ done
      if double && c = '\\' then
        if startsWithBreak rest then
          scanQuoted double line (column + 1) 1 (.breaks none []) done rest
        else
          match readEscape? rest with
          | some (e, width) => scanQuoted double line (column + 1) width .none (e :: done) rest
          | none => none
      else if double && c = '"' then some ⟨done.reverse, ⟨rest, line, column + 1⟩, false⟩
      else if !double && c = '\'' then
        if rest.head? = some '\'' then
          scanQuoted double line (column + 1) 1 .none ('\'' :: done) rest
        else some ⟨done.reverse, ⟨rest, line, column + 1⟩, false⟩
      else scanQuoted double line (column + 1) 0 .none (c :: done) rest

end Fieldwise.Yaml
