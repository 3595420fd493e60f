import Fieldwise.Calendar.PartialDate
import Fieldwise.DateFormat.Basic
import Fieldwise.Text.Utf8

/-!
Dates as text in a format. Reading is strict: every literal must stand as in the pattern, every
component takes exactly its number of digits, and nothing may follow. Writing does the reverse.
-/

namespace Fieldwise

/-- What follows a literal at the start of a text. -/
def dropLiteral? : (literal text : List Char) → Option (List Char)
  | [], text => some text
  | _ :: _, [] => none
  | l :: literal, c :: text => if l = c then dropLiteral? literal text else none

/-- The number that the first `width` characters stand for, if all are digits, and what follows. -/
def takeDigits? (width : Nat) (text : List Char) : Option (Nat × List Char) :=
  let digits := text.take width
  if digits.length = width ∧ digits.all Char.isDigit then
    some (Nat.ofDigitChars 10 digits 0, text.drop width)
  else none

namespace FormatToken

/-- Reads a text piece by piece. `position` is the place of `text` in the whole input, and the
    components found further left are in `found`. -/
def read : (tokens : List FormatToken) → (position : Nat) → (text : List Char) →
    (found : PartialDate) → Except DateError PartialDate
  | [], _, [], found => .ok found
  | [], _, c :: rest, _ => .error (.trailingText (c :: rest))
  | literal l :: tokens, position, text, found =>
    match dropLiteral? l text with
    | some rest => read tokens (position + utf8Length l) rest found
    | none => .error (.literalExpected l position)
  | component c :: tokens, position, text, found =>
    match takeDigits? c.width text with
    | some (n, rest) => read tokens (position + c.width) rest (found.set c n)
    | none => .error (.digitsExpected c position)

def write (p : PartialDate) : FormatToken → List Char
  | literal l => l
  | component .day => Numeral.padded Component.day.width (p.day.getD 0)
  | component .month => Numeral.padded Component.month.width (p.month.getD 0)
  | component .year => Numeral.padded Component.year.width (p.year.getD 0).toNat

end FormatToken

namespace DateFormat

def readComponents (f : DateFormat) (text : List Char) : Except DateError PartialDate :=
  FormatToken.read f.tokens 0 text .unknown

def writeComponents (f : DateFormat) (p : PartialDate) : List Char :=
  f.tokens.flatMap (FormatToken.write p)

/-- The period that a text names in the format; `referenceYear` is the year where the format has
    none. -/
def readPeriod (f : DateFormat) (text : List Char) (referenceYear : Int) :
    Except DateError Period := do
  let p ← f.readComponents text
  let d ← p.toDate referenceYear
  return .containing d f.granularity

end DateFormat

end Fieldwise
