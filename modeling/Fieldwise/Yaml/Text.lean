import Fieldwise.Text.Utf8

/-!
YAML text: which characters it may hold, where its lines end, and a cursor that knows its line and
column. Carriage returns and the next-line character are read as line feeds; the line and paragraph
separators end lines too and stay what they are.
-/

namespace Fieldwise.Yaml

def isAllowed (c : Char) : Bool :=
  let n := c.toNat
  n = 0x09 || n = 0x0A || n = 0x0D || (0x20 ≤ n && n ≤ 0x7E) || n = 0x85 ||
    (0xA0 ≤ n && n ≤ 0xD7FF) || (0xE000 ≤ n && n ≤ 0xFFFD) || 0x10000 ≤ n

def isBreak (c : Char) : Bool := c = '\n' || c = '\u2028' || c = '\u2029'

def isPad (c : Char) : Bool := c = ' ' || c = '\t'

/-- The text is over, or goes on with a space, a tab or the end of a line. -/
def isGap : List Char → Bool
  | [] => true
  | c :: _ => isPad c || isBreak c

/-- The text with a line feed for every carriage return, next-line character, and carriage return
    that a line feed follows. -/
def normalizeBreaks : List Char → List Char
  | [] => []
  | '\r' :: '\n' :: rest => '\n' :: normalizeBreaks rest
  | c :: rest => (if c = '\r' ∨ c = '\u0085' then '\n' else c) :: normalizeBreaks rest

/-- The text as it is scanned, if all its characters are allowed. -/
def prepare? (text : List Char) : Option (List Char) :=
  if text.all isAllowed then some (normalizeBreaks text) else none

/-- Three dashes or three dots with a gap after them: at the start of a line, the start or the end
    of a document. -/
def isDocumentMark : List Char → Bool
  | '-' :: '-' :: '-' :: rest => isGap rest
  | '.' :: '.' :: '.' :: rest => isGap rest
  | _ => false

/-- A place in a text: what follows, and the line and column, both counted from zero. -/
structure Cursor where
  rest : List Char
  line : Nat
  column : Nat

namespace Cursor

def start (text : List Char) : Cursor := ⟨text, 0, 0⟩

/-- The place after the next character, which does not end a line. -/
def forward (c : Cursor) : Cursor := ⟨c.rest.tail, c.line, c.column + 1⟩

/-- The place after a number of characters, none of which ends a line. -/
def skip (c : Cursor) (n : Nat) : Cursor := ⟨c.rest.drop n, c.line, c.column + n⟩

/-- The number of bytes from a place to a later one on the same line. -/
def bytesTo (c later : Cursor) : Nat := utf8Length (c.rest.take (later.column - c.column))

end Cursor

end Fieldwise.Yaml
