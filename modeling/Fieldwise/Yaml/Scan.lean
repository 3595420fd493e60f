import Fieldwise.Yaml.Text
import Fieldwise.Yaml.Token

/-!
How far the scan of a text has come. Collections without brackets are found by their indentation: a
token opens one where a dash or a key stands further right than the collection around it, and a
token closes it where a line begins further left. A key is known as one only when the colon after it
is met; until then the place where it began is remembered, and its tokens are put in afterwards.
-/

namespace Fieldwise.Yaml

/-- A place where a key may have begun. -/
structure KeyCandidate where
  /-- The number of tokens in front of it. -/
  position : Nat
  cursor : Cursor
  /-- Nothing but a key can stand there. -/
  required : Bool

/-- How far a scan has come. -/
structure Scan where
  cursor : Cursor
  /-- The tokens found, in reverse. -/
  produced : List Token
  /-- The columns of the open collections without brackets, the innermost first. -/
  indents : List Nat
  /-- The last place where a key may have begun, inside the innermost brackets. -/
  candidate : Option KeyCandidate
  /-- The same for the brackets around, the innermost first. -/
  outer : List (Option KeyCandidate)
  keyAllowed : Bool

/-- How many bytes may lie between the start of a key and its colon. -/
def maxKeyLength : Nat := 1024

namespace Scan

def start (text : List Char) : Scan := ⟨.start text, [], [], none, [], true⟩

def inFlow (s : Scan) : Bool := !s.outer.isEmpty

def emit (s : Scan) (t : Token) : Scan := { s with produced := t :: s.produced }

def insertAt (s : Scan) (position : Nat) (tokens : List Token) : Scan :=
  let later := s.produced.length - position
  { s with produced := s.produced.take later ++ tokens.reverse ++ s.produced.drop later }

/-- Closes the collections without brackets that lie further right than a column. -/
def closeBlocks (s : Scan) (column : Nat) : Scan :=
  if s.inFlow then s
  else
    let closed := s.indents.takeWhile fun i => column < i
    { s with
      indents := s.indents.drop closed.length
      produced := List.replicate closed.length .blockEnd ++ s.produced }

def closeAllBlocks (s : Scan) : Scan :=
  if s.inFlow then s
  else { s with indents := [], produced := List.replicate s.indents.length .blockEnd ++ s.produced }

/-- A column lies further right than the innermost open collection. -/
def opensBlock (s : Scan) (column : Nat) : Bool :=
  !s.inFlow && match s.indents with
    | [] => true
    | i :: _ => i < column

/-- Opens a collection without brackets where a column asks for one. -/
def openBlock (s : Scan) (column : Nat) (t : Token) : Scan :=
  if s.opensBlock column then { s.emit t with indents := column :: s.indents } else s

/-- Gives up the last place where a key may have begun, unless nothing but a key can stand there. -/
def dropCandidate? (s : Scan) : Option Scan :=
  match s.candidate with
  | some k => if k.required then none else some { s with candidate := none }
  | none => some s

def noteCandidate? (s : Scan) : Option Scan :=
  if s.keyAllowed then
    let required := !s.inFlow && s.indents.head? = some s.cursor.column
    s.dropCandidate?.map fun s =>
      { s with candidate := some ⟨s.produced.length, s.cursor, required⟩ }
  else some s

/-- No key can have begun at the place any more: it lies on another line or too far back. -/
def isStale (s : Scan) (k : KeyCandidate) : Bool :=
  k.cursor.line < s.cursor.line || maxKeyLength < k.cursor.bytesTo s.cursor

/-- Keeps a place where a key may have begun unless it is stale; there must not be one that is stale
    and can only be a key. -/
def refresh? (s : Scan) : Option KeyCandidate → Option (Option KeyCandidate)
  | some k => if s.isStale k then if k.required then none else some none else some (some k)
  | none => some none

/-- Gives up all stale places where a key may have begun. -/
def dropStale? (s : Scan) : Option Scan := do
  let candidate ← s.refresh? s.candidate
  let outer ← s.outer.mapM s.refresh?
  return { s with candidate := candidate, outer := outer }

/-- Passes over blanks, comments and line ends. A tab is blank only where no key may begin. A byte
    order mark at the start of a line is passed over too, but takes a column. -/
def skipGaps (flow : Bool) (line column : Nat) (inComment keyAllowed : Bool) :
    List Char → Cursor × Bool
  | [] => (⟨[], line, column⟩, keyAllowed)
  | c :: rest =>
    if isBreak c then skipGaps flow (line + 1) 0 false (keyAllowed || !flow) rest
    else if column = 0 && c = '\uFEFF' then skipGaps flow line 1 inComment keyAllowed rest
    else if inComment || c = ' ' || ((flow || !keyAllowed) && c = '\t') then
      skipGaps flow line (column + 1) inComment keyAllowed rest
    else if c = '#' then skipGaps flow line (column + 1) true keyAllowed rest
    else (⟨c :: rest, line, column⟩, keyAllowed)

def toToken (s : Scan) : Scan :=
  let (cursor, keyAllowed) :=
    skipGaps s.inFlow s.cursor.line s.cursor.column false s.keyAllowed s.cursor.rest
  { s with cursor := cursor, keyAllowed := keyAllowed }

end Scan

end Fieldwise.Yaml
