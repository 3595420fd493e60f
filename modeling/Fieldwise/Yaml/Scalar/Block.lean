import Fieldwise.Yaml.Scalar

/-!
Block scalars: the lines below a bar or an angle bracket that are indented further than what is
around them. A literal scalar keeps all line ends. In a folded one, a single line end between two
lines that do not begin with a blank becomes a space.
-/

namespace Fieldwise.Yaml

/-- Which of the line ends at the end of a block scalar are kept. -/
inductive Chomping where
  | strip
  | clip
  | keep
  deriving DecidableEq

/-- The marks after the sign of a block scalar. -/
structure BlockHeader where
  chomping : Chomping
  /-- By how much the scalar is indented, if that is said. -/
  increment : Option Nat

def chomping? (c : Char) : Option Chomping :=
  if c = '+' then some .keep else if c = '-' then some .strip else none

/-- Reads an indentation, which must not be zero, if one is there. -/
def scanIncrement : (text : List Char) → Option (Option Nat × List Char)
  | [] => some (none, [])
  | c :: rest =>
    if c = '0' then none
    else if c.isDigit then some (some (c.toNat - '0'.toNat), rest)
    else some (none, c :: rest)

/-- Reads chomping and indentation, in either order. -/
def scanHeader (text : List Char) : Option (BlockHeader × List Char) :=
  match text with
  | [] => some (⟨.clip, none⟩, [])
  | c :: rest =>
    match chomping? c with
    | some chomping =>
      (scanIncrement rest).map fun (increment, rest) => (⟨chomping, increment⟩, rest)
    | none =>
      match scanIncrement (c :: rest) with
      | none => none
      | some (none, rest) => some (⟨.clip, none⟩, rest)
      | some (some n, []) => some (⟨.clip, some n⟩, [])
      | some (some n, d :: rest) =>
        match chomping? d with
        | some chomping => some (⟨chomping, some n⟩, rest)
        | none => some (⟨.clip, some n⟩, d :: rest)

/-- The lines at the start of a block scalar on which nothing is visible. -/
structure EmptyLines where
  cursor : Cursor
  widest : Nat
  breaks : List Char

/-- Passes over empty lines and the indentation of the line after them. -/
def scanEmptyLines (line column widest : Nat) (breaks : List Char) : List Char → Option EmptyLines
  | [] => some ⟨⟨[], line, column⟩, widest, breaks⟩
  | c :: rest =>
    if c = ' ' then scanEmptyLines line (column + 1) (max widest (column + 1)) breaks rest
    else if c = '\t' then none
    else if isBreak c then scanEmptyLines (line + 1) 0 widest (breaks ++ [c]) rest
    else some ⟨⟨c :: rest, line, column⟩, widest, breaks⟩

/-- What was read of a block scalar. -/
structure BlockLines where
  done : List Char
  /-- The end of the last line with text. -/
  lastBreak : Option Char
  /-- The last line with text begins with a blank. -/
  lastPadded : Bool
  /-- The ends of the empty lines after it. -/
  emptyBreaks : List Char

namespace BlockLines

/-- Goes on with a line that begins with `c`. -/
def beginLine (folded : Bool) (c : Char) (b : BlockLines) : BlockLines :=
  let joined :=
    if folded && b.lastBreak = some '\n' && !b.lastPadded && !isPad c then
      if b.emptyBreaks = [] then [' '] else []
    else b.lastBreak.toList
  ⟨c :: ((joined ++ b.emptyBreaks).reverse ++ b.done), none, isPad c, []⟩

/-- The value of the scalar. -/
def text (chomping : Chomping) (b : BlockLines) : List Char :=
  b.done.reverse ++
    match chomping with
    | .strip => []
    | .clip => b.lastBreak.toList
    | .keep => b.lastBreak.toList ++ b.emptyBreaks

end BlockLines

/-- Reads the lines of a block scalar that are indented to column `indent`; `inLine` tells whether
    the indentation of the current line has been passed. -/
def scanBlockLines (folded : Bool) (indent : Nat) (line column : Nat) (inLine : Bool)
    (b : BlockLines) : List Char → Option (BlockLines × Cursor)
  | [] => some (b, ⟨[], line, column⟩)
  | c :: rest =>
    if inLine then
      if isBreak c then
        scanBlockLines folded indent (line + 1) 0 false { b with lastBreak := some c } rest
      else scanBlockLines folded indent line (column + 1) true { b with done := c :: b.done } rest
    else if column < indent && c = ' ' then
      scanBlockLines folded indent line (column + 1) false b rest
    else if column < indent && c = '\t' then none
    else if isBreak c then
      scanBlockLines folded indent (line + 1) 0 false
        { b with emptyBreaks := b.emptyBreaks ++ [c] } rest
    else if column = indent then
      scanBlockLines folded indent line (column + 1) true (b.beginLine folded c) rest
    else some (b, ⟨c :: rest, line, column⟩)

/-- Reads a block scalar after its sign. `parent` is the column of the collection around it, if
    there is one. -/
def scanBlock (folded : Bool) (parent : Option Nat) (cursor : Cursor) : Option Scanned :=
  match scanHeader cursor.rest with
  | none => none
  | some (header, rest) =>
    let rest := rest.dropWhile isPad
    let rest := match rest with
      | '#' :: _ => rest.dropWhile fun c => !isBreak c
      | _ => rest
    match rest with
    | [] => some ⟨[], ⟨[], cursor.line, cursor.column + 1⟩, false⟩
    | c :: rest =>
      if !isBreak c then none
      else
        match header.increment with
        | some n =>
          let indent := parent.getD 0 + n
          (scanBlockLines folded indent (cursor.line + 1) 0 false ⟨[], none, false, []⟩ rest).map
            fun (b, cursor) => ⟨b.text header.chomping, cursor, false⟩
        | none =>
          match scanEmptyLines (cursor.line + 1) 0 0 [] rest with
          | none => none
          | some lines =>
            let least := match parent with
              | some n => n + 1
              | none => 0
            let indent := max (max lines.widest least) 1
            (scanBlockLines folded indent lines.cursor.line lines.cursor.column false
              ⟨[], none, false, lines.breaks⟩ lines.cursor.rest).map
              fun (b, cursor) => ⟨b.text header.chomping, cursor, false⟩

end Fieldwise.Yaml
