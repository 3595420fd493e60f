import Fieldwise.Yaml.Scalar.Block
import Fieldwise.Yaml.Scalar.Plain
import Fieldwise.Yaml.Scalar.Quoted
import Fieldwise.Yaml.Scan

/-!
The scan of a text into tokens. Each step reads the token at which the scan stands, by its first
characters. Anchors, tags and directives are not read.
-/

namespace Fieldwise.Yaml

namespace Scan

/-- Adds a token of one character. -/
def take (s : Scan) (t : Token) (keyAllowed : Bool) : Scan :=
  { s.emit t with cursor := s.cursor.forward, keyAllowed := keyAllowed }

/-- Reads the mark at the start or the end of a document. -/
def documentMark? (s : Scan) (t : Token) : Option Scan :=
  s.closeAllBlocks.dropCandidate?.map fun s =>
    { s.emit t with cursor := s.cursor.skip 3, keyAllowed := false }

/-- Reads an opening bracket. -/
def openFlow? (s : Scan) (t : Token) : Option Scan :=
  s.noteCandidate?.map fun s =>
    { s.take t true with candidate := none, outer := s.candidate :: s.outer }

/-- Reads a closing bracket. -/
def closeFlow? (s : Scan) (t : Token) : Option Scan :=
  s.dropCandidate?.map fun s =>
    match s.outer with
    | [] => s.take t false
    | candidate :: outer => { s.take t false with candidate := candidate, outer := outer }

/-- Reads the comma between two entries in brackets. -/
def flowEntry? (s : Scan) : Option Scan := s.dropCandidate?.map fun s => s.take .flowEntry true

/-- Reads the dash before an entry of a sequence. -/
def blockEntry? (s : Scan) : Option Scan :=
  if !s.inFlow && !s.keyAllowed then none
  else (s.openBlock s.cursor.column .blockSequenceStart).dropCandidate?.map fun s =>
    s.take .blockEntry true

/-- Reads the question mark before a key. -/
def explicitKey? (s : Scan) : Option Scan :=
  if !s.inFlow && !s.keyAllowed then none
  else (s.openBlock s.cursor.column .blockMappingStart).dropCandidate?.map fun s =>
    s.take .key (!s.inFlow)

/-- Reads the colon before a value; what stands before it on the line becomes the key. -/
def value? (s : Scan) : Option Scan :=
  match s.candidate with
  | some k =>
    let opens := s.opensBlock k.cursor.column
    let s := s.insertAt k.position (if opens then [.blockMappingStart, .key] else [.key])
    let s := if opens then { s with indents := k.cursor.column :: s.indents } else s
    some ({ s with candidate := none }.take .value false)
  | none =>
    if s.inFlow then some (s.take .value false)
    else if !s.keyAllowed then none
    else some ((s.openBlock s.cursor.column .blockMappingStart).take .value true)

/-- Adds a scalar that may be a key. -/
def inlineScalar? (s : Scan) (plain : Bool) (scan : Scan → Option Scanned) : Option Scan := do
  let s ← s.noteCandidate?
  let scanned ← scan s
  return { s.emit (.scalar (String.ofList scanned.text) plain) with
    cursor := scanned.cursor, keyAllowed := scanned.afterBreak }

/-- Reads a plain scalar. -/
def plainScalar? (s : Scan) : Option Scan :=
  s.inlineScalar? true fun s =>
    let indent := match s.indents with
      | [] => 0
      | i :: _ => i + 1
    scanPlain s.inFlow indent s.cursor.line s.cursor.column .none [] s.cursor.rest

/-- Reads a scalar in quotes. -/
def quotedScalar? (s : Scan) (double : Bool) : Option Scan :=
  s.inlineScalar? false fun s =>
    scanQuoted double s.cursor.line (s.cursor.column + 1) 0 .none [] s.cursor.rest.tail

/-- Reads a block scalar. -/
def blockScalar? (s : Scan) (folded : Bool) : Option Scan := do
  let s ← s.dropCandidate?
  let scanned ← scanBlock folded s.indents.head? s.cursor.forward
  return { s.emit (.scalar (String.ofList scanned.text) false) with
    cursor := scanned.cursor, keyAllowed := true }

/-- The character begins something that is not a plain scalar, wherever it stands. -/
def isIndicator (c : Char) : Bool := "#&*!|>'\"%@\x60".toList.contains c || isFlowMark c

/-- Reads the token at which the scan stands. -/
def token? (s : Scan) : Option Scan :=
  match s.cursor.rest with
  | [] => none
  | c :: rest =>
    if s.cursor.column = 0 && c = '%' then none
    else if s.cursor.column = 0 && isDocumentMark (c :: rest) then
      s.documentMark? (if c = '-' then .documentStart else .documentEnd)
    else if c = '[' then s.openFlow? .flowSequenceStart
    else if c = '\x7b' then s.openFlow? .flowMappingStart
    else if c = ']' then s.closeFlow? .flowSequenceEnd
    else if c = '\x7d' then s.closeFlow? .flowMappingEnd
    else if c = ',' then s.flowEntry?
    else if c = '-' && isGap rest then s.blockEntry?
    else if c = '?' && (s.inFlow || isGap rest) then s.explicitKey?
    else if c = ':' && (s.inFlow || isGap rest) then s.value?
    else if c = '|' && !s.inFlow then s.blockScalar? false
    else if c = '>' && !s.inFlow then s.blockScalar? true
    else if c = '\'' then s.quotedScalar? false
    else if c = '"' then s.quotedScalar? true
    else if isIndicator c || isPad c then none
    else s.plainScalar?

/-- The tokens that a scan finds up to the end of the text. A token takes at least one character. -/
def run? (s : Scan) : Option (List Token) :=
  match s.toToken.dropStale? with
  | none => none
  | some s' =>
    if s'.cursor.rest = [] then
      s'.closeAllBlocks.dropCandidate?.map fun s => s.produced.reverse
    else
      match (s'.closeBlocks s'.cursor.column).token? with
      | none => none
      | some next =>
        if next.cursor.rest.length < s.cursor.rest.length then next.run? else none
termination_by s.cursor.rest.length

end Scan

def tokens? (text : List Char) : Option (List Token) := do
  let text ← prepare? text
  (Scan.start text).run?

end Fieldwise.Yaml
