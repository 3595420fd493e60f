import Fieldwise.Yaml.Scalar

/-!
Plain scalars: text without quotes. It ends at a comment, at a colon that makes it a key, at a line
that is indented too little, and in brackets at whatever divides their entries.
-/

namespace Fieldwise.Yaml

/-- The character opens, closes or divides collections in brackets. -/
def isFlowMark (c : Char) : Bool :=
  c = ',' || c = '[' || c = ']' || c = '\x7b' || c = '\x7d'

/-- A colon before this text is not allowed in a plain scalar in brackets. -/
def startsWithFlowMark : List Char → Bool
  | [] => false
  | c :: _ => isFlowMark c || c = '?'

/-- Reads a plain scalar. `done` holds what was read, in reverse; `indent` is the least column of
    its lines. -/
def scanPlain (flow : Bool) (indent : Nat) (line column : Nat) (gap : Gap) (done : List Char) :
    List Char → Option Scanned
  | [] => some ⟨done.reverse, ⟨[], line, column⟩, gap.isBreaks⟩
  | c :: rest =>
    if isPad c then
      if gap.isBreaks && column < indent && c = '\t' then none
      else scanPlain flow indent line (column + 1) (gap.addPad c) done rest
    else if isBreak c then scanPlain flow indent (line + 1) 0 (gap.addBreak c) done rest
    else if (!gap.isNone && c = '#') || (gap.isBreaks && !flow && column < indent) ||
        (column = 0 && isDocumentMark (c :: rest)) then
      some ⟨done.reverse, ⟨c :: rest, line, column⟩, gap.isBreaks⟩
    else if flow && c = ':' && startsWithFlowMark rest then none
    else if (c = ':' && isGap rest) || (flow && isFlowMark c) then
      some ⟨done.reverse, ⟨c :: rest, line, column⟩, gap.isBreaks⟩
    else scanPlain flow indent line (column + 1) .none (c :: (gap.text.reverse ++ done)) rest

end Fieldwise.Yaml
