import Fieldwise.Yaml.Text

/-!
What scalars of more than one line have in common. In plain and quoted scalars, blanks around a line
end are dropped, one line end becomes a space, and further line ends are kept.
-/

namespace Fieldwise.Yaml

/-- What stands between two visible characters of a scalar. -/
inductive Gap where
  | none
  | pads (text : List Char)
  /-- Line ends: the first one, unless it was escaped, and the others. -/
  | breaks (first : Option Char) (others : List Char)

namespace Gap

/-- Adds a space or tab, which counts only before the first line end. -/
def addPad (c : Char) : Gap → Gap
  | none => pads [c]
  | pads text => pads (text ++ [c])
  | breaks first others => breaks first others

def addBreak (c : Char) : Gap → Gap
  | breaks first others => breaks first (others ++ [c])
  | _ => breaks (some c) []

def isBreaks : Gap → Bool
  | breaks _ _ => true
  | _ => false

def isNone : Gap → Bool
  | none => true
  | _ => false

/-- What the gap becomes in the value of the scalar. -/
def text : Gap → List Char
  | none => []
  | pads text => text
  | breaks (some '\n') [] => [' ']
  | breaks (some '\n') others => others
  | breaks (some c) others => c :: others
  | breaks .none others => others

end Gap

/-- The value of a scalar, the place after it, and whether it ended in line ends. -/
structure Scanned where
  text : List Char
  cursor : Cursor
  afterBreak : Bool

end Fieldwise.Yaml
