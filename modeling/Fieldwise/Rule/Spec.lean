import Fieldwise.Rule.Comparison
import Fieldwise.Rule.Kind
import Fieldwise.Text.Blank

/-!
Rules. A rule is written as its name and its parameters with colons between them; `RuleSpec.parse`
reads it and `RuleSpec.text` writes it in its canonical form.
-/

namespace Fieldwise

/-- On which side of its target a date must lie. -/
inductive Direction where
  | before
  | after
  deriving DecidableEq, Repr

def Direction.kind : Direction → RuleKind
  | before => .dateBefore
  | after => .dateAfter

/-- A rule for the value of a field. -/
inductive RuleSpec where
  /-- There must be a value, and no blank text. -/
  | required
  /-- The value must be written as an integer. -/
  | integer
  /-- The value must be a date strictly before or strictly after a target. -/
  | date (direction : Direction) (comparison : DateComparison)
  deriving DecidableEq

namespace RuleSpec

def kind : RuleSpec → RuleKind
  | required => .required
  | integer => .integer
  | date direction _ => direction.kind

/-- The rule of a kind with given parameters, the number of which is right. -/
def ofParameters (k : RuleKind) (parameters : List (List Char)) : Except RuleError RuleSpec :=
  match k with
  | .required => .ok required
  | .integer => .ok integer
  | .dateBefore => (DateComparison.ofParameters parameters).map (date .before)
  | .dateAfter => (DateComparison.ofParameters parameters).map (date .after)

/-- Reads a rule that has no blanks at its ends. -/
def parseTrimmed (text : List Char) : Except RuleError RuleSpec :=
  if text = [] then .error .emptyRule
  else
    let name := String.ofList ((text.splitOn ':').headD [])
    let parameters := (text.splitOn ':').tail
    match RuleKind.read name with
    | .error e => .error e
    | .ok k =>
      if parameters.length = k.arity then ofParameters k parameters
      else .error (.arity k.name k.arity parameters.length)

def parse (s : String) : Except RuleError RuleSpec := parseTrimmed (trimBlank s.toList)

/-- The rule in its canonical form. -/
def text : RuleSpec → String
  | date direction c => direction.kind.name ++ ":" ++ String.ofList c.text
  | spec => spec.kind.name

/-- A written anchor must be a day of the calendar when `referenceYear` stands in for a year that is
    not written. -/
def checkAnchor (spec : RuleSpec) (referenceYear : Int) : Except RuleError Unit :=
  match spec with
  | date _ c => c.checkAnchor referenceYear
  | _ => .ok ()

end RuleSpec

end Fieldwise
