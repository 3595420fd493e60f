import Fieldwise.Decimal.Numeral
import Fieldwise.Rule.Error
import Fieldwise.Text.Case
import Fieldwise.Text.EditDistance

/-!
The kinds of rule: their names, how many parameters each takes, and which kind is suggested for a
name that is none.
-/

namespace Fieldwise

inductive RuleKind where
  | required
  | integer
  | dateBefore
  | dateAfter
  deriving DecidableEq, Repr

namespace RuleKind

def all : List RuleKind := [required, integer, dateBefore, dateAfter]

/-- The name with which a rule of the kind begins. -/
def name : RuleKind → String
  | required => "required"
  | integer => "integer"
  | dateBefore => "dateBefore"
  | dateAfter => "dateAfter"

/-- The number of parameters after the name. -/
def arity : RuleKind → Nat
  | required => 0
  | integer => 0
  | dateBefore => 4
  | dateAfter => 4

/-- The key of the message for the kind: the name, and a numbered placeholder for each parameter. -/
def messageKey (k : RuleKind) : String :=
  k.name ++ String.join ((List.range k.arity).map fun i =>
    ":$" ++ String.ofList (Numeral.natural (i + 1)))

/-- A missing value passes rules of the kind without being looked at. -/
def skipsNull (k : RuleKind) : Bool := k != required

def ofName? (name : String) : Option RuleKind := all.find? fun k => k.name = name

theorem mem_all (k : RuleKind) : k ∈ all := by cases k <;> decide

theorem ofName?_name (k : RuleKind) : ofName? k.name = some k := by cases k <;> decide

example : dateBefore.messageKey = "dateBefore:$1:$2:$3:$4" := by decide +kernel

end RuleKind

/-- The first of the candidates that have the least distance. -/
def nearest? : List (String × Nat) → Option (String × Nat)
  | [] => none
  | c :: rest =>
    match nearest? rest with
    | none => some c
    | some best => some (if best.2 < c.2 then best else c)

/-- The candidate that is nearest to a word when case is ignored, the first one if several are,
    unless the distance is more than half the byte length of the longer of the two. -/
def suggestion? (word : String) (candidates : List String) : Option String :=
  let lowered := lowerText word.toList
  match nearest? (candidates.map fun c => (c, editDistance lowered (lowerText c.toList))) with
  | none => none
  | some (name, distance) =>
    if distance ≤ max word.utf8ByteSize name.utf8ByteSize / 2 then some name else none

/-- The kind with a name. The name of none is an error, with the name that may have been meant. -/
def RuleKind.read (name : String) : Except RuleError RuleKind :=
  match ofName? name with
  | some k => .ok k
  | none => .error (.unknownRule name (suggestion? name (all.map RuleKind.name)))

theorem RuleKind.read_name (k : RuleKind) : read k.name = .ok k := by rw [read, ofName?_name]

end Fieldwise
