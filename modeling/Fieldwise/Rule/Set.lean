import Fieldwise.Rule.Spec
import Fieldwise.Table

/-!
Rules for the fields of a record: as a table of rule texts, and as a table of rules that have been
read. The first faulty rule, field by field and rule by rule, is the one that is reported.
-/

namespace Fieldwise

/-- The rule texts of each field. -/
abbrev FieldRules := Table (List String)

/-- The rules of each field. -/
abbrev RuleSet := Table (List RuleSpec)

namespace RuleSet

def parseField (field : String) : List String → Except FieldError (List RuleSpec)
  | [] => .ok []
  | text :: rest =>
    match RuleSpec.parse text with
    | .error cause => .error ⟨field, cause⟩
    | .ok spec =>
      match parseField field rest with
      | .error e => .error e
      | .ok specs => .ok (spec :: specs)

def compile (rules : FieldRules) : Except FieldError RuleSet := rules.traverse parseField

/-- The rules of each field in their canonical form. -/
def texts (rules : RuleSet) : List (String × List String) :=
  rules.entries.map fun e => (e.1, e.2.map RuleSpec.text)

def checkField (referenceYear : Int) (field : String) : List RuleSpec → Except FieldError Unit
  | [] => .ok ()
  | spec :: rest =>
    match spec.checkAnchor referenceYear with
    | .error cause => .error ⟨field, cause⟩
    | .ok () => checkField referenceYear field rest

def checkFields (referenceYear : Int) : List (String × List RuleSpec) → Except FieldError Unit
  | [] => .ok ()
  | (field, specs) :: rest =>
    match checkField referenceYear field specs with
    | .error e => .error e
    | .ok () => checkFields referenceYear rest

/-- Every written anchor must be a day of the calendar when `referenceYear` stands in for a year
    that is not written. -/
def checkReferenceYear (rules : RuleSet) (referenceYear : Int) : Except FieldError Unit :=
  checkFields referenceYear rules.entries

end RuleSet

end Fieldwise
