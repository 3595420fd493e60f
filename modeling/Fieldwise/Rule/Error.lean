import Fieldwise.DateFormat.Basic
import Fieldwise.Decimal.Numeral

/-!
What can be wrong with a rule. Each constructor is one cause, and `RuleError.message` puts it into
words. A value that breaks a rule is no error of the rule and never shows up here.
-/

namespace Fieldwise

/-- Why a rule text is no rule. -/
inductive RuleError where
  | emptyRule
  | unknownRule (name : String) (suggestion : Option String)
  | arity (rule : String) (expected got : Nat)
  | invalidFormat (pattern : String) (fault : FormatError)
  | invalidAnchor (anchor pattern : String)
  /-- The amount of the offset is no integer of 32 bits. -/
  | invalidOffset (amount : String)
  | invalidUnit (unit : String)
  deriving DecidableEq, Repr

def RuleError.message : RuleError → String
  | emptyRule => "empty rule string"
  | unknownRule name suggestion =>
    "unknown rule '" ++ name ++ "'" ++
      match suggestion with
      | some s => ", did you mean '" ++ s ++ "'?"
      | none => ""
  | arity rule expected got =>
    "rule '" ++ rule ++ "' expects " ++ String.ofList (Numeral.natural expected) ++
      " parameter(s), got " ++ String.ofList (Numeral.natural got)
  | invalidFormat pattern fault => "invalid date format '" ++ pattern ++ "': " ++ fault.message
  | invalidAnchor anchor pattern =>
    "anchor '" ++ anchor ++ "' does not match date format '" ++ pattern ++ "'"
  | invalidOffset amount => "invalid offset amount '" ++ amount ++ "', expected a signed integer"
  | invalidUnit unit => "invalid offset unit '" ++ unit ++ "', expected days, months or years"

/-- A faulty rule, with the field whose rules it is among. -/
structure FieldError where
  field : String
  cause : RuleError
  deriving DecidableEq, Repr

def FieldError.message (e : FieldError) : String := "field '" ++ e.field ++ "': " ++ e.cause.message

end Fieldwise
