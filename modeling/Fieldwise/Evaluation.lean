import Fieldwise.DateFormat.Value
import Fieldwise.Rule.Spec

/-!
Values against rules. `RuleSpec.evaluate` says whether a value is passed over, passes the rule or
fails it. A date rule that cannot tell, because its target or the value gives no date, fails the
value. An `Outcome` is what is told of an evaluation outside: the key of the message, and what is to
be put into it.
-/

namespace Fieldwise

/-- What an evaluation depends on besides the rule and the value. -/
structure EvaluationContext where
  today : Date
  referenceYear : Int

/-- How a value breaks a rule. -/
inductive Failure where
  | missing
  | notInteger
  /-- The value is no date on the right side of the target, which is given in words. -/
  | date (direction : Direction) (target : String)
  deriving DecidableEq, Repr

namespace Failure

def kind : Failure → RuleKind
  | missing => .required
  | notInteger => .integer
  | date direction _ => direction.kind

def messageKey (f : Failure) : String := f.kind.messageKey

/-- What is put into the message: the label of the field, and the target of a date rule. -/
def substitutions (label : String) : Failure → List String
  | missing => [label]
  | notInteger => [label]
  | date _ target => [label, target]

end Failure

inductive Evaluation where
  | skipped
  | passed
  | failed (failure : Failure)
  deriving DecidableEq, Repr

/-- How the value breaks the rule, if it does. -/
def Evaluation.failure? : Evaluation → Option Failure
  | .failed failure => some failure
  | _ => none

theorem Evaluation.failure?_eq_some_iff {e : Evaluation} {f : Failure} :
    e.failure? = some f ↔ e = .failed f := by
  cases e <;> simp [failure?]

/-- Digits, after at most a minus sign. -/
def isIntegerText (text : List Char) : Bool :=
  let digits := match text with
    | '-' :: rest => rest
    | _ => text
  !digits.isEmpty && digits.all Char.isDigit

/-- There must be a value, and no blank text. -/
def evaluateRequired : FieldValue → Evaluation
  | .null => .failed .missing
  | .text s => if s.toList.all isBlank then .failed .missing else .passed
  | _ => .passed

/-- The value must be written as an integer. -/
def evaluateInteger (value : FieldValue) : Evaluation :=
  match value.lexical? with
  | none => .skipped
  | some text => if isIntegerText text.toList then .passed else .failed .notInteger

namespace DateComparison

/-- Where a value lies, seen from the target. The target is found before the value is looked at. -/
def order (c : DateComparison) (value : FieldValue) (context : EvaluationContext) :
    Except DateError Ordering :=
  match c.target context.today context.referenceYear with
  | .error e => .error e
  | .ok target =>
    match c.format.periodOf value context.referenceYear with
    | .error e => .error e
    | .ok period => .ok (period.compare target)

/-- The value must lie strictly on one side of the target. -/
def evaluate (c : DateComparison) (direction : Direction) (value : FieldValue)
    (context : EvaluationContext) : Evaluation :=
  if value.isNull then .skipped
  else
    match c.order value context, direction with
    | .ok .lt, .before => .passed
    | .ok .gt, .after => .passed
    | _, _ => .failed (.date direction c.describe)

/-- Why there is nothing to compare, when a value is judged and gives no date or the target is
    none. -/
def unresolved? (c : DateComparison) (value : FieldValue) (context : EvaluationContext) :
    Option DateError :=
  if value.isNull then none
  else
    match c.order value context with
    | .error e => some e
    | .ok _ => none

end DateComparison

def RuleSpec.evaluate (spec : RuleSpec) (value : FieldValue) (context : EvaluationContext) :
    Evaluation :=
  if value.isNull && spec.kind.skipsNull then .skipped
  else
    match spec with
    | .required => evaluateRequired value
    | .integer => evaluateInteger value
    | .date direction c => c.evaluate direction value context

/-- What is told of an evaluation. -/
structure Outcome where
  passed : Bool
  messageKey : String
  substitutions : List String
  deriving DecidableEq, Repr

/-- What is told of an evaluation of a rule, if the value was not passed over. -/
def Outcome.of? (spec : RuleSpec) (label : String) : Evaluation → Option Outcome
  | .skipped => none
  | .passed => some ⟨true, spec.kind.messageKey, []⟩
  | .failed failure => some ⟨false, failure.messageKey, failure.substitutions label⟩

end Fieldwise
