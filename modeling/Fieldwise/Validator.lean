import Fieldwise.Config
import Fieldwise.Evaluation
import Fieldwise.Message.Catalog
import Fieldwise.Message.Label
import Fieldwise.Record
import Fieldwise.Report
import Fieldwise.Rule.Set

/-!
Validation. A `Validator` applies every rule of every field, in order, to the value that a record
has for the field, and reports the failures. Faulty rules are found before any value is looked at.
What happens on the way is logged.
-/

namespace Fieldwise

/-- What a validation depends on besides the rules and the record. -/
structure Validator where
  today : Date
  labels : Labeler
  catalog : MessageCatalog
  referenceYear : Int

namespace Validator

/-- A validator with the labels, messages and reference year that hold unless others are chosen. -/
def default (today : Date) : Validator := ⟨today, titleCase, .builtIn, defaultReferenceYear⟩

/-- The validator for a configuration; `clock` tells the current date by each clock. -/
def ofConfig (config : Config) (clock : ClockKind → Date) : Validator :=
  { default (clock config.clock) with referenceYear := config.referenceYear }

def context (v : Validator) : EvaluationContext := ⟨v.today, v.referenceYear⟩

/-- What is logged of the evaluation of a rule itself. -/
def evaluationEvents (v : Validator) (spec : RuleSpec) (value : FieldValue) : List Event :=
  match spec with
  | .date _ c =>
    match c.unresolved? value v.context with
    | some e => [.dateUnresolved e (String.ofList c.format.pattern)]
    | none => []
  | _ => []

def failureMessage (v : Validator) (field : String) (failure : Failure) : String :=
  v.catalog.render failure.messageKey (failure.substitutions (v.labels field))

/-- Applies one rule to the value of a field and adds what it finds to a report. -/
def applyRule (v : Validator) (field : String) (value : FieldValue) (report : Report)
    (spec : RuleSpec) : Logged Report := do
  Logged.log (v.evaluationEvents spec value)
  match spec.evaluate value v.context with
  | .skipped =>
    Logged.log [.skippedNull field spec]
    return report
  | .passed => return report
  | .failed failure =>
    Logged.log [.ruleFailed field spec failure.messageKey]
    return report.addFailure field failure.messageKey (v.failureMessage field failure)

def applyField (v : Validator) (record : Record) (report : Report)
    (entry : String × List RuleSpec) : Logged Report :=
  entry.2.foldlM (v.applyRule entry.1 (record.value entry.1)) report

/-- Validates a record against rules that have been read. -/
def validateCompiled (v : Validator) (rules : RuleSet) (record : Record) :
    Logged (Except FieldError Report) :=
  match rules.checkReferenceYear v.referenceYear with
  | .error e => pure (.error e)
  | .ok () => do
    let report ← rules.entries.foldlM (v.applyField record) .passed
    Logged.log [.validationFinished rules.size report.failureCount report.success]
    return .ok report

def validate (v : Validator) (rules : FieldRules) (record : Record) :
    Logged (Except FieldError Report) :=
  match RuleSet.compile rules with
  | .error e => pure (.error e)
  | .ok rules => v.validateCompiled rules record

/-- Applies one rule to one value; there is no outcome when the rule passes over the value. -/
def evaluateRule (v : Validator) (spec : RuleSpec) (field : String) (value : FieldValue) :
    Logged (Except FieldError (Option Outcome)) :=
  match spec.checkAnchor v.referenceYear with
  | .error cause => pure (.error ⟨field, cause⟩)
  | .ok () => do
    Logged.log (v.evaluationEvents spec value)
    return .ok (Outcome.of? spec (v.labels field) (spec.evaluate value v.context))

def render (v : Validator) (outcome : Outcome) : String :=
  v.catalog.render outcome.messageKey outcome.substitutions

end Validator

end Fieldwise
