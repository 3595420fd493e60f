import Fieldwise.Validator
import Fieldwise.Proofs.Rule.Fault

/-!
Validation while time passes. A clock may move on during a validation, so that the rules are applied
on different days; under a clock that stands still, `Validator.validateUnder` is
`Validator.validate`. Whatever the clock, whether there is a report at all is settled before it is
looked at.
-/

namespace Fieldwise

/-- The current date when each rule is applied, the rules of a table being numbered from zero on, in
    their order. -/
abbrev Clock := Nat → Date

namespace Validator

/-- The validator on another day. -/
def onDay (v : Validator) (today : Date) : Validator := { v with today := today }

/-- Applies a numbered rule of a field on the day that the clock tells by then. -/
def applyNumbered (v : Validator) (clock : Clock) (record : Record) (report : Report)
    (r : (String × RuleSpec) × Nat) : Logged Report :=
  (v.onDay (clock r.2)).applyRule r.1.1 (record.value r.1.1) report r.1.2

/-- Validates a record against rules that have been read, while the clock goes on. -/
def validateCompiledUnder (v : Validator) (clock : Clock) (rules : RuleSet) (record : Record) :
    Logged (Except FieldError Report) :=
  match rules.checkReferenceYear v.referenceYear with
  | .error e => pure (.error e)
  | .ok () => do
    let report ← rules.members.zipIdx.foldlM (v.applyNumbered clock record) .passed
    Logged.log [.validationFinished rules.size report.failureCount report.success]
    return .ok report

def validateUnder (v : Validator) (clock : Clock) (rules : FieldRules) (record : Record) :
    Logged (Except FieldError Report) :=
  match RuleSet.compile rules with
  | .error e => pure (.error e)
  | .ok rules => v.validateCompiledUnder clock rules record

/-! ### A clock that stands still -/

theorem foldlM_zipIdx_fst {m : Type → Type} [Monad m] {α β : Type} (f : β → α → m β) (xs : List α)
    (b : β) : xs.zipIdx.foldlM (fun b r => f b r.1) b = xs.foldlM f b := by
  conv_rhs => rw [← List.zipIdx_map_fst 0 xs, List.foldlM_map]

/-- The rules of a table are applied one after the other, whether they are gone through field by field
    or under their numbers. -/
theorem foldlM_applyNumbered_const (v : Validator) (rules : RuleSet) (record : Record)
    (report : Report) :
    rules.members.zipIdx.foldlM (v.applyNumbered (fun _ => v.today) record) report =
      rules.entries.foldlM (v.applyField record) report :=
  (foldlM_zipIdx_fst
    (fun report (r : String × RuleSpec) => v.applyRule r.1 (record.value r.1) report r.2) _ _).trans
    (Table.foldlM_members _ rules report)

theorem validateCompiledUnder_const (v : Validator) (rules : RuleSet) (record : Record) :
    v.validateCompiledUnder (fun _ => v.today) rules record = v.validateCompiled rules record := by
  unfold validateCompiledUnder validateCompiled
  cases rules.checkReferenceYear v.referenceYear with
  | error e => rfl
  | ok => simp only [foldlM_applyNumbered_const]

theorem validateUnder_const (v : Validator) (table : FieldRules) (record : Record) :
    v.validateUnder (fun _ => v.today) table record = v.validate table record := by
  unfold validateUnder validate
  cases RuleSet.compile table with
  | error e => rfl
  | ok rules => exact validateCompiledUnder_const v rules record

theorem validateUnder_onDay (v : Validator) (today : Date) (clock : Clock) (table : FieldRules)
    (record : Record) :
    (v.onDay today).validateUnder clock table record = v.validateUnder clock table record := rfl

/-! ### Errors -/

theorem errorOf?_validateUnder (v : Validator) (clock : Clock) (table : FieldRules)
    (record : Record) : errorOf? (v.validateUnder clock table record).value =
      errorOf? (RuleSet.compileFor table v.referenceYear) := by
  unfold validateUnder RuleSet.compileFor
  cases RuleSet.compile table with
  | error e => rfl
  | ok rules =>
    dsimp only [validateCompiledUnder]
    cases rules.checkReferenceYear v.referenceYear <;> rfl

end Validator

end Fieldwise
