import Fieldwise.Proofs.Rule.Fault
import Fieldwise.Proofs.Validation.Findings

/-!
Rules applied one by one. A rule is broken in one way only, of its own kind. A validation is the
evaluation of each rule by itself, rule after rule, up to the first that gives an error, while the
outcomes that have failed are told. So a table of one rule gives what the rule gives.
-/

namespace Fieldwise

/-! ### How a rule is broken -/

section Failed
variable {spec : RuleSpec} {value : FieldValue} {context : EvaluationContext} {f : Failure}

theorem evaluateRequired_eq_failed (h : evaluateRequired value = .failed f) : f = .missing := by
  cases value with
  | null => cases h; rfl
  | text s =>
    dsimp only [evaluateRequired] at h
    split at h <;> cases h
    rfl
  | _ => cases h

theorem evaluateInteger_eq_failed (h : evaluateInteger value = .failed f) : f = .notInteger := by
  unfold evaluateInteger at h
  split at h
  · cases h
  · split at h <;> cases h
    rfl

theorem DateComparison.evaluate_eq_failed {c : DateComparison} {direction : Direction}
    (h : c.evaluate direction value context = .failed f) : f = .date direction c.describe := by
  unfold evaluate at h
  split at h
  · cases h
  · split at h <;> cases h
    rfl

namespace RuleSpec

/-- How a value breaks the rule, if it does: there is only one way, whatever the value. -/
def failure : RuleSpec → Failure
  | required => .missing
  | integer => .notInteger
  | date direction c => .date direction c.describe

theorem kind_failure (spec : RuleSpec) : spec.failure.kind = spec.kind := by cases spec <;> rfl

theorem messageKey_failure (spec : RuleSpec) : spec.failure.messageKey = spec.kind.messageKey :=
  congrArg RuleKind.messageKey spec.kind_failure

theorem eq_failure_of_evaluate (h : spec.evaluate value context = .failed f) : f = spec.failure := by
  unfold evaluate at h
  split at h
  · cases h
  · cases spec with
    | required => exact evaluateRequired_eq_failed h
    | integer => exact evaluateInteger_eq_failed h
    | date direction c => exact DateComparison.evaluate_eq_failed h

end RuleSpec

/-- Whether a value passes a rule or fails it, it is told under the message key of the rule. -/
theorem Outcome.messageKey_of_of? {label : String} {o : Outcome}
    (h : of? spec label (spec.evaluate value context) = some o) :
    o.messageKey = spec.kind.messageKey := by
  cases he : spec.evaluate value context with
  | skipped => rw [he] at h; cases h
  | passed => rw [he] at h; cases h; rfl
  | failed f =>
    obtain rfl := RuleSpec.eq_failure_of_evaluate he
    rw [he] at h
    cases h
    exact spec.messageKey_failure

end Failed

namespace Validator

/-- Adds to a report what an outcome for a field tells: a message if it has failed, and nothing if it
    has passed or there is none. -/
def tell (v : Validator) (field : String) (report : Report) : Option Outcome → Report
  | some o => if o.passed then report else report.addFailure field o.messageKey (v.render o)
  | none => report

/-! ### One rule -/

theorem value_applyRule_eq_tell (v : Validator) (field : String) (value : FieldValue)
    (report : Report) (spec : RuleSpec) : (v.applyRule field value report spec).value =
      v.tell field report
        (Outcome.of? spec (v.labels field) (spec.evaluate value v.context)) := by
  rw [value_applyRule]
  cases spec.evaluate value v.context <;> rfl

theorem value_evaluateRule (v : Validator) (spec : RuleSpec) (field : String) (value : FieldValue) :
    (v.evaluateRule spec field value).value =
      match RuleSet.anchorFault? v.referenceYear (field, spec) with
      | some e => .error e
      | none => .ok (Outcome.of? spec (v.labels field) (spec.evaluate value v.context)) := by
  unfold evaluateRule RuleSet.anchorFault?
  cases spec.checkAnchor v.referenceYear <;> rfl

/-! ### The whole run -/

/-- Evaluates one rule of a field by itself and tells its outcome. -/
def evaluateAndTell (v : Validator) (record : Record) (report : Report) (r : String × RuleSpec) :
    Except FieldError Report :=
  (v.evaluateRule r.2 r.1 (record.value r.1)).value.map (v.tell r.1 report)

/-- Rules that are evaluated one after the other give the error of the first anchor that is at fault,
    or else add what they find. -/
theorem foldlM_evaluateAndTell (v : Validator) (record : Record) (rules : List (String × RuleSpec))
    (report : Report) : rules.foldlM (v.evaluateAndTell record) report =
      match rules.findSome? (RuleSet.anchorFault? v.referenceYear) with
      | some e => .error e
      | none => .ok (rules.foldl
          (fun report r => (v.applyRule r.1 (record.value r.1) report r.2).value) report) := by
  induction rules generalizing report with
  | nil => rfl
  | cons r rest ih =>
    rw [List.foldlM_cons, List.findSome?_cons, evaluateAndTell, value_evaluateRule]
    cases RuleSet.anchorFault? v.referenceYear r with
    | some e => rfl
    | none =>
      dsimp only
      rw [List.foldl_cons, value_applyRule_eq_tell]
      exact ih _

/-- A validation is the evaluation of each rule by itself, one after the other, and telling the
    outcomes. -/
theorem value_validateCompiled_eq_foldlM (v : Validator) (rules : RuleSet) (record : Record) :
    (v.validateCompiled rules record).value =
      rules.members.foldlM (v.evaluateAndTell record) .passed := by
  -- All anchors are checked at the start, and rule by rule one comes to the same error.
  rw [foldlM_evaluateAndTell, ← RuleSet.errorOf?_checkReferenceYear, validateCompiled]
  cases rules.checkReferenceYear v.referenceYear with
  | error e => rfl
  | ok =>
    have hrun := Table.foldlM_members
      (fun report (r : String × RuleSpec) => v.applyRule r.1 (record.value r.1) report r.2) rules
      .passed
    dsimp only [errorOf?]
    rw [← Logged.value_foldlM, hrun]
    rfl

theorem value_validate_single (v : Validator) {text : String} {spec : RuleSpec}
    (h : RuleSpec.parse text = .ok spec) (field : String) (record : Record) :
    (v.validate (.ofList [(field, [text])]) record).value =
      (v.evaluateRule spec field (record.value field)).value.map (v.tell field .passed) := by
  have hcompile : RuleSet.compile (.ofList [(field, [text])]) = .ok (.ofList [(field, [spec])]) := by
    refine Table.traverse_eq_ok_iff.mpr ?_
    show Table.traverseEntries RuleSet.parseField [(field, [text])] = .ok [(field, [spec])]
    simp only [Table.traverseEntries, RuleSet.parseField, h]
  have hmembers : (Table.ofList [(field, [spec])]).members = [(field, spec)] := rfl
  rw [validate, hcompile]
  dsimp only
  rw [value_validateCompiled_eq_foldlM, hmembers, List.foldlM_cons]
  cases hrule : v.evaluateAndTell record .passed (field, spec) <;> exact hrule.symm

/-- A rule by itself and the validation of its value against it alone have the same errors. The report
    is a success without messages when the rule passes the value or passes over it, and has the one
    message of the outcome when the rule fails it. The key of the outcome, and the kind of a failure
    on any day and in any reference year, are those of the rule. -/
theorem single_rule_agrees_with_validation (v : Validator) {text : String} {spec : RuleSpec}
    (h : RuleSpec.parse text = .ok spec) (field : String) (value : FieldValue) :
    (∀ e, (v.validate (.ofList [(field, [text])]) (.ofList [(field, value)])).value = .error e ↔
      (v.evaluateRule spec field value).value = .error e) ∧
    (∀ outcome, (v.evaluateRule spec field value).value = .ok outcome →
      (∀ o, outcome = some o → o.passed = true) →
      (v.validate (.ofList [(field, [text])]) (.ofList [(field, value)])).value =
        .ok ⟨true, .empty⟩) ∧
    (∀ o, (v.evaluateRule spec field value).value = .ok (some o) → o.passed = false →
      (v.validate (.ofList [(field, [text])]) (.ofList [(field, value)])).value =
        .ok ⟨false, .ofList [(field, .ofList [(o.messageKey, v.render o)])]⟩) ∧
    (∀ o, (v.evaluateRule spec field value).value = .ok (some o) →
      o.messageKey = spec.kind.messageKey) ∧
    ∀ context failure, spec.evaluate value context = .failed failure →
      failure.kind = spec.kind ∧ failure.messageKey = spec.kind.messageKey := by
  have hvalue : Record.value (.ofList [(field, value)]) field = value := by
    rw [Record.value, Table.get?_ofList_single, Option.getD_some]
  have hrun := value_validate_single v h field (.ofList [(field, value)])
  rw [hvalue] at hrun
  refine ⟨fun e => ?_, fun outcome hsingle hpassed => ?_, fun o hsingle hfailed => ?_,
    fun o hsingle => ?_, fun context failure hfailure => ?_⟩
  · rw [hrun, ← errorOf?_eq_some_iff, errorOf?_map, errorOf?_eq_some_iff]
  · rw [hrun, hsingle]
    cases outcome with
    | none => rfl
    | some o =>
      show Except.ok (v.tell field .passed (some o)) = _
      rw [tell, if_pos (hpassed o rfl)]
      rfl
  · rw [hrun, hsingle]
    show Except.ok (v.tell field .passed (some o)) = _
    rw [tell, hfailed]
    rfl
  · rw [value_evaluateRule] at hsingle
    split at hsingle
    · cases hsingle
    · exact Outcome.messageKey_of_of? (Except.ok.inj hsingle)
  · obtain rfl := RuleSpec.eq_failure_of_evaluate hfailure
    exact ⟨spec.kind_failure, spec.messageKey_failure⟩

/-- On a leap day in a common reference year, with a label of its own for the field and no templates
    at all, the 28th of February is not before the current date. The key serves as the template. -/
theorem leap_day_single_rule :
    ∃ spec,
      RuleSpec.parse "dateBefore:DD-MM:now:0:days" = .ok spec ∧
      ((Validator.mk ⟨2028, 2, 29, by decide⟩
        (Labels.mk (.ofList [("due", "Due date")])) .empty 2001).evaluateRule
        spec "due" (.text "28-02")).value =
          .ok (some ⟨false, "dateBefore:$1:$2:$3:$4", ["Due date", "now"]⟩) ∧
      ((Validator.mk ⟨2028, 2, 29, by decide⟩
        (Labels.mk (.ofList [("due", "Due date")])) .empty 2001).validate
        (.ofList [("due", ["dateBefore:DD-MM:now:0:days"])])
        (.ofList [("due", .text "28-02")])).value =
          .ok ⟨false, .ofList [("due",
            .ofList [("dateBefore:$1:$2:$3:$4", "dateBefore:Due date:now:$3:$4")])]⟩ := by
  let f : DateFormat := ⟨[.component .day, .literal ['-'], .component .month],
    by decide, by decide, by decide⟩
  have hparse : RuleSpec.parse "dateBefore:DD-MM:now:0:days" =
      .ok (.date .before ⟨f, .now, ⟨0, .days⟩⟩) := by decide +kernel
  have hsingle : ((Validator.mk ⟨2028, 2, 29, by decide⟩ (Labels.mk (.ofList [("due", "Due date")])) .empty
      2001).evaluateRule (.date .before ⟨f, .now, ⟨0, .days⟩⟩) "due" (.text "28-02")).value =
        .ok (some ⟨false, "dateBefore:$1:$2:$3:$4", ["Due date", "now"]⟩) := by decide +kernel
  have hrender : (Validator.mk ⟨2028, 2, 29, by decide⟩ (Labels.mk (.ofList [("due", "Due date")])) .empty
      2001).render ⟨false, "dateBefore:$1:$2:$3:$4", ["Due date", "now"]⟩ =
        "dateBefore:Due date:now:$3:$4" := by decide +kernel
  refine ⟨_, hparse, hsingle, ?_⟩
  rw [← hrender]
  exact (single_rule_agrees_with_validation _ hparse "due" (.text "28-02")).2.2.1 _ hsingle rfl

end Validator

end Fieldwise
