import Fieldwise.Proofs.Evaluation.DateRule
import Fieldwise.Proofs.Validation.Findings
import Mathlib.Data.List.Forall2

/-!
The event log of a validation. Each rule logs what becomes of the value: nothing if it passes, that it
was passed over, or that it fails, and why when there was nothing to compare. A validation that comes to
a report logs this rule by rule and then how it ended, and one that comes to an error logs nothing. So
the log tells the same as the report.
-/

namespace Fieldwise

/-- What is written of an event: its level, its message and its fields. -/
abbrev LogLine := Level × String × List (String × String)

def Event.line (e : Event) : LogLine := (e.level, e.message, e.fields)

namespace LogLine

def skippedNull (field rule : String) : LogLine :=
  (.trace, "skipped nil value", [("field", field), ("rule", rule)])

def dateUnresolved (error format : String) : LogLine :=
  (.trace, "date did not resolve", [("error", error), ("format", format)])

def ruleFailed (field rule key : String) : LogLine :=
  (.debug, "rule failed", [("field", field), ("rule", rule), ("key", key)])

def validationFinished (fields failures : Nat) (success : Bool) : LogLine :=
  (.debug, "validation finished", [("fields", String.ofList (Numeral.natural fields)),
    ("failures", String.ofList (Numeral.natural failures)),
    ("success", if success then "true" else "false")])

end LogLine

/-! ### Dates that do not resolve -/

section Unresolved
variable {c : DateComparison} {spec : RuleSpec} {value : FieldValue} {context : EvaluationContext}
  {pattern : List Char} {error : DateError}

/-- The error says why a date rule with the pattern has nothing to compare: its target is no date, or
    the value gives none. -/
def RuleSpec.Unresolved (spec : RuleSpec) (value : FieldValue) (context : EvaluationContext)
    (pattern : List Char) (error : DateError) : Prop :=
  ∃ direction c, spec = .date direction c ∧ c.format.pattern = pattern ∧
    (c.target context.today context.referenceYear = .error error ∨
      ∃ target, c.target context.today context.referenceYear = .ok target ∧
        c.format.periodOf value context.referenceYear = .error error)

theorem DateComparison.order_eq_error_iff : c.order value context = .error error ↔
    c.target context.today context.referenceYear = .error error ∨
      ∃ target, c.target context.today context.referenceYear = .ok target ∧
        c.format.periodOf value context.referenceYear = .error error := by
  unfold order
  cases c.target context.today context.referenceYear with
  | error e => simp
  | ok target => cases c.format.periodOf value context.referenceYear <;> simp

theorem RuleSpec.unresolved_date_iff {direction : Direction} :
    (date direction c).Unresolved value context pattern error ↔
      c.format.pattern = pattern ∧ c.order value context = .error error := by
  rw [DateComparison.order_eq_error_iff]
  constructor
  · rintro ⟨_, _, ⟨⟩, h⟩
    exact h
  · exact fun h => ⟨direction, c, rfl, h⟩

end Unresolved

namespace Validator
variable {v : Validator} {rules : RuleSet} {record : Record} {report : Report} {field : String}
  {value : FieldValue} {spec : RuleSpec} {lines : List LogLine}

/-! ### One rule -/

/-- What is logged when a rule is applied to the value of a field. -/
inductive Logs (v : Validator) (field : String) (value : FieldValue) (spec : RuleSpec) :
    List LogLine → Prop where
  | skipped : spec.evaluate value v.context = .skipped →
      v.Logs field value spec [.skippedNull field spec.text]
  | passed : spec.evaluate value v.context = .passed → v.Logs field value spec []
  | failed {failure : Failure} : spec.evaluate value v.context = .failed failure →
      (∀ pattern error, ¬ spec.Unresolved value v.context pattern error) →
      v.Logs field value spec [.ruleFailed field spec.text failure.messageKey]
  | unresolved {failure : Failure} {pattern : List Char} {error : DateError} :
      spec.evaluate value v.context = .failed failure →
      spec.Unresolved value v.context pattern error →
      v.Logs field value spec [.dateUnresolved error.message (String.ofList pattern),
        .ruleFailed field spec.text failure.messageKey]

/-- The events of a rule that is applied to the value of a field. -/
def ruleEvents (v : Validator) (field : String) (value : FieldValue) (spec : RuleSpec) : List Event :=
  v.evaluationEvents spec value ++
    match spec.evaluate value v.context with
    | .skipped => [.skippedNull field spec]
    | .passed => []
    | .failed failure => [.ruleFailed field spec failure.messageKey]

theorem events_applyRule (v : Validator) (field : String) (value : FieldValue) (report : Report)
    (spec : RuleSpec) :
    (v.applyRule field value report spec).events = v.ruleEvents field value spec := by
  unfold applyRule ruleEvents
  cases spec.evaluate value v.context <;>
    simp only [Logged.events_bind, Logged.events_log, Logged.events_pure, List.append_nil]

/-- A rule that logs something before its evaluation ends is a date rule with nothing to compare, and
    the value fails it. -/
theorem evaluationEvents_cases (v : Validator) (spec : RuleSpec) (value : FieldValue) :
    v.evaluationEvents spec value = [] ∧
        (∀ failure, spec.evaluate value v.context = .failed failure →
          ∀ pattern error, ¬ spec.Unresolved value v.context pattern error) ∨
      ∃ pattern error failure,
        v.evaluationEvents spec value = [.dateUnresolved error (String.ofList pattern)] ∧
        spec.evaluate value v.context = .failed failure ∧
        spec.Unresolved value v.context pattern error := by
  cases spec with
  | required => exact Or.inl ⟨rfl, fun _ _ _ _ => by rintro ⟨_, _, ⟨⟩, _⟩⟩
  | integer => exact Or.inl ⟨rfl, fun _ _ _ _ => by rintro ⟨_, _, ⟨⟩, _⟩⟩
  | date direction c =>
    simp only [evaluationEvents, DateComparison.unresolved?, RuleSpec.unresolved_date_iff]
    cases hnull : value.isNull with
    | true =>
      rw [RuleSpec.evaluate_date_of_isNull hnull]
      exact Or.inl ⟨rfl, fun _ h => by cases h⟩
    | false =>
      cases horder : c.order value v.context with
      | ok o => exact Or.inl ⟨rfl, fun _ _ _ _ h => by cases h.2⟩
      | error e =>
        have hfailed : (RuleSpec.date direction c).evaluate value v.context ≠ .passed := by
          rw [RuleSpec.evaluate_date, Ne, DateComparison.evaluate_eq_passed_iff, horder]
          exact fun h => by cases h
        exact Or.inr ⟨_, e, _, rfl, (RuleSpec.evaluate_date_eq_failed_iff hnull).mpr hfailed, rfl, rfl⟩

theorem logs_ruleEvents (v : Validator) (field : String) (value : FieldValue) (spec : RuleSpec) :
    v.Logs field value spec ((v.ruleEvents field value spec).map Event.line) := by
  unfold ruleEvents
  rcases evaluationEvents_cases v spec value with ⟨hnil, hresolved⟩ | ⟨_, _, _, hevents, hfailed, h⟩
  · rw [hnil]
    cases he : spec.evaluate value v.context with
    | skipped => exact .skipped he
    | passed => exact .passed he
    | failed failure => exact .failed he (hresolved failure he)
  · rw [hevents, hfailed]
    exact .unresolved hfailed h

namespace Logs

theorem ruleFailed_mem_iff (h : v.Logs field value spec lines) {field' key : String} :
    (∃ rule, LogLine.ruleFailed field' rule key ∈ lines) ↔
      field' = field ∧ ∃ failure, spec.evaluate value v.context = .failed failure ∧
        failure.messageKey = key := by
  cases h with
  | skipped he => simp [he, LogLine.ruleFailed, LogLine.skippedNull]
  | passed he => simp [he]
  | failed he => simp [he, LogLine.ruleFailed, eq_comm]
  | unresolved he => simp [he, LogLine.ruleFailed, LogLine.dateUnresolved, eq_comm]

/-- Nothing is said of a failure in other words. -/
theorem eq_ruleFailed_of_message (h : v.Logs field value spec lines) {line : LogLine}
    (hline : line ∈ lines) (hmessage : line.2.1 = "rule failed") :
    ∃ key, line = .ruleFailed field spec.text key := by
  cases h with
  | skipped =>
    obtain rfl := List.mem_singleton.mp hline
    simp [LogLine.skippedNull] at hmessage
  | passed => cases hline
  | failed =>
    obtain rfl := List.mem_singleton.mp hline
    exact ⟨_, rfl⟩
  | unresolved =>
    rcases List.mem_pair.mp hline with rfl | rfl
    · simp [LogLine.dateUnresolved] at hmessage
    · exact ⟨_, rfl⟩

theorem level_ne_warn (h : v.Logs field value spec lines) {line : LogLine} (hline : line ∈ lines) :
    line.1 ≠ .warn := by
  cases h with
  | skipped => rw [List.mem_singleton.mp hline]; exact fun h => by cases h
  | passed => cases hline
  | failed => rw [List.mem_singleton.mp hline]; exact fun h => by cases h
  | unresolved => rcases List.mem_pair.mp hline with rfl | rfl <;> exact fun h => by cases h

end Logs

/-! ### The whole run -/

theorem events_applyFields (v : Validator) (rules : RuleSet) (record : Record) (report : Report) :
    (rules.entries.foldlM (v.applyField record) report).events =
      rules.members.flatMap fun r => v.ruleEvents r.1 (record.value r.1) r.2 := by
  rw [← Logged.events_foldlM fun report (r : String × RuleSpec) =>
    events_applyRule v r.1 (record.value r.1) report r.2, Table.foldlM_members]
  rfl

theorem events_validateCompiled (h : (v.validateCompiled rules record).value = .ok report) :
    (v.validateCompiled rules record).events =
      (rules.members.flatMap fun r => v.ruleEvents r.1 (record.value r.1) r.2) ++
        [.validationFinished rules.size report.failureCount report.success] := by
  obtain ⟨hcheck, rfl⟩ := of_value_validateCompiled h
  unfold validateCompiled
  rw [hcheck]
  simp only [Logged.events_bind, Logged.events_log, Logged.events_pure, events_applyFields,
    value_applyFields, List.append_nil]

theorem mem_lines_iff (h : (v.validateCompiled rules record).value = .ok report) {line : LogLine} :
    line ∈ (v.validateCompiled rules record).events.map Event.line ↔
      (∃ r ∈ rules.members, line ∈ (v.ruleEvents r.1 (record.value r.1) r.2).map Event.line) ∨
        line = .validationFinished rules.size report.failureCount report.success := by
  rw [events_validateCompiled h, List.map_append, List.map_flatMap, List.mem_append, List.mem_flatMap]
  exact or_congr_right List.mem_singleton

theorem events_validateCompiled_of_error {e : FieldError}
    (h : (v.validateCompiled rules record).value = .error e) :
    (v.validateCompiled rules record).events = [] := by
  unfold validateCompiled at h ⊢
  split at h
  · rfl
  · cases h

/-! ### Log and report -/

theorem isSome_message?_iff (h : (v.validateCompiled rules record).value = .ok report)
    {field key : String} : (report.message? field key).isSome ↔
      ∃ r ∈ rules.members, field = r.1 ∧ ∃ failure,
        r.2.evaluate (record.value r.1) v.context = .failed failure ∧ failure.messageKey = key := by
  rw [(of_value_validateCompiled h).2, Report.isSome_message?_ofFindings, findings_eq_filterMap_members]
  simp only [List.mem_filterMap, Option.map_eq_some_iff, Evaluation.failure?_eq_some_iff, told,
    Prod.mk.injEq]
  constructor
  · rintro ⟨_, r, hr, failure, he, rfl, rfl, -⟩
    exact ⟨r, hr, rfl, failure, he, rfl⟩
  · rintro ⟨r, hr, rfl, failure, he, rfl⟩
    exact ⟨_, r, hr, failure, he, rfl, rfl, rfl⟩

theorem ruleFailed_mem_lines_iff (h : (v.validateCompiled rules record).value = .ok report)
    {field key : String} :
    (∃ rule, LogLine.ruleFailed field rule key ∈
        (v.validateCompiled rules record).events.map Event.line) ↔
      (report.message? field key).isSome := by
  rw [isSome_message?_iff h]
  simp only [← (logs_ruleEvents v _ _ _).ruleFailed_mem_iff, mem_lines_iff h]
  constructor
  · rintro ⟨rule, ⟨r, hr, hline⟩ | hfinished⟩
    · exact ⟨r, hr, rule, hline⟩
    · simp [LogLine.ruleFailed, LogLine.validationFinished] at hfinished
  · rintro ⟨r, hr, rule, hline⟩
    exact ⟨rule, Or.inl ⟨r, hr, hline⟩⟩

theorem success_iff_no_rule_failed (h : (v.validateCompiled rules record).value = .ok report) :
    report.success = true ↔
      ∀ line ∈ (v.validateCompiled rules record).events.map Event.line, line.2.1 ≠ "rule failed" := by
  have hsuccess : report.success = true ↔ ∀ field key, ¬ (report.message? field key).isSome := by
    rw [(of_value_validateCompiled h).2]
    exact Report.success_ofFindings_iff
  simp only [hsuccess, ← ruleFailed_mem_lines_iff h, not_exists]
  constructor
  · intro hnone line hline hmessage
    rcases (mem_lines_iff h).mp hline with ⟨r, -, hr⟩ | rfl
    · obtain ⟨key, rfl⟩ := (logs_ruleEvents v _ _ _).eq_ruleFailed_of_message hr hmessage
      exact hnone _ _ _ hline
    · simp [LogLine.validationFinished] at hmessage
  · exact fun hnone field key rule hline => hnone _ hline rfl

theorem level_ne_warn_of_mem_lines (h : (v.validateCompiled rules record).value = .ok report) :
    ∀ line ∈ (v.validateCompiled rules record).events.map Event.line, line.1 ≠ .warn := by
  intro line hline
  rcases (mem_lines_iff h).mp hline with ⟨r, -, hr⟩ | rfl
  · exact (logs_ruleEvents v _ _ _).level_ne_warn hr
  · exact fun h => by cases h

/-- The log of a validation tells the same as what the validation comes to. With a report, it has the
    lines of each rule in the order of the rules and then one line on how the validation ended. So the
    fields and message keys of the failures in it are those of the report, a success is a log without a
    failure, and nothing is warned of. With an error there is no log. -/
theorem log_tells_report (v : Validator) (rules : RuleSet) (record : Record) :
    let lines := (v.validateCompiled rules record).events.map Event.line
    (∀ report, (v.validateCompiled rules record).value = .ok report →
      (∃ told, List.Forall₂ (fun r => v.Logs r.1 (record.value r.1) r.2) rules.members told ∧
        lines = told.flatten ++
          [.validationFinished rules.size report.failureCount report.success]) ∧
      (∀ field key, (∃ rule, LogLine.ruleFailed field rule key ∈ lines) ↔
        (report.message? field key).isSome) ∧
      (report.success = true ↔ ∀ line ∈ lines, line.2.1 ≠ "rule failed") ∧
      ∀ line ∈ lines, line.1 ≠ .warn) ∧
    ∀ e, (v.validateCompiled rules record).value = .error e →
      (v.validateCompiled rules record).events = [] := by
  intro lines
  refine ⟨fun report h => ⟨⟨rules.members.map fun r =>
    (v.ruleEvents r.1 (record.value r.1) r.2).map Event.line, ?_, ?_⟩,
    fun field key => ruleFailed_mem_lines_iff h, success_iff_no_rule_failed h,
    level_ne_warn_of_mem_lines h⟩, fun e => events_validateCompiled_of_error⟩
  · rw [List.forall₂_map_right_iff, List.forall₂_same]
    exact fun r _ => logs_ruleEvents v _ _ _
  · simp only [lines, events_validateCompiled h, List.map_append, List.map_flatMap,
      List.flatten_eq_flatMap, List.flatMap_map]
    rfl

/-- A date that one rule cannot read and that fails another one under the same key, and a count that is
    not there: two failures are logged, and the second takes the place of the first. An anchor that is no
    day of the reference year stops the validation before anything is logged. -/
theorem log_of_overwritten_failure :
    let v := Validator.default ⟨2026, 10, 15, by decide⟩
    let year : DateFormat := ⟨[.component .year], by decide, by decide, by decide⟩
    let month : DateFormat := ⟨[.component .month], by decide, by decide, by decide⟩
    let monthDay : DateFormat := ⟨[.component .month, .component .day], by decide, by decide, by decide⟩
    let rules : RuleSet := .ofList [
      ("due", [.date .before ⟨month, .now, ⟨0, .days⟩⟩, .date .before ⟨year, .now, ⟨0, .days⟩⟩]),
      ("count", [.integer])]
    let leapDay : RuleSet := .ofList [("due", [.date .before
      ⟨monthDay, .literal "0229".toList ⟨none, some 2, some 29⟩, ⟨0, .days⟩⟩])]
    let record : Record := .ofList [("due", .text "2030")]
    let lines : List LogLine := [.dateUnresolved "unexpected trailing input '30'" "MM",
      .ruleFailed "due" "dateBefore:MM:now:0:days" "dateBefore:$1:$2:$3:$4",
      .ruleFailed "due" "dateBefore:YYYY:now:0:days" "dateBefore:$1:$2:$3:$4",
      .skippedNull "count" "integer", .validationFinished 2 1 false]
    (∃ report, (v.validateCompiled rules record).value = .ok report ∧ report.failureCount = 1 ∧
      report.success = false ∧ (report.message? "due" "dateBefore:$1:$2:$3:$4").isSome ∧
      (v.validateCompiled rules record).events.map Event.line = lines) ∧
    (({ v with referenceYear := 2001 } : Validator).validateCompiled leapDay record).events = [] := by
  intro v year month monthDay rules leapDay record lines
  have h := value_validateCompiled v rules record (by decide +kernel)
  have hlines : (v.validateCompiled rules record).events.map Event.line = lines := by
    decide +kernel
  obtain ⟨-, hmessages, hsuccess, -⟩ := (log_tells_report v rules record).1 _ h
  have hmem : LogLine.ruleFailed "due" "dateBefore:MM:now:0:days" "dateBefore:$1:$2:$3:$4" ∈
      (v.validateCompiled rules record).events.map Event.line := by
    rw [hlines]
    exact .tail _ (.head _)
  refine ⟨⟨_, h, by decide +kernel, ?_, (hmessages _ _).mp ⟨_, hmem⟩, hlines⟩, ?_⟩
  · exact Bool.eq_false_iff.mpr fun htrue => hsuccess.mp htrue _ hmem rfl
  · have hcheck : leapDay.checkReferenceYear 2001 =
        .error ⟨"due", .invalidAnchor "0229" "MMDD"⟩ := by decide +kernel
    refine (log_tells_report _ leapDay record).2 ⟨"due", .invalidAnchor "0229" "MMDD"⟩ ?_
    unfold validateCompiled
    rw [hcheck]
    rfl

end Validator

end Fieldwise
