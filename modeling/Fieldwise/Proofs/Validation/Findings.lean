import Fieldwise.Validator
import Fieldwise.Proofs.Report
import Fieldwise.Proofs.Rule.Anchor

/-!
What a validation finds. Each step of a validation, for one rule or for the rules of one field, adds
to the report what is found there, so the whole run comes to the report of all findings, field by
field and rule by rule. From this it follows which fields and message keys a report has, in which
order they stand, and which message is told of a key that has failed more than once.
-/

namespace Fieldwise.Validator

/-- The failures of a value against rules, in the order of the rules. -/
def failures (v : Validator) (value : FieldValue) (specs : List RuleSpec) : List Failure :=
  specs.filterMap fun spec => (spec.evaluate value v.context).failure?

/-- The failures of a field of a record against the rules of the field, in the order of the
    rules. -/
def fieldFailures (v : Validator) (rules : RuleSet) (record : Record) (field : String) :
    List Failure :=
  v.failures (record.value field) ((rules.get? field).getD [])

/-- The message key and the message for a failure of a field. -/
def told (v : Validator) (field : String) (failure : Failure) : String × String :=
  (failure.messageKey, v.failureMessage field failure)

/-- Everything that is found in a record, field by field and rule by rule. -/
def findings (v : Validator) (rules : RuleSet) (record : Record) : List Report.Finding :=
  Report.grouped rules.keys fun field => (v.fieldFailures rules record field).map (v.told field)

/-- What is found field by field is what the rules find one after the other. -/
theorem findings_eq_filterMap_members (v : Validator) (rules : RuleSet) (record : Record) :
    v.findings rules record = rules.members.filterMap fun r =>
      ((r.2.evaluate (record.value r.1) v.context).failure?).map fun f => (r.1, v.told r.1 f) := by
  rw [findings, Report.grouped, Table.keys, Table.members, Table.membersOf, List.flatMap_map,
    List.filterMap_flatMap]
  refine List.flatMap_congr fun e he => ?_
  rw [fieldFailures, Table.get?_eq_some_iff.mpr he, Option.getD_some, failures, List.map_map,
    List.map_filterMap, List.filterMap_map]
  rfl

/-! ### What a step adds -/

/-- A rule adds its failure to the report, and nothing if it passes the value or passes over it. -/
theorem value_applyRule (v : Validator) (field : String) (value : FieldValue) (report : Report)
    (spec : RuleSpec) :
    (v.applyRule field value report spec).value =
      match (spec.evaluate value v.context).failure? with
      | some f => report.addFailure field f.messageKey (v.failureMessage field f)
      | none => report := by
  unfold applyRule
  cases h : spec.evaluate value v.context <;> rfl

/-- The rules of a field add the failures of the field. -/
theorem value_applyField (v : Validator) (record : Record) (report : Report)
    (entry : String × List RuleSpec) :
    (v.applyField record report entry).value =
      (v.failures (record.value entry.1) entry.2).foldl
        (fun r f => r.addFailure entry.1 f.messageKey (v.failureMessage entry.1 f)) report := by
  unfold applyField failures
  rw [Logged.value_foldlM, List.foldl_filterMap]
  congr 1
  funext r spec
  rw [value_applyRule]
  cases (spec.evaluate (record.value entry.1) v.context).failure? <;> rfl

/-- The fields of a rule set add all that is found in the record. -/
theorem value_applyFields (v : Validator) (rules : RuleSet) (record : Record) :
    (rules.entries.foldlM (v.applyField record) .passed).value =
      .ofFindings (v.findings rules record) := by
  rw [Logged.value_foldlM, Report.ofFindings, findings, Report.grouped, Table.keys,
    List.flatMap_map, List.foldl_flatMap]
  refine List.foldl_ext _ _ _ fun report e he => ?_
  rw [value_applyField, List.foldl_map, List.foldl_map, fieldFailures,
    Table.get?_eq_some_iff.mpr he, Option.getD_some]
  rfl

/-- Rules whose anchors hold in the reference year give the report of everything that is found. -/
theorem value_validateCompiled (v : Validator) (rules : RuleSet) (record : Record)
    (ha : ∀ e ∈ rules.entries, ∀ spec ∈ e.2, spec.AnchorHolds v.referenceYear) :
    (v.validateCompiled rules record).value = .ok (.ofFindings (v.findings rules record)) := by
  unfold validateCompiled
  rw [RuleSet.checkReferenceYear_eq_ok_iff.mpr ha]
  simp only [Logged.value_bind, Logged.value_pure, value_applyFields]

/-- Rules that give a report have anchors that hold, and the report is that of everything that is
    found. -/
theorem of_value_validateCompiled {v : Validator} {rules : RuleSet} {record : Record}
    {report : Report} (h : (v.validateCompiled rules record).value = .ok report) :
    rules.checkReferenceYear v.referenceYear = .ok () ∧
      report = .ofFindings (v.findings rules record) := by
  unfold validateCompiled at h
  split at h
  · cases h
  · next hc =>
    rw [← value_applyFields]
    exact ⟨hc, (Except.ok.inj h).symm⟩

theorem value_validate (v : Validator) {table : FieldRules} {rules : RuleSet} (record : Record)
    (hc : RuleSet.compile table = .ok rules)
    (ha : ∀ e ∈ rules.entries, ∀ spec ∈ e.2, spec.AnchorHolds v.referenceYear) :
    (v.validate table record).value = .ok (.ofFindings (v.findings rules record)) := by
  unfold validate
  rw [hc]
  exact value_validateCompiled v rules record ha

/-! ### What the report tells -/

/-- The fields that fail, in the order of the rules. -/
theorem keys_messages_findings (v : Validator) (rules : RuleSet) (record : Record) :
    (Report.ofFindings (v.findings rules record)).messages.keys =
      rules.keys.filter fun field => v.fieldFailures rules record field ≠ [] := by
  rw [Report.keys_messages_ofFindings, findings, Report.fields_grouped rules.nodup]
  simp

/-- A field with messages has failed, and its messages are those for its own failures. -/
theorem messages_of_get?_findings {v : Validator} {rules : RuleSet} {record : Record}
    {field : String} {messages : Table String}
    (h : (Report.ofFindings (v.findings rules record)).messages.get? field = some messages) :
    v.fieldFailures rules record field ≠ [] ∧
      messages = .ofList ((v.fieldFailures rules record field).map (v.told field)) := by
  have hmem := Table.mem_keys_iff.mpr ⟨messages, Table.get?_eq_some_iff.mp h⟩
  rw [keys_messages_findings, List.mem_filter, decide_eq_true_eq] at hmem
  refine ⟨hmem.2, ?_⟩
  rw [Report.messages_of_get?_ofFindings h, findings,
    Report.findingsOf_grouped rules.nodup hmem.1]

/-- Of the failures told under one key, the last one gives the text. -/
theorem get?_ofList_told (v : Validator) (field : String) (failures : List Failure)
    (key : String) :
    (Table.ofList (failures.map (v.told field))).get? key =
      (failures.filter fun f => f.messageKey = key).getLast?.map fun f =>
        v.catalog.render key (f.substitutions (v.labels field)) := by
  have hlast : (Table.ofList (failures.map (v.told field))).get? key =
      (failures.filter fun f => f.messageKey = key).getLast?.map (v.failureMessage field) := by
    rw [Table.get?_ofList, List.filter_map, List.getLast?_map, Option.map_map]
    rfl
  rw [hlast]
  refine Option.map_congr fun f hf => ?_
  have hkey : f.messageKey = key := by simpa using (List.mem_filter.mp (List.mem_of_getLast? hf)).2
  rw [failureMessage, hkey]

/-- A record is validated against rules that can be read and whose anchors hold in the reference
    year, and the report tells its failures and nothing else. The fields that fail stand in the
    order of the table, each with the keys of its failures in the order in which they first come;
    under a key stands the message for the last failure with the key. -/
theorem validate_reports_failures (v : Validator) (table : FieldRules) (record : Record)
    (rules : RuleSet) (hc : RuleSet.compile table = .ok rules)
    (ha : ∀ e ∈ rules.entries, ∀ spec ∈ e.2, spec.AnchorHolds v.referenceYear) :
    ∃ report, (v.validate table record).value = .ok report ∧
      report.messages.keys =
        table.keys.filter (fun field => v.fieldFailures rules record field ≠ []) ∧
      (∀ field messages, report.messages.get? field = some messages →
        messages.keys =
          ((v.fieldFailures rules record field).map Failure.messageKey).eraseDups ∧
        (∀ key, messages.get? key =
          ((v.fieldFailures rules record field).filter fun f => f.messageKey = key).getLast?.map
            fun f => v.catalog.render key (f.substitutions (v.labels field))) ∧
        messages.keys ≠ []) ∧
      (report.success = true ↔ report.messages.keys = []) := by
  refine ⟨_, value_validate v record hc ha, ?_, fun field messages h => ?_, ?_⟩
  · rw [keys_messages_findings, Table.keys_of_traverse hc]
  · obtain ⟨hne, rfl⟩ := messages_of_get?_findings h
    have hkeys : (Table.ofList ((v.fieldFailures rules record field).map (v.told field))).keys =
        ((v.fieldFailures rules record field).map Failure.messageKey).eraseDups := by
      rw [Table.keys_ofList, List.map_map]
      rfl
    refine ⟨hkeys, get?_ofList_told v field _, ?_⟩
    rw [hkeys]
    exact fun hnil => hne (List.map_eq_nil_iff.mp (Table.eraseDups_eq_nil_iff.mp hnil))
  · rw [Report.success_ofFindings, Report.keys_messages_ofFindings, Table.eraseDups_eq_nil_iff,
      List.map_eq_nil_iff, List.isEmpty_iff]

/-- Two rules of one kind fail a field with a rule of another kind between them. Their key comes
    first, and the second of them gives its message. -/
theorem validate_repeated_kind :
    ∃ report messages,
      ((Validator.default ⟨2026, 10, 15, by decide⟩).validate
        (.ofList [("when", ["dateBefore:YYYY:now:0:days", "integer", "dateBefore:YYYY:2000:1:year"])])
        (.ofList [("when", .text "2030?")])).value = .ok report ∧
      report.messages.get? "when" = some messages ∧
      messages.keys = ["dateBefore:$1:$2:$3:$4", "integer"] ∧
      messages.get? "dateBefore:$1:$2:$3:$4" = some "When must less than 2000 plus 1 years." := by
  let yearFormat : DateFormat := ⟨[.component .year], by decide, by decide, by decide⟩
  let rules : RuleSet := .ofList [("when",
    [.date .before ⟨yearFormat, .now, ⟨0, .days⟩⟩, .integer,
      .date .before ⟨yearFormat, .literal ['2', '0', '0', '0'] ⟨some 2000, none, none⟩, ⟨1, .years⟩⟩])]
  obtain ⟨report, hv, hk, hm, -⟩ := validate_reports_failures (.default ⟨2026, 10, 15, by decide⟩)
    (.ofList [("when", ["dateBefore:YYYY:now:0:days", "integer", "dateBefore:YYYY:2000:1:year"])])
    (.ofList [("when", .text "2030?")]) rules (Table.traverse_eq_ok_iff.mpr (by decide +kernel))
    (by decide +kernel)
  have hwhen : "when" ∈ report.messages.keys := by
    rw [hk]
    decide +kernel
  obtain ⟨messages, hmem⟩ := Table.mem_keys_iff.mp hwhen
  have hget := Table.get?_eq_some_iff.mpr hmem
  obtain ⟨hkeys, htext, -⟩ := hm "when" messages hget
  refine ⟨report, messages, hv, hget, ?_, ?_⟩
  · rw [hkeys]
    decide +kernel
  · rw [htext]
    decide +kernel

end Fieldwise.Validator
