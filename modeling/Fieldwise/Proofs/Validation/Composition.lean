import Fieldwise.Proofs.Validation.Independence
import Fieldwise.Proofs.Validation.SingleRule

/-!
How validations are put together. A table gives a report exactly when each of its rules can be read and
has an anchor that holds, and the report is that of what is found rule by rule. So a table that follows
another one adds its findings to those of the first, a record counts only through the values of the
fields that have rules, and rules of different message keys can change places.
-/

namespace Fieldwise

/-! ### Rule by rule -/

/-- The message key of a rule text, if it can be read. -/
def messageKey? (text : String) : Option String :=
  match RuleSpec.parse text with
  | .ok spec => some spec.kind.messageKey
  | .error _ => none

namespace Validator
variable {v : Validator} {table : FieldRules} {record : Record}

/-- What is found in a record by a rule of a field, if the rule can be read and the value fails it. -/
def found? (v : Validator) (record : Record) (r : String × String) : Option Report.Finding :=
  match RuleSpec.parse r.2 with
  | .error _ => none
  | .ok spec =>
    ((spec.evaluate (record.value r.1) v.context).failure?).map fun f => (r.1, v.told r.1 f)

/-- A finding is told for the field of the rule, under its message key. -/
theorem of_found? {r : String × String} {e : Report.Finding} (h : v.found? record r = some e) :
    e.1 = r.1 ∧ messageKey? r.2 = some e.2.1 := by
  unfold found? at h
  unfold messageKey?
  cases hparse : RuleSpec.parse r.2 with
  | error cause =>
    rw [hparse] at h
    cases h
  | ok spec =>
    rw [hparse] at h
    obtain ⟨f, hf, rfl⟩ := Option.map_eq_some_iff.mp h
    obtain rfl := RuleSpec.eq_failure_of_evaluate (Evaluation.failure?_eq_some_iff.mp hf)
    exact ⟨rfl, congrArg some spec.messageKey_failure.symm⟩

/-- What is found by rules that have been read is what their texts find. -/
theorem findings_eq_filterMap {rules : RuleSet} (hc : RuleSet.compile table = .ok rules)
    (record : Record) : v.findings rules record = table.members.filterMap (v.found? record) := by
  rw [findings_eq_filterMap_members]
  refine (filterMap_eq_of_forall₂ (RuleSet.forall₂_members hc) fun r s hrs => ?_).symm
  simp only [found?, hrs.1, hrs.2]

theorem exists_validate_eq_ok_iff : (∃ report, (v.validate table record).value = .ok report) ↔
    ∀ r ∈ table.members, ∃ spec, RuleSpec.parse r.2 = .ok spec ∧ spec.AnchorHolds v.referenceYear := by
  rw [← errorOf?_eq_none_iff, ← validateUnder_const, errorOf?_validateUnder,
    RuleSet.errorOf?_compileFor, Option.or_eq_none_iff, List.findSome?_eq_none_iff,
    List.findSome?_eq_none_iff, ← forall₂_and]
  refine forall₂_congr fun r _ => ?_
  rw [RuleSet.malformed?_eq_none_iff, RuleSet.textAnchorFault?_eq_none_iff]
  constructor
  · rintro ⟨⟨spec, hspec⟩, hholds⟩
    exact ⟨spec, hspec, hholds spec hspec⟩
  · rintro ⟨spec, hspec, hholds⟩
    refine ⟨⟨spec, hspec⟩, fun spec' hspec' => ?_⟩
    cases hspec.symm.trans hspec'
    exact hholds

/-- The report tells what the rules find, one after the other. -/
theorem eq_ofFindings_of_validate {report : Report} (h : (v.validate table record).value = .ok report) :
    report = .ofFindings (table.members.filterMap (v.found? record)) := by
  unfold validate at h
  cases hc : RuleSet.compile table with
  | error e =>
    rw [hc] at h
    cases h
  | ok rules =>
    rw [hc] at h
    rw [← findings_eq_filterMap hc]
    exact (of_value_validateCompiled h).2

/-! ### Tables one after the other -/

theorem field_mem_keys_of_found {field : String}
    (h : field ∈ (table.members.filterMap (v.found? record)).map Prod.fst) : field ∈ table.keys := by
  obtain ⟨e, he, rfl⟩ := List.mem_map.mp h
  obtain ⟨r, hr, hfound⟩ := List.mem_filterMap.mp he
  rw [(of_found? hfound).1]
  exact Table.fst_mem_keys_of_mem_members hr

theorem exists_validate_merge_iff {first second : FieldRules}
    (h : ∀ field ∈ first.keys, field ∉ second.keys) :
    (∃ report, (v.validate (first.merge second) record).value = .ok report) ↔
      (∃ report, (v.validate first record).value = .ok report) ∧
        ∃ report, (v.validate second record).value = .ok report := by
  simp only [exists_validate_eq_ok_iff, Table.members_merge h, List.forall_mem_append]

theorem report_of_validate_merge {first second : FieldRules}
    (h : ∀ field ∈ first.keys, field ∉ second.keys) {report report₁ report₂ : Report}
    (hboth : (v.validate (first.merge second) record).value = .ok report)
    (hfirst : (v.validate first record).value = .ok report₁)
    (hsecond : (v.validate second record).value = .ok report₂) :
    report.messages.entries = report₁.messages.entries ++ report₂.messages.entries ∧
      report.success = (report₁.success && report₂.success) := by
  obtain rfl := eq_ofFindings_of_validate hboth
  obtain rfl := eq_ofFindings_of_validate hfirst
  obtain rfl := eq_ofFindings_of_validate hsecond
  rw [Table.members_merge h, List.filterMap_append]
  constructor
  · refine Report.entries_messages_ofFindings_append fun field ha hb => ?_
    exact h field (field_mem_keys_of_found ha) (field_mem_keys_of_found hb)
  · rw [Bool.eq_iff_iff]
    simp only [Report.success_ofFindings, Bool.and_eq_true, List.isEmpty_iff, List.append_eq_nil_iff]

/-! ### Records with the same values -/

theorem validateCompiled_congr_record {rules : RuleSet} {record' : Record}
    (h : ∀ field ∈ rules.keys, record.value field = record'.value field) :
    v.validateCompiled rules record = v.validateCompiled rules record' := by
  have hrun : rules.entries.foldlM (v.applyField record) .passed =
      rules.entries.foldlM (v.applyField record') .passed := by
    refine foldlM_congr (fun report entry hentry => ?_) _
    simp only [applyField, h entry.1 (List.mem_map_of_mem hentry)]
  simp only [validateCompiled, hrun]

/-- Of a record, a validation sees the values of the fields that have rules, and nothing else. -/
theorem validate_congr_record {record' : Record}
    (h : ∀ field ∈ table.keys, record.value field = record'.value field) :
    v.validate table record = v.validate table record' := by
  unfold validate
  cases hc : RuleSet.compile table with
  | error e => rfl
  | ok rules =>
    refine validateCompiled_congr_record fun field hfield => h field ?_
    rwa [Table.keys_of_traverse hc] at hfield

end Validator

/-! ### Rules in another order -/

/-- The same rules, in an order in which those of one message key come one after the other as before. -/
structure Reordering (texts texts' : List String) : Prop where
  perm : texts.Perm texts'
  filter_eq : ∀ key, texts.filter (messageKey? · = some key) = texts'.filter (messageKey? · = some key)

/-- Two neighbours of different message keys can change places. -/
theorem Reordering.swap {a b : String} (h : messageKey? a ≠ messageKey? b) (before after : List String) :
    Reordering (before ++ a :: b :: after) (before ++ b :: a :: after) where
  perm := (List.Perm.swap b a after).append_left before
  filter_eq key := by
    rw [List.filter_append, List.filter_append]
    congr 1
    by_cases ha : messageKey? a = some key
    · have hb : messageKey? b ≠ some key := fun hb => h (ha.trans hb.symm)
      simp [ha, hb]
    · simp [List.filter_cons, ha]

/-- The same fields, each with its rules in another order, but for rules of one message key. -/
def FieldRules.Reordered (table table' : FieldRules) : Prop :=
  List.Forall₂ (fun e e' => e.1 = e'.1 ∧ Reordering e.2 e'.2) table.entries table'.entries

namespace FieldRules.Reordered
variable {table table' : FieldRules}

theorem perm_members (h : table.Reordered table') : table.members.Perm table'.members := by
  unfold Table.members
  unfold Reordered at h
  generalize table.entries = entries at h ⊢
  generalize table'.entries = entries' at h ⊢
  induction h with
  | nil => exact .nil
  | @cons e e' _ _ he _ ih =>
    rw [Table.membersOf_cons, Table.membersOf_cons, he.1]
    exact (he.2.perm.map _).append ih

theorem filter_members (h : table.Reordered table') (field key : String) :
    table.members.filter (fun r => r.1 = field ∧ messageKey? r.2 = some key) =
      table'.members.filter (fun r => r.1 = field ∧ messageKey? r.2 = some key) := by
  rw [Table.members, Table.members, Table.membersOf, Table.membersOf, List.filter_flatMap,
    List.filter_flatMap, List.flatMap_def, List.flatMap_def]
  refine congrArg List.flatten (map_eq_of_forall₂ h fun e e' he => ?_)
  rw [List.filter_map, List.filter_map, ← he.1]
  by_cases hfield : e.1 = field
  · simp only [Function.comp_def, hfield, true_and, he.2.filter_eq]
  · simp [Function.comp_def, hfield]

/-- Whatever is found of the rules, each field comes as often and at the same places. -/
theorem fields_found_eq (h : table.Reordered table') {found? : String × String → Option Report.Finding}
    (hfield : ∀ r e, found? r = some e → e.1 = r.1) :
    (table.members.filterMap found?).map Prod.fst = (table'.members.filterMap found?).map Prod.fst := by
  rw [Table.members, Table.members, Table.membersOf, Table.membersOf, List.filterMap_flatMap,
    List.filterMap_flatMap, List.map_flatMap, List.map_flatMap, List.flatMap_def, List.flatMap_def]
  refine congrArg List.flatten (map_eq_of_forall₂ h fun e e' he => ?_)
  have hown : ∀ texts : List String,
      ∀ field ∈ ((texts.map (Prod.mk e.1)).filterMap found?).map Prod.fst, field = e.1 := by
    intro texts field hmem
    obtain ⟨found, hfound, rfl⟩ := List.mem_map.mp hmem
    obtain ⟨r, hr, hr'⟩ := List.mem_filterMap.mp hfound
    obtain ⟨text, -, rfl⟩ := List.mem_map.mp hr
    exact hfield _ _ hr'
  have hlength := (((he.2.perm.map (Prod.mk e.1)).filterMap found?).map Prod.fst).length_eq
  rw [← he.1, List.eq_replicate_of_mem (hown e.2), List.eq_replicate_of_mem (hown e'.2), hlength]

end FieldRules.Reordered

namespace Validator
variable {v : Validator} {table table' : FieldRules} {record : Record}

/-- What is found for a field under a key is found by the rules of the field with the key. -/
theorem filter_found (v : Validator) (record : Record) (members : List (String × String))
    (field key : String) :
    (members.filterMap (v.found? record)).filter (fun e => e.1 = field ∧ e.2.1 = key) =
      (members.filter fun r => r.1 = field ∧ messageKey? r.2 = some key).filterMap
        (v.found? record) := by
  rw [List.filter_filterMap, List.filterMap_filter]
  refine List.filterMap_congr fun r _ => ?_
  cases hfound : v.found? record r with
  | none => simp
  | some e =>
    obtain ⟨hfield, hkey⟩ := of_found? hfound
    simp [Option.filter, hfield, hkey]

theorem exists_validate_reordered_iff (h : table.Reordered table') :
    (∃ report, (v.validate table record).value = .ok report) ↔
      ∃ report, (v.validate table' record).value = .ok report := by
  simp only [exists_validate_eq_ok_iff, h.perm_members.mem_iff]

theorem report_of_validate_reordered (h : table.Reordered table') {report report' : Report}
    (hreport : (v.validate table record).value = .ok report)
    (hreport' : (v.validate table' record).value = .ok report') :
    report.success = report'.success ∧ report.messages.keys = report'.messages.keys ∧
      ∀ field key, report.message? field key = report'.message? field key := by
  obtain rfl := eq_ofFindings_of_validate hreport
  obtain rfl := eq_ofFindings_of_validate hreport'
  have hfields := h.fields_found_eq fun r e hfound => (@of_found? v record r e hfound).1
  refine ⟨?_, ?_, fun field key => ?_⟩
  · rw [Report.success_ofFindings, Report.success_ofFindings, ← List.isEmpty_map, hfields,
      List.isEmpty_map]
  · rw [Report.keys_messages_ofFindings, Report.keys_messages_ofFindings, hfields]
  · rw [Report.message?_ofFindings, Report.message?_ofFindings, filter_found, filter_found,
      h.filter_members]

/-- A validation is put together from its parts. A table that follows another one, with fields of its
    own, is validated if both are, and its messages follow those of the other; two records are one to a
    table when all fields of the table have the same values in them; and rules of one field can change
    places with those of other message keys, without a change of what is told under any key. -/
theorem validation_is_compositional (v : Validator) :
    (∀ (record : Record) (first second : FieldRules),
      (∀ field ∈ first.keys, field ∉ second.keys) →
      ((∃ report, (v.validate (first.merge second) record).value = .ok report) ↔
        (∃ report, (v.validate first record).value = .ok report) ∧
          ∃ report, (v.validate second record).value = .ok report) ∧
      ∀ report report₁ report₂, (v.validate (first.merge second) record).value = .ok report →
        (v.validate first record).value = .ok report₁ →
        (v.validate second record).value = .ok report₂ →
        report.messages.entries = report₁.messages.entries ++ report₂.messages.entries ∧
          report.success = (report₁.success && report₂.success)) ∧
    (∀ (table : FieldRules) (record record' : Record),
      (∀ field ∈ table.keys, record.value field = record'.value field) →
      v.validate table record = v.validate table record') ∧
    ∀ (record : Record) (table table' : FieldRules), table.Reordered table' →
      ((∃ report, (v.validate table record).value = .ok report) ↔
        ∃ report, (v.validate table' record).value = .ok report) ∧
      ∀ report report', (v.validate table record).value = .ok report →
        (v.validate table' record).value = .ok report' →
        report.success = report'.success ∧ report.messages.keys = report'.messages.keys ∧
          ∀ field key, report.message? field key = report'.message? field key := by
  refine ⟨fun record first second h => ⟨exists_validate_merge_iff h, ?_⟩,
    fun table record record' => validate_congr_record,
    fun record table table' h => ⟨exists_validate_reordered_iff h, ?_⟩⟩
  · exact fun report report₁ report₂ => report_of_validate_merge h
  · exact fun report report' => report_of_validate_reordered h

/-- A date that fails two rules of one key, and a count that is not there: the date is told first. To the
    count it is one whether the record leaves it out or says that there is none. And with the rule of
    another key in front, it is still the later year that is told of the date. -/
theorem date_and_count_compose :
    let v := Validator.default ⟨2026, 10, 15, by decide⟩
    let dates : FieldRules :=
      .ofList [("due", ["dateBefore:YYYY:2000:0:days", "integer", "dateBefore:YYYY:2010:0:days"])]
    let reordered : FieldRules :=
      .ofList [("due", ["integer", "dateBefore:YYYY:2000:0:days", "dateBefore:YYYY:2010:0:days"])]
    let counts : FieldRules := .ofList [("count", ["required"])]
    let record : Record := .ofList [("due", .text "2030?")]
    (∃ report, (v.validate (dates.merge counts) record).value = .ok report ∧
      report.messages.keys = ["due", "count"] ∧ report.success = false) ∧
    v.validate counts record = v.validate counts (.ofList [("other", .boolean true), ("count", .null)]) ∧
    ∃ report, (v.validate reordered record).value = .ok report ∧
      report.message? "due" "dateBefore:$1:$2:$3:$4" = some "Due must less than 2010." := by
  intro v dates reordered counts record
  obtain ⟨hmerge, hrecords, hreordered⟩ := validation_is_compositional v
  obtain ⟨report₁, h₁⟩ := errorOf?_eq_none_iff.mp
    (show errorOf? (v.validate dates record).value = none by decide +kernel)
  obtain ⟨report₂, h₂⟩ := errorOf?_eq_none_iff.mp
    (show errorOf? (v.validate counts record).value = none by decide +kernel)
  have hkeys : messageKey? "dateBefore:YYYY:2000:0:days" ≠ messageKey? "integer" := by decide +kernel
  have hswapped : dates.Reordered reordered :=
    .cons ⟨rfl, .swap hkeys [] ["dateBefore:YYYY:2010:0:days"]⟩ .nil
  obtain ⟨hok, hreports⟩ := hmerge record dates counts (by decide +kernel)
  obtain ⟨report, h⟩ := hok.mpr ⟨⟨report₁, h₁⟩, report₂, h₂⟩
  obtain ⟨hentries, hsuccess⟩ := hreports report report₁ report₂ h h₁ h₂
  obtain ⟨hok', hreports'⟩ := hreordered record dates reordered hswapped
  obtain ⟨report', h'⟩ := hok'.mp ⟨report₁, h₁⟩
  obtain ⟨-, -, hmessages⟩ := hreports' report₁ report' h₁ h'
  obtain rfl := eq_ofFindings_of_validate h₁
  obtain rfl := eq_ofFindings_of_validate h₂
  refine ⟨⟨report, h, ?_, ?_⟩, hrecords counts record _ ?_, report', h', ?_⟩
  · rw [Table.keys, hentries]
    decide +kernel
  · rw [hsuccess]
    decide +kernel
  · intro field hfield
    obtain rfl := List.mem_singleton.mp (show field ∈ ["count"] from hfield)
    rfl
  · rw [← hmessages]
    decide +kernel

end Validator

end Fieldwise
