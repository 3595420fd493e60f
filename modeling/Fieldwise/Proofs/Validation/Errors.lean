import Fieldwise.Proofs.Validation.Clock

/-!
Errors of a validation. An error is always a fault of the rules: a table that is at fault gives its
fault and nothing else, and any other table gives a report for every record, however little its values
look like what the rules ask for. Neither the record nor the clock, the labels or the messages have a
part in it.
-/

namespace Fieldwise.Validator

variable {v : Validator} {table : FieldRules} {e : FieldError}

theorem validateUnder_eq_error_iff {clock : Clock} {record : Record} :
    (v.validateUnder clock table record).value = .error e ↔
      FieldRules.IsFault table v.referenceYear e := by
  rw [← FieldRules.compileFor_eq_error_iff, ← errorOf?_eq_some_iff, ← errorOf?_eq_some_iff,
    errorOf?_validateUnder]

theorem validate_eq_error_iff {record : Record} : (v.validate table record).value = .error e ↔
    FieldRules.IsFault table v.referenceYear e := by
  rw [← validateUnder_const]
  exact validateUnder_eq_error_iff

/-- A validation has an error exactly when some rule cannot be read, or all can be and some anchor is
    no day of the calendar in the reference year. The error is then the fault of the table: that of the
    first rule that cannot be read, even behind an anchor that fails, or else that of the first such
    anchor. Under any other clock, with other labels and messages and for any other record it is the
    same. -/
theorem validation_errors_are_faults_of_rules (v : Validator) (table : FieldRules) :
    (∀ record, (∃ e, (v.validate table record).value = .error e) ↔
      (∃ r ∈ table.members, ∃ cause, RuleSpec.parse r.2 = .error cause) ∨
        (∀ r ∈ table.members, ∃ spec, RuleSpec.parse r.2 = .ok spec) ∧
          ∃ r ∈ table.members, ∃ direction c, RuleSpec.parse r.2 = .ok (.date direction c) ∧
            ¬ c.anchor.HoldsIn v.referenceYear) ∧
    (∀ record e, (v.validate table record).value = .error e ↔
      FieldRules.IsFault table v.referenceYear e) ∧
    ∀ today labels catalog clock record record' e,
      ((Validator.mk today labels catalog v.referenceYear).validateUnder clock table record).value =
          .error e ↔ (v.validate table record').value = .error e := by
  refine ⟨fun record => ?_, fun record e => validate_eq_error_iff, ?_⟩
  · simp only [validate_eq_error_iff]
    exact FieldRules.exists_isFault_iff
  · intro today labels catalog clock record record' e
    rw [validate_eq_error_iff]
    exact validateUnder_eq_error_iff

/-- In a common year the last of February fails as an anchor. A misspelt rule of a later field is told
    before it, and once the rule is mended the anchor is told. -/
theorem malformed_rule_goes_before_anchor :
    ((Validator.mk ⟨2026, 10, 15, by decide⟩ Labels.none .builtIn 2001).validate
        (.ofList [("due", ["dateBefore:DD-MM:29-02:0:days"]), ("count", ["required", "integr"])])
        (.ofList [("due", .boolean true)])).value =
      .error ⟨"count", .unknownRule "integr" (some "integer")⟩ ∧
    ((Validator.mk ⟨2026, 10, 15, by decide⟩ Labels.none .builtIn 2001).validate
        (.ofList [("due", ["dateBefore:DD-MM:29-02:0:days"]), ("count", ["required", "integer"])])
        .empty).value = .error ⟨"due", .invalidAnchor "29-02" "DD-MM"⟩ := by
  let f : DateFormat := ⟨[.component .day, .literal ['-'], .component .month],
    by decide, by decide, by decide⟩
  let c : DateComparison := ⟨f, .literal "29-02".toList ⟨none, some 2, some 29⟩, ⟨0, .days⟩⟩
  have hdue : RuleSpec.parse "dateBefore:DD-MM:29-02:0:days" = .ok (.date .before c) := by
    decide +kernel
  have hrequired : RuleSpec.parse "required" = .ok .required := by decide +kernel
  have hinteger : RuleSpec.parse "integer" = .ok .integer := by decide +kernel
  constructor
  · have hplace : (Table.ofList [("due", ["dateBefore:DD-MM:29-02:0:days"]),
        ("count", ["required", "integr"])]).members =
        [("due", "dateBefore:DD-MM:29-02:0:days"), ("count", "required")] ++
          ("count", "integr") :: [] := by decide +kernel
    have hcause : RuleSpec.parse "integr" = .error (.unknownRule "integr" (some "integer")) := by
      decide +kernel
    exact ((validation_errors_are_faults_of_rules _ _).2.1 _ _).mpr
      (.malformed hplace (by simp [hdue, hrequired]) hcause)
  · have hplace : (Table.ofList [("due", ["dateBefore:DD-MM:29-02:0:days"]),
        ("count", ["required", "integer"])]).members =
        [] ++ ("due", "dateBefore:DD-MM:29-02:0:days") :: [("count", "required"),
          ("count", "integer")] := by decide +kernel
    have hread : ∀ r ∈ (Table.ofList [("due", ["dateBefore:DD-MM:29-02:0:days"]),
        ("count", ["required", "integer"])]).members, ∃ spec, RuleSpec.parse r.2 = .ok spec := by
      rw [hplace]
      simp [hdue, hrequired, hinteger]
    exact ((validation_errors_are_faults_of_rules _ _).2.1 _ _).mpr
      (.anchor hplace hread (List.forall_mem_nil _) hdue (by decide))

end Fieldwise.Validator
