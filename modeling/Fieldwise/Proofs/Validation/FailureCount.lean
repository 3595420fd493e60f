import Fieldwise.Proofs.Validation.SingleRule
import Mathlib.Algebra.Ring.Nat
import Mathlib.Data.Finset.Card
import Mathlib.Data.List.Dedup

/-!
How many failures a report counts. A failure is counted when no other one of its field has been told under
its message key, so the count is that of the different pairs of a field and a kind of rule that fail. It is
the number of the rules that fail exactly when no field fails two rules of one kind.
-/

namespace Fieldwise

/-! ### Sums over a table -/

namespace Table
variable {α : Type}

/-- What a name had before is taken out of a sum over the values, and what it is given is put in. -/
theorem sum_insertEntry (f : α → Nat) (key : String) (value : α) (entries : List (String × α)) :
    ((insertEntry key value entries).map fun e => f e.2).sum + ((entries.lookup key).map f).getD 0 =
      (entries.map fun e => f e.2).sum + f value := by
  induction entries with
  | nil => simp [insertEntry]
  | cons e rest ih =>
    obtain ⟨k, v⟩ := e
    unfold insertEntry
    by_cases h : k = key
    · subst h
      simp only [if_true, List.map_cons, List.sum_cons, List.lookup_cons_self, Option.map_some,
        Option.getD_some]
      omega
    · have hne : (key == k) = false := beq_eq_false_iff_ne.mpr (Ne.symm h)
      simp only [if_neg h, List.map_cons, List.sum_cons, List.lookup_cons, hne]
      omega

theorem sum_insert (f : α → Nat) (t : Table α) (key : String) (value : α) :
    ((t.insert key value).entries.map fun e => f e.2).sum + ((t.get? key).map f).getD 0 =
      (t.entries.map fun e => f e.2).sum + f value :=
  sum_insertEntry f key value t.entries

theorem isSome_get?_iff {t : Table α} {key : String} : (t.get? key).isSome ↔ key ∈ t.keys := by
  rw [Option.isSome_iff_exists, mem_keys_iff]
  exact exists_congr fun _ => get?_eq_some_iff

theorem size_insert (t : Table α) (key : String) (value : α) :
    (t.insert key value).size = t.size + if (t.get? key).isSome then 0 else 1 := by
  have hsize : ∀ t : Table α, t.size = t.keys.length := fun t => (List.length_map _).symm
  rw [hsize, hsize, keys_insert]
  simp only [isSome_get?_iff]
  split
  · rfl
  · exact List.length_append

end Table

/-! ### Counting in a report -/

namespace Report

theorem failureCount_eq_sum (r : Report) :
    r.failureCount = (r.messages.entries.map fun e => e.2.size).sum := by
  rw [failureCount, List.sum_eq_foldl_nat, List.foldl_map]

/-- A failure counts unless its field has a message under its key. -/
theorem failureCount_addFailure (r : Report) (field key message : String) :
    (r.addFailure field key message).failureCount =
      r.failureCount + if (r.message? field key).isSome then 0 else 1 := by
  have hsum := r.messages.sum_insert Table.size field
    (((r.messages.get? field).getD .empty).insert key message)
  rw [Table.size_insert] at hsum
  rw [failureCount_eq_sum, failureCount_eq_sum]
  unfold message? field? addFailure
  cases hget : r.messages.get? field with
  | none =>
    rw [hget] at hsum
    exact hsum
  | some messages =>
    rw [hget] at hsum
    simp only [Option.map_some, Option.getD_some, Option.bind_some] at hsum ⊢
    omega

/-- What is counted are the different pairs of a field and a key among the findings. -/
theorem failureCount_ofFindings (findings : List Finding) :
    (ofFindings findings).failureCount = (findings.map fun e => (e.1, e.2.1)).toFinset.card := by
  induction findings using List.reverseRecOn with
  | nil => rfl
  | append_singleton findings e ih =>
    have hset : ((findings ++ [e]).map fun e => (e.1, e.2.1)).toFinset =
        insert (e.1, e.2.1) (findings.map fun e => (e.1, e.2.1)).toFinset := by
      ext p
      simp
    have hmem : (e.1, e.2.1) ∈ (findings.map fun e => (e.1, e.2.1)).toFinset ↔
        ((ofFindings findings).message? e.1 e.2.1).isSome := by
      rw [isSome_message?_ofFindings, List.mem_toFinset]
      simp
    rw [ofFindings_concat, failureCount_addFailure, ih, hset, Finset.card_insert_eq_ite]
    simp only [hmem]
    split <;> rfl

end Report

theorem RuleKind.messageKey_injective : Function.Injective messageKey := by
  intro k j h
  have hall : ∀ k ∈ all, ∀ j ∈ all, k.messageKey = j.messageKey → k = j := by decide +kernel
  exact hall k (mem_all k) j (mem_all j) h

/-! ### Counting in a validation -/

namespace Validator
variable {v : Validator} {table : FieldRules} {rules : RuleSet} {record : Record} {report : Report}

/-- The rules that the values of a record fail, each with its field, in the order of the rules. -/
def failing (v : Validator) (rules : RuleSet) (record : Record) : List (String × RuleSpec) :=
  rules.members.filter fun r => (r.2.evaluate (record.value r.1) v.context).failure?.isSome

theorem map_key_findings (v : Validator) (rules : RuleSet) (record : Record) :
    (v.findings rules record).map (fun e => (e.1, e.2.1)) =
      (v.failing rules record).map fun r => (r.1, r.2.kind.messageKey) := by
  rw [findings_eq_filterMap_members, failing]
  induction rules.members with
  | nil => rfl
  | cons r rest ih =>
    cases hf : (r.2.evaluate (record.value r.1) v.context).failure? with
    | none =>
      rw [List.filterMap_cons_none (by rw [hf]; rfl), List.filter_cons_of_neg (by simp [hf]), ih]
    | some f =>
      obtain rfl := RuleSpec.eq_failure_of_evaluate (Evaluation.failure?_eq_some_iff.mp hf)
      rw [List.filterMap_cons_some (by rw [hf]; rfl), List.filter_cons_of_pos (by simp [hf]),
        List.map_cons, List.map_cons, ih, ← r.2.messageKey_failure]
      rfl

/-- A report counts the different kinds of rule that each field fails. -/
theorem failureCount_of_validateCompiled
    (h : (v.validateCompiled rules record).value = .ok report) :
    report.failureCount =
      ((v.failing rules record).map fun r => (r.1, r.2.kind)).toFinset.card := by
  obtain ⟨-, rfl⟩ := of_value_validateCompiled h
  have hkeys : (v.findings rules record).map (fun e => (e.1, e.2.1)) =
      ((v.failing rules record).map fun r => (r.1, r.2.kind)).map
        (Prod.map id RuleKind.messageKey) := by
    rw [map_key_findings, List.map_map]
    rfl
  have hinjective : Function.Injective (Prod.map (id : String → String) RuleKind.messageKey) :=
    Function.injective_id.prodMap RuleKind.messageKey_injective
  rw [Report.failureCount_ofFindings, hkeys, List.card_toFinset, List.card_toFinset,
    List.dedup_map_of_injective hinjective, List.length_map]

/-- A report counts no more failures than rules fail, and it counts all of them exactly when no field fails
    two rules of one kind: of rules of one kind that a field fails, one is counted. -/
theorem failures_counted_iff_kinds_differ (v : Validator) (table : FieldRules) (record : Record)
    (report : Report) (h : (v.validate table record).value = .ok report) :
    ∃ rules, RuleSet.compile table = .ok rules ∧
      report.failureCount =
        ((v.failing rules record).map fun r => (r.1, r.2.kind)).toFinset.card ∧
      report.failureCount ≤ (v.failing rules record).length ∧
      (report.failureCount = (v.failing rules record).length ↔
        ((v.failing rules record).map fun r => (r.1, r.2.kind)).Nodup) := by
  unfold validate at h
  cases hc : RuleSet.compile table with
  | error e =>
    rw [hc] at h
    cases h
  | ok rules =>
    rw [hc] at h
    have hcount := failureCount_of_validateCompiled h
    have hlength : (v.failing rules record).length =
        ((v.failing rules record).map fun r => (r.1, r.2.kind)).length := (List.length_map _).symm
    refine ⟨rules, rfl, hcount, ?_, ?_⟩
    · rw [hcount, hlength, List.card_toFinset]
      exact (List.dedup_sublist _).length_le
    · rw [hcount, hlength, List.card_toFinset]
      refine ⟨fun heq => ?_, fun hnodup => by rw [hnodup.dedup]⟩
      exact List.dedup_eq_self.mp ((List.dedup_sublist _).eq_of_length heq)

/-- An empty count fails two rules of two kinds, and both are counted. -/
theorem failures_of_two_kinds_are_counted :
    ∃ report, ((Validator.default ⟨2026, 10, 15, by decide⟩).validate
        (.ofList [("count", ["required", "integer"]), ("size", ["integer"])])
        (.ofList [("count", .text "")])).value = .ok report ∧ report.failureCount = 2 := by
  let v := Validator.default ⟨2026, 10, 15, by decide⟩
  let rules : RuleSet := .ofList [("count", [.required, .integer]), ("size", [.integer])]
  have hrules : RuleSet.compile (.ofList [("count", ["required", "integer"]), ("size", ["integer"])]) =
      .ok rules := Table.traverse_eq_ok_iff.mpr (by decide +kernel)
  obtain ⟨report, h⟩ : ∃ report, (v.validate _ (.ofList [("count", .text "")])).value = .ok report :=
    ⟨_, value_validate v _ hrules (by decide)⟩
  obtain ⟨rules', hrules', -, -, hcount⟩ := failures_counted_iff_kinds_differ v _ _ report h
  obtain rfl : rules = rules' := Except.ok.inj (hrules.symm.trans hrules')
  exact ⟨report, h, (hcount.mpr (by decide +kernel)).trans (by decide +kernel)⟩

/-- Of two rules of one kind that a date fails, one is counted. -/
theorem second_failure_of_a_kind_is_not_counted :
    ∃ rules report, RuleSet.compile
        (.ofList [("when", ["dateBefore:YYYY:now:0:days", "dateBefore:YYYY:2000:1:year"])]) = .ok rules ∧
      ((Validator.default ⟨2026, 10, 15, by decide⟩).validate
        (.ofList [("when", ["dateBefore:YYYY:now:0:days", "dateBefore:YYYY:2000:1:year"])])
        (.ofList [("when", .text "2030")])).value = .ok report ∧
      report.failureCount = 1 ∧
      ((Validator.default ⟨2026, 10, 15, by decide⟩).failing rules
        (.ofList [("when", .text "2030")])).length = 2 := by
  let year : DateFormat := ⟨[.component .year], by decide, by decide, by decide⟩
  let rules : RuleSet := .ofList [("when", [.date .before ⟨year, .now, ⟨0, .days⟩⟩,
    .date .before ⟨year, .literal "2000".toList ⟨some 2000, none, none⟩, ⟨1, .years⟩⟩])]
  have hrules : RuleSet.compile
      (.ofList [("when", ["dateBefore:YYYY:now:0:days", "dateBefore:YYYY:2000:1:year"])]) =
      .ok rules := Table.traverse_eq_ok_iff.mpr (by decide +kernel)
  refine ⟨rules, _, hrules, value_validate _ _ hrules (by decide +kernel), ?_, ?_⟩
  · decide +kernel
  · decide +kernel

end Validator

end Fieldwise
