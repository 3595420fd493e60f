import Fieldwise.Report
import Fieldwise.Proofs.Table

/-!
Reports that are filled failure by failure. In `Report.ofFindings findings` the fields stand in the
order of their first findings, and the messages of a field are those of its findings alone, in the
order in which their keys first come; of several findings with one field and key the last one is
told.
-/

namespace Fieldwise.Report

/-- What is told of a failure: the field, the message key and the message. -/
abbrev Finding := String × String × String

/-- The findings for one field, by message key. -/
def findingsOf (field : String) (findings : List Finding) : List (String × String) :=
  (findings.filter fun e => e.1 = field).map Prod.snd

/-- The report to which findings have been added one after the other. -/
def ofFindings (findings : List Finding) : Report :=
  findings.foldl (fun r e => r.addFailure e.1 e.2.1 e.2.2) .passed

theorem findingsOf_append (field : String) (a b : List Finding) :
    findingsOf field (a ++ b) = findingsOf field a ++ findingsOf field b := by
  simp [findingsOf]

theorem findingsOf_eq_nil_iff {field : String} {findings : List Finding} :
    findingsOf field findings = [] ↔ field ∉ findings.map Prod.fst := by
  simp only [findingsOf, List.map_eq_nil_iff, List.filter_eq_nil_iff, decide_eq_true_eq,
    List.mem_map, not_exists, not_and]

theorem ofFindings_concat (findings : List Finding) (e : Finding) :
    ofFindings (findings ++ [e]) = (ofFindings findings).addFailure e.1 e.2.1 e.2.2 := by
  simp [ofFindings]

/-- A report is a success as long as nothing is added to it. -/
theorem success_ofFindings (findings : List Finding) :
    (ofFindings findings).success = findings.isEmpty := by
  induction findings using List.reverseRecOn with
  | nil => rfl
  | append_singleton findings e _ =>
    rw [ofFindings_concat]
    simp [addFailure]

/-- The fields of a report, in the order of their first findings. -/
theorem keys_messages_ofFindings (findings : List Finding) :
    (ofFindings findings).messages.keys = (findings.map Prod.fst).eraseDups := by
  induction findings using List.reverseRecOn with
  | nil => rfl
  | append_singleton findings e ih =>
    rw [ofFindings_concat, addFailure, Table.keys_insert, ih, List.map_append]
    exact (Table.eraseDups_concat _ _).symm

/-- The messages of a field are those of its own findings; a field without findings has none. -/
theorem getD_messages_ofFindings (findings : List Finding) (field : String) :
    ((ofFindings findings).messages.get? field).getD .empty =
      Table.ofList (findingsOf field findings) := by
  induction findings using List.reverseRecOn with
  | nil => rfl
  | append_singleton findings e ih =>
    rw [ofFindings_concat, addFailure, Table.get?_insert, findingsOf_append]
    split
    · next h =>
      subst h
      rw [Option.getD_some, ih, show findingsOf e.1 [e] = [e.2] by simp [findingsOf],
        Table.ofList_concat]
    · next h =>
      have hne : e.1 ≠ field := fun he => h he.symm
      rw [ih, show findingsOf field [e] = [] by simp [findingsOf, hne], List.append_nil]

/-- The messages of a field that has failed. -/
theorem messages_of_get?_ofFindings {findings : List Finding} {field : String}
    {messages : Table String} (h : (ofFindings findings).messages.get? field = some messages) :
    messages = Table.ofList (findingsOf field findings) := by
  rw [← getD_messages_ofFindings, h, Option.getD_some]

/-- Of all findings for one field under one key, the last one is told. -/
theorem message?_ofFindings (findings : List Finding) (field key : String) :
    (ofFindings findings).message? field key =
      (findings.filter fun e => e.1 = field ∧ e.2.1 = key).getLast?.map fun e => e.2.2 := by
  have hget : (ofFindings findings).message? field key =
      (((ofFindings findings).messages.get? field).getD .empty).get? key := by
    unfold message? field?
    cases (ofFindings findings).messages.get? field <;> rfl
  rw [hget, getD_messages_ofFindings, Table.get?_ofList, findingsOf, List.filter_map,
    List.getLast?_map, Option.map_map, List.filter_filter]
  simp only [Function.comp_def, Bool.decide_and, Bool.and_comm]

theorem isSome_message?_ofFindings {findings : List Finding} {field key : String} :
    ((ofFindings findings).message? field key).isSome ↔ ∃ message, (field, key, message) ∈ findings := by
  rw [message?_ofFindings, Option.isSome_map, List.getLast?_isSome, ← List.isEmpty_eq_false_iff,
    List.isEmpty_eq_false_iff_exists_mem]
  simp

/-- A report is a success as long as it has no message. -/
theorem success_ofFindings_iff {findings : List Finding} : (ofFindings findings).success = true ↔
    ∀ field key, ¬ ((ofFindings findings).message? field key).isSome := by
  simp only [success_ofFindings, isSome_message?_ofFindings, not_exists, List.isEmpty_iff,
    List.eq_nil_iff_forall_not_mem, Prod.forall]

/-- Findings for other fields leave the messages that are there as they are, and theirs follow. -/
theorem entries_messages_ofFindings_append {a b : List Finding}
    (h : ∀ field ∈ a.map Prod.fst, field ∉ b.map Prod.fst) :
    (ofFindings (a ++ b)).messages.entries =
      (ofFindings a).messages.entries ++ (ofFindings b).messages.entries := by
  induction b using List.reverseRecOn with
  | nil => rw [List.append_nil]; exact (List.append_nil _).symm
  | append_singleton b e ih =>
    simp only [List.map_append, List.mem_append, not_or] at h
    have hentries := ih fun field hfield => (h field hfield).1
    have hfresh : e.1 ∉ (ofFindings a).messages.keys := by
      rw [keys_messages_ofFindings, List.mem_eraseDups]
      exact fun ha => (h e.1 ha).2 (by simp)
    rw [← List.append_assoc, ofFindings_concat, ofFindings_concat, addFailure, addFailure,
      Table.get?_of_entries_append hentries hfresh]
    simp only [Table.insert]
    rw [hentries, Table.insertEntry_append hfresh]

/-! ### Findings field by field -/

/-- Findings that come field by field. -/
def grouped (fields : List String) (found : String → List (String × String)) : List Finding :=
  fields.flatMap fun field => (found field).map (Prod.mk field)

variable {fields : List String} {found : String → List (String × String)}

theorem grouped_cons (field : String) (fields : List String)
    (found : String → List (String × String)) :
    grouped (field :: fields) found =
      (found field).map (Prod.mk field) ++ grouped fields found := rfl

theorem fields_grouped_subset {field : String}
    (h : field ∈ (grouped fields found).map Prod.fst) : field ∈ fields := by
  simp only [grouped, List.map_flatMap, List.map_map, List.mem_flatMap, List.mem_map] at h
  obtain ⟨field', hmem, -, -, rfl⟩ := h
  exact hmem

/-- Of findings that come field by field, those for one field are the ones found there. -/
theorem findingsOf_grouped (hn : fields.Nodup) {field : String} (hmem : field ∈ fields) :
    findingsOf field (grouped fields found) = found field := by
  induction fields with
  | nil => cases hmem
  | cons first rest ih =>
    rw [List.nodup_cons] at hn
    rw [grouped_cons, findingsOf_append]
    rcases List.mem_cons.mp hmem with rfl | hrest
    · have hnil : findingsOf field (grouped rest found) = [] :=
        findingsOf_eq_nil_iff.mpr fun h => hn.1 (fields_grouped_subset h)
      rw [hnil, List.append_nil]
      simp [findingsOf, List.filter_map, Function.comp_def]
    · have hne : first ≠ field := fun h => hn.1 (h ▸ hrest)
      rw [ih hn.2 hrest, show findingsOf field ((found first).map (Prod.mk first)) = [] by
        simp [findingsOf, List.filter_map, Function.comp_def, hne]]
      rfl

/-- Of findings that come field by field, the fields are those with something found. -/
theorem fields_grouped (hn : fields.Nodup) :
    ((grouped fields found).map Prod.fst).eraseDups =
      fields.filter fun field => found field ≠ [] := by
  induction fields with
  | nil => rfl
  | cons first rest ih =>
    rw [List.nodup_cons] at hn
    cases hf : found first with
    | nil =>
      rw [grouped_cons, hf, List.filter_cons_of_neg (by simp [hf])]
      exact ih hn.2
    | cons e es =>
      -- The field comes once for each of its findings, and nowhere among those of other fields.
      have hown : (((es.map (Prod.mk first)).map Prod.fst).filter fun f => !f == first) = [] := by
        rw [List.map_map, List.filter_eq_nil_iff]
        intro f hf
        obtain ⟨-, -, rfl⟩ := List.mem_map.mp hf
        simp
      have hrest : (((grouped rest found).map Prod.fst).filter fun f => !f == first) =
          (grouped rest found).map Prod.fst :=
        List.filter_eq_self.mpr fun f hf => by
          have hne : f ≠ first := fun h => hn.1 (h ▸ fields_grouped_subset hf)
          simpa using hne
      rw [grouped_cons, hf, List.map_cons, List.cons_append, List.map_cons, List.map_append,
        List.eraseDups_cons, List.filter_append, hown, hrest, List.nil_append, ih hn.2,
        List.filter_cons_of_pos (by simp [hf])]

end Fieldwise.Report
