import Fieldwise.Proofs.Rule.Canonical

/-!
Faults of a table of rules. `FieldRules.IsFault` says which error a table gives when a year stands in
for the years that are not written: that of the first rule that cannot be read, wherever it stands, or
else that of the first rule whose anchor is no day of the calendar. To compile the table and then to
check the anchors finds exactly this error, and none when there is no such rule.
-/

namespace Fieldwise

/-! ### Errors -/

/-- The error, if there is one. -/
def errorOf? {ε α : Type} : Except ε α → Option ε
  | .error e => some e
  | .ok _ => none

section ErrorOf
variable {ε α β : Type} {x : Except ε α}

theorem errorOf?_eq_some_iff {e : ε} : errorOf? x = some e ↔ x = .error e := by
  cases x <;> simp [errorOf?]

theorem errorOf?_eq_none_iff : errorOf? x = none ↔ ∃ a, x = .ok a := by
  cases x <;> simp [errorOf?]

theorem errorOf?_map (f : α → β) (x : Except ε α) : errorOf? (x.map f) = errorOf? x := by
  cases x <;> rfl

/-- A check gives nothing but its error. -/
theorem errorOf?_injective {x y : Except ε Unit} (h : errorOf? x = errorOf? y) : x = y := by
  cases x <;> cases y <;> simp_all [errorOf?]

theorem Table.errorOf?_traverse (f : String → α → Except ε β) (t : Table α) :
    errorOf? (t.traverse f) = t.entries.findSome? fun e => errorOf? (f e.1 e.2) := by
  have htraverse : errorOf? (t.traverse f) = errorOf? (traverseEntries f t.entries) := by
    unfold traverse
    split
    · next e h => simp [errorOf?, h]
    · next result h => simp [errorOf?, h]
  rw [htraverse]
  induction t.entries with
  | nil => rfl
  | cons e rest ih =>
    obtain ⟨key, value⟩ := e
    rw [List.findSome?_cons, ← ih, traverseEntries]
    cases hvalue : f key value with
    | error e => rfl
    | ok value' => cases traverseEntries f rest <;> rfl

end ErrorOf

namespace RuleSet

/-! ### Rules that cannot be read -/

/-- What is wrong with the rule text of a field, if it cannot be read. -/
def malformed? (r : String × String) : Option FieldError :=
  (errorOf? (RuleSpec.parse r.2)).map (FieldError.mk r.1)

theorem malformed?_eq_none_iff {r : String × String} :
    malformed? r = none ↔ ∃ spec, RuleSpec.parse r.2 = .ok spec := by
  rw [malformed?, Option.map_eq_none_iff, errorOf?_eq_none_iff]

theorem malformed?_eq_some_iff {r : String × String} {e : FieldError} :
    malformed? r = some e ↔ ∃ cause, RuleSpec.parse r.2 = .error cause ∧ ⟨r.1, cause⟩ = e := by
  simp only [malformed?, Option.map_eq_some_iff, errorOf?_eq_some_iff]

theorem errorOf?_parseField (field : String) (texts : List String) :
    errorOf? (parseField field texts) = texts.findSome? fun text => malformed? (field, text) := by
  induction texts with
  | nil => rfl
  | cons text rest ih =>
    rw [List.findSome?_cons, ← ih, parseField, malformed?]
    cases RuleSpec.parse text with
    | error cause => rfl
    | ok spec => cases parseField field rest <;> rfl

/-- Compiling stops at the first rule that cannot be read. -/
theorem errorOf?_compile (table : FieldRules) :
    errorOf? (compile table) = table.members.findSome? malformed? := by
  rw [compile, Table.errorOf?_traverse, Table.findSome?_members]
  simp only [errorOf?_parseField]

/-- A table that compiles gives the rules that its texts write, member by member. -/
theorem forall₂_members {table : FieldRules} {rules : RuleSet} (h : compile table = .ok rules) :
    List.Forall₂ (fun r s => s.1 = r.1 ∧ RuleSpec.parse r.2 = .ok s.2) table.members
      rules.members := by
  have hentries := Table.traverseEntries_eq_ok_iff.mp (Table.traverse_eq_ok_iff.mp h)
  refine List.rel_flatMap hentries fun e r hr => ?_
  rw [List.forall₂_map_left_iff, List.forall₂_map_right_iff]
  exact (parseField_eq_ok_iff.mp hr.2).imp fun text spec hspec => ⟨hr.1, hspec⟩

theorem exists_text_of_mem_members {table : FieldRules} {rules : RuleSet}
    (h : compile table = .ok rules) :
    ∀ r ∈ rules.members, ∃ t ∈ table.members, RuleSpec.parse t.2 = .ok r.2 :=
  forall_of_forall₂ ((List.forall₂_and_left _ _).mpr
    ⟨fun t (ht : t ∈ table.members) => ht, forall₂_members h⟩)
    fun t _ hts => ⟨t, hts.1, hts.2.2⟩

/-! ### Anchors that are no dates -/

/-- What is wrong with the rule of a field in a year, if its anchor is no day of the calendar. -/
def anchorFault? (year : Int) (r : String × RuleSpec) : Option FieldError :=
  (errorOf? (r.2.checkAnchor year)).map (FieldError.mk r.1)

theorem errorOf?_checkField (year : Int) (field : String) (specs : List RuleSpec) :
    errorOf? (checkField year field specs) =
      specs.findSome? fun spec => anchorFault? year (field, spec) := by
  induction specs with
  | nil => rfl
  | cons spec rest ih =>
    rw [List.findSome?_cons, ← ih, checkField, anchorFault?]
    cases spec.checkAnchor year <;> rfl

/-- The check of a year stops at the first rule whose anchor is no day of the calendar. -/
theorem errorOf?_checkReferenceYear (rules : RuleSet) (year : Int) :
    errorOf? (rules.checkReferenceYear year) = rules.members.findSome? (anchorFault? year) := by
  rw [checkReferenceYear, Table.findSome?_members]
  induction rules.entries with
  | nil => rfl
  | cons e rest ih =>
    obtain ⟨field, specs⟩ := e
    rw [List.findSome?_cons, ← ih, checkFields, ← errorOf?_checkField]
    cases checkField year field specs <;> rfl

theorem checkReferenceYear_congr {rules : RuleSet} {year year' : Int}
    (h : ∀ r ∈ rules.members, r.2.checkAnchor year = r.2.checkAnchor year') :
    rules.checkReferenceYear year = rules.checkReferenceYear year' := by
  refine errorOf?_injective ?_
  rw [errorOf?_checkReferenceYear, errorOf?_checkReferenceYear, ← List.head?_filterMap,
    ← List.head?_filterMap]
  refine congrArg _ (List.filterMap_congr fun r hr => ?_)
  rw [anchorFault?, anchorFault?, h r hr]

/-- What is wrong with the rule text of a field in a year, if it is read as a rule whose anchor is no
    day of the calendar. -/
def textAnchorFault? (year : Int) (r : String × String) : Option FieldError :=
  match RuleSpec.parse r.2 with
  | .ok spec => anchorFault? year (r.1, spec)
  | .error _ => none

theorem findSome?_textAnchorFault? {table : FieldRules} {rules : RuleSet}
    (h : compile table = .ok rules) (year : Int) :
    table.members.findSome? (textAnchorFault? year) =
      rules.members.findSome? (anchorFault? year) := by
  rw [← List.head?_filterMap, ← List.head?_filterMap]
  refine congrArg _ (filterMap_eq_of_forall₂ (forall₂_members h) fun r s hrs => ?_)
  rw [textAnchorFault?, hrs.2, ← hrs.1]

theorem anchorFault?_eq_some_iff {year : Int} {r : String × RuleSpec} {e : FieldError} :
    anchorFault? year r = some e ↔ ∃ direction c, r.2 = .date direction c ∧
      ¬ c.anchor.HoldsIn year ∧ ⟨r.1, c.anchorError⟩ = e := by
  obtain ⟨field, spec⟩ := r
  cases spec with
  | required => simp [anchorFault?, RuleSpec.checkAnchor, errorOf?]
  | integer => simp [anchorFault?, RuleSpec.checkAnchor, errorOf?]
  | date direction c =>
    rw [anchorFault?, RuleSpec.checkAnchor, DateComparison.checkAnchor_eq]
    split <;> simp_all [errorOf?]

theorem anchorFault?_eq_none_iff {year : Int} {r : String × RuleSpec} :
    anchorFault? year r = none ↔ r.2.AnchorHolds year := by
  rw [anchorFault?, Option.map_eq_none_iff, errorOf?_eq_none_iff,
    ← RuleSpec.checkAnchor_eq_ok_iff]
  exact ⟨fun ⟨_, h⟩ => h, fun h => ⟨(), h⟩⟩

theorem textAnchorFault?_eq_none_iff {year : Int} {r : String × String} :
    textAnchorFault? year r = none ↔
      ∀ spec, RuleSpec.parse r.2 = .ok spec → spec.AnchorHolds year := by
  unfold textAnchorFault?
  cases RuleSpec.parse r.2 with
  | error cause => simp
  | ok spec => simp [anchorFault?_eq_none_iff]

theorem textAnchorFault?_eq_some_iff {year : Int} {r : String × String} {e : FieldError} :
    textAnchorFault? year r = some e ↔ ∃ direction c,
      RuleSpec.parse r.2 = .ok (.date direction c) ∧ ¬ c.anchor.HoldsIn year ∧
        ⟨r.1, c.anchorError⟩ = e := by
  unfold textAnchorFault?
  cases RuleSpec.parse r.2 with
  | error cause => simp
  | ok spec => simp [anchorFault?_eq_some_iff]

/-! ### Both together -/

/-- The rules of a table when all of them can be read and all anchors hold in a year. -/
def compileFor (table : FieldRules) (year : Int) : Except FieldError RuleSet :=
  match compile table with
  | .error e => .error e
  | .ok rules =>
    match rules.checkReferenceYear year with
    | .error e => .error e
    | .ok () => .ok rules

/-- All rules are read before any anchor is looked at. -/
theorem errorOf?_compileFor (table : FieldRules) (year : Int) :
    errorOf? (compileFor table year) =
      (table.members.findSome? malformed?).or
        (table.members.findSome? (textAnchorFault? year)) := by
  rw [← errorOf?_compile, compileFor]
  cases hc : compile table with
  | error e => rfl
  | ok rules =>
    -- Once all texts are read, to look at the rules is to look at the texts.
    rw [findSome?_textAnchorFault? hc, ← errorOf?_checkReferenceYear]
    cases hy : rules.checkReferenceYear year <;> simp [errorOf?, hy]

end RuleSet

namespace FieldRules

/-- What is wrong with a table of rules when `year` stands in for years that are not written. A rule
    that cannot be read counts before every anchor that fails, wherever the two stand; of faults of
    one sort the first one counts. -/
inductive IsFault (table : FieldRules) (year : Int) : FieldError → Prop where
  | malformed {before after : List (String × String)} {field text : String} {cause : RuleError}
      (place : table.members = before ++ (field, text) :: after)
      (earlier : ∀ r ∈ before, ∃ spec, RuleSpec.parse r.2 = .ok spec)
      (fault : RuleSpec.parse text = .error cause) : IsFault table year ⟨field, cause⟩
  | anchor {before after : List (String × String)} {field text : String} {direction : Direction}
      {c : DateComparison} (place : table.members = before ++ (field, text) :: after)
      (wellFormed : ∀ r ∈ table.members, ∃ spec, RuleSpec.parse r.2 = .ok spec)
      (earlier : ∀ r ∈ before, ∀ spec, RuleSpec.parse r.2 = .ok spec → spec.AnchorHolds year)
      (rule : RuleSpec.parse text = .ok (.date direction c)) (fails : ¬ c.anchor.HoldsIn year) :
      IsFault table year
        ⟨field, .invalidAnchor (String.ofList c.anchor.text) (String.ofList c.format.pattern)⟩

variable {table : FieldRules} {year : Int} {e : FieldError}

/-- Reading and checking the rules finds the fault of the table. -/
theorem compileFor_eq_error_iff :
    RuleSet.compileFor table year = .error e ↔ IsFault table year e := by
  rw [← errorOf?_eq_some_iff, RuleSet.errorOf?_compileFor, Option.or_eq_some_iff]
  constructor
  · rintro (h | ⟨hread, h⟩)
    · obtain ⟨before, ⟨field, text⟩, after, place, hfault, hearlier⟩ :=
        List.findSome?_eq_some_iff.mp h
      obtain ⟨cause, hcause, rfl⟩ := RuleSet.malformed?_eq_some_iff.mp hfault
      exact .malformed place (fun r hr => RuleSet.malformed?_eq_none_iff.mp (hearlier r hr)) hcause
    · obtain ⟨before, ⟨field, text⟩, after, place, hfault, hearlier⟩ :=
        List.findSome?_eq_some_iff.mp h
      obtain ⟨direction, c, hrule, hfails, rfl⟩ := RuleSet.textAnchorFault?_eq_some_iff.mp hfault
      rw [List.findSome?_eq_none_iff] at hread
      exact .anchor place (fun r hr => RuleSet.malformed?_eq_none_iff.mp (hread r hr))
        (fun r hr => RuleSet.textAnchorFault?_eq_none_iff.mp (hearlier r hr)) hrule hfails
  · intro h
    cases h with
    | malformed place earlier fault =>
      refine Or.inl (List.findSome?_eq_some_iff.mpr ⟨_, _, _, place, ?_, fun r hr => ?_⟩)
      · exact RuleSet.malformed?_eq_some_iff.mpr ⟨_, fault, rfl⟩
      · exact RuleSet.malformed?_eq_none_iff.mpr (earlier r hr)
    | anchor place wellFormed earlier rule fails =>
      refine Or.inr ⟨List.findSome?_eq_none_iff.mpr fun r hr => ?_,
        List.findSome?_eq_some_iff.mpr ⟨_, _, _, place, ?_, fun r hr => ?_⟩⟩
      · exact RuleSet.malformed?_eq_none_iff.mpr (wellFormed r hr)
      · exact RuleSet.textAnchorFault?_eq_some_iff.mpr ⟨_, _, rule, fails, rfl⟩
      · exact RuleSet.textAnchorFault?_eq_none_iff.mpr (earlier r hr)

/-- A table is at fault if a rule cannot be read, or all can be and an anchor is no day of the
    calendar. -/
theorem exists_isFault_iff : (∃ e, IsFault table year e) ↔
    (∃ r ∈ table.members, ∃ cause, RuleSpec.parse r.2 = .error cause) ∨
      (∀ r ∈ table.members, ∃ spec, RuleSpec.parse r.2 = .ok spec) ∧
        ∃ r ∈ table.members, ∃ direction c, RuleSpec.parse r.2 = .ok (.date direction c) ∧
          ¬ c.anchor.HoldsIn year := by
  have hfirst : ∀ f : String × String → Option FieldError,
      (∃ e, table.members.findSome? f = some e) ↔ ∃ r ∈ table.members, ∃ e, f r = some e := by
    intro f
    simp only [← Option.isSome_iff_exists, List.findSome?_isSome_iff]
  have hmalformed : ∀ r, (∃ e, RuleSet.malformed? r = some e) ↔
      ∃ cause, RuleSpec.parse r.2 = .error cause := by
    simp [RuleSet.malformed?_eq_some_iff]
  have hanchor : ∀ r, (∃ e, RuleSet.textAnchorFault? year r = some e) ↔
      ∃ direction c, RuleSpec.parse r.2 = .ok (.date direction c) ∧ ¬ c.anchor.HoldsIn year := by
    intro r
    simp only [RuleSet.textAnchorFault?_eq_some_iff]
    exact ⟨fun ⟨_, direction, c, h, hfails, _⟩ => ⟨direction, c, h, hfails⟩,
      fun ⟨direction, c, h, hfails⟩ => ⟨_, direction, c, h, hfails, rfl⟩⟩
  have hread : table.members.findSome? RuleSet.malformed? = none ↔
      ∀ r ∈ table.members, ∃ spec, RuleSpec.parse r.2 = .ok spec := by
    simp only [List.findSome?_eq_none_iff, RuleSet.malformed?_eq_none_iff]
  simp only [← compileFor_eq_error_iff, ← errorOf?_eq_some_iff, RuleSet.errorOf?_compileFor,
    Option.or_eq_some_iff, exists_or, exists_and_left, hfirst, hmalformed, hanchor, hread]

end FieldRules

end Fieldwise
