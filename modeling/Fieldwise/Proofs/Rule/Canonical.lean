import Fieldwise.Proofs.Rule.Grammar
import Fieldwise.Proofs.Table
import Mathlib.Data.List.Forall2

/-!
The canonical form of rules. The canonical text of a rule that has been read writes the same rule and
has no blanks at its ends, so it is read as the rule again; a table of canonical texts gives the
rule set again from which it was made.
-/

namespace Fieldwise

/-! ### Ends of texts -/

theorem HasNoBlankEnd.of_append {first middle last : List Char} (hfirst : first ≠ [])
    (hlast : last ≠ []) (hf : ∀ c ∈ first, isBlank c = false) (hl : ∀ c ∈ last, isBlank c = false) :
    HasNoBlankEnd (first ++ middle ++ last) where
  head c hc := by
    rw [List.append_assoc, List.head?_append_of_ne_nil _ hfirst] at hc
    exact hf c (List.mem_of_mem_head? hc)
  last c hc := by
    rw [List.getLast?_append_of_ne_nil _ hlast] at hc
    exact hl c (List.mem_of_getLast? hc)

theorem RuleKind.isBlank_name (k : RuleKind) : ∀ c ∈ k.name.toList, isBlank c = false := by
  have hall : (k.name.toList.all fun c => !isBlank c) = true := by cases k <;> decide +kernel
  simpa using hall

theorem RuleKind.name_ne_nil (k : RuleKind) : k.name.toList ≠ [] := by cases k <;> decide +kernel

theorem RuleKind.hasNoBlankEnd_name (k : RuleKind) : HasNoBlankEnd k.name.toList where
  head c hc := k.isBlank_name c (List.mem_of_mem_head? hc)
  last c hc := k.isBlank_name c (List.mem_of_getLast? hc)

theorem OffsetUnit.isBlank_name (u : OffsetUnit) : ∀ c ∈ u.name.toList, isBlank c = false := by
  have hall : (u.name.toList.all fun c => !isBlank c) = true := by cases u <;> decide +kernel
  simpa using hall

theorem OffsetUnit.name_ne_nil (u : OffsetUnit) : u.name.toList ≠ [] := by
  cases u <;> decide +kernel

/-! ### Texts without a colon -/

theorem Numeral.colon_not_mem_integer (n : Int) : ':' ∉ Numeral.integer n := by
  have hdigits : ':' ∉ Numeral.natural n.natAbs := fun h =>
    absurd (Numeral.isDigit_of_mem_natural h) (by decide)
  unfold Numeral.integer
  split
  · exact List.not_mem_cons_of_ne_of_not_mem (by decide) hdigits
  · exact hdigits

theorem OffsetUnit.colon_not_mem_name (u : OffsetUnit) : ':' ∉ u.name.toList := by
  cases u <;> decide +kernel

theorem OffsetUnit.name_mem_spellings (u : OffsetUnit) : u.name ∈ u.spellings :=
  ofName?_eq_some_iff.mp (ofName?_name u)

/-! ### Rules -/

/-- The canonical amount and unit write the comparison as well as any others. -/
theorem DateComparison.IsWritten.canonical {pattern anchor amount unit : List Char}
    {c : DateComparison} (h : IsWritten pattern anchor amount unit c) :
    IsWritten pattern anchor (Numeral.integer c.offset.amount) c.offset.unit.name.toList c where
  pattern := h.pattern
  anchor := h.anchor
  amount := Numeral.isInteger_integer _
  fitsInt32 := h.fitsInt32
  unit := by
    rw [String.ofList_toList]
    exact OffsetUnit.name_mem_spellings _
  holds := h.holds

namespace RuleSpec

theorem toList_text_date (direction : Direction) (c : DateComparison) :
    (date direction c).text.toList = [':'].intercalate [direction.kind.name.toList,
      c.format.pattern, c.anchor.text, Numeral.integer c.offset.amount,
      c.offset.unit.name.toList] := by
  simp [text, DateComparison.text, List.intercalate_cons_cons]

/-- The canonical text of a rule that is written somehow writes the rule. -/
theorem IsWritten.canonical {text : List Char} {spec : RuleSpec} (h : IsWritten text spec) :
    IsWritten spec.text.toList spec := by
  cases h with
  | required => exact .required
  | integer => exact .integer
  | date cut comparison =>
    rename_i pattern anchor amount unit direction c
    have hcut : IsCut [direction.kind.name.toList, pattern, anchor,
        Numeral.integer c.offset.amount, c.offset.unit.name.toList]
        (RuleSpec.date direction c).text.toList := by
      obtain ⟨-, hcolon, -⟩ := cut
      simp only [List.forall_mem_cons] at hcolon
      obtain ⟨hname, hpattern, hanchor, -⟩ := hcolon
      refine ⟨List.cons_ne_nil _ _, ?_, ?_⟩
      · simp only [List.forall_mem_cons]
        exact ⟨hname, hpattern, hanchor, Numeral.colon_not_mem_integer _,
          OffsetUnit.colon_not_mem_name _, List.forall_mem_nil _⟩
      · rw [toList_text_date, DateFormat.pattern_of_ofPattern comparison.pattern,
          Anchor.text_of_isWritten comparison.anchor]
    exact .date hcut comparison.canonical

theorem hasNoBlankEnd_text (spec : RuleSpec) : HasNoBlankEnd spec.text.toList := by
  cases spec with
  | required => exact RuleKind.required.hasNoBlankEnd_name
  | integer => exact RuleKind.integer.hasNoBlankEnd_name
  | date direction c =>
    have hends : ∀ a b c d e : List Char, [':'].intercalate [a, b, c, d, e] =
        a ++ (':' :: b ++ ':' :: c ++ ':' :: d ++ [':']) ++ e := by simp
    rw [toList_text_date, hends]
    exact .of_append direction.kind.name_ne_nil c.offset.unit.name_ne_nil
      direction.kind.isBlank_name c.offset.unit.isBlank_name

/-- A rule is read again from its canonical text. -/
theorem parse_text {s : String} {spec : RuleSpec} (h : parse s = .ok spec) :
    parse spec.text = .ok spec := by
  have hw : IsWritten (trimBlank s.toList) spec := parseTrimmed_eq_ok_iff.mp h
  rw [parse, trimBlank_of_hasNoBlankEnd (hasNoBlankEnd_text spec)]
  exact parseTrimmed_of_isWritten hw.canonical

/-- Rules that have been read differ in their canonical texts. -/
theorem text_injOn {s s' : String} {spec spec' : RuleSpec} (h : parse s = .ok spec)
    (h' : parse s' = .ok spec') (heq : spec.text = spec'.text) : spec = spec' := by
  have hparse := parse_text h
  rw [heq, parse_text h'] at hparse
  cases hparse
  rfl

end RuleSpec

/-! ### Tables of rules -/

theorem forall_of_forall₂ {α β : Type} {R : α → β → Prop} {P : β → Prop} {xs : List α}
    {ys : List β} (h : List.Forall₂ R xs ys) (hp : ∀ x y, R x y → P y) : ∀ y ∈ ys, P y := by
  induction h with
  | nil => exact List.forall_mem_nil _
  | cons hr _ ih => exact List.forall_mem_cons.mpr ⟨hp _ _ hr, ih⟩

theorem map_eq_of_forall₂ {α β γ : Type} {R : α → β → Prop} {f : α → γ} {g : β → γ} {xs : List α}
    {ys : List β} (h : List.Forall₂ R xs ys) (hfg : ∀ x y, R x y → f x = g y) :
    xs.map f = ys.map g := by
  induction h with
  | nil => rfl
  | cons hr _ ih => rw [List.map_cons, List.map_cons, hfg _ _ hr, ih]

theorem filterMap_eq_of_forall₂ {α β γ : Type} {R : α → β → Prop} {f : α → Option γ}
    {g : β → Option γ} {xs : List α} {ys : List β} (h : List.Forall₂ R xs ys)
    (hfg : ∀ x y, R x y → f x = g y) : xs.filterMap f = ys.filterMap g := by
  have hmap := congrArg (List.filterMap id) (map_eq_of_forall₂ h hfg)
  rwa [List.filterMap_map, List.filterMap_map] at hmap

theorem Table.traverseEntries_eq_ok_iff {α β ε : Type} {f : String → α → Except ε β}
    {entries : List (String × α)} {result : List (String × β)} :
    traverseEntries f entries = .ok result ↔
      List.Forall₂ (fun e r => r.1 = e.1 ∧ f e.1 e.2 = .ok r.2) entries result := by
  induction entries generalizing result with
  | nil => cases result <;> simp [traverseEntries]
  | cons e rest ih =>
    obtain ⟨key, value⟩ := e
    rw [List.forall₂_cons_left_iff]
    constructor
    · intro h
      simp only [traverseEntries] at h
      split at h
      · cases h
      · next value' hv =>
        split at h
        · cases h
        · next rest' hr =>
          cases h
          exact ⟨(key, value'), rest', ⟨rfl, hv⟩, ih.mp hr, rfl⟩
    · rintro ⟨⟨key', value'⟩, rest', ⟨rfl, hv⟩, hr, rfl⟩
      simp only [traverseEntries, hv, ih.mpr hr]

namespace RuleSet

theorem parseField_eq_ok_iff {field : String} {texts : List String} {specs : List RuleSpec} :
    parseField field texts = .ok specs ↔
      List.Forall₂ (fun text spec => RuleSpec.parse text = .ok spec) texts specs := by
  induction texts generalizing specs with
  | nil => cases specs <;> simp [parseField]
  | cons text rest ih =>
    rw [List.forall₂_cons_left_iff]
    constructor
    · intro h
      simp only [parseField] at h
      split at h
      · cases h
      · next spec hspec =>
        split at h
        · cases h
        · next specs' hr =>
          cases h
          exact ⟨spec, specs', hspec, ih.mp hr, rfl⟩
    · rintro ⟨spec, specs', hspec, hr, rfl⟩
      simp only [parseField, hspec, ih.mpr hr]

/-- The rules of a field are read again from their canonical texts. -/
theorem parseField_map_text {field : String} {texts : List String} {specs : List RuleSpec}
    (h : parseField field texts = .ok specs) :
    parseField field (specs.map RuleSpec.text) = .ok specs := by
  rw [parseField_eq_ok_iff, List.forall₂_map_left_iff, List.forall₂_same]
  exact forall_of_forall₂ (parseField_eq_ok_iff.mp h) fun _ _ => RuleSpec.parse_text

theorem map_fst_texts (rules : RuleSet) : rules.texts.map Prod.fst = rules.keys := by
  rw [texts, List.map_map]
  rfl

/-- The table of the canonical texts of the rules. -/
def canonical (rules : RuleSet) : FieldRules :=
  ⟨rules.texts, map_fst_texts rules ▸ rules.nodup⟩

theorem keys_canonical (rules : RuleSet) : rules.canonical.keys = rules.keys :=
  map_fst_texts rules

/-- A rule set is compiled again from its canonical texts. -/
theorem compile_canonical {table : FieldRules} {rules : RuleSet}
    (h : compile table = .ok rules) : compile rules.canonical = .ok rules := by
  have hentries := Table.traverseEntries_eq_ok_iff.mp (Table.traverse_eq_ok_iff.mp h)
  refine Table.traverse_eq_ok_iff.mpr (Table.traverseEntries_eq_ok_iff.mpr ?_)
  rw [show rules.canonical.entries = rules.entries.map _ from rfl, List.forall₂_map_left_iff,
    List.forall₂_same]
  refine forall_of_forall₂ hentries fun e r hr => ⟨rfl, ?_⟩
  rw [← hr.1] at hr
  exact parseField_map_text hr.2

end RuleSet

/-- The canonical form is a form of its own rule: the canonical text of a rule that has been read is
    read as the rule, tells it from all other rules that have been read, and a table of canonical
    texts compiles to the rule set that they are taken from, field by field. -/
theorem canonical_text_round_trip :
    (∀ s spec, RuleSpec.parse s = .ok spec → RuleSpec.parse spec.text = .ok spec) ∧
    (∀ s s' spec spec', RuleSpec.parse s = .ok spec → RuleSpec.parse s' = .ok spec' →
      spec.text = spec'.text → spec = spec') ∧
    (∀ table rules, RuleSet.compile table = .ok rules →
      RuleSet.compile rules.canonical = .ok rules ∧ rules.keys = table.keys ∧
        rules.canonical.keys = table.keys) :=
  ⟨fun _ _ => RuleSpec.parse_text, fun _ _ _ _ => RuleSpec.text_injOn, fun _ rules h =>
    ⟨RuleSet.compile_canonical h, Table.keys_of_traverse h,
      rules.keys_canonical.trans (Table.keys_of_traverse h)⟩⟩

/-- A pattern and an anchor with blanks at their ends, an amount with zeros in front and a unit in the
    singular: blanks that belong to the format stay, all else becomes canonical. -/
theorem canonical_text_of_blanks_and_aliases :
    ∃ spec rules, RuleSpec.parse "\t dateAfter: DD.MM. : 29.02. :-007:month " = .ok spec ∧
      spec.text = "dateAfter: DD.MM. : 29.02. :-7:months" ∧
      RuleSpec.parse "dateAfter: DD.MM. : 29.02. :-7:months" = .ok spec ∧
      RuleSet.compile (.ofList [("b", ["dateAfter: DD.MM. : 29.02. :-7:month"]),
        ("a", ["required", " integer"])]) = .ok rules ∧
      RuleSet.compile rules.canonical = .ok rules ∧ rules.canonical.keys = ["b", "a"] := by
  let format : DateFormat := ⟨[.literal [' '], .component .day, .literal ['.'], .component .month,
    .literal ['.', ' ']], by decide, by decide, by decide⟩
  let spec : RuleSpec :=
    .date .after ⟨format, .literal " 29.02. ".toList ⟨none, some 2, some 29⟩, ⟨-7, .months⟩⟩
  let rules : RuleSet := .ofList [("b", [spec]), ("a", [.required, .integer])]
  have hspec : RuleSpec.parse "\t dateAfter: DD.MM. : 29.02. :-007:month " = .ok spec := by
    decide +kernel
  have htext : spec.text = "dateAfter: DD.MM. : 29.02. :-7:months" := by decide +kernel
  have hcompile : RuleSet.compile (.ofList [("b", ["dateAfter: DD.MM. : 29.02. :-7:month"]),
      ("a", ["required", " integer"])]) = .ok rules :=
    Table.traverse_eq_ok_iff.mpr (by decide +kernel)
  have hparse := canonical_text_round_trip.1 _ _ hspec
  obtain ⟨hcanonical, -, hkeys⟩ := canonical_text_round_trip.2.2 _ _ hcompile
  rw [htext] at hparse
  exact ⟨spec, rules, hspec, htext, hparse, hcompile, hcanonical, hkeys⟩

end Fieldwise
