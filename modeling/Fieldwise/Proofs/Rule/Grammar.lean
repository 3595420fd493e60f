import Fieldwise.Proofs.DateFormat.RoundTrip
import Fieldwise.Proofs.Rule.Anchor
import Fieldwise.Proofs.Text.Blank

/-!
The grammar of rules. `RuleSpec.IsWritten` says which texts write a rule, and `RuleSpec.IsFaulty` says
of every other text which fault it is refused for: the first one in the order name, number of
parameters, format, form of the anchor, amount, unit, anchor as a date. A text without blanks at its
ends is always one of the two, and `RuleSpec.parse` tells which.
-/

namespace Fieldwise

/-! ### Cutting at colons -/

/-- The parts have no colon, and stand in the text with colons between them. -/
def IsCut (parts : List (List Char)) (text : List Char) : Prop :=
  parts ≠ [] ∧ (∀ part ∈ parts, ':' ∉ part) ∧ [':'].intercalate parts = text

theorem not_mem_of_mem_splitOn {text part : List Char} (h : part ∈ text.splitOn ':') :
    ':' ∉ part := by
  induction text generalizing part with
  | nil =>
    rw [List.splitOn_nil, List.mem_singleton] at h
    rw [h]
    exact List.not_mem_nil
  | cons c rest ih =>
    rw [List.splitOn_cons_eq_if_modifyHead] at h
    split at h
    · rcases List.mem_cons.mp h with rfl | h
      · exact List.not_mem_nil
      · exact ih h
    · next hc =>
      cases hs : rest.splitOn ':' with
      | nil => exact absurd hs (List.splitOn_ne_nil _ _)
      | cons first others =>
        rw [hs] at h ih
        rcases List.mem_cons.mp h with rfl | h
        · rw [List.mem_cons, not_or]
          exact ⟨fun heq => hc (beq_iff_eq.mpr heq.symm), ih List.mem_cons_self⟩
        · exact ih (List.mem_cons_of_mem _ h)

/-- A text has exactly one cut. -/
theorem isCut_iff {parts : List (List Char)} {text : List Char} :
    IsCut parts text ↔ text.splitOn ':' = parts := by
  constructor
  · rintro ⟨hne, hcolon, rfl⟩
    exact List.splitOn_intercalate ':' hcolon hne
  · rintro rfl
    exact ⟨List.splitOn_ne_nil _ _, fun _ => not_mem_of_mem_splitOn, List.intercalate_splitOn ':'⟩

theorem IsCut.eq_of_singleton {part text : List Char} (h : IsCut [part] text) : part = text := by
  rw [← h.2.2, List.intercalate_singleton]

theorem exists_isCut (text : List Char) : ∃ first others, IsCut (first :: others) text := by
  cases h : text.splitOn ':' with
  | nil => exact absurd h (List.splitOn_ne_nil _ _)
  | cons first others => exact ⟨first, others, isCut_iff.mpr h⟩

/-! ### Words -/

/-- The words for a unit. -/
def OffsetUnit.spellings : OffsetUnit → List String
  | days => ["day", "days"]
  | months => ["month", "months"]
  | years => ["year", "years"]

theorem OffsetUnit.ofName?_eq_some_iff {word : String} {u : OffsetUnit} :
    ofName? word = some u ↔ word ∈ u.spellings := by
  constructor
  · intro h
    unfold ofName? at h
    split at h
    · next hw => cases h; simpa [spellings, or_comm] using hw
    · split at h
      · next hw => cases h; simpa [spellings, or_comm] using hw
      · split at h
        · next hw => cases h; simpa [spellings, or_comm] using hw
        · cases h
  · intro h
    cases u <;> simp only [spellings, List.mem_cons, List.not_mem_nil, or_false] at h <;>
      rcases h with rfl | rfl <;> rfl

theorem RuleKind.ofName?_eq_some_iff {name : String} {k : RuleKind} :
    ofName? name = some k ↔ k.name = name := by
  constructor
  · intro h
    have hk := List.find?_some h
    exact of_decide_eq_true hk
  · rintro rfl
    exact ofName?_name k

theorem RuleKind.ofName?_eq_none {name : String} (h : ∀ k : RuleKind, k.name ≠ name) :
    ofName? name = none := by
  cases hk : ofName? name with
  | none => rfl
  | some k => exact absurd (ofName?_eq_some_iff.mp hk) (h k)

theorem RuleKind.read_eq_error {name : String} (h : ∀ k : RuleKind, k.name ≠ name) :
    read name = .error (.unknownRule name (suggestion? name (all.map RuleKind.name))) := by
  rw [read, ofName?_eq_none h]

/-! ### Anchors -/

namespace Anchor

/-- The text writes the anchor in a format: it is the word for the current date, or what the format
    writes for components of its own. -/
inductive IsWritten (f : DateFormat) : List Char → Anchor → Prop where
  | now : IsWritten f nowWord .now
  | literal {p : PartialDate} (fits : f.Fits p) :
      IsWritten f (f.writeComponents p) (.literal (f.writeComponents p) p)

/-- A written date has a digit, and the word for the current date has none. -/
theorem writeComponents_ne_nowWord {f : DateFormat} {p : PartialDate} (h : f.Fits p) :
    f.writeComponents p ≠ nowWord := by
  intro heq
  obtain ⟨c, hc, hdigit⟩ := DateFormat.exists_isDigit_writeComponents h
  rw [heq] at hc
  have hnone : nowWord.any Char.isDigit = false := by decide
  exact absurd hdigit (List.any_eq_false.mp hnone c hc)

theorem read_eq_ok_iff {f : DateFormat} {text : List Char} {a : Anchor} :
    read f text = .ok a ↔ IsWritten f text a := by
  constructor
  · intro h
    unfold read at h
    split at h
    · next heq =>
      cases h
      rw [heq]
      exact .now
    · cases hr : f.readComponents text with
      | error e =>
        rw [hr] at h
        cases h
      | ok p =>
        rw [hr] at h
        cases h
        obtain ⟨hfits, rfl⟩ := DateFormat.readComponents_eq_ok_iff.mp hr
        exact .literal hfits
  · rintro (_ | hfits)
    · rfl
    · rw [read, if_neg (writeComponents_ne_nowWord hfits),
        DateFormat.readComponents_writeComponents hfits]
      rfl

theorem read_of_readComponents {f : DateFormat} {text : List Char} {p : PartialDate}
    (h : f.readComponents text = .ok p) : read f text = .ok (.literal text p) := by
  obtain ⟨hfits, rfl⟩ := DateFormat.readComponents_eq_ok_iff.mp h
  exact read_eq_ok_iff.mpr (.literal hfits)

theorem text_of_isWritten {f : DateFormat} {text : List Char} {a : Anchor}
    (h : IsWritten f text a) : a.text = text := by
  cases h <;> rfl

end Anchor

/-! ### Comparisons -/

namespace DateComparison

/-- The four parameters write the comparison. -/
structure IsWritten (pattern anchor amount unit : List Char) (c : DateComparison) : Prop where
  pattern : DateFormat.ofPattern pattern = .ok c.format
  anchor : Anchor.IsWritten c.format anchor c.anchor
  amount : Numeral.IsInteger amount c.offset.amount
  fitsInt32 : Numeral.FitsInt32 c.offset.amount
  unit : String.ofList unit ∈ c.offset.unit.spellings
  holds : c.anchor.HoldsIn defaultReferenceYear

/-- The first thing that is wrong with four parameters. -/
inductive IsFaulty (pattern anchor amount unit : List Char) : RuleError → Prop where
  | pattern {fault : FormatError} (hf : DateFormat.ofPattern pattern = .error fault) :
      IsFaulty pattern anchor amount unit (.invalidFormat (String.ofList pattern) fault)
  | anchor {f : DateFormat} (hf : DateFormat.ofPattern pattern = .ok f)
      (ha : ∀ a, ¬ Anchor.IsWritten f anchor a) : IsFaulty pattern anchor amount unit
        (.invalidAnchor (String.ofList anchor) (String.ofList pattern))
  | amount {f : DateFormat} {a : Anchor} (hf : DateFormat.ofPattern pattern = .ok f)
      (ha : Anchor.IsWritten f anchor a)
      (hn : ∀ n, ¬ (Numeral.IsInteger amount n ∧ Numeral.FitsInt32 n)) :
      IsFaulty pattern anchor amount unit (.invalidOffset (String.ofList amount))
  | unit {f : DateFormat} {a : Anchor} {n : Int} (hf : DateFormat.ofPattern pattern = .ok f)
      (ha : Anchor.IsWritten f anchor a) (hn : Numeral.IsInteger amount n ∧ Numeral.FitsInt32 n)
      (hu : ∀ u : OffsetUnit, String.ofList unit ∉ u.spellings) :
      IsFaulty pattern anchor amount unit (.invalidUnit (String.ofList unit))
  | date {f : DateFormat} {a : Anchor} {n : Int} {u : OffsetUnit}
      (hf : DateFormat.ofPattern pattern = .ok f) (ha : Anchor.IsWritten f anchor a)
      (hn : Numeral.IsInteger amount n ∧ Numeral.FitsInt32 n)
      (hu : String.ofList unit ∈ u.spellings) (hd : ¬ a.HoldsIn defaultReferenceYear) :
      IsFaulty pattern anchor amount unit
        (.invalidAnchor (String.ofList anchor) (String.ofList pattern))

variable {pattern anchor amount unit : List Char}

theorem isWritten_or_isFaulty (pattern anchor amount unit : List Char) :
    (∃ c, IsWritten pattern anchor amount unit c) ∨ ∃ e, IsFaulty pattern anchor amount unit e := by
  cases hf : DateFormat.ofPattern pattern with
  | error fault => exact Or.inr ⟨_, .pattern hf⟩
  | ok f =>
    by_cases ha : ∃ a, Anchor.IsWritten f anchor a
    · obtain ⟨a, ha⟩ := ha
      by_cases hn : ∃ n, Numeral.IsInteger amount n ∧ Numeral.FitsInt32 n
      · obtain ⟨n, hn⟩ := hn
        by_cases hu : ∃ u : OffsetUnit, String.ofList unit ∈ u.spellings
        · obtain ⟨u, hu⟩ := hu
          by_cases hd : a.HoldsIn defaultReferenceYear
          · exact Or.inl ⟨⟨f, a, ⟨n, u⟩⟩, hf, ha, hn.1, hn.2, hu, hd⟩
          · exact Or.inr ⟨_, .date hf ha hn hu hd⟩
        · exact Or.inr ⟨_, .unit hf ha hn (not_exists.mp hu)⟩
      · exact Or.inr ⟨_, .amount hf ha (not_exists.mp hn)⟩
    · exact Or.inr ⟨_, .anchor hf (not_exists.mp ha)⟩

theorem ofParameters_of_isWritten {c : DateComparison}
    (h : IsWritten pattern anchor amount unit c) :
    ofParameters [pattern, anchor, amount, unit] = .ok c := by
  have hn := Numeral.int32?_eq_some_iff.mpr ⟨h.amount, h.fitsInt32⟩
  simp only [ofParameters, h.pattern, Anchor.read_eq_ok_iff.mpr h.anchor, hn,
    OffsetUnit.ofName?_eq_some_iff.mpr h.unit, checkAnchor_eq]
  rw [if_pos h.holds]
  rfl

theorem ofParameters_of_isFaulty {e : RuleError} (h : IsFaulty pattern anchor amount unit e) :
    ofParameters [pattern, anchor, amount, unit] = .error e := by
  cases h with
  | pattern hf => simp only [ofParameters, hf]
  | @anchor f hf ha =>
    cases hr : Anchor.read f anchor with
    | error e => simp only [ofParameters, hf, hr, DateFormat.pattern_of_ofPattern hf]
    | ok a => exact absurd (Anchor.read_eq_ok_iff.mp hr) (ha a)
  | amount hf ha hn =>
    cases hr : Numeral.int32? amount with
    | none => simp only [ofParameters, hf, Anchor.read_eq_ok_iff.mpr ha, hr]
    | some n => exact absurd (Numeral.int32?_eq_some_iff.mp hr) (hn n)
  | unit hf ha hn hu =>
    cases hr : OffsetUnit.ofName? (String.ofList unit) with
    | none => simp only [ofParameters, hf, Anchor.read_eq_ok_iff.mpr ha,
        Numeral.int32?_eq_some_iff.mpr hn, hr]
    | some u => exact absurd (OffsetUnit.ofName?_eq_some_iff.mp hr) (hu u)
  | date hf ha hn hu hd =>
    simp only [ofParameters, hf, Anchor.read_eq_ok_iff.mpr ha, Numeral.int32?_eq_some_iff.mpr hn,
      OffsetUnit.ofName?_eq_some_iff.mpr hu, checkAnchor_eq]
    rw [if_neg hd, anchorError, Anchor.text_of_isWritten ha, DateFormat.pattern_of_ofPattern hf]
    rfl

end DateComparison

/-! ### Rules -/

namespace RuleSpec

/-- The text, which has no blanks at its ends, writes the rule. -/
inductive IsWritten : List Char → RuleSpec → Prop where
  | required : IsWritten "required".toList .required
  | integer : IsWritten "integer".toList .integer
  | date {text pattern anchor amount unit : List Char} {direction : Direction} {c : DateComparison}
      (cut : IsCut [direction.kind.name.toList, pattern, anchor, amount, unit] text)
      (comparison : DateComparison.IsWritten pattern anchor amount unit c) :
      IsWritten text (.date direction c)

/-- The first thing that is wrong with a text that has no blanks at its ends. -/
inductive IsFaulty : List Char → RuleError → Prop where
  | empty : IsFaulty [] .emptyRule
  | unknown {text name : List Char} {parameters : List (List Char)} (hne : text ≠ [])
      (cut : IsCut (name :: parameters) text) (hk : ∀ k : RuleKind, k.name ≠ String.ofList name) :
      IsFaulty text (.unknownRule (String.ofList name)
        (suggestion? (String.ofList name) (RuleKind.all.map RuleKind.name)))
  | arity {text : List Char} {parameters : List (List Char)} {k : RuleKind}
      (cut : IsCut (k.name.toList :: parameters) text) (hlen : parameters.length ≠ k.arity) :
      IsFaulty text (.arity k.name k.arity parameters.length)
  | date {text pattern anchor amount unit : List Char} {direction : Direction} {e : RuleError}
      (cut : IsCut [direction.kind.name.toList, pattern, anchor, amount, unit] text)
      (fault : DateComparison.IsFaulty pattern anchor amount unit e) : IsFaulty text e

variable {text name pattern anchor amount unit : List Char} {parameters : List (List Char)}

theorem parseTrimmed_of_isCut (hne : text ≠ []) (h : IsCut (name :: parameters) text) :
    parseTrimmed text =
      match RuleKind.read (String.ofList name) with
      | .error e => .error e
      | .ok k =>
        if parameters.length = k.arity then ofParameters k parameters
        else .error (.arity k.name k.arity parameters.length) := by
  unfold parseTrimmed
  rw [if_neg hne, isCut_iff.mp h]
  rfl

/-- No rule is written by the empty text, for every kind has a name. -/
theorem ne_nil_of_isCut_name {k : RuleKind} (h : IsCut (k.name.toList :: parameters) text) :
    text ≠ [] := by
  rintro rfl
  have heq := isCut_iff.mp h
  rw [List.splitOn_nil, List.cons.injEq] at heq
  cases k <;> exact absurd heq.1 (by decide)

theorem parseTrimmed_of_isCut_kind {k : RuleKind}
    (h : IsCut (k.name.toList :: parameters) text) :
    parseTrimmed text =
      if parameters.length = k.arity then ofParameters k parameters
      else .error (.arity k.name k.arity parameters.length) := by
  rw [parseTrimmed_of_isCut (ne_nil_of_isCut_name h) h, String.ofList_toList, RuleKind.read_name]

theorem parseTrimmed_of_isCut_date {direction : Direction}
    (h : IsCut [direction.kind.name.toList, pattern, anchor, amount, unit] text) :
    parseTrimmed text =
      (DateComparison.ofParameters [pattern, anchor, amount, unit]).map (date direction) := by
  rw [parseTrimmed_of_isCut_kind h]
  cases direction <;> rfl

/-- A date rule with the right number of parameters is as good as its parameters. -/
theorem isWritten_or_isFaulty_of_date (direction : Direction)
    (h : IsCut (direction.kind.name.toList :: parameters) text) (hlen : parameters.length = 4) :
    (∃ spec, IsWritten text spec) ∨ ∃ e, IsFaulty text e := by
  match parameters, hlen with
  | [pattern, anchor, amount, unit], _ =>
    rcases DateComparison.isWritten_or_isFaulty pattern anchor amount unit with ⟨c, hc⟩ | ⟨e, he⟩
    · exact Or.inl ⟨_, .date h hc⟩
    · exact Or.inr ⟨_, .date h he⟩

theorem isWritten_or_isFaulty (text : List Char) :
    (∃ spec, IsWritten text spec) ∨ ∃ e, IsFaulty text e := by
  by_cases hne : text = []
  · subst hne
    exact Or.inr ⟨_, .empty⟩
  · obtain ⟨name, parameters, hcut⟩ := exists_isCut text
    by_cases hk : ∃ k : RuleKind, k.name = String.ofList name
    · obtain ⟨k, hk⟩ := hk
      have hname : name = k.name.toList := by rw [hk, String.toList_ofList]
      subst hname
      by_cases hlen : parameters.length = k.arity
      · cases k with
        | required =>
          obtain rfl := List.length_eq_zero_iff.mp hlen
          obtain rfl := hcut.eq_of_singleton
          exact Or.inl ⟨.required, .required⟩
        | integer =>
          obtain rfl := List.length_eq_zero_iff.mp hlen
          obtain rfl := hcut.eq_of_singleton
          exact Or.inl ⟨.integer, .integer⟩
        | dateBefore => exact isWritten_or_isFaulty_of_date .before hcut hlen
        | dateAfter => exact isWritten_or_isFaulty_of_date .after hcut hlen
      · exact Or.inr ⟨_, .arity hcut hlen⟩
    · exact Or.inr ⟨_, .unknown hne hcut (not_exists.mp hk)⟩

theorem parseTrimmed_of_isWritten {spec : RuleSpec} (h : IsWritten text spec) :
    parseTrimmed text = .ok spec := by
  cases h with
  | required => decide +kernel
  | integer => decide +kernel
  | date cut comparison =>
    rw [parseTrimmed_of_isCut_date cut, DateComparison.ofParameters_of_isWritten comparison]
    rfl

theorem parseTrimmed_of_isFaulty {e : RuleError} (h : IsFaulty text e) :
    parseTrimmed text = .error e := by
  cases h with
  | empty => rfl
  | unknown hne cut hk => rw [parseTrimmed_of_isCut hne cut, RuleKind.read_eq_error hk]
  | arity cut hlen => rw [parseTrimmed_of_isCut_kind cut, if_neg hlen]
  | date cut fault =>
    rw [parseTrimmed_of_isCut_date cut, DateComparison.ofParameters_of_isFaulty fault]
    rfl

theorem parseTrimmed_eq_ok_iff {spec : RuleSpec} :
    parseTrimmed text = .ok spec ↔ IsWritten text spec := by
  refine ⟨fun h => ?_, parseTrimmed_of_isWritten⟩
  rcases isWritten_or_isFaulty text with ⟨spec', hw⟩ | ⟨e, hf⟩
  · rw [parseTrimmed_of_isWritten hw] at h
    cases h
    exact hw
  · rw [parseTrimmed_of_isFaulty hf] at h
    cases h

theorem parseTrimmed_eq_error_iff {e : RuleError} :
    parseTrimmed text = .error e ↔ IsFaulty text e := by
  refine ⟨fun h => ?_, parseTrimmed_of_isFaulty⟩
  rcases isWritten_or_isFaulty text with ⟨spec, hw⟩ | ⟨e', hf⟩
  · rw [parseTrimmed_of_isWritten hw] at h
    cases h
  · rw [parseTrimmed_of_isFaulty hf] at h
    cases h
    exact hf

/-- A text is read as a rule exactly when it writes the rule once the blanks at its ends are cut off,
    and is refused for the first thing that is wrong with it otherwise. -/
theorem parse_accepts_grammar (s : String) :
    ∃ text, (∀ t, IsTrimmed s.toList t ↔ t = text) ∧
      (∀ spec, parse s = .ok spec ↔ IsWritten text spec) ∧
      (∀ e, parse s = .error e ↔ IsFaulty text e) :=
  ⟨trimBlank s.toList, fun _ => isTrimmed_iff, fun _ => parseTrimmed_eq_ok_iff,
    fun _ => parseTrimmed_eq_error_iff⟩

end RuleSpec

end Fieldwise
