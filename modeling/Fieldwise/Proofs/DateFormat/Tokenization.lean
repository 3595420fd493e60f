import Fieldwise.DateFormat.Basic
import Mathlib.Data.List.Count
import Mathlib.Data.List.Infix

/-!
Patterns and their pieces. A pattern can be cut in many ways: the last character of a literal may as
well begin the component after it. `FormatToken.IsCanonical` tells the one cut in which components
begin as far to the left as they can. It is what `FormatToken.tokenize` finds, so a pattern is a date
format exactly when the pieces of its canonical cut make one up, and those are the pieces of the
format.
-/

namespace Fieldwise

namespace FormatToken

/-- No literal is empty, follows another one, holds the symbol of a component, or ends in the letter of
    the component that comes next. -/
structure IsCanonical (tokens : List FormatToken) : Prop where
  ne_nil : ∀ l, literal l ∈ tokens → l ≠ []
  not_adjacent : ∀ l l', ¬ [literal l, literal l'] <:+: tokens
  symbol_not_infix : ∀ l, literal l ∈ tokens → ∀ c : Component, ¬ c.symbol <:+: l
  not_letter : ∀ l c, [literal l, component c] <:+: tokens → l.getLast? ≠ some c.letter

/-- A literal can stand in front of pieces: no symbol is in it, and the first of the pieces is a
    component whose letter it does not end in. -/
structure FitsBefore (l : List Char) (tokens : List FormatToken) : Prop where
  ne_nil : l ≠ []
  symbol_not_infix : ∀ c : Component, ¬ c.symbol <:+: l
  head : ∀ token ∈ tokens.head?, ∃ c, token = component c ∧ l.getLast? ≠ some c.letter

variable {tokens : List FormatToken}

/-! ### Piece by piece -/

theorem isCanonical_nil : IsCanonical [] where
  ne_nil _ h := absurd h List.not_mem_nil
  not_adjacent _ _ h := absurd (List.infix_nil.mp h) (List.cons_ne_nil _ _)
  symbol_not_infix _ h := absurd h List.not_mem_nil
  not_letter _ _ h := absurd (List.infix_nil.mp h) (List.cons_ne_nil _ _)

/-- Two neighbours are the first two pieces or stand further to the right. -/
theorem pair_infix_cons_iff {a b token : FormatToken} :
    [a, b] <:+: token :: tokens ↔ (a = token ∧ tokens.head? = some b) ∨ [a, b] <:+: tokens := by
  have hsecond : [b] <+: tokens ↔ tokens.head? = some b := by
    cases tokens with
    | nil => simp
    | cons next rest =>
      rw [List.cons_prefix_cons, List.head?_cons, Option.some.injEq, eq_comm]
      exact and_iff_left List.nil_prefix
  rw [List.infix_cons_iff, List.cons_prefix_cons, hsecond]

theorem isCanonical_component_iff {c : Component} :
    IsCanonical (component c :: tokens) ↔ IsCanonical tokens := by
  constructor
  · intro h
    exact ⟨fun l hl => h.ne_nil l (List.mem_cons_of_mem _ hl),
      fun l l' hl => h.not_adjacent l l' (pair_infix_cons_iff.mpr (Or.inr hl)),
      fun l hl => h.symbol_not_infix l (List.mem_cons_of_mem _ hl),
      fun l c hl => h.not_letter l c (pair_infix_cons_iff.mpr (Or.inr hl))⟩
  · intro h
    constructor
    · exact fun l hl => h.ne_nil l (by simpa using hl)
    · exact fun l l' hl => h.not_adjacent l l' (by simpa [pair_infix_cons_iff] using hl)
    · exact fun l hl => h.symbol_not_infix l (by simpa using hl)
    · exact fun l c hl => h.not_letter l c (by simpa [pair_infix_cons_iff] using hl)

theorem isCanonical_literal_iff {l : List Char} :
    IsCanonical (literal l :: tokens) ↔ FitsBefore l tokens ∧ IsCanonical tokens := by
  constructor
  · intro h
    refine ⟨⟨h.ne_nil l List.mem_cons_self, h.symbol_not_infix l List.mem_cons_self, ?_⟩,
      fun l' hl => h.ne_nil l' (List.mem_cons_of_mem _ hl),
      fun l' l'' hl => h.not_adjacent l' l'' (pair_infix_cons_iff.mpr (Or.inr hl)),
      fun l' hl => h.symbol_not_infix l' (List.mem_cons_of_mem _ hl),
      fun l' c hl => h.not_letter l' c (pair_infix_cons_iff.mpr (Or.inr hl))⟩
    intro token htoken
    cases token with
    | literal l' =>
      exact absurd (pair_infix_cons_iff.mpr (Or.inl ⟨rfl, htoken⟩)) (h.not_adjacent l l')
    | component c =>
      exact ⟨c, rfl, h.not_letter l c (pair_infix_cons_iff.mpr (Or.inl ⟨rfl, htoken⟩))⟩
  · rintro ⟨hl, h⟩
    constructor
    · intro l' hl'
      rcases List.mem_cons.mp hl' with heq | hmem
      · cases heq
        exact hl.ne_nil
      · exact h.ne_nil l' hmem
    · intro l' l'' hpair
      rcases pair_infix_cons_iff.mp hpair with ⟨-, hhead⟩ | hpair
      · obtain ⟨c, hc, -⟩ := hl.head _ hhead
        cases hc
      · exact h.not_adjacent l' l'' hpair
    · intro l' hl'
      rcases List.mem_cons.mp hl' with heq | hmem
      · cases heq
        exact hl.symbol_not_infix
      · exact h.symbol_not_infix l' hmem
    · intro l' c hpair
      rcases pair_infix_cons_iff.mp hpair with ⟨heq, hhead⟩ | hpair
      · obtain ⟨c', hc, hlast⟩ := hl.head _ hhead
        cases heq
        cases hc
        exact hlast
      · exact h.not_letter l' c hpair

/-! ### Cutting from the left -/

theorem tokenize_symbol (c : Component) (rest : List Char) :
    tokenize (c.symbol ++ rest) = component c :: tokenize rest := by
  cases c <;> simp [tokenize]

theorem forall_not_symbol_prefix_iff {c : Char} {rest : List Char} :
    (∀ k : Component, ¬ k.symbol <+: c :: rest) ↔
      (∀ rest', c = 'Y' → rest = 'Y' :: 'Y' :: 'Y' :: rest' → False) ∧
        (∀ rest', c = 'D' → rest = 'D' :: rest' → False) ∧
          ∀ rest', c = 'M' → rest = 'M' :: rest' → False := by
  constructor
  · intro h
    refine ⟨?_, ?_, ?_⟩
    · rintro rest' rfl rfl
      exact h .year ⟨rest', rfl⟩
    · rintro rest' rfl rfl
      exact h .day ⟨rest', rfl⟩
    · rintro rest' rfl rfl
      exact h .month ⟨rest', rfl⟩
  · rintro ⟨hyear, hday, hmonth⟩ k ⟨rest', hk⟩
    cases k with
    | day =>
      obtain ⟨rfl, rfl⟩ := List.cons.inj hk
      exact hday rest' rfl rfl
    | month =>
      obtain ⟨rfl, rfl⟩ := List.cons.inj hk
      exact hmonth rest' rfl rfl
    | year =>
      obtain ⟨rfl, rfl⟩ := List.cons.inj hk
      exact hyear rest' rfl rfl

theorem tokenize_cons {c : Char} {rest : List Char} (h : ∀ k : Component, ¬ k.symbol <+: c :: rest) :
    tokenize (c :: rest) = consChar c (tokenize rest) := by
  obtain ⟨hyear, hday, hmonth⟩ := forall_not_symbol_prefix_iff.mp h
  exact tokenize.eq_4 c rest hyear hday hmonth

theorem head?_spell_component (c : Component) :
    (spell (component c :: tokens)).head? = some c.letter := by
  cases c <;> rfl

/-- Where a literal fits, no component begins inside it, not even one that goes on behind it. -/
theorem FitsBefore.not_symbol_prefix {l : List Char} (h : FitsBefore l tokens) (k : Component) :
    ¬ k.symbol <+: l ++ spell tokens := by
  intro hk
  rcases List.prefix_or_prefix_of_prefix hk (List.prefix_append l _) with hinside | ⟨rest, hrest⟩
  · exact h.symbol_not_infix k hinside.isInfix
  · -- The literal is the beginning of the symbol, and the next piece goes on with the same letter.
    rw [← hrest, List.prefix_append_right_inj] at hk
    obtain ⟨-, hl, hletters⟩ := List.append_eq_replicate_iff.mp hrest
    cases rest with
    | nil =>
      rw [List.append_nil] at hrest
      exact h.symbol_not_infix k (hrest ▸ List.infix_refl l)
    | cons c rest =>
      obtain rfl : c = k.letter := List.eq_of_mem_replicate (hletters ▸ List.mem_cons_self)
      cases tokens with
      | nil => exact absurd (List.prefix_nil.mp hk) (List.cons_ne_nil _ _)
      | cons token tokens =>
        obtain ⟨c, rfl, hlast⟩ := h.head token rfl
        obtain ⟨after, hafter⟩ := hk
        have hletter : k.letter = c.letter := by
          rw [← Option.some.injEq, ← head?_spell_component c, ← hafter]
          rfl
        apply hlast
        rw [← hletter, hl, List.getLast?_replicate, if_neg]
        exact fun hzero => h.ne_nil (List.eq_nil_of_length_eq_zero hzero)

theorem FitsBefore.of_cons {a b : Char} {l : List Char} (h : FitsBefore (a :: b :: l) tokens) :
    FitsBefore (b :: l) tokens where
  ne_nil := List.cons_ne_nil _ _
  symbol_not_infix c hc := h.symbol_not_infix c (hc.trans (List.suffix_cons a _).isInfix)
  head token htoken := by
    obtain ⟨c, hc, hlast⟩ := h.head token htoken
    rw [List.getLast?_cons_cons] at hlast
    exact ⟨c, hc, hlast⟩

theorem FitsBefore.tokenize_append {l : List Char} (h : FitsBefore l tokens)
    (htokens : tokenize (spell tokens) = tokens) :
    tokenize (l ++ spell tokens) = literal l :: tokens := by
  induction l with
  | nil => exact absurd rfl h.ne_nil
  | cons a l ih =>
    have hcut : tokenize (a :: (l ++ spell tokens)) =
        FormatToken.consChar a (tokenize (l ++ spell tokens)) := tokenize_cons h.not_symbol_prefix
    rw [List.cons_append, hcut]
    cases l with
    | nil =>
      rw [List.nil_append, htokens]
      cases tokens with
      | nil => rfl
      | cons token tokens =>
        obtain ⟨c, rfl, -⟩ := h.head token rfl
        rfl
    | cons b l =>
      rw [ih h.of_cons]
      rfl

/-- The pieces of a canonical cut are found again. -/
theorem IsCanonical.tokenize_spell (h : IsCanonical tokens) : tokenize (spell tokens) = tokens := by
  induction tokens with
  | nil => rfl
  | cons token tokens ih =>
    cases token with
    | component c =>
      rw [isCanonical_component_iff] at h
      rw [spell, List.flatMap_cons]
      exact (tokenize_symbol c _).trans (congrArg _ (ih h))
    | literal l =>
      rw [isCanonical_literal_iff] at h
      exact h.1.tokenize_append (ih h.2)

/-- A character that begins no symbol can be put in front of a canonical cut. -/
theorem IsCanonical.consChar {c : Char} (h : IsCanonical tokens)
    (hc : ∀ k : Component, ¬ k.symbol <+: c :: spell tokens) : IsCanonical (consChar c tokens) := by
  have hshort : ∀ k : Component, ¬ k.symbol <:+: [c] := by
    intro k hk
    have hle := hk.length_le
    cases k <;> exact absurd hle (by simp)
  cases tokens with
  | nil =>
    exact isCanonical_literal_iff.mpr ⟨⟨List.cons_ne_nil _ _, hshort, by rintro _ ⟨⟩⟩, h⟩
  | cons token tokens =>
    cases token with
    | component k =>
      refine isCanonical_literal_iff.mpr ⟨⟨List.cons_ne_nil _ _, hshort, ?_⟩, h⟩
      rintro _ ⟨⟩
      refine ⟨k, rfl, ?_⟩
      -- The letter of the component in front of its symbol would itself begin the symbol.
      rintro ⟨⟩
      apply hc k
      cases k <;> exact ⟨_, rfl⟩
    | literal l =>
      rw [isCanonical_literal_iff] at h
      obtain ⟨hl, h⟩ := h
      refine isCanonical_literal_iff.mpr ⟨⟨List.cons_ne_nil _ _, ?_, ?_⟩, h⟩
      · intro k hk
        rcases List.infix_cons_iff.mp hk with hstart | hinside
        · exact hc k (hstart.trans (List.prefix_append (c :: l) _))
        · exact hl.symbol_not_infix k hinside
      · intro token htoken
        obtain ⟨k, hk, hlast⟩ := hl.head token htoken
        refine ⟨k, hk, ?_⟩
        rwa [List.getLast?_cons_of_ne_nil hl.ne_nil]

theorem isCanonical_tokenize (pattern : List Char) : IsCanonical (tokenize pattern) := by
  fun_induction tokenize pattern with
  | case1 rest ih => exact isCanonical_component_iff.mpr ih
  | case2 rest ih => exact isCanonical_component_iff.mpr ih
  | case3 rest ih => exact isCanonical_component_iff.mpr ih
  | case4 c rest hyear hday hmonth ih =>
    refine ih.consChar ?_
    rw [spell_tokenize]
    exact forall_not_symbol_prefix_iff.mpr ⟨hyear, hday, hmonth⟩
  | case5 => exact isCanonical_nil

theorem tokenize_eq_iff {pattern : List Char} :
    tokenize pattern = tokens ↔ IsCanonical tokens ∧ spell tokens = pattern := by
  constructor
  · rintro rfl
    exact ⟨isCanonical_tokenize pattern, spell_tokenize pattern⟩
  · rintro ⟨h, rfl⟩
    exact h.tokenize_spell

/-! ### Pieces of a format -/

/-- No component stands twice, one stands at least, and the day only together with the month. -/
structure IsFormat (tokens : List FormatToken) : Prop where
  count_le_one : ∀ c, tokens.count (component c) ≤ 1
  exists_component : ∃ c, component c ∈ tokens
  month_of_day : component .day ∈ tokens → component .month ∈ tokens

theorem count_components (c : Component) (tokens : List FormatToken) :
    (components tokens).count c = tokens.count (component c) := by
  rw [components, List.count_filterMap, List.count_eq_countP]
  refine List.countP_congr fun token _ => ?_
  cases token <;> simp [component?]

theorem components_ne_nil_iff : components tokens ≠ [] ↔ ∃ c, component c ∈ tokens := by
  simp only [ne_eq, List.eq_nil_iff_forall_not_mem, not_forall, not_not, mem_components_iff]

theorem isFormat_iff : IsFormat tokens ↔ (components tokens).Nodup ∧ components tokens ≠ [] ∧
    (.day ∈ components tokens → .month ∈ components tokens) := by
  simp only [List.nodup_iff_count, count_components, components_ne_nil_iff, mem_components_iff]
  exact ⟨fun h => ⟨h.count_le_one, h.exists_component, h.month_of_day⟩, fun h => ⟨h.1, h.2.1, h.2.2⟩⟩

end FormatToken

namespace DateFormat
open FormatToken

theorem isFormat_tokens (f : DateFormat) : IsFormat f.tokens :=
  isFormat_iff.mpr ⟨f.nodup_components, f.components_ne_nil, f.month_mem_of_day_mem⟩

theorem exists_ofTokens {tokens : List FormatToken} (h : IsFormat tokens) :
    ∃ f, ofTokens tokens = .ok f := by
  obtain ⟨hnodup, hne, hmonth⟩ := isFormat_iff.mp h
  have hrepeated : firstRepeated? [] (FormatToken.components tokens) = none :=
    firstRepeated?_eq_none_iff.mpr ⟨hnodup, fun _ _ => List.not_mem_nil⟩
  unfold ofTokens
  split
  · next c hc =>
    rw [hrepeated] at hc
    cases hc
  · rw [dif_neg hne, dif_neg fun hday => hday.2 (hmonth hday.1)]
    exact ⟨_, rfl⟩

theorem tokens_of_ofPattern {pattern : List Char} {f : DateFormat} (h : ofPattern pattern = .ok f) :
    f.tokens = tokenize pattern := tokens_of_ofTokens h

theorem exists_ofPattern_iff {pattern : List Char} :
    (∃ f, ofPattern pattern = .ok f) ↔ IsFormat (tokenize pattern) := by
  constructor
  · rintro ⟨f, hf⟩
    rw [← tokens_of_ofPattern hf]
    exact f.isFormat_tokens
  · exact exists_ofTokens

/-- Every pattern has one canonical cut at most. It is a date format exactly when it has one whose pieces
    make up a format, and the format is made of those pieces and writes the pattern. Pieces that are
    put together from a canonical cut that makes up a format are found again. -/
theorem patterns_have_one_canonical_cut :
    (∀ pattern, (∃ f, ofPattern pattern = .ok f) ↔
      ∃ tokens, IsCanonical tokens ∧ spell tokens = pattern ∧ IsFormat tokens) ∧
    (∀ pattern f, ofPattern pattern = .ok f →
      (IsCanonical f.tokens ∧ spell f.tokens = pattern ∧ IsFormat f.tokens) ∧
      (∀ tokens, IsCanonical tokens → spell tokens = pattern → tokens = f.tokens) ∧
      f.pattern = pattern) ∧
    ∀ tokens, IsCanonical tokens → IsFormat tokens →
      ∃ f, ofPattern (spell tokens) = .ok f ∧ f.tokens = tokens := by
  refine ⟨fun pattern => ?_, fun pattern f hf => ?_, fun tokens hcanonical hformat => ?_⟩
  · rw [exists_ofPattern_iff]
    constructor
    · intro hformat
      exact ⟨tokenize pattern, isCanonical_tokenize pattern, spell_tokenize pattern, hformat⟩
    · rintro ⟨tokens, hcanonical, rfl, hformat⟩
      rwa [hcanonical.tokenize_spell]
  · have htokens := tokens_of_ofPattern hf
    obtain ⟨hcanonical, hspell⟩ := tokenize_eq_iff.mp htokens.symm
    refine ⟨⟨hcanonical, hspell, f.isFormat_tokens⟩, fun tokens hcanonical' hspell' => ?_,
      pattern_of_ofPattern hf⟩
    rw [htokens]
    exact (tokenize_eq_iff.mpr ⟨hcanonical', hspell'⟩).symm
  · obtain ⟨f, hf⟩ := exists_ofPattern_iff.mpr (hcanonical.tokenize_spell.symm ▸ hformat)
    exact ⟨f, hf, (tokens_of_ofPattern hf).trans hcanonical.tokenize_spell⟩

/-- In runs of a letter the component comes first and what is left over follows it. -/
theorem runs_of_letters_are_cut_from_the_left :
    let tokens : List FormatToken := [.component .day, .literal ['D', ' '], .component .month,
      .literal ['M'], .component .year, .literal ['Y']]
    IsCanonical tokens ∧ IsFormat tokens ∧
      ∃ f, ofPattern "DDD MMMYYYYY".toList = .ok f ∧ f.tokens = tokens ∧
        ∀ cut, IsCanonical cut → spell cut = "DDD MMMYYYYY".toList → cut = tokens := by
  intro tokens
  obtain ⟨-, hformat, hcut⟩ := patterns_have_one_canonical_cut
  have htokenize : tokenize "DDD MMMYYYYY".toList = tokens := rfl
  have hcanonical : IsCanonical tokens := (tokenize_eq_iff.mp htokenize).1
  have hmakes : IsFormat tokens := isFormat_iff.mpr (by decide)
  obtain ⟨f, hf, htokens⟩ := hcut tokens hcanonical hmakes
  refine ⟨hcanonical, hmakes, f, hf, htokens, ?_⟩
  rw [← htokens]
  exact (hformat _ f hf).2.1

end DateFormat

end Fieldwise
