import Fieldwise.Message.Label
import Fieldwise.Proofs.Decimal.Numeral
import Fieldwise.Proofs.Text.Case

/-!
Labels in title case. A name is cut into words, none of which is empty, has a separator in it or could be
cut again, and which together are the name without its separators. To write the first character of a word
in upper case makes no new place at which the word could be cut, and doing it again changes nothing. So a
label is cut into its own words again, and its title case is the label itself.
-/

namespace Fieldwise

/-! ### Words -/

/-- The text has no separator, and no upper case character directly behind a lower case one or a digit. -/
def IsUnbroken : List Char → Prop
  | [] => True
  | c :: rest => isWordSeparator c = false ∧ isWordBoundary c rest = false ∧ IsUnbroken rest

/-- A text that a name can have as a word. -/
structure IsNameWord (word : List Char) : Prop where
  ne_nil : word ≠ []
  isUnbroken : IsUnbroken word

/-- A word at the end of the first text is over when the second text follows: nothing or a separator
    comes, or an upper case character behind a lower case one or a digit. -/
def WordEnds (before after : List Char) : Prop :=
  (∀ s ∈ after.head?, isWordSeparator s = true) ∨
    ∃ c ∈ before.getLast?, isWordBoundary c after = true

/-- The text is cut into the words from left to right: separators are passed over, and a word goes on until
    it is over. -/
inductive IsCutInto : List (List Char) → List Char → Prop where
  | nil : IsCutInto [] []
  | separator {s : Char} {words : List (List Char)} {text : List Char}
      (isSeparator : isWordSeparator s = true) (others : IsCutInto words text) :
      IsCutInto words (s :: text)
  | word {word : List Char} {words : List (List Char)} {text : List Char}
      (isNameWord : IsNameWord word) (ends : WordEnds word text) (others : IsCutInto words text) :
      IsCutInto (word :: words) (word ++ text)

section Words
variable {word text before after : List Char} {words : List (List Char)} {s : Char}

theorem IsUnbroken.isWordSeparator_eq_false (h : IsUnbroken word) :
    ∀ c ∈ word, isWordSeparator c = false := by
  induction word with
  | nil => exact List.forall_mem_nil _
  | cons c word ih => exact List.forall_mem_cons.mpr ⟨h.1, ih h.2.2⟩

theorem IsCutInto.isNameWord (h : IsCutInto words text) : ∀ w ∈ words, IsNameWord w := by
  induction h with
  | nil => exact List.forall_mem_nil _
  | separator _ _ ih => exact ih
  | word hword _ _ ih => exact List.forall_mem_cons.mpr ⟨hword, ih⟩

theorem IsCutInto.flatten_eq (h : IsCutInto words text) :
    words.flatten = text.filter fun c => !isWordSeparator c := by
  induction h with
  | nil => rfl
  | separator hs _ ih => rw [List.filter_cons_of_neg (by simp [hs]), ih]
  | @word word words text hword _ _ ih =>
    have hkept : word.filter (fun c => !isWordSeparator c) = word := by
      rw [List.filter_eq_self]
      exact fun c hc => by rw [hword.isUnbroken.isWordSeparator_eq_false c hc, Bool.not_false]
    rw [List.flatten_cons, List.filter_append, hkept, ih]

/-- Words with separators between them are cut apart again. -/
theorem isCutInto_intercalate (hs : isWordSeparator s = true) (h : ∀ w ∈ words, IsNameWord w) :
    IsCutInto words ([s].intercalate words) := by
  induction words with
  | nil => exact .nil
  | cons word words ih =>
    obtain ⟨hword, hwords⟩ := List.forall_mem_cons.mp h
    cases words with
    | nil =>
      have hcut := IsCutInto.word hword (Or.inl (by simp)) .nil
      rw [List.append_nil] at hcut
      rwa [List.intercalate_singleton]
    | cons word' words =>
      rw [List.intercalate_cons_cons, List.append_assoc, List.singleton_append]
      refine .word hword (Or.inl fun s' hs' => ?_) (.separator hs (ih hwords))
      rwa [← Option.some.inj hs']

/-! ### Cutting -/

theorem consWord_append {words' : List (List Char)} :
    consWord word words ++ words' = consWord word (words ++ words') := by
  unfold consWord
  split <;> rfl

theorem cutWord_cons (c : Char) (rest : List Char) : cutWord (c :: rest) =
    if isWordSeparator c then ([], nameWords rest)
    else if isWordBoundary c rest then ([c], nameWords rest)
    else (c :: (cutWord rest).1, (cutWord rest).2) := rfl

theorem nameWords_cons_separator (h : isWordSeparator s = true) (text : List Char) :
    nameWords (s :: text) = nameWords text := by
  rw [nameWords, cutWord_cons, if_pos h]
  rfl

theorem cutWord_of_no_word_ahead (h : ∀ s ∈ text.head?, isWordSeparator s = true) :
    cutWord text = ([], nameWords text) := by
  cases text with
  | nil => rfl
  | cons s text =>
    have hs := h s rfl
    rw [nameWords_cons_separator hs, cutWord_cons, if_pos hs]

theorem nameWords_append_of_cutWord (h : cutWord (before ++ after) =
    ((cutWord before).1, (cutWord before).2 ++ nameWords after)) :
    nameWords (before ++ after) = nameWords before ++ nameWords after := by
  rw [nameWords, h]
  exact consWord_append.symm

/-- A text that ends with the end of a word is cut as if nothing followed. -/
theorem cutWord_append (h : WordEnds before after) : cutWord (before ++ after) =
    ((cutWord before).1, (cutWord before).2 ++ nameWords after) := by
  induction before with
  | nil =>
    rcases h with hahead | ⟨c, hc, -⟩
    · exact cutWord_of_no_word_ahead hahead
    · cases hc
  | cons c before ih =>
    rw [List.cons_append, cutWord_cons, cutWord_cons]
    cases before with
    | nil =>
      rw [List.nil_append]
      by_cases hsep : isWordSeparator c = true
      · rw [if_pos hsep, if_pos hsep]
        rfl
      · rw [if_neg hsep, if_neg hsep]
        by_cases hboundary : isWordBoundary c after = true
        · rw [if_pos hboundary]
          rfl
        · have hahead := h.resolve_right fun ⟨d, hd, hover⟩ => by
            cases hd
            exact hboundary hover
          rw [if_neg hboundary, cutWord_of_no_word_ahead hahead]
          rfl
    | cons d before =>
      have hends : WordEnds (d :: before) after := h
      have hboundary : isWordBoundary c (d :: before ++ after) = isWordBoundary c (d :: before) := rfl
      rw [hboundary, nameWords_append_of_cutWord (ih hends), ih hends]
      split_ifs <;> rfl

theorem cutWord_of_isUnbroken (h : IsUnbroken word) : cutWord word = (word, []) := by
  induction word with
  | nil => rfl
  | cons c word ih =>
    obtain ⟨hsep, hboundary, hrest⟩ := h
    rw [cutWord_cons, hsep, hboundary, ih hrest]
    rfl

theorem nameWords_of_isCutInto (h : IsCutInto words text) : nameWords text = words := by
  induction h with
  | nil => rfl
  | separator hs _ ih => rw [nameWords_cons_separator hs, ih]
  | word hword hends _ ih =>
    rw [nameWords_append_of_cutWord (cutWord_append hends), ih, nameWords,
      cutWord_of_isUnbroken hword.isUnbroken, consWord, if_neg hword.ne_nil, List.singleton_append]

theorem IsCutInto.consWord (hword : IsUnbroken word) (hends : WordEnds word after)
    (h : IsCutInto words after) : IsCutInto (consWord word words) (word ++ after) := by
  unfold Fieldwise.consWord
  split
  · next hnil => rwa [hnil, List.nil_append]
  · next hne => exact .word ⟨hne, hword⟩ hends h

theorem WordEnds.cons (h : WordEnds word after) (c : Char) : WordEnds (c :: word) after := by
  cases word with
  | nil => exact h.imp_right fun ⟨d, hd, _⟩ => nomatch hd
  | cons d word => exact h

/-- The word that goes on at the start of a text is over where the rest begins, and the rest is cut. -/
theorem exists_cutWord_eq (text : List Char) : ∃ word words rest, cutWord text = (word, words) ∧
    text = word ++ rest ∧ IsUnbroken word ∧ WordEnds word rest ∧ IsCutInto words rest := by
  induction text with
  | nil => exact ⟨[], [], [], rfl, rfl, trivial, Or.inl (by simp), .nil⟩
  | cons c text ih =>
    obtain ⟨word, words, rest, hcut, rfl, hword, hends, hothers⟩ := ih
    have hwhole : IsCutInto (nameWords (word ++ rest)) (word ++ rest) := by
      rw [nameWords, hcut]
      exact hothers.consWord hword hends
    rw [cutWord_cons]
    by_cases hsep : isWordSeparator c = true
    · refine ⟨[], _, c :: (word ++ rest), if_pos hsep, rfl, trivial, Or.inl fun s hs => ?_,
        .separator hsep hwhole⟩
      rwa [← Option.some.inj hs]
    · rw [if_neg hsep]
      have hsep := eq_false_of_ne_true hsep
      by_cases hboundary : isWordBoundary c (word ++ rest) = true
      · exact ⟨[c], _, word ++ rest, if_pos hboundary, rfl, ⟨hsep, rfl, trivial⟩,
          Or.inr ⟨c, rfl, hboundary⟩, hwhole⟩
      · rw [if_neg hboundary, hcut]
        refine ⟨c :: word, words, rest, rfl, rfl, ⟨hsep, ?_, hword⟩, hends.cons c, hothers⟩
        cases word with
        | nil => rfl
        | cons d word => exact eq_false_of_ne_true hboundary

theorem isCutInto_nameWords (text : List Char) : IsCutInto (nameWords text) text := by
  obtain ⟨word, words, rest, hcut, rfl, hword, hends, hothers⟩ := exists_cutWord_eq text
  rw [nameWords, hcut]
  exact hothers.consWord hword hends

/-- There is one way to cut a name into words. -/
theorem nameWords_eq_iff : nameWords text = words ↔ IsCutInto words text :=
  ⟨fun h => h ▸ isCutInto_nameWords text, nameWords_of_isCutInto⟩

end Words

/-! ### Words in upper case -/

/-- The separators, and the characters that end a word when an upper case character comes. -/
def breakingRuns : List Run :=
  lowercaseRuns ++ ⟨'0'.toNat, '9'.toNat, 1⟩ :: ⟨'_'.toNat, '_'.toNat, 1⟩ ::
    ⟨'-'.toNat, '-'.toNat, 1⟩ :: blankRanges.map fun r => ⟨r.1, r.2, 1⟩

/-- The character is no separator and ends no word. -/
structure GoesOn (c : Char) : Prop where
  notSeparator : isWordSeparator c = false
  notOver : endsBeforeUpper c = false

section Upper
variable {c : Char} {word text : List Char}

theorem inRuns_breakingRuns (c : Char) :
    inRuns breakingRuns c = (isWordSeparator c || endsBeforeUpper c) := by
  have hdigit : c.isDigit = (decide ('0'.toNat ≤ c.toNat) && decide (c.toNat ≤ '9'.toNat)) := by
    rw [Bool.eq_iff_iff, Numeral.isDigit_iff, Bool.and_eq_true, decide_eq_true_eq, decide_eq_true_eq]
    rfl
  have hchar : ∀ d : Char, decide (c = d) =
      (decide (d.toNat ≤ c.toNat) && decide (c.toNat ≤ d.toNat)) := fun d => by
    rw [Bool.eq_iff_iff, Bool.and_eq_true, decide_eq_true_eq, decide_eq_true_eq, decide_eq_true_eq,
      ← Char.toNat_inj]
    omega
  simp only [breakingRuns, inRuns, List.any_append, List.any_cons, List.any_map, Function.comp_def,
    Run.contains_of_step_one, isWordSeparator, endsBeforeUpper, isLowercase, isBlank, hdigit, hchar]
  ac_rfl

theorem GoesOn.of_not_mem (h : c.toNat ∉ codePoints breakingRuns) : GoesOn c := by
  have hnot : (isWordSeparator c || endsBeforeUpper c) = false := by
    rw [← inRuns_breakingRuns]
    exact eq_false_of_ne_true fun hc => h (mem_codePoints_of_inRuns hc)
  rw [Bool.or_eq_false_iff] at hnot
  exact ⟨hnot.1, hnot.2⟩

theorem mappedTexts_apart_breakingRuns :
    bitSet ((mappedTexts upperExpansions upperShifts).flatten.map Char.toNat) &&&
      bitSet (codePoints breakingRuns) = 0 := by decide +kernel

/-- A character is its own upper case, or its upper case begins with a character that is, and none of the
    characters of its upper case is a separator or ends a word. -/
theorem upperChar_cases (c : Char) : upperChar c = [c] ∨ ∃ d rest, upperChar c = d :: rest ∧
    upperChar d = [d] ∧ ∀ x ∈ d :: rest, GoesOn x := by
  refine (mapCase_eq_or_mem upperExpansions upperShifts c).imp_right
    fun (htext : upperChar c ∈ mappedTexts upperExpansions upperShifts) => ?_
  obtain ⟨d, rest, hupper⟩ := List.exists_cons_of_ne_nil (upperChar_ne_nil c)
  have hfirst : d ∈ upperChar c := hupper ▸ List.mem_cons_self
  refine ⟨d, rest, hupper, upperChar_of_mem_upperChar hfirst, fun x hx => ?_⟩
  refine .of_not_mem (not_mem_of_bitSet_and mappedTexts_apart_breakingRuns ?_)
  exact List.mem_map_of_mem (List.mem_flatten.mpr ⟨_, htext, by rwa [hupper]⟩)

theorem isWordBoundary_of_goesOn (h : GoesOn c) (rest : List Char) :
    isWordBoundary c rest = false := by
  cases rest with
  | nil => rfl
  | cons next rest => rw [isWordBoundary, h.notOver, Bool.false_and]

theorem IsUnbroken.append_left (hword : ∀ c ∈ word, GoesOn c) (h : IsUnbroken text) :
    IsUnbroken (word ++ text) := by
  induction word with
  | nil => exact h
  | cons c word ih =>
    obtain ⟨hc, hrest⟩ := List.forall_mem_cons.mp hword
    exact ⟨hc.notSeparator, isWordBoundary_of_goesOn hc _, ih hrest⟩

/-- A word is a word still when it begins in upper case. -/
theorem IsNameWord.capitalize (h : IsNameWord word) : IsNameWord (capitalize word) := by
  cases word with
  | nil => exact absurd rfl h.ne_nil
  | cons c word =>
    rcases upperChar_cases c with hupper | ⟨d, rest, hupper, -, hgo⟩
    · rwa [Fieldwise.capitalize, hupper]
    · rw [Fieldwise.capitalize, hupper]
      exact ⟨List.cons_ne_nil _ _, h.isUnbroken.2.2.append_left hgo⟩

theorem capitalize_capitalize (word : List Char) :
    capitalize (capitalize word) = capitalize word := by
  cases word with
  | nil => rfl
  | cons c word =>
    rcases upperChar_cases c with hupper | ⟨d, rest, hupper, hfirst, -⟩
    · simp only [capitalize, hupper, List.singleton_append]
    · simp only [capitalize, hupper, hfirst, List.cons_append, List.nil_append]

end Upper

/-! ### Labels -/

section Join
variable {words : List (List Char)} {c s : Char}

theorem mem_intercalate (h : c ∈ [s].intercalate words) : c = s ∨ ∃ w ∈ words, c ∈ w := by
  induction words with
  | nil => cases h
  | cons word words ih =>
    cases words with
    | nil => exact Or.inr ⟨word, List.mem_cons_self, by rwa [List.intercalate_singleton] at h⟩
    | cons word' words =>
      rw [List.intercalate_cons_cons, List.mem_append, List.mem_append, List.mem_singleton] at h
      rcases h with (h | h) | h
      · exact Or.inr ⟨word, List.mem_cons_self, h⟩
      · exact Or.inl h
      · exact (ih h).imp_right fun ⟨w, hw, hc⟩ => ⟨w, List.mem_cons_of_mem _ hw, hc⟩

theorem filter_intercalate (h : ∀ w ∈ words, s ∉ w) :
    ([s].intercalate words).filter (· != s) = words.flatten := by
  induction words with
  | nil => rfl
  | cons word words ih =>
    obtain ⟨hword, hwords⟩ := List.forall_mem_cons.mp h
    have hkept : word.filter (· != s) = word := by
      rw [List.filter_eq_self]
      exact fun c hc => bne_iff_ne.mpr fun heq => hword (heq ▸ hc)
    cases words with
    | nil => rw [List.intercalate_singleton, hkept, List.flatten_singleton]
    | cons word' words =>
      have hseparator : [s].filter (· != s) = [] := by simp
      rw [List.intercalate_cons_cons, List.filter_append, List.filter_append, hkept, hseparator,
        List.append_nil, ih hwords]
      rfl

end Join

theorem toList_titleCase (name : String) : (titleCase name).toList =
    [' '].intercalate ((nameWords name.toList).map capitalize) := String.toList_ofList

theorem isNameWord_of_mem_map_capitalize {text word : List Char}
    (h : word ∈ (nameWords text).map capitalize) : IsNameWord word := by
  obtain ⟨w, hw, rfl⟩ := List.mem_map.mp h
  exact ((isCutInto_nameWords text).isNameWord w hw).capitalize

theorem nameWords_titleCase (name : String) :
    nameWords (titleCase name).toList = (nameWords name.toList).map capitalize := by
  rw [toList_titleCase]
  exact nameWords_eq_iff.mpr
    (isCutInto_intercalate (by decide) fun _ => isNameWord_of_mem_map_capitalize)

theorem titleCase_titleCase (name : String) : titleCase (titleCase name) = titleCase name := by
  rw [← String.toList_inj, toList_titleCase, nameWords_titleCase, toList_titleCase, List.map_map]
  refine congrArg _ (List.map_congr_left fun word _ => ?_)
  exact capitalize_capitalize word

/-- A label has no separators but spaces. It is words in a row with one space between each two; they are
    the words that the name is cut into, the name without its separators, each with its first character in
    upper case. So it is the label of itself. -/
theorem labels_are_normal_forms (name : String) :
    (∀ c ∈ (titleCase name).toList, isWordSeparator c = true → c = ' ') ∧
    (∃ words : List (List Char), IsCutInto words name.toList ∧
      (∀ w ∈ words, IsNameWord w ∧ IsNameWord (capitalize w)) ∧
      words.flatten = name.toList.filter (fun c => !isWordSeparator c) ∧
      (titleCase name).toList = [' '].intercalate (words.map capitalize) ∧
      (titleCase name).toList.filter (· != ' ') = (words.map capitalize).flatten) ∧
    titleCase (titleCase name) = titleCase name := by
  have hcut := isCutInto_nameWords name.toList
  have hinside : ∀ w ∈ (nameWords name.toList).map capitalize, ∀ c ∈ w, isWordSeparator c = false :=
    fun w hw => (isNameWord_of_mem_map_capitalize hw).isUnbroken.isWordSeparator_eq_false
  have hspace : ∀ w ∈ (nameWords name.toList).map capitalize, ' ' ∉ w :=
    fun w hw hc => absurd (hinside w hw ' ' hc) (by decide)
  refine ⟨fun c hc hsep => ?_, ⟨nameWords name.toList, hcut, fun w hw => ?_, hcut.flatten_eq,
    toList_titleCase name, ?_⟩, titleCase_titleCase name⟩
  · rw [toList_titleCase] at hc
    rcases mem_intercalate hc with rfl | ⟨w, hw, hcw⟩
    · rfl
    · cases hsep.symm.trans (hinside w hw c hcw)
  · exact ⟨hcut.isNameWord w hw, (hcut.isNameWord w hw).capitalize⟩
  · rw [toList_titleCase, filter_intercalate hspace]

example : titleCase "__ßX\u2003-ŉa" = "SS X ʼNa" := by decide +kernel

end Fieldwise
