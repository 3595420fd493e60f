import Fieldwise.Proofs.Message.Label

/-!
Labels of names of several words. Words with an underscore or a dash between them are cut apart where these
stand. In camel case a word is over where the capital of the next one comes behind a lower case letter or a
digit. A later word that is a single letter ends in its own capital, so it runs together with the next.
-/

namespace Fieldwise

/-! ### Spellings -/

/-- The character is an ASCII lower case letter or digit. -/
def isPlain (c : Char) : Bool := c.isLower || c.isDigit

/-- A word of ASCII lower case letters and digits that begins with a letter. -/
structure PlainWord where
  first : Char
  others : List Char
  isLower_first : first.isLower = true
  isPlain_others : others.all isPlain = true

namespace PlainWord

def chars (w : PlainWord) : List Char := w.first :: w.others

/-- The word with its first letter in upper case. -/
def capital (w : PlainWord) : List Char := w.first.toUpper :: w.others

end PlainWord

/-- The words in a row with a character between each two. -/
def spellWith (separator : Char) (words : List (List Char)) : String :=
  String.ofList ([separator].intercalate words)

/-- The first word as it is, each later one with its first letter in upper case, and nothing between. -/
def camelCase : List PlainWord → String
  | [] => ""
  | w :: later => String.ofList (w.chars ++ later.flatMap PlainWord.capital)

/-! ### ASCII letters and digits -/

/-- A property of all ASCII characters, checked one by one. -/
theorem forall_ascii {P : Char → Prop} (h : ∀ n < 128, P (Char.ofNat n)) (c : Char)
    (hc : c.toNat < 128) : P c := by
  rw [← Char.ofNat_toNat c]
  exact h c.toNat hc

section Ascii
variable {c : Char}

theorem isPlain_of_isLower (h : c.isLower = true) : isPlain c = true := by
  rw [isPlain, h, Bool.true_or]

theorem toNat_lt_of_isPlain (h : isPlain c = true) : c.toNat < 128 := by
  rcases Bool.or_eq_true_iff.mp h with hlower | hdigit
  · have hle : c.val ≤ 'z'.val := of_decide_eq_true (Bool.and_eq_true_iff.mp hlower).2
    exact Nat.lt_of_le_of_lt (UInt32.le_iff_toNat_le.mp hle) (by decide)
  · exact Nat.lt_of_le_of_lt (Numeral.isDigit_iff.mp hdigit).2 (by decide)

theorem cut_of_isPlain (h : isPlain c = true) :
    isWordSeparator c = false ∧ isUppercase c = false ∧ endsBeforeUpper c = true :=
  forall_ascii (P := fun c => isPlain c = true →
    isWordSeparator c = false ∧ isUppercase c = false ∧ endsBeforeUpper c = true)
    (by decide +kernel) c (toNat_lt_of_isPlain h) h

theorem upperChar_of_isLower (h : c.isLower = true) : upperChar c = [c.toUpper] :=
  forall_ascii (P := fun c => c.isLower = true → upperChar c = [c.toUpper])
    (by decide +kernel) c (toNat_lt_of_isPlain (isPlain_of_isLower h)) h

theorem cut_toUpper (h : c.isLower = true) : isWordSeparator c.toUpper = false ∧
    isUppercase c.toUpper = true ∧ endsBeforeUpper c.toUpper = false :=
  forall_ascii (P := fun c => c.isLower = true → isWordSeparator c.toUpper = false ∧
    isUppercase c.toUpper = true ∧ endsBeforeUpper c.toUpper = false)
    (by decide +kernel) c (toNat_lt_of_isPlain (isPlain_of_isLower h)) h

theorem isUnbroken_of_isPlain {text : List Char} (h : ∀ c ∈ text, isPlain c = true) :
    IsUnbroken text := by
  induction text with
  | nil => trivial
  | cons c text ih =>
    obtain ⟨hc, htext⟩ := List.forall_mem_cons.mp h
    refine ⟨(cut_of_isPlain hc).1, ?_, ih htext⟩
    cases text with
    | nil => rfl
    | cons d text =>
      obtain ⟨-, hnotUpper, -⟩ := cut_of_isPlain (htext d List.mem_cons_self)
      rw [isWordBoundary, hnotUpper, Bool.and_false]

end Ascii

namespace PlainWord
variable (w : PlainWord) (words : List PlainWord)

theorem isPlain_of_mem_others {c : Char} (h : c ∈ w.others) : isPlain c = true :=
  List.all_eq_true.mp w.isPlain_others c h

theorem isPlain_of_mem_chars {c : Char} (h : c ∈ w.chars) : isPlain c = true := by
  rcases List.mem_cons.mp h with rfl | h
  · exact isPlain_of_isLower w.isLower_first
  · exact w.isPlain_of_mem_others h

theorem isNameWord_chars : IsNameWord w.chars :=
  ⟨List.cons_ne_nil _ _, isUnbroken_of_isPlain fun _ => w.isPlain_of_mem_chars⟩

theorem capitalize_chars : capitalize w.chars = w.capital := by
  rw [chars, capitalize, upperChar_of_isLower w.isLower_first]
  rfl

theorem isNameWord_capital : IsNameWord w.capital :=
  w.capitalize_chars ▸ w.isNameWord_chars.capitalize

theorem capitalize_capital : capitalize w.capital = w.capital := by
  rw [← w.capitalize_chars, capitalize_capitalize]

theorem map_capitalize_chars : (words.map chars).map capitalize = words.map capital := by
  rw [List.map_map]
  exact List.map_congr_left fun w _ => w.capitalize_chars

theorem map_capitalize_capital : (words.map capital).map capitalize = words.map capital := by
  rw [List.map_map]
  exact List.map_congr_left fun w _ => w.capitalize_capital

end PlainWord

/-! ### Separated words -/

theorem nameWords_spellWith {s : Char} {words : List (List Char)} (hs : isWordSeparator s = true)
    (h : ∀ w ∈ words, IsNameWord w) : nameWords (spellWith s words).toList = words := by
  rw [spellWith, String.toList_ofList]
  exact nameWords_eq_iff.mpr (isCutInto_intercalate hs h)

theorem titleCase_eq_spellWith (name : String) :
    titleCase name = spellWith ' ' ((nameWords name.toList).map capitalize) := rfl

theorem titleCase_spellWith {s : Char} (hs : isWordSeparator s = true) (words : List PlainWord) :
    titleCase (spellWith s (words.map PlainWord.chars)) =
      spellWith ' ' (words.map PlainWord.capital) := by
  rw [titleCase_eq_spellWith, nameWords_spellWith hs, PlainWord.map_capitalize_chars]
  exact List.forall_mem_map.mpr fun w _ => w.isNameWord_chars

/-! ### Words in camel case -/

section Camel
variable {word : List Char} {words later : List PlainWord}

/-- A word whose last character is plain is over where a capital comes. -/
theorem wordEnds_capitals (h : ∀ c ∈ word.getLast?, isPlain c = true) (hne : word ≠ [])
    (later : List PlainWord) : WordEnds word (later.flatMap PlainWord.capital) := by
  cases later with
  | nil => exact Or.inl (by simp)
  | cons w later =>
    have hlast := List.getLast?_eq_some_getLast hne
    obtain ⟨-, -, hover⟩ := cut_of_isPlain (h _ hlast)
    obtain ⟨-, hupper, -⟩ := cut_toUpper w.isLower_first
    refine Or.inr ⟨word.getLast hne, hlast, ?_⟩
    rw [List.flatMap_cons, PlainWord.capital, List.cons_append, isWordBoundary, hover, hupper,
      Bool.and_self]

theorem isCutInto_capitals (h : ∀ w ∈ later.dropLast, w.others ≠ []) :
    IsCutInto (later.map PlainWord.capital) (later.flatMap PlainWord.capital) := by
  induction later with
  | nil => exact .nil
  | cons w later ih =>
    rw [List.map_cons, List.flatMap_cons]
    cases later with
    | nil => exact .word w.isNameWord_capital (Or.inl (by simp)) .nil
    | cons w' later =>
      rw [List.dropLast_cons_cons, List.forall_mem_cons] at h
      have hlast : ∀ c ∈ w.capital.getLast?, isPlain c = true := fun c hc => by
        rw [PlainWord.capital, List.getLast?_cons_of_ne_nil h.1] at hc
        exact w.isPlain_of_mem_others (List.mem_of_getLast? hc)
      exact .word w.isNameWord_capital (wordEnds_capitals hlast w.isNameWord_capital.ne_nil _) (ih h.2)

theorem titleCase_camelCase (h : ∀ w ∈ words.tail.dropLast, w.others ≠ []) :
    titleCase (camelCase words) = spellWith ' ' (words.map PlainWord.capital) := by
  cases words with
  | nil => rfl
  | cons w later =>
    have hends := wordEnds_capitals (fun c hc => w.isPlain_of_mem_chars (List.mem_of_getLast? hc))
      w.isNameWord_chars.ne_nil later
    have hcut := IsCutInto.word w.isNameWord_chars hends (isCutInto_capitals h)
    rw [titleCase_eq_spellWith, camelCase, String.toList_ofList, nameWords_eq_iff.mpr hcut,
      List.map_cons, List.map_cons, w.capitalize_chars, PlainWord.map_capitalize_capital]

/-! ### Words that run together -/

theorem length_cutWord_append_le (h : IsUnbroken word) (text : List Char) :
    (cutWord (word ++ text)).2.length ≤ (nameWords text).length := by
  induction word with
  | nil =>
    rw [List.nil_append, nameWords, consWord]
    split
    · exact le_rfl
    · exact Nat.le_succ _
  | cons c word ih =>
    obtain ⟨hsep, hboundary, hword⟩ := h
    rw [List.cons_append, cutWord_cons, hsep, if_neg Bool.false_ne_true]
    cases word with
    | nil =>
      split
      · exact le_rfl
      · exact ih trivial
    | cons d word =>
      rw [if_neg (by rw [List.cons_append]; exact ne_true_of_eq_false hboundary)]
      exact ih hword

/-- A text that can be a word adds one word at most to what follows it. -/
theorem length_nameWords_append_le (h : IsUnbroken word) (text : List Char) :
    (nameWords (word ++ text)).length ≤ (nameWords text).length + 1 := by
  have hcut := length_cutWord_append_le h text
  rw [nameWords, consWord]
  split
  · exact Nat.le_succ_of_le hcut
  · exact Nat.succ_le_succ hcut

theorem length_nameWords_capitals_le (later : List PlainWord) :
    (nameWords (later.flatMap PlainWord.capital)).length ≤ later.length := by
  induction later with
  | nil => exact le_rfl
  | cons w later ih =>
    exact (length_nameWords_append_le w.isNameWord_capital.isUnbroken _).trans (Nat.succ_le_succ ih)

/-- If the words with capitals are as many when they are cut again, only the last can be a single letter. -/
theorem others_ne_nil_of_length
    (h : later.length ≤ (nameWords (later.flatMap PlainWord.capital)).length) :
    ∀ w ∈ later.dropLast, w.others ≠ [] := by
  induction later with
  | nil => exact List.forall_mem_nil _
  | cons w later ih =>
    cases later with
    | nil => exact List.forall_mem_nil _
    | cons w' later =>
      rw [List.dropLast_cons_cons, List.forall_mem_cons]
      have hle := length_nameWords_append_le w.isNameWord_capital.isUnbroken
        ((w' :: later).flatMap PlainWord.capital)
      refine ⟨fun hnil => ?_, ih (Nat.le_of_succ_le_succ (h.trans hle))⟩
      -- The letter and the word behind it are one word.
      obtain ⟨hsep, -, hover⟩ := cut_toUpper w.isLower_first
      have hgo : ∀ c ∈ w.capital, GoesOn c := by
        rw [PlainWord.capital, hnil]
        exact List.forall_mem_singleton.mpr ⟨hsep, hover⟩
      have hjoined := length_nameWords_append_le
        (w'.isNameWord_capital.isUnbroken.append_left hgo) (later.flatMap PlainWord.capital)
      have hlater := length_nameWords_capitals_le later
      rw [List.flatMap_cons, List.flatMap_cons, ← List.append_assoc, List.length_cons,
        List.length_cons] at h
      omega

theorem others_ne_nil_of_titleCase_camelCase
    (h : titleCase (camelCase words) = spellWith ' ' (words.map PlainWord.capital)) :
    ∀ w ∈ words.tail.dropLast, w.others ≠ [] := by
  cases words with
  | nil => exact List.forall_mem_nil _
  | cons w later =>
    have hwords := congrArg (fun label => (nameWords label.toList).length) h
    rw [nameWords_titleCase, nameWords_spellWith (by decide)
      (List.forall_mem_map.mpr fun w _ => w.isNameWord_capital), List.length_map, List.length_map,
      camelCase, String.toList_ofList, List.length_cons] at hwords
    have hle := length_nameWords_append_le w.isNameWord_chars.isUnbroken
      (later.flatMap PlainWord.capital)
    rw [hwords] at hle
    exact others_ne_nil_of_length (Nat.le_of_succ_le_succ hle)

end Camel

/-! ### Labels of the conventions -/

/-- Names with underscores and names with dashes have the words, each with its first letter in upper case,
    as their label. A name in camel case has the same label exactly when no word but the first and the last
    is a single letter. -/
theorem labels_of_naming_conventions (words : List PlainWord) :
    titleCase (spellWith '_' (words.map PlainWord.chars)) =
      spellWith ' ' (words.map PlainWord.capital) ∧
    titleCase (spellWith '-' (words.map PlainWord.chars)) =
      spellWith ' ' (words.map PlainWord.capital) ∧
    (titleCase (camelCase words) = spellWith ' ' (words.map PlainWord.capital) ↔
      ∀ w ∈ words.tail.dropLast, w.chars.length ≠ 1) := by
  have hlength : ∀ w : PlainWord, w.chars.length ≠ 1 ↔ w.others ≠ [] := fun w => by
    rw [PlainWord.chars, List.length_cons, Ne, Nat.add_eq_right, List.length_eq_zero_iff]
  simp only [hlength]
  exact ⟨titleCase_spellWith (by decide) words, titleCase_spellWith (by decide) words,
    others_ne_nil_of_titleCase_camelCase, titleCase_camelCase⟩

/-- A single letter between two others is no word of the label. -/
theorem camel_case_joins_inner_letter :
    titleCase (camelCase [⟨'a', [], rfl, rfl⟩, ⟨'b', [], rfl, rfl⟩, ⟨'c', [], rfl, rfl⟩]) ≠
      spellWith ' ' (List.map PlainWord.capital
        [⟨'a', [], rfl, rfl⟩, ⟨'b', [], rfl, rfl⟩, ⟨'c', [], rfl, rfl⟩]) := by
  decide +kernel

end Fieldwise
