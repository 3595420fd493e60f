import Fieldwise.Json.Value
import Fieldwise.Proofs.Decimal.Numeral
import Fieldwise.Proofs.Json.Quoted

/-!
Written values read back token by token. A keyword, a mark and a quoted string are read wherever they stand,
and a number wherever a mark or nothing follows it. In a text without blanks each token begins where the
one before it ends, so the reading of the whole text is a chain of single steps.
-/

namespace Fieldwise.Json

/-! ### Single tokens -/

/-- The text begins with the token, and the rest follows. -/
def BeginsWith (text : List Char) (t : Token) (rest : List Char) : Prop :=
  ∃ h, nextToken? text = some (t, ⟨rest, h⟩)

/-- A mark comes next, or the end of the text. -/
def MarkAhead (rest : List Char) : Prop := ∀ c ∈ rest.head?, (mark? c).isSome = true

section Tokens
variable {c : Char} {t : Token} {text rest : List Char}

theorem BeginsWith.ne_nil (h : BeginsWith text t rest) : text ≠ [] := by
  rintro rfl
  obtain ⟨_, h⟩ := h
  cases h

theorem nextToken?_of_isSpace (h : isSpace c = true) (text : List Char) :
    nextToken? (c :: text) = none := by
  simp only [isSpace, Bool.or_eq_true, decide_eq_true_eq] at h
  rcases h with ((rfl | rfl) | rfl) | rfl <;> rfl

/-- No token begins with a blank. -/
theorem BeginsWith.skipSpace (h : BeginsWith text t rest) : skipSpace text = text := by
  obtain ⟨c, text, rfl⟩ := List.exists_cons_of_ne_nil h.ne_nil
  obtain ⟨_, h⟩ := h
  refine List.dropWhile_cons_of_neg fun hspace => ?_
  rw [nextToken?_of_isSpace hspace] at h
  cases h

theorem beginsWith_mark (h : mark? c = some t) (rest : List Char) : BeginsWith (c :: rest) t rest := by
  refine ⟨Nat.lt_succ_self _, ?_⟩
  rw [nextToken?, h]

theorem beginsWith_quote (text rest : List Char) :
    BeginsWith (quote text ++ rest) (.string (unitsOf text)) rest := by
  have hscan := scanQuoted_escapes text rest
  rw [quote, List.append_assoc, List.cons_append, List.singleton_append]
  refine ⟨Nat.lt_succ_of_lt (length_of_scanQuoted hscan), ?_⟩
  rw [nextToken?]
  split
  · next hmark => cases hmark
  · rw [if_pos rfl]
    split
    · next hnone => cases hnone.symm.trans hscan
    · next hsome =>
      cases hsome.symm.trans hscan
      rfl

theorem beginsWith_null (rest : List Char) : BeginsWith ("null".toList ++ rest) .null rest := ⟨_, rfl⟩

theorem beginsWith_boolean (b : Bool) (rest : List Char) :
    BeginsWith (booleanText b ++ rest) (.boolean b) rest := by
  cases b
  · exact ⟨_, rfl⟩
  · exact ⟨_, rfl⟩

end Tokens

/-! ### Numbers -/

/-- The number as it is written when it is an integer. -/
def integerLiteral (n : Int) : NumberLiteral :=
  ⟨decide (n < 0), Numeral.natural n.natAbs, [], none⟩

section Numbers
variable {c : Char} {text rest : List Char}

theorem eq_of_isSome_mark? (h : (mark? c).isSome = true) :
    c = '\x7b' ∨ c = '\x7d' ∨ c = '[' ∨ c = ']' ∨ c = ',' ∨ c = ':' := by
  unfold mark? at h
  grind

theorem isDigit_of_isSome_mark? (h : (mark? c).isSome = true) : c.isDigit = false := by
  rcases eq_of_isSome_mark? h with rfl | rfl | rfl | rfl | rfl | rfl <;> rfl

theorem markAhead_cons (h : (mark? c).isSome = true) : MarkAhead (c :: rest) := by
  rintro _ ⟨⟩
  exact h

theorem MarkAhead.noDigitAhead (h : MarkAhead rest) : NoDigitAhead rest :=
  fun c hc => isDigit_of_isSome_mark? (h c hc)

/-- Before a mark there is neither a point nor an exponent. -/
theorem MarkAhead.ne_of_cons (h : MarkAhead (c :: rest)) : c ≠ '.' ∧ c ≠ 'e' ∧ c ≠ 'E' := by
  rcases eq_of_isSome_mark? (h c rfl) with rfl | rfl | rfl | rfl | rfl | rfl <;> decide

theorem scanWhole?_natural (m : Nat) (h : NoDigitAhead rest) :
    ∃ hlt, scanWhole? (Numeral.natural m ++ rest) = some (Numeral.natural m, ⟨rest, hlt⟩) := by
  have hdigits : ∀ d ∈ Numeral.natural m, d.isDigit = true := fun d => Numeral.isDigit_of_mem_natural
  obtain ⟨c, ds, hm⟩ := List.exists_cons_of_ne_nil (Numeral.natural_ne_nil m)
  rw [hm] at hdigits ⊢
  rw [List.cons_append]
  refine ⟨by simp only [List.length_cons, List.length_append]; omega, ?_⟩
  rw [scanWhole?]
  split
  · next hzero =>
    subst hzero
    obtain rfl := Numeral.eq_nil_of_natural_eq_zero_cons hm
    rfl
  · have hds : ∀ d ∈ ds, d.isDigit = true := fun d hd => hdigits d (List.mem_cons_of_mem _ hd)
    rw [if_pos (hdigits c List.mem_cons_self)]
    simp only [Numeral.takeWhile_isDigit_append hds h, Numeral.dropWhile_isDigit_append hds h]

theorem scanFraction?_of_markAhead (h : MarkAhead rest) :
    scanFraction? rest = some ([], ⟨rest, Nat.le_refl _⟩) := by
  unfold scanFraction?
  split
  · exact absurd rfl h.ne_of_cons.1
  · rfl

theorem scanExponent?_of_markAhead (h : MarkAhead rest) :
    scanExponent? rest = some (none, ⟨rest, Nat.le_refl _⟩) := by
  cases rest with
  | nil => rfl
  | cons c rest =>
    obtain ⟨-, hlower, hupper⟩ := h.ne_of_cons
    rw [scanExponent?, if_neg (by simp [hlower, hupper])]

theorem scanNumber?_natural (negative : Bool) (m : Nat) (h : MarkAhead rest) :
    ∃ hlt, scanNumber? negative (Numeral.natural m ++ rest) =
      some (.number ⟨negative, Numeral.natural m, [], none⟩, ⟨rest, hlt⟩) := by
  obtain ⟨hlt, hwhole⟩ := scanWhole?_natural m h.noDigitAhead
  refine ⟨hlt, ?_⟩
  simp only [scanNumber?, hwhole, scanFraction?_of_markAhead h, scanExponent?_of_markAhead h]

theorem nextToken?_of_isDigit (hc : c ∈ text.head?) (h : c.isDigit = true) :
    nextToken? text = scanNumber? false text := by
  cases text with
  | nil => cases hc
  | cons c' text =>
    cases hc
    have hmark : mark? c = none := by
      by_contra hmark
      rw [isDigit_of_isSome_mark? (Option.isSome_iff_ne_none.mpr hmark)] at h
      cases h
    have hquote : c ≠ '"' := by rintro rfl; cases h
    have hminus : c ≠ '-' := by rintro rfl; cases h
    rw [nextToken?, hmark]
    simp only [if_neg hquote, if_neg hminus, if_pos h]

theorem beginsWith_integer (n : Int) (h : MarkAhead rest) :
    BeginsWith (Numeral.integer n ++ rest) (.number (integerLiteral n)) rest := by
  obtain ⟨hlt, hscan⟩ := scanNumber?_natural (decide (n < 0)) n.natAbs h
  unfold Numeral.integer integerLiteral
  split
  · next hneg =>
    rw [decide_eq_true hneg] at hscan ⊢
    have hnext : nextToken? ('-' :: (Numeral.natural n.natAbs ++ rest)) =
        (scanNumber? true (Numeral.natural n.natAbs ++ rest)).map fun (t, ⟨rest, h⟩) =>
          (t, ⟨rest, Nat.lt_succ_of_lt h⟩) := rfl
    rw [hscan] at hnext
    exact ⟨_, hnext⟩
  · next hpos =>
    rw [decide_eq_false hpos] at hscan ⊢
    obtain ⟨c, ds, hm⟩ := List.exists_cons_of_ne_nil (Numeral.natural_ne_nil n.natAbs)
    have hc : c ∈ (Numeral.natural n.natAbs ++ rest).head? := by
      rw [hm]
      rfl
    have hdigit : c.isDigit = true := Numeral.isDigit_of_mem_natural (hm ▸ List.mem_cons_self)
    exact ⟨hlt, (nextToken?_of_isDigit hc hdigit).trans hscan⟩

end Numbers

/-! ### Texts of tokens -/

/-- A text without blanks takes the reading from one state to another, token by token. -/
inductive Leads : Reading → List Char → Reading → Prop where
  | done (s : Reading) : Leads s [] s
  | token {s s' s'' : Reading} {t : Token} {text rest : List Char} (first : BeginsWith text t rest)
      (step : s.step t = some s') (others : Leads s' rest s'') : Leads s text s''

section Leads
variable {s s' : Reading} {text : List Char} {n : Node}

theorem Leads.skipSpace (h : Leads s text s') : skipSpace text = text := by
  cases h with
  | done => rfl
  | token first => exact first.skipSpace

/-- The tokens of the text are those of the steps. -/
theorem Leads.tokensFrom? (h : Leads s text s') :
    ∃ tokens, tokensFrom? text = some tokens ∧ tokens.foldlM Reading.step s = some s' := by
  induction h with
  | done s =>
    refine ⟨[], ?_, rfl⟩
    rw [Json.tokensFrom?, if_pos rfl]
  | @token s s' s'' t text rest first step others ih =>
    obtain ⟨tokens, htokens, hsteps⟩ := ih
    refine ⟨t :: tokens, ?_, ?_⟩
    · obtain ⟨hlt, hnext⟩ := id first
      rw [Json.tokensFrom?, if_neg first.ne_nil, hnext]
      simp only [others.skipSpace, htokens, Option.map_some]
    · rw [List.foldlM_cons, step]
      exact hsteps

theorem read?_of_leads (h : Leads (.value []) text (.complete [] n)) :
    Node.read? text = some n := by
  obtain ⟨tokens, htokens, hsteps⟩ := h.tokensFrom?
  rw [Node.read?, tokens?, h.skipSpace, htokens, Option.bind_some, Node.ofTokens?, hsteps]

end Leads

end Fieldwise.Json
