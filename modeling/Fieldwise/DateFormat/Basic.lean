import Fieldwise.Calendar.Period
import Fieldwise.DateFormat.Token

/-!
Date formats. A format is a pattern such as `DD/MM/YYYY` in which every component stands at most
once, at least one stands, and the day only together with the month.
-/

namespace Fieldwise

/-- Why a pattern is no date format. -/
inductive FormatError where
  | repeated (c : Component)
  | noComponent
  | dayWithoutMonth
  deriving DecidableEq, Repr

def FormatError.message : FormatError → String
  | repeated c => "token " ++ String.ofList c.symbol ++ " appears more than once"
  | noComponent => "no DD, MM or YYYY token"
  | dayWithoutMonth => "DD requires MM"

/-- A date format: the pieces of its pattern. -/
structure DateFormat where
  tokens : List FormatToken
  nodup_components : (FormatToken.components tokens).Nodup
  components_ne_nil : FormatToken.components tokens ≠ []
  month_mem_of_day_mem : Component.day ∈ FormatToken.components tokens →
    Component.month ∈ FormatToken.components tokens
  deriving DecidableEq

namespace DateFormat

/-- The first component that stands a second time, when those in `seen` stand further left. -/
def firstRepeated? (seen : List Component) : List Component → Option Component
  | [] => none
  | c :: cs => if c ∈ seen then some c else firstRepeated? (c :: seen) cs

theorem firstRepeated?_eq_none_iff {seen cs : List Component} :
    firstRepeated? seen cs = none ↔ cs.Nodup ∧ ∀ c ∈ cs, c ∉ seen := by
  induction cs generalizing seen with
  | nil => simp [firstRepeated?]
  | cons c cs ih =>
    unfold firstRepeated?
    split
    · next h => simp [h]
    · next h =>
      rw [ih]
      simp only [List.nodup_cons, List.mem_cons, not_or]
      constructor
      · rintro ⟨hn, hs⟩
        refine ⟨⟨fun hc => (hs c hc).1 rfl, hn⟩, ?_⟩
        rintro x (rfl | hx)
        · exact h
        · exact (hs x hx).2
      · rintro ⟨⟨hc, hn⟩, hs⟩
        exact ⟨hn, fun x hx => ⟨fun e => hc (e ▸ hx), hs x (Or.inr hx)⟩⟩

/-- The format that pieces make up. A repeated component is found before any other fault. -/
def ofTokens (tokens : List FormatToken) : Except FormatError DateFormat :=
  match hr : firstRepeated? [] (FormatToken.components tokens) with
  | some c => .error (.repeated c)
  | none =>
    if hne : FormatToken.components tokens = [] then .error .noComponent
    else if hday : .day ∈ FormatToken.components tokens ∧
        .month ∉ FormatToken.components tokens then
      .error .dayWithoutMonth
    else .ok ⟨tokens, (firstRepeated?_eq_none_iff.mp hr).1, hne,
      fun h => Classical.byContradiction fun hm => hday ⟨h, hm⟩⟩

def ofPattern (pattern : List Char) : Except FormatError DateFormat :=
  ofTokens (FormatToken.tokenize pattern)

theorem tokens_of_ofTokens {tokens : List FormatToken} {f : DateFormat}
    (h : ofTokens tokens = .ok f) : f.tokens = tokens := by
  unfold ofTokens at h
  split at h
  · cases h
  · split at h
    · cases h
    · split at h
      · cases h
      · cases h; rfl

def pattern (f : DateFormat) : List Char := FormatToken.spell f.tokens

def components (f : DateFormat) : List Component := FormatToken.components f.tokens

def has (f : DateFormat) (c : Component) : Bool := decide (c ∈ f.components)

/-- The precision of the dates that the format writes. -/
def granularity (f : DateFormat) : Granularity :=
  if f.has .day then .day else if f.has .month then .month else .year

/-- The pattern of a format is the one that it was made from. -/
theorem pattern_of_ofPattern {p : List Char} {f : DateFormat} (h : ofPattern p = .ok f) :
    f.pattern = p := by
  rw [pattern, tokens_of_ofTokens h, FormatToken.spell_tokenize]

end DateFormat

end Fieldwise
