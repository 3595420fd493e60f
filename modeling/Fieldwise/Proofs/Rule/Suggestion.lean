import Fieldwise.Rule.Spec
import Fieldwise.Proofs.Rule.Grammar
import Fieldwise.Proofs.Text.EditDistance
import Fieldwise.Proofs.Text.Utf8
import Mathlib.Data.List.MinMax

/-!
Suggestions for names that are none. A suggestion is the first of the candidates that are nearest to the
word when case is ignored, so a word that is a name but for its case is answered with this name. How far a
suggestion may be is counted in bytes: it is within half of the characters of the longer text where each
character is one byte, and not in general.
-/

namespace Fieldwise

/-- The number of single character edits between two texts when case is ignored. -/
def distanceIgnoringCase (s t : String) : Nat :=
  editDistance (lowerText s.toList) (lowerText t.toList)

theorem distanceIgnoringCase_eq_zero_iff {s t : String} :
    distanceIgnoringCase s t = 0 ↔ lowerText s.toList = lowerText t.toList :=
  editDistance_eq_zero_iff

/-! ### The nearest candidate -/

section Nearest
variable {α : Type}

theorem nearest?_map (f : α → String) (distance : α → Nat) (candidates : List α) :
    nearest? (candidates.map fun a => (f a, distance a)) =
      (candidates.argmin distance).map fun a => (f a, distance a) := by
  induction candidates with
  | nil => rfl
  | cons a rest ih =>
    rw [List.map_cons, nearest?, ih, List.argmin_cons]
    cases rest.argmin distance with
    | none => rfl
    | some best => by_cases h : distance best < distance a <;> simp [h]

theorem suggestion?_map_eq_some_iff {f : α → String} {word name : String} {candidates : List α} :
    suggestion? word (candidates.map f) = some name ↔
      ∃ a, candidates.argmin (fun a => distanceIgnoringCase word (f a)) = some a ∧ f a = name ∧
        distanceIgnoringCase word name ≤ max word.utf8ByteSize name.utf8ByteSize / 2 := by
  have hnearest := nearest?_map f (fun a => distanceIgnoringCase word (f a)) candidates
  simp only [suggestion?, List.map_map, Function.comp_def]
  unfold distanceIgnoringCase at hnearest ⊢
  rw [hnearest]
  cases candidates.argmin fun a => editDistance (lowerText word.toList) (lowerText (f a).toList) with
  | none => simp
  | some a =>
    simp only [Option.map_some, Option.ite_none_right_eq_some, Option.some.injEq]
    constructor
    · rintro ⟨hle, rfl⟩
      exact ⟨a, rfl, rfl, hle⟩
    · rintro ⟨_, rfl, rfl, hle⟩
      exact ⟨hle, rfl⟩

theorem suggestion?_eq_some_iff {word name : String} {candidates : List String} :
    suggestion? word candidates = some name ↔
      candidates.argmin (distanceIgnoringCase word) = some name ∧
        distanceIgnoringCase word name ≤ max word.utf8ByteSize name.utf8ByteSize / 2 := by
  rw [← List.map_id candidates, suggestion?_map_eq_some_iff, List.map_id]
  constructor
  · rintro ⟨_, hmin, rfl, hle⟩
    exact ⟨hmin, hle⟩
  · rintro ⟨hmin, hle⟩
    exact ⟨name, hmin, rfl, hle⟩

end Nearest

/-! ### How far a suggestion may be -/

theorem utf8ByteSize_of_ascii {s : String} (h : ∀ c ∈ s.toList, c.toNat ≤ 127) :
    s.utf8ByteSize = s.length := by
  rw [← utf8Length_toList, utf8Length_of_ascii h, String.length_toList]

/-- A suggestion is within half of the characters of the longer text exactly when the nearest candidate is
    not farther than that and yet within half of the bytes. With ASCII characters alone the bytes are the
    characters, and the nearest candidate is suggested whenever it is within half of them. -/
theorem suggestion_within_half_of_characters_iff (word : String) (candidates : List String) :
    ((∀ name, suggestion? word candidates = some name →
        distanceIgnoringCase word name ≤ max word.length name.length / 2) ↔
      ¬ ∃ name, candidates.argmin (distanceIgnoringCase word) = some name ∧
        max word.length name.length / 2 < distanceIgnoringCase word name ∧
        distanceIgnoringCase word name ≤ max word.utf8ByteSize name.utf8ByteSize / 2) ∧
    ((∀ s ∈ word :: candidates, ∀ c ∈ s.toList, c.toNat ≤ 127) → ∀ name,
      (suggestion? word candidates = some name ↔
        candidates.argmin (distanceIgnoringCase word) = some name ∧
          distanceIgnoringCase word name ≤ max word.length name.length / 2)) := by
  constructor
  · simp only [suggestion?_eq_some_iff, not_exists, not_and, not_le, and_imp]
    refine forall_congr' fun name => forall_congr' fun _ => ?_
    constructor
    · intro hwithin hfar
      exact lt_of_not_ge fun hbytes => absurd (hwithin hbytes) (not_le_of_gt hfar)
    · intro hfar hbytes
      exact le_of_not_gt fun h => absurd hbytes (not_le_of_gt (hfar h))
  · intro hascii name
    rw [suggestion?_eq_some_iff]
    refine and_congr_right fun hmin => ?_
    rw [utf8ByteSize_of_ascii (hascii word List.mem_cons_self),
      utf8ByteSize_of_ascii (hascii name (List.mem_cons_of_mem _ (List.argmin_mem hmin)))]

/-- A word of five characters that has none of them in common with the name of a kind, but takes fifteen
    bytes: the nearest name is suggested, in which every character differs. -/
theorem unrelated_name_is_suggested :
    suggestion? "日本語日本" (RuleKind.all.map RuleKind.name) = some "integer" ∧
      ¬ distanceIgnoringCase "日本語日本" "integer" ≤
        max "日本語日本".length "integer".length / 2 := by
  decide +kernel

/-! ### Names of kinds -/

namespace RuleKind

theorem lowerText_name_inj {k j : RuleKind}
    (h : lowerText k.name.toList = lowerText j.name.toList) : k = j := by
  have hall : ∀ k ∈ all, ∀ j ∈ all,
      lowerText k.name.toList = lowerText j.name.toList → k = j := by decide +kernel
  exact hall k (mem_all k) j (mem_all j) h

/-- A word that is the name of no kind is refused, and told. If a name is suggested, no other one is nearer
    and none before it is as near; and a word that is a name but for its case has this name suggested. -/
theorem unknown_names_suggest_nearest (s : String) (h : ∀ k : RuleKind, k.name ≠ s) :
    ∃ suggestion, read s = .error (.unknownRule s suggestion) ∧
      (∀ n, suggestion = some n → ∃ k : RuleKind, k.name = n ∧
        (∀ j : RuleKind, distanceIgnoringCase s k.name ≤ distanceIgnoringCase s j.name) ∧
        ∀ j : RuleKind, distanceIgnoringCase s j.name = distanceIgnoringCase s k.name →
          all.idxOf k ≤ all.idxOf j) ∧
      ∀ k : RuleKind, lowerText s.toList = lowerText k.name.toList → suggestion = some k.name := by
  refine ⟨_, read_eq_error h, ?_, ?_⟩
  · intro n hn
    obtain ⟨k, hmin, hname, -⟩ := suggestion?_map_eq_some_iff.mp hn
    obtain ⟨-, hleast, hfirst⟩ := List.argmin_eq_some_iff.mp hmin
    exact ⟨k, hname, fun j => hleast j (mem_all j), fun j hj => hfirst j (mem_all j) hj.le⟩
  · intro k hk
    have hzero : distanceIgnoringCase s k.name = 0 := distanceIgnoringCase_eq_zero_iff.mpr hk
    refine suggestion?_map_eq_some_iff.mpr ⟨k, ?_, rfl, hzero.le.trans (Nat.zero_le _)⟩
    refine List.argmin_eq_some_iff.mpr ⟨mem_all k, fun j _ => hzero.le.trans (Nat.zero_le _), ?_⟩
    -- No other name is as near: two names differ in more than their case.
    intro j _ hj
    have hj' := distanceIgnoringCase_eq_zero_iff.mp (Nat.le_zero.mp (hj.trans hzero.le))
    rw [lowerText_name_inj (hk.symm.trans hj')]

/-- A word that is as near to the name of a kind as to that of a later one is given the first of the two,
    and a name in capitals is given as it is. -/
theorem word_between_two_names_suggests_first :
    read "dateer" = .error (.unknownRule "dateer" (some "integer")) ∧
      (∀ j : RuleKind, distanceIgnoringCase "dateer" "integer" ≤ distanceIgnoringCase "dateer" j.name) ∧
      distanceIgnoringCase "dateer" "integer" = distanceIgnoringCase "dateer" "dateAfter" ∧
      read "DATEBEFORE" = .error (.unknownRule "DATEBEFORE" (some "dateBefore")) := by
  obtain ⟨suggestion, hread, hnearest, -⟩ := unknown_names_suggest_nearest "dateer"
    (fun k => by cases k <;> decide)
  have hinteger : read "dateer" = .error (.unknownRule "dateer" (some "integer")) := by decide +kernel
  obtain rfl : some "integer" = suggestion := by
    rw [hread, Except.error.injEq, RuleError.unknownRule.injEq] at hinteger
    exact hinteger.2.symm
  obtain ⟨k, hk, hleast, -⟩ := hnearest "integer" rfl
  obtain ⟨suggestion', hread', -, hsame⟩ := unknown_names_suggest_nearest "DATEBEFORE"
    (fun k => by cases k <;> decide)
  refine ⟨hread, hk ▸ hleast, by decide +kernel, ?_⟩
  rw [hread', hsame .dateBefore (by decide +kernel)]
  rfl

end RuleKind

end Fieldwise
