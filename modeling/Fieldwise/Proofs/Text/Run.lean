import Fieldwise.Text.CaseMapping
import Mathlib.Data.Nat.Bitwise

/-!
Tables of characters as sets of code points. A set of numbers can be written as one number, with a bit for
each member, so that one operation tells whether two sets have a member in common. A case mapping leaves
every character as it is whose code point it has no entry for, and maps any other to one of its texts.
-/

namespace Fieldwise

/-! ### Sets of numbers as bits -/

/-- The number whose bits are at the places `ns`. -/
def bitSet (ns : List Nat) : Nat := ns.foldr (fun n bits => 1 <<< n ||| bits) 0

theorem testBit_bitSet {ns : List Nat} {n : Nat} : (bitSet ns).testBit n = true ↔ n ∈ ns := by
  induction ns with
  | nil => simp [bitSet]
  | cons m ns ih =>
    have hcons : bitSet (m :: ns) = 1 <<< m ||| bitSet ns := rfl
    rw [hcons, Nat.testBit_or, Nat.one_shiftLeft, Nat.testBit_two_pow, Bool.or_eq_true, ih,
      decide_eq_true_eq, List.mem_cons, eq_comm]

theorem not_mem_of_bitSet_and {ms ns : List Nat} {n : Nat} (h : bitSet ms &&& bitSet ns = 0)
    (hn : n ∈ ms) : n ∉ ns := by
  intro hn'
  have hbit := congrArg (fun bits => bits.testBit n) h
  rw [Nat.testBit_and, testBit_bitSet.mpr hn, testBit_bitSet.mpr hn', Nat.zero_testBit] at hbit
  cases hbit

/-! ### Code points of runs -/

theorem Run.contains_of_step_one (first last n : Nat) :
    (Run.mk first last 1).contains n = (decide (first ≤ n) && decide (n ≤ last)) := by
  rw [contains, Nat.mod_one, decide_eq_true rfl, Bool.and_true]

/-- The code points of a run. -/
def Run.members (r : Run) : List Nat :=
  (List.range ((r.last - r.first) / r.step + 1)).map fun k => r.first + r.step * k

theorem Run.mem_members_of_contains {r : Run} {n : Nat} (h : r.contains n = true) :
    n ∈ r.members := by
  simp only [Run.contains, Bool.and_eq_true, decide_eq_true_eq] at h
  obtain ⟨⟨hfirst, hlast⟩, hstep⟩ := h
  have hle : (n - r.first) / r.step ≤ (r.last - r.first) / r.step :=
    Nat.div_le_div_right (Nat.sub_le_sub_right hlast _)
  refine List.mem_map.mpr ⟨(n - r.first) / r.step, List.mem_range.mpr (Nat.lt_succ_of_le hle), ?_⟩
  rw [Nat.mul_div_cancel' (Nat.dvd_of_mod_eq_zero hstep), Nat.add_sub_cancel' hfirst]

/-- The code points of all runs. -/
def codePoints (runs : List Run) : List Nat := runs.flatMap Run.members

theorem mem_codePoints {runs : List Run} {r : Run} {n : Nat} (hr : r ∈ runs)
    (h : r.contains n = true) : n ∈ codePoints runs :=
  List.mem_flatMap.mpr ⟨r, hr, Run.mem_members_of_contains h⟩

theorem mem_codePoints_of_inRuns {runs : List Run} {c : Char} (h : inRuns runs c = true) :
    c.toNat ∈ codePoints runs := by
  obtain ⟨r, hr, hc⟩ := List.any_eq_true.mp h
  exact mem_codePoints hr hc

/-! ### Case mappings -/

section MapCase
variable {expansions : List (Nat × List Nat)} {shifts : List ShiftRun} {c : Char}

/-- The code points that a case mapping has an entry for. -/
def mappedCodePoints (expansions : List (Nat × List Nat)) (shifts : List ShiftRun) : List Nat :=
  expansions.map Prod.fst ++ codePoints (shifts.map ShiftRun.toRun)

/-- The texts that a case mapping has for the characters that it has an entry for. -/
def mappedTexts (expansions : List (Nat × List Nat)) (shifts : List ShiftRun) : List (List Char) :=
  expansions.map (fun e => e.2.map Char.ofNat) ++
    shifts.flatMap fun r => r.members.map fun n : Nat => [Char.ofNat ((n : Int) + r.distance).toNat]

theorem mapCase_of_not_mem (h : c.toNat ∉ mappedCodePoints expansions shifts) :
    mapCase expansions shifts c = [c] := by
  rw [mappedCodePoints, List.mem_append, not_or] at h
  obtain ⟨hexpansion, hshift⟩ := h
  have hnone : expansions.find? (fun e => e.1 = c.toNat) = none := by
    rw [List.find?_eq_none]
    intro e he heq
    exact hexpansion (List.mem_map.mpr ⟨e, he, of_decide_eq_true heq⟩)
  have hnone' : shifts.find? (fun r => r.contains c.toNat) = none := by
    rw [List.find?_eq_none]
    intro r hr hc
    exact hshift (mem_codePoints (List.mem_map_of_mem hr) hc)
  simp only [mapCase, shift?, hnone, hnone', Option.map_none, Option.getD_none]

theorem mapCase_eq_or_mem (expansions : List (Nat × List Nat)) (shifts : List ShiftRun) (c : Char) :
    mapCase expansions shifts c = [c] ∨
      mapCase expansions shifts c ∈ mappedTexts expansions shifts := by
  unfold mapCase mappedTexts
  rw [List.mem_append]
  split
  · next code codes hfound =>
    exact Or.inr (Or.inl (List.mem_map.mpr ⟨_, List.mem_of_find?_eq_some hfound, rfl⟩))
  · cases hfound : shifts.find? fun r => r.contains c.toNat with
    | none => exact Or.inl (by rw [shift?, hfound, Option.map_none, Option.getD_none])
    | some r =>
      have hcontains : r.contains c.toNat = true :=
        List.find?_some (p := fun r : ShiftRun => r.contains c.toNat) hfound
      refine Or.inr (Or.inr (List.mem_flatMap.mpr ⟨r, List.mem_of_find?_eq_some hfound, ?_⟩))
      refine List.mem_map.mpr ⟨c.toNat, Run.mem_members_of_contains hcontains, ?_⟩
      rw [shift?, hfound, Option.map_some, Option.getD_some]

end MapCase

end Fieldwise
