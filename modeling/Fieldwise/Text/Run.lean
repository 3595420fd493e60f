/-!
Runs of code points. Tables of character properties list the characters that have a property as
runs: every code point, or every second one, from a first to a last. Tables of case pairs add the
distance from each character of a run to its partner.
-/

namespace Fieldwise

/-- The code points from `first` to `last` in steps of `step`. -/
structure Run where
  first : Nat
  last : Nat
  step : Nat

def Run.contains (r : Run) (n : Nat) : Bool :=
  r.first ≤ n && n ≤ r.last && (n - r.first) % r.step = 0

/-- The code points from `first` to `last` in steps of `step`, each with the partner `distance`
    away. -/
structure ShiftRun extends Run where
  distance : Int

def inRuns (runs : List Run) (c : Char) : Bool := runs.any fun r => r.contains c.toNat

/-- The partner that the runs give a character. -/
def shift? (runs : List ShiftRun) (c : Char) : Option Char :=
  (runs.find? fun r => r.contains c.toNat).map fun r =>
    Char.ofNat ((c.toNat : Int) + r.distance).toNat

end Fieldwise
