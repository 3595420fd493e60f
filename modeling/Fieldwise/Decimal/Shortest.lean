import Fieldwise.Decimal.Binary

/-!
The shortest decimal of a floating point number: the decimal with the fewest digits that reads back
as the number, and of two such decimals the nearer one. All arithmetic is exact. The number is held
as a mantissa times a power of two; the reals that round to it reach half way to its neighbours, and
the two ends count exactly when the mantissa is even.
-/

namespace Fieldwise

/-- A decimal `digits * 10 ^ exponent`. -/
structure Decimal where
  digits : Nat
  exponent : Int
  deriving DecidableEq, Repr

/-- Which of two equally near decimals is taken. -/
inductive Tie where
  | toEven
  | up
  deriving DecidableEq, Repr

namespace Magnitude

/-- The lower end of the reals that round to the number, in quarters of the last binary place. -/
def lower (x : Magnitude) : Nat := if x.narrowBelow then 4 * x.mantissa - 1 else 4 * x.mantissa - 2

/-- The upper end of the reals that round to the number, in quarters of the last binary place. -/
def upper (x : Magnitude) : Nat := 4 * x.mantissa + 2

/-- A step of the grid of the multiples of `10 ^ k`, in a unit in which quarters of the last binary
    place are whole numbers too. -/
def gridStep (x : Magnitude) (k : Int) : Nat :=
  Nat.pow 10 k.toNat * Nat.pow 2 (2 - x.exponent).toNat

/-- A quarter of the last binary place, in the same unit as `gridStep`. -/
def quarter (x : Magnitude) (k : Int) : Nat :=
  Nat.pow 2 (x.exponent - 2).toNat * Nat.pow 10 (-k).toNat

/-- The decimal `n * 10 ^ k` rounds to the number. -/
def readsBack (x : Magnitude) (k : Int) (n : Nat) : Bool :=
  let point := n * x.gridStep k
  let low := x.lower * x.quarter k
  let high := x.upper * x.quarter k
  if x.mantissa % 2 = 0 then low ≤ point && point ≤ high else low < point && point < high

/-- The multiple of `10 ^ k` that reads back as the number, if there is one; the nearer one of the
    number's two neighbours on the grid if both do. -/
def nearest? (x : Magnitude) (tie : Tie) (k : Int) : Option Nat :=
  let step := x.gridStep k
  let value := 4 * x.mantissa * x.quarter k
  let below := value / step
  match x.readsBack k below, x.readsBack k (below + 1) with
  | false, false => none
  | true, false => some below
  | false, true => some (below + 1)
  | true, true =>
    match compare (2 * value) ((2 * below + 1) * step), tie with
    | .lt, _ => some below
    | .gt, _ => some (below + 1)
    | .eq, .up => some (below + 1)
    | .eq, .toEven => some (if below % 2 = 0 then below else below + 1)

/-- The number itself as a decimal. -/
def exact (x : Magnitude) : Decimal :=
  if 0 ≤ x.exponent then ⟨x.mantissa * Nat.pow 2 x.exponent.toNat, 0⟩
  else ⟨x.mantissa * Nat.pow 5 (-x.exponent).toNat, x.exponent⟩

/-- Looks for a decimal that reads back on ever finer grids, `steps` of them from `10 ^ k` on. -/
def search (x : Magnitude) (tie : Tie) (k : Int) : (steps : Nat) → Decimal
  | 0 => x.exact
  | steps + 1 =>
    match x.nearest? tie k with
    | some n => ⟨n, k⟩
    | none => x.search tie (k - 1) steps

/-- A power of ten that is greater than the number: its binary length is at most 53 places more than
    its exponent, and a binary place is a little less than 0.30103 decimal ones. -/
def coarsestGrid (x : Magnitude) : Int := (x.exponent + 53) * 30103 / 100000 + 2

/-- The shortest decimal that reads back as the number. The last grid looked at holds the number
    itself. -/
def shortest (x : Magnitude) (tie : Tie) : Decimal :=
  x.search tie x.coarsestGrid (x.coarsestGrid - min x.exponent 0 + 1).toNat

end Magnitude

end Fieldwise
