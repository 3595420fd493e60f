/-!
The three components of a calendar date, and how each appears in a date pattern and in a written
date.
-/

namespace Fieldwise

/-- A component of a calendar date. -/
inductive Component where
  | day
  | month
  | year
  deriving DecidableEq, Repr

namespace Component

/-- The letter that stands for the component in a pattern. -/
def letter : Component → Char
  | day => 'D'
  | month => 'M'
  | year => 'Y'

/-- The number of digits with which the component is written. -/
def width : Component → Nat
  | day => 2
  | month => 2
  | year => 4

/-- The component in a pattern: its letter, once for each digit. -/
def symbol (c : Component) : List Char := List.replicate c.width c.letter

@[simp] theorem symbol_day : day.symbol = ['D', 'D'] := rfl

@[simp] theorem symbol_month : month.symbol = ['M', 'M'] := rfl

@[simp] theorem symbol_year : year.symbol = ['Y', 'Y', 'Y', 'Y'] := rfl

theorem width_pos (c : Component) : 0 < c.width := by cases c <;> decide

end Component

end Fieldwise
