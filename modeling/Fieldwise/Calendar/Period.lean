import Fieldwise.Calendar.Date

/-!
Dates of limited precision. A `Granularity` is how precise a date is, and a `Period` is the day, the
month or the year in which a date lies, held as its first day. Two periods are compared at the
coarser of their granularities, so that neither side is taken to be more precise than it is.
-/

namespace Fieldwise

/-- How precise a date is. -/
inductive Granularity where
  | day
  | month
  | year
  deriving DecidableEq, Repr

namespace Granularity

def name : Granularity → String
  | day => "day"
  | month => "month"
  | year => "year"

/-- Forgets everything about a date that is finer than the granularity. -/
def truncate : Granularity → Date → Date
  | day, d => d
  | month, d => d.firstOfMonth
  | year, d => d.firstOfYear

def coarsest : Granularity → Granularity → Granularity
  | year, _ => year
  | _, year => year
  | month, _ => month
  | _, month => month
  | day, day => day

theorem truncate_truncate (g : Granularity) (d : Date) :
    g.truncate (g.truncate d) = g.truncate d := by
  cases g <;> rfl

end Granularity

/-- The day, month or year in which a date lies. -/
structure Period where
  start : Date
  granularity : Granularity
  truncate_start : granularity.truncate start = start
  deriving DecidableEq

namespace Period

/-- The period of a granularity in which a date lies. -/
def containing (d : Date) (g : Granularity) : Period := ⟨g.truncate d, g, g.truncate_truncate d⟩

/-- Compares two periods at the coarser of their granularities. -/
def compare (a b : Period) : Ordering :=
  let g := a.granularity.coarsest b.granularity
  Ord.compare (g.truncate a.start) (g.truncate b.start)

end Period

end Fieldwise
