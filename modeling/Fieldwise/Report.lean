import Fieldwise.Table

/-!
Reports of what a validation found: for each field that failed a rule, the messages by message key.
-/

namespace Fieldwise

/-- The failures found in a record. -/
@[ext]
structure Report where
  success : Bool
  messages : Table (Table String)

namespace Report

def passed : Report := ⟨true, .empty⟩

/-- Adds a failure of a field. A second failure with the same key takes the place of the first. -/
def addFailure (r : Report) (field key message : String) : Report :=
  ⟨false, r.messages.insert field (((r.messages.get? field).getD .empty).insert key message)⟩

def field? (r : Report) (field : String) : Option (Table String) := r.messages.get? field

def hasFailure (r : Report) (field : String) : Bool := r.messages.contains field

def message? (r : Report) (field key : String) : Option String :=
  (r.field? field).bind fun messages => messages.get? key

def failureCount (r : Report) : Nat :=
  r.messages.entries.foldl (fun n e => n + e.2.size) 0

end Report

end Fieldwise
