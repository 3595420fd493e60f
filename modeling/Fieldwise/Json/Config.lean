import Fieldwise.Config
import Fieldwise.Json.Rules
import Fieldwise.Report

/-!
Configurations and reports as JSON. Each is an object in which every field must stand once and other
members are passed over, or an array of the fields in order. What stands in a member that is passed
over need only be well formed.
-/

namespace Fieldwise

namespace Json.Node

def boolean? : Node → Option Bool
  | boolean b => some b
  | _ => none

def int32? : Node → Option Int
  | number n =>
    match n.value? with
    | some (.integer n) => if Numeral.FitsInt32 n then some n else none
    | _ => none
  | _ => none

/-- The fields that a node gives to a structure with these field names. -/
def fields? (names : List String) : Node → Option (List Node)
  | array items => if items.length = names.length then some items else none
  | object members => do
    let members ← members.mapM fun (m : Quoted × Node) => m.1.string?.map fun key => (key, m.2)
    names.mapM fun name =>
      match members.filter fun m => m.1 = name with
      | [m] => some m.2
      | _ => none
  | _ => none

end Json.Node

namespace ClockKind

/-- The clock that a node names: by a string, or by the one key of an object with a null. -/
def ofNode? : Json.Node → Option ClockKind
  | .object [(key, .null)] => key.string?.bind ofName?
  | node => node.string?.bind ofName?

def readJson? (s : String) : Option ClockKind := (Json.Node.read? s.toList).bind ofNode?

def json (clock : ClockKind) : List Char := Json.quote clock.name.toList

end ClockKind

namespace Config

def readJson? (s : String) : Option Config := do
  let node ← Json.Node.read? s.toList
  match ← node.fields? ["profile", "reference_year", "clock"] with
  | [profile, referenceYear, clock] =>
    return ⟨← profile.string?, ← referenceYear.int32?, ← ClockKind.ofNode? clock⟩
  | _ => none

def json (c : Config) : List Char :=
  Json.objectText [("profile", Json.quote c.profile.toList),
    ("reference_year", Numeral.integer c.referenceYear), ("clock", c.clock.json)]

end Config

namespace Report

def readJson? (s : String) : Option Report := do
  let node ← Json.Node.read? s.toList
  match ← node.fields? ["success", "messages"] with
  | [success, messages] =>
    return ⟨← success.boolean?, ← messages.table? (Json.Node.table? Json.Node.string?)⟩
  | _ => none

def json (r : Report) : List Char :=
  Json.objectText [("success", Json.booleanText r.success),
    ("messages", Json.objectText (r.messages.entries.map fun e =>
      (e.1, Json.objectText (e.2.entries.map fun m => (m.1, Json.quote m.2.toList)))))]

end Report

end Fieldwise
