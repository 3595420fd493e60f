import Fieldwise.Json.Value
import Fieldwise.Message.Catalog
import Fieldwise.Rule.Set

/-!
Rule tables and message catalogs as JSON: objects of lists of strings and objects of strings.
-/

namespace Fieldwise

namespace Json.Node

def string? : Node → Option String
  | string s => s.string?
  | _ => none

def strings? : Node → Option (List String)
  | array items => items.mapM string?
  | _ => none

/-- The table that a node is, when `read?` reads the values. -/
def table? {α : Type} (read? : Node → Option α) : Node → Option (Table α)
  | object members =>
    (members.mapM fun (m : Quoted × Node) =>
      m.1.string?.bind fun key => (read? m.2).map fun value => (key, value)).map Table.ofList
  | _ => none

end Json.Node

namespace FieldRules

def readJson? (s : String) : Option FieldRules :=
  (Json.Node.read? s.toList).bind (Json.Node.table? Json.Node.strings?)

def json (rules : FieldRules) : List Char :=
  Json.objectText (rules.entries.map fun e =>
    (e.1, Json.arrayText (e.2.map fun text => Json.quote text.toList)))

end FieldRules

namespace MessageCatalog

def readJson? (s : String) : Option MessageCatalog :=
  ((Json.Node.read? s.toList).bind (Json.Node.table? Json.Node.string?)).map MessageCatalog.mk

end MessageCatalog

end Fieldwise
