import Fieldwise.Message.Catalog
import Fieldwise.Rule.Set
import Fieldwise.Yaml.Node

/-!
Rule tables and message catalogs as YAML: mappings of sequences of scalars and mappings of scalars.
Scalars are strings whatever they look like; where nothing is written, an empty sequence or mapping
stands.
-/

namespace Fieldwise

namespace Yaml.Node

def string? : Node → Option String
  | scalar text _ => some text
  | _ => none

def isAbsent : Node → Bool
  | scalar text plain => plain && text = ""
  | _ => false

def strings? : Node → Option (List String)
  | sequence items => items.mapM string?
  | node => if node.isAbsent then some [] else none

/-- The table that a node is, when `read?` reads the values. -/
def table? {α : Type} (read? : Node → Option α) : Node → Option (Table α)
  | mapping members =>
    (members.mapM fun (m : Node × Node) =>
      m.1.string?.bind fun key => (read? m.2).map fun value => (key, value)).map Table.ofList
  | node => if node.isAbsent then some .empty else none

end Yaml.Node

def FieldRules.readYaml? (s : String) : Option FieldRules :=
  (Yaml.Node.ofText? s.toList).bind (Yaml.Node.table? Yaml.Node.strings?)

/-- Reads a catalog that is put on top of the built-in one. -/
def MessageCatalog.readYaml? (s : String) : Option MessageCatalog :=
  ((Yaml.Node.ofText? s.toList).bind (Yaml.Node.table? Yaml.Node.string?)).map fun templates =>
    MessageCatalog.builtIn.merge ⟨templates⟩

end Fieldwise
