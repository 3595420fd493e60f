import Fieldwise.Message.Template
import Fieldwise.Table

/-!
Message catalogs: the templates of the messages, by message key.
-/

namespace Fieldwise

/-- The templates of messages by key. -/
structure MessageCatalog where
  templates : Table String

namespace MessageCatalog

def empty : MessageCatalog := ⟨.empty⟩

/-- The templates that hold unless others are given. -/
def builtIn : MessageCatalog :=
  ⟨.ofList [("required", "$1 is required."), ("integer", "$1 must be an integer."),
    ("dateBefore:$1:$2:$3:$4", "$1 must less than $2."),
    ("dateAfter:$1:$2:$3:$4", "$1 must greater than $2.")]⟩

def insert (c : MessageCatalog) (key template : String) : MessageCatalog :=
  ⟨c.templates.insert key template⟩

def merge (c other : MessageCatalog) : MessageCatalog := ⟨c.templates.merge other.templates⟩

def template? (c : MessageCatalog) (key : String) : Option String := c.templates.get? key

/-- The message for a key; without a template, the key itself serves as one. -/
def render (c : MessageCatalog) (key : String) (substitutions : List String) : String :=
  substitute ((c.template? key).getD key) substitutions

end MessageCatalog

end Fieldwise
