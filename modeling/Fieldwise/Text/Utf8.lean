/-!
The size of texts in UTF-8.
-/

namespace Fieldwise

/-- The number of bytes of a text in UTF-8. -/
def utf8Length : (text : List Char) → Nat
  | [] => 0
  | c :: rest => c.utf8Size + utf8Length rest

end Fieldwise
