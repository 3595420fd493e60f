import Fieldwise.Json.Token

/-!
The structure of JSON text. A `Node` is what a text holds before any of it is interpreted: numbers
and strings are kept as they are written, and the members of an object are kept in order, repeated
ones included. Tokens are read one by one; what is open is kept in a list of frames, the innermost
first.
-/

namespace Fieldwise.Json

inductive Node where
  | null
  | boolean (b : Bool)
  | number (n : NumberLiteral)
  | string (s : Quoted)
  | array (items : List Node)
  | object (members : List (Quoted × Node))

/-- An array or object of which one value is being read; what was read before is held in reverse. -/
inductive Frame where
  | array (items : List Node)
  | object (members : List (Quoted × Node)) (key : Quoted)

/-- How far the reading has come. -/
inductive Reading where
  | value (outer : List Frame)
  | firstItem (outer : List Frame)
  | firstKey (outer : List Frame)
  /-- Another member of an object comes next. -/
  | key (outer : List Frame) (members : List (Quoted × Node))
  /-- The colon after a key comes next. -/
  | colon (outer : List Frame) (members : List (Quoted × Node)) (key : Quoted)
  | complete (outer : List Frame) (node : Node)

namespace Reading

/-- Reads the first token of a value. -/
def beginValue (outer : List Frame) : Token → Option Reading
  | .openArray => some (firstItem outer)
  | .openObject => some (firstKey outer)
  | .null => some (complete outer .null)
  | .boolean b => some (complete outer (.boolean b))
  | .number n => some (complete outer (.number n))
  | .string s => some (complete outer (.string s))
  | _ => none

def step : Reading → Token → Option Reading
  | value outer, t => beginValue outer t
  | firstItem outer, .closeArray => some (complete outer (.array []))
  | firstItem outer, t => beginValue (.array [] :: outer) t
  | firstKey outer, .closeObject => some (complete outer (.object []))
  | firstKey outer, .string k => some (colon outer [] k)
  | key outer members, .string k => some (colon outer members k)
  | colon outer members k, .colon => some (value (.object members k :: outer))
  | complete (.array items :: outer) node, .comma => some (value (.array (node :: items) :: outer))
  | complete (.array items :: outer) node, .closeArray =>
    some (complete outer (.array (node :: items).reverse))
  | complete (.object members k :: outer) node, .comma => some (key outer ((k, node) :: members))
  | complete (.object members k :: outer) node, .closeObject =>
    some (complete outer (.object ((k, node) :: members).reverse))
  | _, _ => none

end Reading

namespace Node

/-- The value that tokens make up. -/
def ofTokens? (tokens : List Token) : Option Node :=
  match tokens.foldlM Reading.step (.value []) with
  | some (.complete [] node) => some node
  | _ => none

/-- What a text holds, if it is JSON. -/
def read? (text : List Char) : Option Node := (tokens? text).bind ofTokens?

mutual

/-- How many arrays and objects stand inside each other. -/
def depth : Node → Nat
  | array items => itemsDepth items + 1
  | object members => membersDepth members + 1
  | _ => 0

/-- The greatest depth of a list of values. -/
def itemsDepth : List Node → Nat
  | [] => 0
  | n :: rest => max n.depth (itemsDepth rest)

/-- The greatest depth of the values of members. -/
def membersDepth : List (Quoted × Node) → Nat
  | [] => 0
  | (_, n) :: rest => max n.depth (membersDepth rest)

end

end Node

end Fieldwise.Json
