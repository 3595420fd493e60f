import Fieldwise.Decimal.Layout
import Fieldwise.Json.Node
import Fieldwise.Json.Number

/-!
JSON values. A `Value` is what a text means: numbers and strings have their values, and an object
has each member once, in the order of the keys. A text has a value if its strings and numbers have
one and it is not nested too deeply. `Value.text` writes a value without blanks.
-/

namespace Fieldwise.Json

/-- What a text means. The members of an object are in the order of their keys, each key once. -/
inductive Value where
  | null
  | boolean (b : Bool)
  | number (n : Number)
  | string (s : String)
  | array (items : List Value)
  | object (members : List (String × Value))

/-- Gives a key a value among members that are in order; a key that is there takes the new value. -/
def insertMember {α : Type} (key : String) (value : α) : List (String × α) → List (String × α)
  | [] => [(key, value)]
  | (k, v) :: rest =>
    if key < k then (key, value) :: (k, v) :: rest
    else if key = k then (key, value) :: rest
    else (k, v) :: insertMember key value rest

/-- Members in the order of their keys, of several with one key the last. -/
def sortMembers {α : Type} (members : List (String × α)) : List (String × α) :=
  members.foldl (fun sorted m => insertMember m.1 m.2 sorted) []

namespace Node

mutual

/-- The value of a node, if its strings and numbers have values. -/
def value? : Node → Option Value
  | null => some .null
  | boolean b => some (.boolean b)
  | number n => n.value?.map .number
  | string s => s.string?.map .string
  | array items => (itemValues? items).map .array
  | object members => (memberValues? members).map fun values => .object (sortMembers values)

def itemValues? : List Node → Option (List Value)
  | [] => some []
  | n :: rest =>
    match n.value?, itemValues? rest with
    | some v, some values => some (v :: values)
    | _, _ => none

/-- The values of the members of an object, in the order of the text. -/
def memberValues? : List (Quoted × Node) → Option (List (String × Value))
  | [] => some []
  | (k, n) :: rest =>
    match k.string?, n.value?, memberValues? rest with
    | some k, some v, some values => some ((k, v) :: values)
    | _, _, _ => none

end

/-- How deeply the values of a text may be nested. -/
def maxDepth : Nat := 127

/-- What a text holds, if it is JSON and not nested too deeply. -/
def readShallow? (text : List Char) : Option Node :=
  (read? text).filter fun n => n.depth ≤ maxDepth

end Node

def arrayText (items : List (List Char)) : List Char :=
  '[' :: List.intercalate [','] items ++ [']']

def objectText (members : List (String × List Char)) : List Char :=
  '\x7b' :: List.intercalate [','] (members.map fun m => quote m.1.toList ++ ':' :: m.2) ++ ['\x7d']

def booleanText (b : Bool) : List Char := if b then "true".toList else "false".toList

/-- Numbers in JSON have the fewest digits that identify them, positionally from 0.00001 up to
    10^16, and always a point or an exponent. -/
def numberLayout : Layout := ⟨-5, 15, true, .toEven⟩

/-- A floating point number; one that is not finite has no number in JSON. -/
def floatText (x : Float) : List Char :=
  match FloatValue.ofFloat x with
  | .finite negative m => numberLayout.signed negative m
  | _ => "null".toList

namespace Value

/-- The value that a text has, if it is JSON, its strings and numbers have values, and it is not
    nested too deeply. -/
def read? (text : List Char) : Option Value := (Node.readShallow? text).bind Node.value?

mutual

/-- The value as a text without blanks. -/
def text : Value → List Char
  | null => "null".toList
  | boolean b => booleanText b
  | number (.integer n) => Numeral.integer n
  | number (.float x) => floatText x
  | string s => quote s.toList
  | array items => arrayText (itemTexts items)
  | object members => objectText (memberTexts members)

def itemTexts : List Value → List (List Char)
  | [] => []
  | v :: rest => v.text :: itemTexts rest

def memberTexts : List (String × Value) → List (String × List Char)
  | [] => []
  | (k, v) :: rest => (k, v.text) :: memberTexts rest

end

end Value

end Fieldwise.Json
