import Fieldwise.Json.Value
import Fieldwise.Record

/-!
Field values and records as JSON. A number that is an integer of 64 bits is an integer, any other
number a floating point number; an array or object is the text of it. A record is an object, and is
read either with its fields in the order of their names or with its fields in the order of the text.
-/

namespace Fieldwise

namespace FieldValue

def minInteger : Int := -9223372036854775808

def maxInteger : Int := 9223372036854775807

def ofNumber : Json.Number → FieldValue
  | .integer n =>
    if minInteger ≤ n ∧ n ≤ maxInteger then integer (Int64.ofInt n)
    else float (Float.ofScientific n.natAbs false 0)
  | .float x => float x

def ofJson : Json.Value → FieldValue
  | .null => null
  | .boolean b => boolean b
  | .number n => ofNumber n
  | .string s => text s
  | v => text (String.ofList v.text)

def readJson? (s : String) : Option FieldValue := (Json.Value.read? s.toList).map ofJson

def json : FieldValue → List Char
  | null => "null".toList
  | boolean b => Json.booleanText b
  | integer n => Numeral.integer n.toInt
  | float x => Json.floatText x
  | text s => Json.quote s.toList
  | date d => Json.quote d.text
  | dateTime t => Json.quote t.exactText

end FieldValue

/-- Why a JSON text is no record. -/
inductive RecordError where
  | malformed
  /-- The text is JSON for something else than an object. -/
  | notAnObject (kind : String)
  deriving DecidableEq, Repr

def RecordError.message : RecordError → String
  | malformed => "Serialization error"
  | notAnObject kind => "Expected a JSON object for an input record, got " ++ kind

/-- The word for what sort of JSON value a value is. -/
def Json.Value.kindName : Json.Value → String
  | .null => "null"
  | .boolean _ => "boolean"
  | .number _ => "number"
  | .string _ => "string"
  | .array _ => "array"
  | .object _ => "object"

namespace Record

def ofMembers (members : List (String × Json.Value)) : Record :=
  .ofList (members.map fun m => (m.1, FieldValue.ofJson m.2))

/-- Reads a record with its fields in the order of their names. -/
def readSorted (s : String) : Except RecordError Record :=
  match Json.Value.read? s.toList with
  | none => .error .malformed
  | some (.object members) => .ok (ofMembers members)
  | some v => .error (.notAnObject v.kindName)

/-- Reads a record with its fields in the order of the text; the text must be that of an object. -/
def readInOrder? (s : String) : Option Record :=
  match Json.Node.readShallow? s.toList with
  | some (.object members) => (Json.Node.memberValues? members).map ofMembers
  | _ => none

def json (r : Record) : List Char := Json.objectText (r.entries.map fun e => (e.1, e.2.json))

end Record

end Fieldwise
