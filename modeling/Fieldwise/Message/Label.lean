import Fieldwise.Table
import Fieldwise.Text.Blank
import Fieldwise.Text.Case

/-!
Labels of fields. The name of a field is cut into words at underscores, dashes and blanks, and
before an upper case character that follows a lower case one or a digit; each word then begins with
an upper case character. Labels may also come from any other function of the name, of which a table
with title case behind it is one.
-/

namespace Fieldwise

/-- The character stands between words and belongs to none. -/
def isWordSeparator (c : Char) : Bool := c = '_' || c = '-' || isBlank c

/-- A word that ends in this character is over when an upper case character comes. -/
def endsBeforeUpper (c : Char) : Bool := isLowercase c || c.isDigit

/-- A word begins between the two characters although nothing separates them. -/
def isWordBoundary (c : Char) : List Char → Bool
  | [] => false
  | next :: _ => endsBeforeUpper c && isUppercase next

/-- Puts a word in front of others, unless it is empty. -/
def consWord (word : List Char) (words : List (List Char)) : List (List Char) :=
  if word = [] then words else word :: words

/-- The rest of a word that goes on at the start of a text, and the words after it. -/
def cutWord : List Char → List Char × List (List Char)
  | [] => ([], [])
  | c :: rest =>
    let (word, words) := cutWord rest
    if isWordSeparator c then ([], consWord word words)
    else if isWordBoundary c rest then ([c], consWord word words)
    else (c :: word, words)

def nameWords (text : List Char) : List (List Char) := consWord (cutWord text).1 (cutWord text).2

/-- The word with its first character in upper case. -/
def capitalize : List Char → List Char
  | [] => []
  | c :: rest => upperChar c ++ rest

/-- The words of a name, each beginning in upper case, with spaces between them. -/
def titleCase (name : String) : String :=
  String.ofList (List.intercalate [' '] ((nameWords name.toList).map capitalize))

/-- A rule that gives every field a label. -/
abbrev Labeler := String → String

/-- Labels that are given for some fields; any other field has its name in title case. -/
structure Labels where
  given : Table String

namespace Labels

def none : Labels := ⟨.empty⟩

def label (l : Labels) : Labeler := fun field => (l.given.get? field).getD (titleCase field)

instance : CoeFun Labels fun _ => Labeler := ⟨label⟩

end Labels

example : titleCase "pastVacationDate" = "Past Vacation Date" := by decide +kernel

end Fieldwise
