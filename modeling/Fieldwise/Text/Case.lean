import Fieldwise.Text.CaseIgnorable
import Fieldwise.Text.CaseMapping
import Fieldwise.Text.Letter

/-!
Whole texts in upper and lower case. Every character is mapped by itself, with one exception: a
capital sigma at the end of a word becomes a final sigma.
-/

namespace Fieldwise

def upperText (text : List Char) : List Char := text.flatMap upperChar

/-- The first character that is not passed over is a letter. -/
def startsWithLetter (text : List Char) : Bool :=
  match text.dropWhile isCaseIgnorable with
  | [] => false
  | c :: _ => isCased c

/-- The text in lower case, when the characters of `before` stand in front of it, the nearest
    first. -/
def lowerAfter (before : List Char) : List Char → List Char
  | [] => []
  | c :: rest =>
    (if c = 'Σ' then if startsWithLetter before && !startsWithLetter rest then ['ς'] else ['σ']
     else lowerChar c) ++ lowerAfter (c :: before) rest

def lowerText (text : List Char) : List Char := lowerAfter [] text

def upperString (s : String) : String := String.ofList (upperText s.toList)

example : lowerText "ΣΑΣ ΣΣ'Σ".toList = "σας σσ'ς".toList := by decide +kernel

end Fieldwise
