import Fieldwise.Decimal.Numeral

/-!
Message templates. A template is cut from left to right into placeholders, each a dollar sign with
all the digits after it, and single characters. A placeholder stands for the substitution with its
number, counting from one; all else stands for itself, and what is put in is not looked at again.
-/

namespace Fieldwise

inductive TemplatePiece where
  | placeholder (digits : List Char)
  | character (c : Char)
  deriving DecidableEq, Repr

namespace TemplatePiece

def cut : List Char → List TemplatePiece
  | [] => []
  | c :: rest =>
    if c = '$' then placeholder (rest.takeWhile Char.isDigit) :: cut (rest.dropWhile Char.isDigit)
    else character c :: cut rest
termination_by text => text.length
decreasing_by
  · exact Nat.lt_succ_of_le (List.dropWhile_suffix _).length_le
  · exact Nat.lt_succ_self _

/-- What the piece stands for. -/
def expand (substitutions : List String) : TemplatePiece → List Char
  | placeholder digits =>
    match Numeral.natural? digits with
    | some (n + 1) =>
      match substitutions[n]? with
      | some s => s.toList
      | none => '$' :: digits
    | _ => '$' :: digits
  | character c => [c]

end TemplatePiece

/-- Puts substitutions into a template. -/
def substitute (template : String) (substitutions : List String) : String :=
  String.ofList ((TemplatePiece.cut template.toList).flatMap (TemplatePiece.expand substitutions))

end Fieldwise
