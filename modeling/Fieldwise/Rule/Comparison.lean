import Fieldwise.Calendar.Offset
import Fieldwise.DateFormat.Projection
import Fieldwise.DateFormat.Text
import Fieldwise.Rule.Error

/-!
What a date is compared with. A comparison has a format, an anchor, which is the current date or a
date written in the format, and an offset by which the anchor is shifted. Its target is the period
that results, at the precision of the format.
-/

namespace Fieldwise

/-- The year in place of a year that a format does not write, unless another one is chosen. It is a
    leap year, so every day that some year has can be written. -/
def defaultReferenceYear : Int := 2000

/-- The date from which a comparison starts. -/
inductive Anchor where
  | now
  /-- A written date, and what the format reads in it. -/
  | literal (text : List Char) (components : PartialDate)
  deriving DecidableEq, Repr

namespace Anchor

/-- The word for the current date. -/
def nowWord : List Char := "now".toList

/-- The anchor that a text names in a format. -/
def read (f : DateFormat) (text : List Char) : Except DateError Anchor :=
  if text = nowWord then .ok now else (f.readComponents text).map (literal text)

def text : Anchor → List Char
  | now => nowWord
  | literal text _ => text

def isNow : Anchor → Bool
  | now => true
  | literal _ _ => false

/-- The period of a format in which the anchor lies. -/
def period (a : Anchor) (f : DateFormat) (today : Date) (referenceYear : Int) :
    Except DateError Period :=
  match a with
  | now => f.project today referenceYear
  | literal _ p => (p.toDate referenceYear).map fun d => .containing d f.granularity

end Anchor

/-- What a date is compared with. -/
structure DateComparison where
  format : DateFormat
  anchor : Anchor
  offset : Offset
  deriving DecidableEq

namespace DateComparison

/-- The period with which dates are compared: that of the anchor, shifted from its first day. -/
def target (c : DateComparison) (today : Date) (referenceYear : Int) : Except DateError Period :=
  match c.anchor.period c.format today referenceYear with
  | .error e => .error e
  | .ok base =>
    match c.offset.shift? base.start with
    | some d => .ok (.containing d c.format.granularity)
    | none => .error .outOfRange

/-- A written anchor must be a day of the calendar when `referenceYear` stands in for a year that is
    not written. -/
def checkAnchor (c : DateComparison) (referenceYear : Int) : Except RuleError Unit :=
  match c.anchor with
  | .now => .ok ()
  | .literal text p =>
    match p.toDate referenceYear with
    | .ok _ => .ok ()
    | .error _ => .error (.invalidAnchor (String.ofList text) (String.ofList c.format.pattern))

/-- The comparison that the parameters of a rule describe: pattern, anchor, amount and unit. -/
def ofParameters : List (List Char) → Except RuleError DateComparison
  | [pattern, anchor, amount, unit] =>
    match DateFormat.ofPattern pattern with
    | .error fault => .error (.invalidFormat (String.ofList pattern) fault)
    | .ok format =>
      match Anchor.read format anchor with
      | .error _ => .error (.invalidAnchor (String.ofList anchor) (String.ofList format.pattern))
      | .ok anchor =>
        match Numeral.int32? amount with
        | none => .error (.invalidOffset (String.ofList amount))
        | some amount =>
          match OffsetUnit.ofName? (String.ofList unit) with
          | none => .error (.invalidUnit (String.ofList unit))
          | some unit =>
            let c : DateComparison := ⟨format, anchor, amount, unit⟩
            (c.checkAnchor defaultReferenceYear).map fun _ => c
  | parameters => .error (.arity "date comparison" 4 parameters.length)

/-- The target in words: the anchor and, if there is a shift, the shift. -/
def describe (c : DateComparison) : String := String.ofList c.anchor.text ++ c.offset.words

/-- The parameters of the comparison, as they stand in a rule. -/
def text (c : DateComparison) : List Char :=
  c.format.pattern ++ ':' :: c.anchor.text ++ ':' :: Numeral.integer c.offset.amount ++
    ':' :: c.offset.unit.name.toList

end DateComparison

end Fieldwise
