import EphemeralDatabase.Settings.Problem
import EphemeralDatabase.Text.Blank
import EphemeralDatabase.Value.Reader

/-!
# Numbers given as texts

A setting from the environment is a text even where a number is meant.  Numerals are ASCII, with
white space around them of which they are trimmed, and a sign in front.

A whole number may begin with zeros, and zeros and underscores may follow the first zero in any
order.  It may have a point with zeros after it, one at least.  What is left are digits, with single
underscores between them.

A real number is written with digits, a point and an exponent, or is one of `inf`, `infinity` and
`nan` in any case.  If a text is not of that form it is read again without its underscores.  Then no
two of them may be next to each other and none may be at an end of the text, but they may stand
anywhere else, as in `1._5`; and no white space is trimmed.
-/

namespace EphemeralDatabase.Numeral

/-- A sign, and the characters after it. -/
def splitSign (cs : List Char) : Bool × List Char :=
  match cs with
  | '-' :: rest => (true, rest)
  | '+' :: rest => (false, rest)
  | _ => (false, cs)

/-- Whether two underscores are next to each other. -/
def doublesUnderscore : List Char → Bool
  | '_' :: '_' :: _ => true
  | _ :: rest => doublesUnderscore rest
  | [] => false

/-- The characters without their underscores, if there are some and each stands by itself between
two others. -/
def ungrouped? (cs : List Char) : Option (List Char) :=
  if '_' ∈ cs ∧ cs.head? ≠ some '_' ∧ cs.getLast? ≠ some '_' ∧ !doublesUnderscore cs then
    some (cs.filter (· != '_'))
  else none

/-- What comes after the zeros of a numeral; the character before is the last one of them. -/
def afterZeros (before : Char) : List Char → Option (List Char)
  | [] => some [before]
  | c :: rest =>
      if c = '0' ∨ c = '_' then afterZeros c rest
      else if c = '.' then some (before :: c :: rest)
      else if c.isDigit then some (c :: rest)
      else none

/-- A numeral without the zeros that it begins with; none if it does not begin with a digit. -/
def withoutZeros? (cs : List Char) : Option (List Char) :=
  match cs with
  | [] => none
  | c :: rest => if c = '0' then afterZeros c rest else if c.isDigit then some cs else none

/-- Digits before a point and after it; the part after it is missing without a point. -/
def splitPoint (cs : List Char) : List Char × Option (List Char) :=
  let whole := cs.takeWhile (· != '.')
  match cs.drop whole.length with
  | [] => (whole, none)
  | _ :: rest => (whole, some rest)

/-- Whether the characters are one digit at least, and digits only. -/
def allDigits (cs : List Char) : Bool := !cs.isEmpty && cs.all Char.isDigit

/-- The whole number that a text stands for. -/
def readWhole (text : String) : Except Problem Int :=
  let (negative, body) := splitSign (trimBoth isWhiteSpace text.toList)
  match withoutZeros? body with
  | none => .error .wholeSyntax
  | some cs =>
      let (whole, places) := splitPoint cs
      let digits := (ungrouped? whole).getD whole
      let zeroPlaces := (places.map fun p => !p.isEmpty && p.all (· == '0')).getD true
      if !allDigits digits || !zeroPlaces then .error .wholeSyntax
      else if Value.wholeDigitLimit < digits.length then .error .wholeSize
      else
        let n : Int := Value.digitsValue digits
        .ok (if negative then -n else n)

/-- The words for numbers that no digits can say. -/
def realWords : List (String × Float) :=
  [("inf", 1.0 / 0.0), ("infinity", 1.0 / 0.0), ("nan", 0.0 / 0.0)]

/-- A mantissa and what follows its digits. -/
def splitMantissa (cs : List Char) : List Char × List Char × List Char :=
  let whole := cs.takeWhile Char.isDigit
  match cs.drop whole.length with
  | '.' :: rest =>
      let places := rest.takeWhile Char.isDigit
      (whole, places, rest.drop places.length)
  | rest => (whole, [], rest)

/-- The exponent that the characters after a mantissa stand for; none of them means zero. -/
def readExponent (cs : List Char) : Option Int :=
  match cs with
  | [] => some 0
  | e :: rest =>
      let (negative, digits) := splitSign rest
      if (e = 'e' ∨ e = 'E') ∧ allDigits digits then
        let n : Int := Value.digitsValue digits
        some (if negative then -n else n)
      else none

/-- The real number that the characters stand for. -/
def real? (cs : List Char) : Option Float :=
  let (negative, body) := splitSign cs
  match realWords.find? fun w => w.1.toList == body.map Char.toLower with
  | some w => some (if negative then -w.2 else w.2)
  | none =>
      let (whole, places, rest) := splitMantissa body
      if (whole ++ places).isEmpty then none
      else
        (readExponent rest).map fun exponent =>
          Decimal.nearestDecimal negative (Value.digitsValue (whole ++ places))
            (exponent - places.length)

/-- The real number that a text stands for. -/
def readReal (text : String) : Except Problem Float :=
  match (real? (trimBoth isWhiteSpace text.toList)).or ((ungrouped? text.toList).bind real?) with
  | some x => .ok x
  | none => .error .realSyntax

end EphemeralDatabase.Numeral
