import EphemeralDatabase.Text.Hexadecimal
import EphemeralDatabase.Value.Basic

/-!
# Reading JSON

The grammar of RFC 8259 with one liberty and two limits.  The names `NaN`, `Infinity` and
`-Infinity` are numbers; a whole number of more than 4300 digits is refused, and so are more arrays
and objects within one another than there is room for.  Everything else is strict: no byte order
mark, no comments, no trailing commas, no raw control characters in strings, nothing after the
value.  A number with neither fraction nor exponent is a whole number of any size.  Of fields with
one name the last gives the value and the first the place.  Half of a surrogate pair that stands
alone reads as the replacement character, since no character of ours is one.

Each reader takes the characters that are left and gives the value with the characters after it.
Reading a value, the rest of an array and the rest of an object call each other; the fuel bounds
their calls, and two per character are always enough, because at most every second call takes
no character.  The room is what is left for the arrays and objects inside, and the first one
without room ends the reading, whatever comes after it.
-/

namespace EphemeralDatabase.Value

/-- The white space between tokens. -/
def isJsonBlank (c : Char) : Bool := c == ' ' || c == '\t' || c == '\n' || c == '\r'

/-- The characters after white space. -/
def afterBlank (cs : List Char) : List Char := cs.dropWhile isJsonBlank

/-- The number that a row of decimal digits stands for. -/
def digitsValue (cs : List Char) : Nat :=
  cs.foldl (fun n c => n * 10 + (c.toNat - '0'.toNat)) 0

/-- The code unit that four hexadecimal digits stand for. -/
def codeUnit? (a b c d : Char) : Option Nat := do
  let a ← hexValue? a
  let b ← hexValue? b
  let c ← hexValue? c
  let d ← hexValue? d
  return ((a * 16 + b) * 16 + c) * 16 + d

/-- Whether a code unit is the first half of a surrogate pair. -/
def isHighSurrogate (n : Nat) : Bool := decide (0xD800 ≤ n ∧ n < 0xDC00)

/-- Whether a code unit is the second half of a surrogate pair. -/
def isLowSurrogate (n : Nat) : Bool := decide (0xDC00 ≤ n ∧ n < 0xE000)

/-- The character of a code unit that is not the first half of a pair. -/
def unitChar (n : Nat) : Char :=
  if isHighSurrogate n ∨ isLowSurrogate n then '\uFFFD' else Char.ofNat n

/-- The character of a surrogate pair. -/
def pairChar (high low : Nat) : Char :=
  Char.ofNat (0x10000 + (high - 0xD800) * 0x400 + (low - 0xDC00))

/-- The character that a one-letter escape stands for. -/
def escaped? (c : Char) : Option Char :=
  if c = '\x22' ∨ c = '\\' ∨ c = '/' then some c
  else if c = 'b' then some '\x08'
  else if c = 'f' then some '\x0C'
  else if c = 'n' then some '\n'
  else if c = 'r' then some '\r'
  else if c = 't' then some '\t'
  else none

/-- The second half of a pair, if the next escape is one, with what comes after it. -/
def lowSurrogate? (cs : List Char) : Option (Nat × List Char) :=
  match cs with
  | '\\' :: 'u' :: a :: b :: c :: d :: rest =>
      match codeUnit? a b c d with
      | some n => if isLowSurrogate n then some (n, rest) else none
      | none => none
  | _ => none

/-- One character inside quotes: itself, or the one that an escape stands for. -/
def readChar (cs : List Char) : Option (Char × List Char) :=
  match cs with
  | '\\' :: 'u' :: a :: b :: c :: d :: rest =>
      match codeUnit? a b c d with
      | none => none
      | some n =>
          match (if isHighSurrogate n then lowSurrogate? rest else none) with
          | some (low, rest) => some (pairChar n low, rest)
          | none => some (unitChar n, rest)
  | '\\' :: c :: rest => (escaped? c).map fun e => (e, rest)
  | c :: rest => if c.toNat < 0x20 ∨ c = '\\' then none else some (c, rest)
  | [] => none

/-- The rest of a string after its opening quote, with the characters read so far in reverse. -/
def readString : Nat → List Char → List Char → Option (String × List Char)
  | 0, _, _ => none
  | _, [], _ => none
  | fuel + 1, c :: rest, seen =>
      if c = '\x22' then some (String.ofList seen.reverse, rest)
      else
        match readChar (c :: rest) with
        | some (d, rest) => readString fuel rest (d :: seen)
        | none => none

/-- The digits after a point, with what comes after them; none without a point and a digit. -/
def fraction? (cs : List Char) : Option (List Char × List Char) :=
  match cs with
  | '.' :: rest =>
      let digits := rest.takeWhile Char.isDigit
      if digits.isEmpty then none else some (digits, rest.dropWhile Char.isDigit)
  | _ => none

/-- The exponent after a mantissa, with what comes after it. -/
def exponent? (cs : List Char) : Option (Int × List Char) :=
  match cs with
  | e :: rest =>
      if e = 'e' ∨ e = 'E' then
        let (sign, rest) : Int × List Char :=
          match rest with
          | '+' :: rest => (1, rest)
          | '-' :: rest => (-1, rest)
          | _ => (1, rest)
        let digits := rest.takeWhile Char.isDigit
        if digits.isEmpty then none
        else some (sign * digitsValue digits, rest.dropWhile Char.isDigit)
      else none
  | [] => none

/-- The most digits that a whole number may have. -/
def wholeDigitLimit : Nat := 4300

/-- A number without its sign. -/
def readMagnitude (negative : Bool) (cs : List Char) : Option (Value × List Char) :=
  let digits :=
    match cs with
    | '0' :: _ => ['0']
    | _ => cs.takeWhile Char.isDigit
  let rest := cs.drop digits.length
  if digits.isEmpty then none
  else
    let fraction := fraction? rest
    let afterFraction := (fraction.map Prod.snd).getD rest
    let exponent := exponent? afterFraction
    if fraction.isNone ∧ exponent.isNone then
      if digits.length ≤ wholeDigitLimit then
        let n : Int := digitsValue digits
        some (.whole (if negative then -n else n), rest)
      else none
    else
      let places := (fraction.map Prod.fst).getD []
      let scale := (exponent.map Prod.fst).getD 0
      let x := Decimal.nearestDecimal negative (digitsValue (digits ++ places))
        (scale - places.length)
      some (.real x, (exponent.map Prod.snd).getD afterFraction)

/-- What comes after a word, if the characters begin with it. -/
def afterWord? (word : String) (cs : List Char) : Option (List Char) :=
  if word.toList.isPrefixOf cs then some (cs.drop word.length) else none

/-- The values that are written as a word. -/
def namedValues : List (String × Value) :=
  [("null", .null), ("true", .truth true), ("false", .truth false),
    ("NaN", .real (0.0 / 0.0)), ("Infinity", .real (1.0 / 0.0)),
    ("-Infinity", .real (-1.0 / 0.0))]

/-- A value that is a word or a number. -/
def readScalar (cs : List Char) : Option (Value × List Char) :=
  match namedValues.findSome? fun (word, v) => (afterWord? word cs).map fun rest => (v, rest) with
  | some found => some found
  | none =>
      match cs with
      | '-' :: rest => readMagnitude true rest
      | _ => readMagnitude false cs

/-- What values can stand within. -/
inductive Nest where
  | array
  | object
  deriving DecidableEq, Repr

/-- Why a JSON text has no value. -/
inductive JsonError where
  | malformed
  /-- there is no room for one more array or object within the others -/
  | tooDeep (nest : Nest)
  deriving DecidableEq, Repr

mutual

/-- One value; the characters begin with it. -/
def readValue : Nat → Nat → List Char → Except JsonError (Value × List Char)
  | 0, _, _ => .error .malformed
  | fuel + 1, room, cs =>
      match cs with
      | '\x22' :: rest =>
          match readString (rest.length + 1) rest [] with
          | some (s, rest) => .ok (.text s, rest)
          | none => .error .malformed
      | '[' :: rest =>
          match room with
          | 0 => .error (.tooDeep .array)
          | room + 1 =>
              match afterBlank rest with
              | ']' :: rest => .ok (.items [], rest)
              | cs => (readItems fuel room cs).map fun (vs, rest) => (.items vs, rest)
      | '\x7b' :: rest =>
          match room with
          | 0 => .error (.tooDeep .object)
          | room + 1 =>
              match afterBlank rest with
              | '\x7d' :: rest => .ok (.record [], rest)
              | cs => (readFields fuel room cs).map fun (fs, rest) =>
                  (.record (Mapping.ofPairs fs), rest)
      | _ =>
          match readScalar cs with
          | some found => .ok found
          | none => .error .malformed

/-- The rest of an array from its next value on. -/
def readItems : Nat → Nat → List Char → Except JsonError (List Value × List Char)
  | 0, _, _ => .error .malformed
  | fuel + 1, room, cs =>
      match readValue fuel room cs with
      | .error e => .error e
      | .ok (v, rest) =>
          match afterBlank rest with
          | ']' :: rest => .ok ([v], rest)
          | ',' :: rest =>
              (readItems fuel room (afterBlank rest)).map fun (vs, rest) => (v :: vs, rest)
          | _ => .error .malformed

/-- The rest of an object from its next name on. -/
def readFields : Nat → Nat → List Char → Except JsonError (List (String × Value) × List Char)
  | 0, _, _ => .error .malformed
  | fuel + 1, room, cs =>
      match cs with
      | '\x22' :: rest =>
          match readString (rest.length + 1) rest [] with
          | none => .error .malformed
          | some (key, rest) =>
              match afterBlank rest with
              | ':' :: rest =>
                  match readValue fuel room (afterBlank rest) with
                  | .error e => .error e
                  | .ok (v, rest) =>
                      match afterBlank rest with
                      | '\x7d' :: rest => .ok ([(key, v)], rest)
                      | ',' :: rest =>
                          (readFields fuel room (afterBlank rest)).map fun (fs, rest) =>
                            ((key, v) :: fs, rest)
                      | _ => .error .malformed
              | _ => .error .malformed
      | _ => .error .malformed

end

/-- The value that a whole JSON text stands for, if there is room for what is nested in it. -/
def ofJson (room : Nat) (json : String) : Except JsonError Value :=
  let cs := json.toList
  match readValue (2 * cs.length + 2) room (afterBlank cs) with
  | .ok (v, rest) => if (afterBlank rest).isEmpty then .ok v else .error .malformed
  | .error e => .error e

end EphemeralDatabase.Value
