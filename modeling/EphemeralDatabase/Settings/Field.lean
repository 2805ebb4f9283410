import EphemeralDatabase.Settings.Label
import EphemeralDatabase.Settings.Numeral
import EphemeralDatabase.Settings.Path

/-!
# Reading single fields

A reader takes whatever was given for a field and gives either the setting or everything that is
wrong with it.  Fields are read independently of one another and their violations are added up
(`Checked.supply`), so that one message can report them all.
-/

namespace EphemeralDatabase

/-- A setting, or everything that is wrong with what was given for it. -/
abbrev Checked (α : Type) := Except (List Violation) α

namespace Checked

variable {α β : Type}

/-- What settings are put together with. -/
def start (f : α) : Checked α := .ok f

/-- Supplies one more setting to what is built from them; violations on both sides add up. -/
def supply (f : Checked (α → β)) (x : Checked α) : Checked β :=
  match f, x with
  | .ok f, .ok x => .ok (f x)
  | .ok _, .error vs => .error vs
  | .error vs, .ok _ => .error vs
  | .error vs, .error ws => .error (vs ++ ws)

end Checked

/-- How what is given for a field becomes a setting; the location is for messages. -/
abbrev Reader (α : Type) := List String → Value → Checked α

namespace Reader

variable {α : Type}

/-- Refuses a value. -/
def refuse (location : List String) (problem : Problem) (input : Value) : Checked α :=
  .error [⟨location, problem, input⟩]

/-- Takes the result of reading a text or a number. -/
def lift (location : List String) (input : Value) : Except Problem α → Checked α
  | .ok x => .ok x
  | .error p => refuse location p input

/-- A text. -/
def text : Reader String := fun location input =>
  match input with
  | .text s => .ok s
  | _ => refuse location .notText input

/-- A text of a given form. -/
def formed (form : Form) : Reader String := fun location input =>
  match input with
  | .text s =>
      if form.fits s then .ok s else refuse location (.form form.expression) input
  | _ => refuse location .notText input

/-- Allows the field to be empty. -/
def nullable (reader : Reader α) : Reader (Option α) := fun location input =>
  match input with
  | .null => .ok none
  | _ => (reader location input).map Option.some

/-- The whole number that a double is, if it is one that 64 bits can hold. -/
def wholeOfReal (x : Float) : Except Problem Int :=
  match Decimal.Binary.ofFloat x with
  | .nan => .error .notFinite
  | .infinite _ => .error .notFinite
  | .finite negative mantissa exponent =>
      let (num, den) := Decimal.scaled mantissa exponent
      if num % den ≠ 0 then .error .fractional
      else if Nat.pow 2 63 ≤ num / den then .error .wholeSize
      else
        let n : Int := (num / den : Nat)
        .ok (if negative then -n else n)

/-- A whole number, in any of the ways in which one can be given. -/
def anyWhole : Reader Int := fun location input =>
  match input with
  | .whole n => .ok n
  | .truth b => .ok (if b then 1 else 0)
  | .real x => lift location input (wholeOfReal x)
  | .text s => lift location input (Numeral.readWhole s)
  | _ => refuse location .notWhole input

/-- A whole number between two bounds. -/
def whole (low high : Int) : Reader Int := fun location input =>
  match anyWhole location input with
  | .error vs => .error vs
  | .ok n =>
      if n < low then refuse location (.below low) input
      else if high < n then refuse location (.above high) input
      else .ok n

/-- A real number, in any of the ways in which one can be given. -/
def anyReal : Reader Float := fun location input =>
  match input with
  | .real x => .ok x
  | .whole n => lift location input
      (match Decimal.ofInt? n with
        | some x => .ok x
        | none => .error .notReal)
  | .truth b => .ok (if b then 1 else 0)
  | .text s => lift location input (Numeral.readReal s)
  | _ => refuse location .notReal input

/-- A real number greater than zero. -/
def positive : Reader Float := fun location input =>
  match anyReal location input with
  | .error vs => .error vs
  | .ok x => if 0 < x then .ok x else refuse location .notPositive input

/-- A path, in normal form. -/
def path : Reader String := fun location input =>
  match input with
  | .text s => .ok (Path.normal s)
  | _ => refuse location .notPath input

/-- The pairs of a mapping of texts. -/
def pairs (location : List String) : List (String × Value) → Checked (Mapping String)
  | [] => .ok []
  | (key, v) :: rest =>
      Checked.start (fun value rest => (key, value) :: rest)
        |>.supply (text (location ++ [key]) v)
        |>.supply (pairs location rest)

/-- A mapping of texts. -/
def mapping : Reader (Mapping String) := fun location input =>
  match input with
  | .record fields => pairs location fields
  | _ => refuse location .notMapping input

end Reader

end EphemeralDatabase
