import EphemeralDatabase.Decimal.Text
import EphemeralDatabase.Text.Literal
import EphemeralDatabase.Value.Mapping

/-!
# Values from outside

A setting can be given as anything that a JSON text can say, and which of these a field accepts
is a question of its own.  A `Value` keeps what matters for the answer: a whole number written
with a fraction is a `real` and not a `whole`, and a record keeps the order of its fields.

`Value.literal` is how a refused value is shown in a message, and `Value.typeName` how its type
is called there.
-/

namespace EphemeralDatabase

/-- Anything a setting can be given as. -/
inductive Value where
  | null
  | truth (b : Bool)
  | whole (n : Int)
  | real (x : Float)
  | text (s : String)
  | items (vs : List Value)
  | record (fields : List (String × Value))
  deriving Inhabited

namespace Value

/-- The value of a field, when the value is a record that has it. -/
def get? (v : Value) (key : String) : Option Value :=
  match v with
  | record fields => Mapping.get? fields key
  | _ => none

/-- Puts a comma between the parts. -/
def commas (parts : List String) : String := ", ".intercalate parts

mutual

/-- How the value is shown in a message. -/
def literal : Value → String
  | null => "None"
  | truth true => "True"
  | truth false => "False"
  | whole n => toString n
  | real x => Decimal.exactText x
  | text s => EphemeralDatabase.literal s
  | items vs => "[" ++ commas (literals vs) ++ "]"
  | record fields => "\x7b" ++ commas (fieldLiterals fields) ++ "\x7d"

/-- How each of several values is shown. -/
def literals : List Value → List String
  | [] => []
  | v :: vs => v.literal :: literals vs

/-- How each of several fields is shown. -/
def fieldLiterals : List (String × Value) → List String
  | [] => []
  | (name, v) :: fields =>
      (EphemeralDatabase.literal name ++ ": " ++ v.literal) :: fieldLiterals fields

end

/-- What the type of the value is called in a message. -/
def typeName : Value → String
  | null => "NoneType"
  | truth _ => "bool"
  | whole _ => "int"
  | real _ => "float"
  | text _ => "str"
  | items _ => "list"
  | record _ => "dict"

end Value

end EphemeralDatabase
