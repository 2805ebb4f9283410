import EphemeralDatabase.Cluster.Fault
import EphemeralDatabase.Settings.Groups
import EphemeralDatabase.Value.Reader

/-!
# What can be wrong with settings

A `Problem` is a reason for which a field refuses a value.  A `Violation` adds where it was and
which value it was, and a `SettingsError` is why the settings as a whole cannot be had: fields of
one group refused their values, the container variables in the environment are not JSON, or an
override names no setting.  `SettingsError.message` is the text of such an error.
-/

namespace EphemeralDatabase

/-- Why a field refuses a value. -/
inductive Problem where
  | notText
  /-- the text is not of the form that the regular expression describes -/
  | form (expression : String)
  | notWhole
  | wholeSyntax
  | wholeSize
  | fractional
  | notFinite
  | notReal
  | realSyntax
  | notPositive
  | below (low : Int)
  | above (high : Int)
  | notMapping
  | notPath
  deriving DecidableEq, Repr

namespace Problem

/-- The short name of the problem. -/
def code : Problem → String
  | notText => "string_type"
  | form _ => "string_pattern_mismatch"
  | notWhole => "int_type"
  | wholeSyntax => "int_parsing"
  | wholeSize => "int_parsing_size"
  | fractional => "int_from_float"
  | notFinite => "finite_number"
  | notReal => "float_type"
  | realSyntax => "float_parsing"
  | notPositive => "greater_than"
  | below _ => "greater_than_equal"
  | above _ => "less_than_equal"
  | notMapping => "dict_type"
  | notPath => "path_type"

/-- The problem in words. -/
def message : Problem → String
  | notText => "Input should be a valid string"
  | form expression => "String should match pattern '" ++ expression ++ "'"
  | notWhole => "Input should be a valid integer"
  | wholeSyntax => "Input should be a valid integer, unable to parse string as an integer"
  | wholeSize => "Unable to parse input string as an integer, exceeded maximum size"
  | fractional => "Input should be a valid integer, got a number with a fractional part"
  | notFinite => "Input should be a finite number"
  | notReal => "Input should be a valid number"
  | realSyntax => "Input should be a valid number, unable to parse string as a number"
  | notPositive => "Input should be greater than 0"
  | below low => "Input should be greater than or equal to " ++ toString low
  | above high => "Input should be less than or equal to " ++ toString high
  | notMapping => "Input should be a valid dictionary"
  | notPath => "Input is not a valid path for <class 'pathlib.Path'>"

end Problem

/-- A value that was refused, and where. -/
structure Violation where
  /-- the field, and the key inside it -/
  location : List String
  problem : Problem
  input : Value

/-- Why settings cannot be had. -/
inductive SettingsError where
  /-- fields of one group refused their values -/
  | invalid (group : Group) (violations : List Violation)
  /-- the environment's value of a field is not JSON -/
  | unreadable (field : String)
  /-- arrays and objects are nested too deep to be read -/
  | tooDeep (nest : Value.Nest)
  /-- overrides that name no setting -/
  | unknown (names : List String)

/-! ## The text of an error -/

/-- The longest run of leading characters that takes at most `room` bytes. -/
def leading (room : Nat) : List Char → List Char
  | [] => []
  | c :: cs => if c.utf8Size ≤ room then c :: leading (room - c.utf8Size) cs else []

/-- A text of more than fifty bytes without its middle. -/
def shortened (text : String) : String :=
  if text.utf8ByteSize ≤ 50 then text
  else
    String.ofList (leading 25 text.toList) ++ "..."
      ++ String.ofList (leading 24 text.toList.reverse).reverse

/-- One step of a location; a name with a point in it is set off. -/
def stepText (name : String) : String :=
  if name.toList.contains '.' then "\x60" ++ name ++ "\x60" else name

/-- Where the meaning of a problem is explained. -/
def Problem.reference (p : Problem) : String :=
  "/".intercalate ["https:", "", "errors.pydantic.dev", "2.14", "v", p.code]

namespace Violation

/-- The lines that report one violation. -/
def text (v : Violation) : String :=
  ".".intercalate (v.location.map stepText) ++ "\n  " ++ v.problem.message
    ++ " [type=" ++ v.problem.code ++ ", input_value=" ++ shortened v.input.literal
    ++ ", input_type=" ++ v.input.typeName ++ "]\n    For further information visit "
    ++ v.problem.reference

end Violation

namespace SettingsError

/-- The text of the error. -/
def message : SettingsError → String
  | invalid group violations =>
      let count := violations.length
      toString count ++ " validation error" ++ (if count = 1 then "" else "s") ++ " for "
        ++ group.title ++ "\n" ++ "\n".intercalate (violations.map Violation.text)
  | unreadable field =>
      "error parsing value for field \"" ++ field ++ "\" from source \"EnvSettingsSource\""
  | tooDeep nest =>
      "maximum recursion depth exceeded while decoding a JSON "
        ++ (match nest with
            | .array => "array"
            | .object => "object")
        ++ " from a unicode string"
  | unknown names => "Unknown configuration keys: " ++ ", ".intercalate names

/-- The fault that the error is, if it does not say that a value is wrong. -/
def fault? (e : SettingsError) : Option Fault :=
  match e with
  | tooDeep _ => some (.other .runtime [.text e.message])
  | _ => none

end SettingsError

end EphemeralDatabase
