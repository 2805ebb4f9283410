import EphemeralDatabase.Settings.Problem
import EphemeralDatabase.Text.Lower
import EphemeralDatabase.Value.Reader

/-!
# Settings from the environment

Every setting can be given by the environment variable of its name, in any mixture of upper and
lower case, after `PG_FIXTURE_`.  When the environment has several spellings of one name, the
last one counts.  The container variables are a mapping and are therefore given as JSON; `null`
there means that nothing is given.  How deep the JSON may be nested depends on the interpreter.
-/

namespace EphemeralDatabase

/-- What runs the program.  It has room for so many arrays and objects within one another, but never
for none; how much room that is depends on its version and on what is running already. -/
class Interpreter where
  room : Nat
  room_pos : 0 < room

/-- An interpreter with a stack of a thousand frames, a few of them in use. -/
instance Interpreter.standard : Interpreter := ⟨940, by decide⟩

/-- A process environment: names and values in order. -/
abbrev Environment := List (String × String)

namespace Environment

/-- What the names of the environment variables begin with. -/
def leader : String := "pg_fixture_"

/-- What the environment gives for a setting. -/
def raw? (env : Environment) (field : String) : Option String :=
  (env.reverse.find? fun pair => lower pair.1 == leader ++ field).map Prod.snd

/-- The container variables that the environment gives. -/
def containerValue [Interpreter] (env : Environment) : Except SettingsError (Option Value) :=
  match env.raw? "env" with
  | none => .ok none
  | some json =>
      match Value.ofJson Interpreter.room json with
      | .error .malformed => .error (.unreadable "env")
      | .error (.tooDeep nest) => .error (.tooDeep nest)
      | .ok .null => .ok none
      | .ok v => .ok (some v)

end Environment

end EphemeralDatabase
