import EphemeralDatabase.Settings.Numeral
import EphemeralDatabase.Settings.Resolve

/-!
# Options

The arguments of a command are options, `--name value`, `--name=value`, `-n value` or `-nvalue`,
switches without a value, and others; after `--` nothing is an option.  An option takes the next
argument as its value whatever it looks like, and of an option that is repeated the last value
counts.  Numbers are read as in the settings.

`scan` takes the arguments apart, and `readOptions` makes overrides of the options found.
-/

namespace EphemeralDatabase

/-- What the value of an option is. -/
inductive OptionKind where
  | text
  | whole
  | real
  /-- no value -/
  | switch
  deriving DecidableEq, Repr

/-- An option of a command. -/
structure CommandOption where
  /-- the spelling after two hyphens -/
  long : String
  /-- the letter after one hyphen -/
  short : Option Char := none
  kind : OptionKind := .text
  /-- the setting that the option overrides -/
  setting : String := ""
  deriving DecidableEq, Repr

/-- Why a command line is refused. -/
inductive UsageError where
  | noSuchOption
  /-- an option without its value, or a switch with one -/
  | badOption
  /-- a value that is no number -/
  | badValue (long : String) (problem : Problem)
  /-- a missing or unknown command, or an argument too many -/
  | badCommand
  /-- no arguments at all -/
  | nothing
  deriving DecidableEq, Repr

/-- What is wrong with a value. -/
def UsageError.message : UsageError → String
  | noSuchOption => "There is no such option."
  | badOption => "An option lacks its value, or a switch has one."
  | badValue long problem => "Invalid value for '--" ++ long ++ "': " ++ problem.message
  | badCommand => "The command is missing or unknown, or has an argument too many."
  | nothing => "There is no command."

/-! ## The options of one argument -/

/-- The switch that every command has. -/
def helpOption : CommandOption := { long := "help", kind := .switch }

/-- Options with their values, in the order in which they were given. -/
abbrev Given := List (CommandOption × String)

/-- What one argument says: options, or an option that takes the next argument. -/
inductive Reading where
  | complete (given : Given)
  | wantsNext (given : Given) (option : CommandOption)

/-- Puts options in front. -/
def Reading.after (given : Given) : Reading → Reading
  | complete more => complete (given ++ more)
  | wantsNext more option => wantsNext (given ++ more) option

/-- Reads an argument of two hyphens. -/
def readLong (options : List CommandOption) (body : List Char) : Except UsageError Reading :=
  let name := body.takeWhile (· != '=')
  let value := match body.drop name.length with
    | [] => none
    | _ :: rest => some (String.ofList rest)
  match options.find? fun o => o.long.toList == name with
  | none => .error .noSuchOption
  | some o =>
      match o.kind, value with
      | .switch, some _ => .error .badOption
      | .switch, none => .ok (.complete [(o, "")])
      | _, some v => .ok (.complete [(o, v)])
      | _, none => .ok (.wantsNext [] o)

/-- Reads the letters of an argument of one hyphen; the letters after an option with a value are
that value. -/
def readShort (options : List CommandOption) : List Char → Except UsageError Reading
  | [] => .ok (.complete [])
  | c :: rest =>
      match options.find? fun o => o.short == some c with
      | none => .error .noSuchOption
      | some o =>
          if o.kind = .switch then
            (readShort options rest).map fun r => r.after [(o, "")]
          else if rest.isEmpty then .ok (.wantsNext [] o)
          else .ok (.complete [(o, String.ofList rest)])

/-- Reads an argument that begins with a hyphen. -/
def readArgument (options : List CommandOption) (argument : String) :
    Except UsageError Reading :=
  match argument.toList with
  | '-' :: '-' :: body => readLong options body
  | '-' :: letters => readShort options letters
  | _ => .error .noSuchOption

/-- Whether an argument is to be read as an option. -/
def isOption (argument : String) : Bool :=
  match argument.toList with
  | '-' :: _ :: _ => true
  | _ => false

/-! ## The options of a command -/

/-- Options and arguments of a command.  With `mixed`, options may follow arguments; without, the
first argument ends them. -/
def scan (options : List CommandOption) (mixed : Bool) :
    List String → Except UsageError (Given × List String)
  | [] => .ok ([], [])
  | argument :: rest =>
      if argument = "--" then .ok ([], rest)
      else if isOption argument then
        match readArgument options argument, rest with
        | .error e, _ => .error e
        | .ok (.complete given), rest =>
            (scan options mixed rest).map fun (more, args) => (given ++ more, args)
        | .ok (.wantsNext _ _), [] => .error .badOption
        | .ok (.wantsNext given o), value :: rest =>
            (scan options mixed rest).map fun (more, args) => (given ++ (o, value) :: more, args)
      else if mixed then
        (scan options mixed rest).map fun (given, args) => (given, argument :: args)
      else .ok ([], argument :: rest)

/-- The value that counts of each option, in the order in which the options were first given. -/
def lastOfEach (given : Given) : Given :=
  given.foldl
    (fun seen (o, v) =>
      if seen.any fun s => decide (s.1 = o) then
        seen.map fun s => if s.1 = o then (o, v) else s
      else seen ++ [(o, v)])
    []

/-- Whether help was asked for. -/
def asksForHelp (given : Given) : Bool := given.any fun g => decide (g.1 = helpOption)

/-- The value of an option as a setting. -/
def readOption (o : CommandOption) (value : String) : Except UsageError Value :=
  match o.kind with
  | .text => .ok (.text value)
  | .switch => .ok (.truth true)
  | .whole => ((Numeral.readWhole value).map Value.whole).mapError (.badValue o.long)
  | .real => ((Numeral.readReal value).map Value.real).mapError (.badValue o.long)

/-- The overrides that options make. -/
def readOptions (given : Given) : Except UsageError Keywords :=
  (lastOfEach given).mapM fun (o, v) => (readOption o v).map fun value => (o.setting, value)

end EphemeralDatabase
