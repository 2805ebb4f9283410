import EphemeralDatabase.CommandLine.Option

/-!
# Invocations

Commands come in groups, and the options of a group stand before the name of the command.
`Invocation.ofArguments` takes a whole command line apart, or says what is wrong with it.  Of two
mistakes the one that counts is found in this order: in the form of the options, in their values,
in the arguments left over; help goes before the values.
-/

namespace EphemeralDatabase

/-- How a command line ends before its command: it is refused, or it asks for help. -/
inductive Detour where
  | refused (e : UsageError)
  | help
  deriving DecidableEq, Repr

/-- What can be commanded. -/
inductive Command where
  | create
  | delete
  | status
  | manifests
  deriving DecidableEq, Repr

/-- The option for the namespace. -/
def namespaceOption : CommandOption :=
  { long := "namespace", short := some 'n', setting := "namespace" }

/-- The option for the context. -/
def contextOption : CommandOption := { long := "context", setting := "kube_context" }

/-- The option for the image. -/
def imageOption : CommandOption := { long := "image", setting := "image" }

/-- The options for the names of the two objects. -/
def nameOptions : List CommandOption :=
  [{ long := "service-name", setting := "service_name" },
    { long := "pod-name", setting := "pod_name" }]

/-- The options that only creating has. -/
def createOptions : List CommandOption :=
  [{ long := "service-type", setting := "service_type" },
    { long := "node-port", setting := "node_port", kind := .whole },
    { long := "service-interval", setting := "service_interval", kind := .real },
    { long := "service-timeout", setting := "service_deadline", kind := .real },
    { long := "pod-interval", setting := "pod_interval", kind := .real },
    { long := "pod-timeout", setting := "pod_deadline", kind := .real }]

/-- The options of a command. -/
def Command.options : Command → List CommandOption
  | create => [namespaceOption, contextOption, imageOption] ++ nameOptions ++ createOptions
  | delete => [namespaceOption, contextOption] ++ nameOptions
  | status => [namespaceOption, contextOption]
  | manifests => [namespaceOption, imageOption]

/-- The groups of commands. -/
def commandGroups : List (String × List (String × Command)) :=
  [("create", [("database", .create)]), ("delete", [("database", .delete)]),
    ("show", [("status", .status), ("manifests", .manifests)])]

/-- The switch for detailed reports. -/
def verboseOption : CommandOption := { long := "verbose", short := some 'v', kind := .switch }

/-- A command line in its parts. -/
structure Invocation where
  verbose : Bool
  command : Command
  overrides : Keywords

namespace Invocation

/-- Turns a refusal into the end of the command line. -/
def refuse {α : Type} : Except UsageError α → Except Detour α
  | .ok a => .ok a
  | .error e => .error (.refused e)

/-- The options of a group and the arguments after them.  Arguments that name no member of the
group may still be options in disguise, after `--`, and are then judged as such. -/
def readGroup {α : Type} (options : List CommandOption) (members : List (String × α))
    (arguments : List String) : Except Detour (Given × α × List String) := do
  let (given, rest) ← refuse (scan options false arguments)
  if asksForHelp given then .error .help
  else
    match rest with
    | [] => .error (.refused .badCommand)
    | name :: rest =>
        match members.find? fun m => m.1 == name with
        | some m => .ok (given, m.2, rest)
        | none => do
            let (given, _) ← refuse (scan options false (name :: rest))
            if asksForHelp given then .error .help else .error (.refused .badCommand)

/-- The overrides of a command. -/
def readCommand (command : Command) (arguments : List String) : Except Detour Keywords := do
  let (given, rest) ← refuse (scan (helpOption :: command.options) true arguments)
  if asksForHelp given then .error .help
  else
    let overrides ← refuse (readOptions given)
    if rest.isEmpty then .ok overrides else .error (.refused .badCommand)

/-- Takes a command line apart. -/
def ofArguments (arguments : List String) : Except Detour Invocation :=
  if arguments.isEmpty then .error (.refused .nothing)
  else do
    let (given, group, rest) ← readGroup [helpOption, verboseOption] commandGroups arguments
    let (_, command, rest) ← readGroup [helpOption] group rest
    let overrides ← readCommand command rest
    return ⟨given.any fun g => decide (g.1 = verboseOption), command, overrides⟩

end Invocation

end EphemeralDatabase
