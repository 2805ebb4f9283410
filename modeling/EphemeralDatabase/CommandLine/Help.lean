import EphemeralDatabase.CommandLine.Invocation

/-!
# Help

What can be commanded and with which options, as the tables of commands and options have it.
-/

namespace EphemeralDatabase

/-- An option with all its spellings. -/
def CommandOption.help (o : CommandOption) : String :=
  let long := "--" ++ o.long ++ if o.kind = .switch then "" else " VALUE"
  match o.short with
  | some c => String.ofList ['-', c] ++ ", " ++ long
  | none => long

/-- The lines for one command of a group. -/
def Command.help (group name : String) (c : Command) : List String :=
  ("  " ++ group ++ " " ++ name) :: c.options.map fun o => "      " ++ o.help

/-- The help of all commands. -/
def helpText : String :=
  let groups := commandGroups.flatMap fun group => group.2.flatMap fun c => c.2.help group.1 c.1
  "\n".intercalate (["Options:", "  " ++ verboseOption.help, "  " ++ helpOption.help, "Commands:"]
    ++ groups)

end EphemeralDatabase
