import EphemeralDatabase.Console.Device
import EphemeralDatabase.Console.Sequence
import EphemeralDatabase.Decimal.Text
import EphemeralDatabase.Settings.Groups

/-!
# What commands print

A screen holds what a command has printed: marked-up lines and boxed titles on the console, and
its actual output beside them.  What stands on the console has been laid out by it, so a line is
as it was printed only if it fits.  The settings are shown line by line, each line marked-up text
of its own, and the password never among them.
-/

namespace EphemeralDatabase

/-- What has been printed so far. -/
structure Screen where
  console : String := ""
  output : String := ""

namespace Screen

/-- Prints one marked-up text on the console. -/
def print [Console] (s : Screen) (text : String) : Except Markup.PrintError Screen :=
  (Console.render text).map fun shown => { s with console := s.console ++ shown ++ "\n" }

/-- Prints marked-up texts one after the other, up to the first that cannot be printed; what was
printed before it stays. -/
def printAll [Console] (s : Screen) : List String → Screen × Option Markup.PrintError
  | [] => (s, none)
  | text :: rest =>
      match s.print text with
      | .ok s => s.printAll rest
      | .error e => (s, some e)

/-- Prints a title in a box. -/
def title [Console] (s : Screen) (text : String) : Screen :=
  { s with console := s.console ++ Console.boxed text }

/-- Writes to the output. -/
def write (s : Screen) (text : String) : Screen :=
  { s with output := s.output ++ String.ofList (Sequence.removed text.toList) }

end Screen

/-- A pace in words. -/
def Pace.text (p : Pace Float) : String :=
  "every " ++ Decimal.exactText p.interval ++ "s, up to " ++ Decimal.exactText p.deadline ++ "s"

/-- The lines that show the settings. -/
def Settings.lines (s : Settings) : List String :=
  let context := match s.cluster.context with
    | some c => if c = "" then "(current)" else c
    | none => "(current)"
  let nodePort := match s.database.nodePort with
    | some n => if n = 0 then "auto" else toString n
    | none => "auto"
  ["[yellow]Cluster:[/yellow]",
    "  namespace       : " ++ s.cluster.space,
    "  kube_context    : " ++ context,
    "  node_host       : " ++ s.cluster.nodeHost,
    "[yellow]Database:[/yellow]",
    "  service         : " ++ s.database.serviceName ++ " (" ++ s.database.serviceType ++ ")",
    "  pod             : " ++ s.database.podName,
    "  image           : " ++ s.database.image,
    "  port            : " ++ toString s.database.containerPort ++ " (node port " ++ nodePort
      ++ ")",
    "  database        : " ++ s.database.database,
    "  user            : " ++ s.database.user,
    "  password        : ********",
    "[yellow]Readiness:[/yellow]",
    "  service         : " ++ s.poll.service.text,
    "  pod             : " ++ s.poll.pod.text]

/-- Shows the settings on the console. -/
def Screen.settings [Console] (screen : Screen) (s : Settings) :
    Screen × Option Markup.PrintError :=
  (screen.title "Configuration").printAll s.lines

end EphemeralDatabase
