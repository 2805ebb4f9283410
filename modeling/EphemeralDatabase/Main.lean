import EphemeralDatabase.Cluster.Simulator
import EphemeralDatabase.CommandLine.Commands
import EphemeralDatabase.CommandLine.Help

/-!
# The program

The program rehearses its commands: it runs them on an empty scripted cluster, on which every
object that is created comes up at once.  Output goes to the standard output, everything else to
the standard error.
-/

namespace EphemeralDatabase

/-- The environment variables of the process that are settings. -/
def processEnvironment : IO Environment :=
  settingNames.filterMapM fun field => do
    let name := "PG_FIXTURE_" ++ field.toUpper
    return (← IO.getEnv name).map fun value => (name, value)

/-- Credentials as outside a cluster: only the client configuration has them. -/
def outsideCredentials : CredentialStore := ⟨.error (.other .credentials []), .ok ()⟩

/-- An empty cluster. -/
def emptyCluster : Simulator Float := { clock := 0 }

/-- Runs a command that has been understood, and gives its exit status. -/
def rehearse (i : Invocation) : IO UInt32 := do
  let surroundings := ⟨Simulator.world, ← processEnvironment, outsideCredentials⟩
  let done := i.run surroundings emptyCluster
  let (screen, ending) := done.result
  for event in done.journal.events.filter i.shows do
    IO.eprintln event.text
  IO.eprint screen.console
  IO.print screen.output
  match ending with
  | .exit code => return code.toUInt32
  | .raised e =>
      IO.eprintln e.message
      return 1

/-- Runs a command line. -/
def start (arguments : List String) : IO UInt32 := do
  match Invocation.ofArguments arguments with
  | .ok i => rehearse i
  | .error .help => do
      IO.println helpText
      return 0
  | .error (.refused e) => do
      if e = .nothing then IO.println helpText else IO.eprintln e.message
      return 2

end EphemeralDatabase

def main (arguments : List String) : IO UInt32 := EphemeralDatabase.start arguments
