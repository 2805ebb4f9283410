import EphemeralDatabase.CommandLine.Act
import EphemeralDatabase.CommandLine.Invocation
import EphemeralDatabase.Fixture.Session
import EphemeralDatabase.Resource.Yaml.Document

/-!
# The commands

Every command first resolves the settings, and stops with exit status 2 if they are invalid; if the
interpreter breaks on them, so does the command.  `create` provisions the database and writes its
URL, `delete` deletes both objects, `status` reads each of them once, and `manifests` writes what
would be created, without the cluster.  A command that ran and found the database wanting stops
with exit status 1.

Anything else that breaks on the way is printed as an error with exit status 1, an interrupt
excepted, which is exit status 130.  Since everything printed is marked-up text, printing itself
can fail, and so can printing that failure; then there is no exit status at all, and the failure
is what comes out of the command.
-/

namespace EphemeralDatabase

open CommandAct

variable {ω : Type}

/-- A text in a colour. -/
def coloured (colour text : String) : String :=
  "[" ++ colour ++ "]" ++ text ++ "[/" ++ colour ++ "]"

/-- The settings of a command. -/
def loadSettings [Interpreter] [Console] (s : Surroundings ω) (overrides : Keywords) :
    CommandAct ω Settings :=
  match Settings.resolve overrides s.environment with
  | .ok settings => pure settings
  | .error e =>
      match e.fault? with
      | some f => halt (.fault f)
      | none => do
          print (coloured "red" ("❌ Invalid configuration: " ++ e.message))
          halt (.exit 2)

/-- Provisions the database and writes its URL. -/
def createDatabase [Console] (s : Surroundings ω) (settings : Settings) : CommandAct ω Unit := do
  draw fun screen => screen.settings settings
  title "Provisioning database"
  let opened ← act (Fixture.opened settings.cluster settings.database settings.poll s.store)
  let fixture ← orFault opened
  let (_, acquired) ← act (fixture.acquire s.world)
  match acquired with
  | some (.ok handle) => do
      print (coloured "green"
        ("✅ Database ready at " ++ handle.host ++ ":" ++ portText handle.port))
      write (handle.url ++ "\n")
  | some (.error (.raised f)) => halt (.fault f)
  | some (.error e) => do
      print (coloured "red" ("❌ " ++ e.message))
      halt (.exit 1)
  | none => halt (.exit 1)

/-- Prints each of several texts. -/
def printEach [Console] (texts : List String) : CommandAct ω Unit := draw fun s => s.printAll texts

/-- Deletes the Pod, then the Service. -/
def deleteDatabase [Console] (s : Surroundings ω) (settings : Settings) : CommandAct ω Unit := do
  let plan := Plan.ofSettings settings.cluster settings.database settings.poll
  title "Deleting database"
  let client ← act (settings.cluster.authenticate s.store)
  let _ ← orFault client
  let deleted ← act (Teardown.deleteAll s.world plan.teardownOrder)
  let report ← orFault deleted
  printEach (report.deleted.map fun a => coloured "green" ("✅ " ++ a.ref ++ " deleted"))
  printEach (report.alreadyGone.map fun a =>
    coloured "yellow" ("⚠️  " ++ a.ref ++ " not found or already deleted"))
  printEach (report.failures.map fun f => coloured "red" ("❌ " ++ f.text))
  if report.ok then pure () else halt (.exit 1)

/-- How a ready object is described. -/
def readyDetail (state : ResourceState) : String :=
  match state.endpoint with
  | some e => "endpoint " ++ e.text
  | none => "phase " ++ state.phase.getD "None"

/-- How an object that is not ready is described. -/
def unreadyDetail (state : ResourceState) : String :=
  match state.address.kind with
  | .pod => "phase " ++ phaseText state.phase
  | .service => "no endpoint yet"

/-- The line for one object, and whether it is ready. -/
def statusLine (a : Address) : ReadOutcome → String × Bool
  | .notFound _ => (coloured "yellow" ("✗ " ++ a.ref ++ ": absent"), false)
  | .failed f => (coloured "red" ("❌ " ++ f.text), false)
  | .found state =>
      if a.kind.ready state then
        (coloured "green" ("✓ " ++ a.ref ++ ": ready (" ++ readyDetail state ++ ")"), true)
      else
        (coloured "yellow" ("… " ++ a.ref ++ ": not ready (" ++ unreadyDetail state ++ ")"), false)

/-- Reads an object and prints its line. -/
def printStatus [Console] (s : Surroundings ω) (nodeHost : String) (a : Address) :
    CommandAct ω Bool := do
  let reply ← act (Act.request s.world (.read a))
  let outcome ← orFault (readOutcome nodeHost a reply.answer)
  let (line, isReady) := statusLine a outcome
  print line
  return isReady

/-- Reads both objects once. -/
def showStatus [Console] (s : Surroundings ω) (settings : Settings) : CommandAct ω Unit := do
  let client ← act (settings.cluster.authenticate s.store)
  let _ ← orFault client
  let plan := Plan.ofSettings settings.cluster settings.database settings.poll
  let service ← printStatus s plan.nodeHost plan.service.address
  let pod ← printStatus s plan.nodeHost plan.pod.address
  if service && pod then pure () else halt (.exit 1)

/-- Writes both manifests. -/
def showManifests (settings : Settings) : CommandAct ω Unit := do
  let plan := Plan.ofSettings settings.cluster settings.database settings.poll
  write (Yaml.documents [plan.service.manifest, plan.pod.manifest])

/-- Carries out a command. -/
def Command.perform [Console] (s : Surroundings ω) (settings : Settings) :
    Command → CommandAct ω Unit
  | create => createDatabase s settings
  | delete => deleteDatabase s settings
  | status => showStatus s settings
  | manifests => showManifests settings

/-- Carries out a command if its settings are valid. -/
def Command.run [Interpreter] [Console] (s : Surroundings ω) (overrides : Keywords) (c : Command) :
    CommandAct ω Unit := do
  let settings ← loadSettings s overrides
  c.perform s settings

/-! ## Exit statuses -/

/-- How a command ended. -/
inductive Ending where
  | exit (code : Nat)
  /-- an error could not be printed -/
  | raised (e : Markup.PrintError)
  deriving DecidableEq, Repr

/-- Prints an error that nothing else has dealt with. -/
def lastResort [Console] (message : String) (screen : Screen) : Screen × Ending :=
  match screen.printAll [coloured "red" ("❌ " ++ message)] with
  | (screen, none) => (screen, .exit 1)
  | (screen, some e) => (screen, .raised e)

/-- What becomes of a fault that no command has dealt with.  A broken pipe, which is number 32
of the operating system, means that nobody reads any more, and nothing is printed. -/
def faultEnding [Console] (f : Fault) (screen : Screen) : Screen × Ending :=
  match f with
  | .other .interrupt _ => (screen, .exit 130)
  | .carrier (.system _) details =>
      if SystemError.number? details = some 32 then (screen, .exit 1) else lastResort f.text screen
  | _ => lastResort f.text screen

/-- Runs a command to its end. -/
def Invocation.run [Interpreter] [Console] (i : Invocation) (s : Surroundings ω) :
    Act Float ω (Screen × Ending) := do
  match ← i.command.run s i.overrides {} with
  | (screen, .ok _) => return (screen, .exit 0)
  | (screen, .error (.exit code)) => return (screen, .exit code)
  | (screen, .error (.unprinted e)) => return lastResort e.message screen
  | (screen, .error (.fault f)) => return faultEnding f screen

/-- Whether an event is reported by a command. -/
def Invocation.shows {τ : Type} (i : Invocation) (e : Event τ) : Bool :=
  i.verbose || decide (e.level ≠ .debug)

end EphemeralDatabase
