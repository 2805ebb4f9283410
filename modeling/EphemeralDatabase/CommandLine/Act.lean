import EphemeralDatabase.Console.Screen
import EphemeralDatabase.Fixture.Machine
import EphemeralDatabase.Settings.Environment

/-!
# What a command does

A command prints on a screen and acts on a world, and it may stop before its end: with an exit
status of its own, because something could not be printed, or because something broke.  What it
has printed and done until then stays.
-/

namespace EphemeralDatabase

/-- Why a command stops early. -/
inductive Halt where
  | exit (code : Nat)
  | unprinted (e : Markup.PrintError)
  | fault (f : Fault)

/-- What a command runs in. -/
structure Surroundings (ω : Type) where
  world : World Float ω
  environment : Environment
  store : CredentialStore

/-- A command: it prints on a screen, acts on a world, and may stop early. -/
def CommandAct (ω α : Type) : Type := Screen → Act Float ω (Screen × Except Halt α)

namespace CommandAct

variable {ω α β : Type}

instance : Monad (CommandAct ω) where
  pure a := fun screen => pure (screen, .ok a)
  bind act next := fun screen => do
    match ← act screen with
    | (screen, .ok a) => next a screen
    | (screen, .error e) => return (screen, .error e)

/-- Stops early. -/
def halt (e : Halt) : CommandAct ω α := fun screen => pure (screen, .error e)

/-- Acts on the world. -/
def act (a : Act Float ω α) : CommandAct ω α := fun screen => do
  return (screen, .ok (← a))

/-- Prints something that may fail to print. -/
def draw (f : Screen → Screen × Option Markup.PrintError) : CommandAct ω Unit := fun screen =>
  match f screen with
  | (screen, none) => pure (screen, .ok ())
  | (screen, some e) => pure (screen, .error (.unprinted e))

/-- Prints a marked-up text. -/
def print [Console] (text : String) : CommandAct ω Unit := draw fun s => s.printAll [text]

/-- Prints a title in a box. -/
def title [Console] (text : String) : CommandAct ω Unit := draw fun s => (s.title text, none)

/-- Writes to the output. -/
def write (text : String) : CommandAct ω Unit := draw fun s => (s.write text, none)

/-- What an act that may break came to. -/
def orFault : Except Fault α → CommandAct ω α
  | .ok a => pure a
  | .error f => halt (.fault f)

end CommandAct

end EphemeralDatabase
