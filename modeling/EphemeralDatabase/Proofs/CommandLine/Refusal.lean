import EphemeralDatabase.Cluster.Simulator
import EphemeralDatabase.Proofs.CommandLine.Printing

/-!
# Commands with invalid settings

A command with invalid settings touches nothing: it looks for no credentials and asks the cluster
for nothing.  It says what is wrong, in red, and ends with exit status 2 if that can be printed, and
only then (`Invocation.run_of_refused`).

What is wrong is told with the value that was given, and the value can have tags in it.  A closing
tag keeps the whole text from being printed, and then also the failure to print it, so there is no
exit status; a colour with a number missing keeps it from being printed too, but that is said with
exit status 1.  JSON that is nested too deeply is no invalid value but breaks the interpreter, which
is exit status 1 again.
-/

namespace EphemeralDatabase

open CommandAct
open Console (render)
open Markup (PrintError Tame)

variable {ω : Type} {i : Invocation} {s : Surroundings ω} {e : SettingsError}

/-- What a command says about invalid settings. -/
def SettingsError.refusal (e : SettingsError) : String :=
  coloured "red" ("❌ Invalid configuration: " ++ e.message)

/-- How a command ends that is refused its settings. -/
structure SettingsError.Ends [Console] (e : SettingsError) (ending : Screen × Ending) : Prop where
  /-- with exit status 2 if it can be said, and only then -/
  refused : ending.2 = .exit 2 ↔ e.fault? = none ∧ Console.problem? e.refusal = none
  /-- and then it has been said -/
  said : ending.2 = .exit 2 →
    ∃ printed, render e.refusal = .ok printed ∧ ending.1 = { console := printed ++ "\n" }
  /-- which it can be if all tags in it are harmless -/
  tame : e.fault? = none → Tame e.message.toList → ending.2 = .exit 2
  /-- without an exit status if it cannot be said because of a closing tag -/
  raised : ∀ unsaid, e.fault? = none → Markup.Ordinary e.refusal →
    Markup.problem? e.refusal = some unsaid → unsaid.AboutTag →
      ∃ failure, ending = ({}, .raised failure)
  /-- with exit status 1 if it cannot be said because of a number -/
  numberless : ∀ unsaid, e.fault? = none → Markup.Ordinary e.refusal →
    Markup.problem? e.refusal = some unsaid → ¬ unsaid.AboutTag → ending.2 = .exit 1
  /-- with exit status 1 if the interpreter broke -/
  broken : e.fault? ≠ none → ending.2 = .exit 1

namespace SettingsError

variable [Console]

end SettingsError

theorem loadSettings_of_error [Interpreter] [Console] (hfault : e.fault? = none)
    (h : Settings.resolve i.overrides s.environment = .error e) :
    loadSettings s i.overrides = print e.refusal >>= fun _ => halt (.exit 2) := by
  simp only [loadSettings, h, hfault, SettingsError.refusal]

namespace Invocation

variable [Interpreter] [Console] (h : Settings.resolve i.overrides s.environment = .error e)

include h

theorem run_of_printed (hfault : e.fault? = none) {printed : String}
    (hprinted : render e.refusal = .ok printed) (w : ω) :
    i.run s w = ⟨({ console := printed ++ "\n" }, .exit 2), w, []⟩ := by
  have hload : loadSettings s i.overrides {} w =
      ⟨({ console := printed ++ "\n" }, .error (.exit 2)), w, []⟩ := by
    rw [loadSettings_of_error hfault h, bind_of_ok (print_of_ok hprinted)]
    simp [halt, pure]
  exact run_of_command (bind_of_error hload)

theorem run_of_unprinted (hfault : e.fault? = none) {unprinted : PrintError}
    (hunprinted : render e.refusal = .error unprinted) (w : ω) :
    i.run s w = ⟨lastResort unprinted.message {}, w, []⟩ := by
  have hload : loadSettings s i.overrides {} w = ⟨({}, .error (.unprinted unprinted)), w, []⟩ := by
    rw [loadSettings_of_error hfault h]
    exact bind_of_error (print_of_error hunprinted)
  exact run_of_command (bind_of_error hload)

theorem run_of_fault {f : Fault} (hfault : e.fault? = some f) (w : ω) :
    i.run s w = ⟨faultEnding f {}, w, []⟩ := by
  have hload : loadSettings s i.overrides {} w = ⟨({}, .error (.fault f)), w, []⟩ := by
    simp only [loadSettings, h, hfault]
    rfl
  exact run_of_command (bind_of_error hload)

end Invocation

/-! ### A namespace with a closing tag in it -/

namespace Closing

/-- An environment whose namespace has a closing tag in it. -/
def surroundings : Surroundings (Simulator Float) :=
  ⟨Simulator.world, [("PG_FIXTURE_NAMESPACE", "[/x]")], ⟨.ok (), .ok ()⟩⟩

/-- The command for the status, without options. -/
def invocation : Invocation := ⟨false, .status, []⟩

def violation : Violation := ⟨["namespace"], .form Form.label.expression, .text "[/x]"⟩

def refused : SettingsError := .invalid .cluster [violation]

end Closing

end EphemeralDatabase
