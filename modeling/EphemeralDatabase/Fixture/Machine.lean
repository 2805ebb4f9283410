import EphemeralDatabase.Cluster.World
import EphemeralDatabase.Fixture.Event

/-!
# Machines and what they do

A machine is a resumable computation.  In each of its states it either asks one thing of the
outside or has nothing more to ask, and with the reply it goes on to its next state and reports
events.  Machines are written as data so that they can be stopped between any two requests:
alone they are run to their end (`Machine.run`), and in a fixture that several threads share
their requests are interleaved with those of others.

What is done to a world is an `Act`: it changes the world and leaves a journal of everything that
happened, in order.  A journal holds exchanges with the cluster, events, and attempts to find
credentials; `calls`, `events` and `credentialCalls` are its views.

Waiting for an object may take for ever, so running a machine takes a bound on its requests.
A machine that was cut off is simply in a state in which it still asks for something.
-/

namespace EphemeralDatabase

/-- A resumable computation with states `σ`. -/
structure Machine (τ σ : Type) where
  ask : σ → Option (Request τ)
  resume : σ → Reply τ → σ × List (Event τ)

/-! ## Journals -/

/-- One thing that happened. -/
inductive Entry (τ : Type) where
  | exchange (e : Exchange τ)
  | event (e : Event τ)
  | credentials (call : CredentialCall)

/-- What happened, in order. -/
abbrev Journal (τ : Type) := List (Entry τ)

namespace Journal

variable {τ : Type}

/-- The exchanges with the outside. -/
def exchanges (j : Journal τ) : List (Exchange τ) :=
  j.filterMap fun
    | .exchange e => some e
    | _ => none

/-- The events. -/
def events (j : Journal τ) : List (Event τ) :=
  j.filterMap fun
    | .event e => some e
    | _ => none

/-- The attempts to find credentials. -/
def credentialCalls (j : Journal τ) : List CredentialCall :=
  j.filterMap fun
    | .credentials c => some c
    | _ => none

end Journal

/-! ## Acts -/

/-- What an act leaves: a result, a world, and what happened. -/
structure Done (τ ω α : Type) where
  result : α
  world : ω
  journal : Journal τ

/-- Something that is done to a world. -/
def Act (τ ω α : Type) : Type := ω → Done τ ω α

namespace Act

variable {τ ω α β : Type}

instance : Monad (Act τ ω) where
  pure a := fun w => ⟨a, w, []⟩
  bind act next := fun w =>
    let first := act w
    let second := next first.result first.world
    ⟨second.result, second.world, first.journal ++ second.journal⟩

/-- Notes what happened, and does nothing. -/
def note (journal : Journal τ) : Act τ ω Unit := fun w => ⟨(), w, journal⟩

/-- Reports events. -/
def report (events : List (Event τ)) : Act τ ω Unit := note (events.map .event)

/-- Looks at the clock. -/
def now (world : World τ ω) : Act τ ω τ := fun w => ⟨world.now w, w, []⟩

/-- Makes one request. -/
def request (world : World τ ω) (request : Request τ) : Act τ ω (Reply τ) := fun w =>
  let (reply, w) := world.ask request w
  ⟨reply, w, [.exchange ⟨request, reply⟩]⟩

end Act

namespace Machine

variable {τ σ ω : Type}

/-- Runs a machine until it asks for nothing more, for at most `fuel` requests. -/
def run (m : Machine τ σ) (world : World τ ω) : Nat → σ → Act τ ω σ
  | 0, s => pure s
  | fuel + 1, s =>
      match m.ask s with
      | none => pure s
      | some request => do
          let reply ← Act.request world request
          let (s, events) := m.resume s reply
          Act.report events
          run m world fuel s

end Machine

/-- The most requests that one machine is given. -/
def patience : Nat := 1000000

end EphemeralDatabase
