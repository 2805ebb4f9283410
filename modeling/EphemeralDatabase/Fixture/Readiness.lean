import EphemeralDatabase.Cluster.Outcome
import EphemeralDatabase.Decimal.Text

/-!
# Readiness

A Service is ready when it can be reached, a Pod when it is running.  Waiting for an object ends
in `Ready`, which carries the proof that the state it holds satisfies what was waited for, or in
`TimedOut`, which holds the last thing that was seen.
-/

namespace EphemeralDatabase

/-- A condition on the state of an object. -/
abbrev Condition := ResourceState → Bool

/-- The object can be reached. -/
def endpointAssigned : Condition := fun s => s.endpoint.isSome

/-- The object is running. -/
def phaseRunning : Condition := fun s => s.phase == some "Running"

/-- When an object of a kind is ready. -/
def Kind.ready : Kind → Condition
  | .service => endpointAssigned
  | .pod => phaseRunning

/-- The condition held. -/
structure Ready (condition : Condition) (τ : Type) where
  state : ResourceState
  /-- how often the object was read -/
  attempts : Nat
  elapsed : τ
  holds : condition state = true

/-- The deadline passed and the condition had not held. -/
structure TimedOut (τ : Type) where
  address : Address
  deadline : τ
  /-- how often the object was read -/
  attempts : Nat
  elapsed : τ
  /-- what was read last -/
  last : Option ReadOutcome
  deriving Repr

/-- How waiting ended. -/
inductive Waited (condition : Condition) (τ : Type) where
  | ready (r : Ready condition τ)
  | timedOut (t : TimedOut τ)

/-- The phase of a Pod as messages show it. -/
def phaseText (phase : Option String) : String :=
  match phase with
  | some p => if p = "" then "unknown" else p
  | none => "unknown"

/-- What was seen last, in words. -/
def lastSeen : Option ReadOutcome → String
  | some (.found s) =>
      match s.address.kind with
      | .pod => "phase " ++ phaseText s.phase
      | .service => "no endpoint assigned"
  | some (.notFound _) => "resource not found"
  | some (.failed f) => f.text
  | none => "no status read"

/-- The timeout as a sentence. -/
def TimedOut.text (t : TimedOut Float) : String :=
  t.address.ref ++ " not ready after " ++ Decimal.fixedText 1 t.elapsed ++ "s (deadline "
    ++ Decimal.generalText t.deadline ++ "s, " ++ toString t.attempts ++ " attempts, last seen: "
    ++ lastSeen t.last ++ ")"

end EphemeralDatabase
