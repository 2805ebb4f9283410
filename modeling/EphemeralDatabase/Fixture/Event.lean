import EphemeralDatabase.Cluster.Credentials
import EphemeralDatabase.Fixture.Readiness

/-!
# Events

Everything that the fixture reports while it works is an event.  An event holds what happened;
its level and its sentence are derived from it.
-/

namespace EphemeralDatabase

/-- How much an event matters. -/
inductive Level where
  | debug
  | info
  | warning
  | error
  deriving DecidableEq, Repr

/-- The name of a level. -/
def Level.name : Level → String
  | debug => "DEBUG"
  | info => "INFO"
  | warning => "WARNING"
  | error => "ERROR"

/-- Where a fixture is in its life. -/
inductive Status where
  | absent
  | provisioning
  | ready
  | tornDown
  deriving DecidableEq, Repr

/-- The name of a status. -/
def Status.name : Status → String
  | absent => "absent"
  | provisioning => "provisioning"
  | ready => "ready"
  | tornDown => "torn-down"

/-- Something that the fixture reports. -/
inductive Event (τ : Type) where
  | credentials (note : CredentialNote)
  | exists (a : Address)
  /-- whether the object exists cannot be told -/
  | undetermined (a : Address) (f : Failure)
  | created (a : Address)
  | notCreated (a : Address) (f : Failure)
  /-- the object was ready when it was first seen -/
  | ready (a : Address)
  | readyAfter (a : Address) (elapsed : τ) (attempts : Nat)
  | readFailed (f : Failure)
  | notReady (a : Address) (attempt : Nat) (interval : τ)
  | timedOut (t : TimedOut τ)
  | deleted (a : Address)
  | alreadyGone (a : Address)
  | notDeleted (a : Address) (f : Failure)
  /-- another thread is provisioning already -/
  | joined
  | databaseReady (host : String) (port : Option Int)
  /-- a release that found nothing to release -/
  | nothingToRelease (status : Status)
  | tearingDown
  | leaked (f : Failure)

namespace Event

/-- How much the event matters. -/
def level {τ : Type} : Event τ → Level
  | credentials _ | notReady .. | joined | nothingToRelease _ => .debug
  | undetermined .. | notCreated .. => .error
  | readFailed _ | timedOut _ | notDeleted .. | leaked _ => .warning
  | _ => .info

/-- The event as a sentence. -/
def message : Event Float → String
  | credentials .usingInCluster => "Using in-cluster Kubernetes configuration"
  | credentials .noneInCluster => "No in-cluster configuration, falling back to kubeconfig"
  | .exists a => a.ref ++ " already exists"
  | undetermined a f => "Cannot determine whether " ++ a.ref ++ " exists: " ++ f.text
  | created a => a.ref ++ " created"
  | notCreated a f => "Failed to create " ++ a.ref ++ ": " ++ f.text
  | ready a => a.ref ++ " is ready"
  | readyAfter a elapsed attempts =>
      a.ref ++ " is ready after " ++ Decimal.fixedText 1 elapsed ++ "s (" ++ toString attempts
        ++ " attempts)"
  | readFailed f => "Status read failed: " ++ f.text
  | notReady a attempt interval =>
      a.ref ++ " not ready (attempt " ++ toString attempt ++ "), checking again in "
        ++ Decimal.generalText interval ++ "s"
  | timedOut t => t.text
  | deleted a => a.ref ++ " deleted"
  | alreadyGone a => a.ref ++ " not found, already deleted"
  | notDeleted a f => "Teardown of " ++ a.ref ++ " failed: " ++ f.text
  | joined => "Waiting for in-flight provisioning"
  | databaseReady host port => "Database ready at " ++ host ++ ":" ++ portText port
  | nothingToRelease status => "Release with state " ++ status.name ++ " is a no-op"
  | tearingDown => "Tearing down the database fixture"
  | leaked f => "Leaked after teardown: " ++ f.text

/-- Level and sentence. -/
def text (e : Event Float) : String := e.level.name ++ " " ++ e.message

end Event

end EphemeralDatabase
