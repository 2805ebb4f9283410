import EphemeralDatabase.Fixture.Basic

/-!
# Scopes and sessions

A *scope* holds the database while a body runs and releases it afterwards, whether the body
succeeds or not.  What the release raises takes the place of what the body raised.

A *session* is the life of a fixture in a test run.  The fixture is opened when the run begins,
every test that wants the database acquires it, and at the end it is released once; whatever
could not be deleted then is reported as leaked.
-/

namespace EphemeralDatabase

variable {τ ω : Type}

/-- Looks for credentials, and notes where. -/
def ClusterSettings.authenticate (c : ClusterSettings) (store : CredentialStore) :
    Act τ ω (Except Fault Client) := do
  let connection := c.connect store
  Act.note (connection.calls.map .credentials)
  Act.report (connection.notes.map .credentials)
  return connection.client

namespace Fixture

/-- Opens the fixture that settings describe. -/
def opened (c : ClusterSettings) (d : DatabaseSettings) (poll : PollSettings τ)
    (store : CredentialStore) : Act τ ω (Except Fault (Fixture τ)) := do
  match ← c.authenticate store with
  | .ok _ => return .ok { plan := Plan.ofSettings c d poll }
  | .error fault => return .error fault

variable [Clock τ]

/-! ## Scopes -/

/-- What comes out of a scope. -/
inductive ScopeError (τ : Type) where
  | acquire (e : AcquireError τ)
  /-- the body's own error -/
  | body (message : String)
  | release (e : ReleaseError)

/-- What happened in a scope. -/
structure Scope (τ : Type) where
  /-- what the body saw, if it ran: the handle, and the status of the fixture -/
  body : Option (Handle × Status)
  raised : Option (ScopeError τ)

/-- Runs a body that does nothing but raise an error, if it does, while it holds the database. -/
def withDatabase (f : Fixture τ) (world : World τ ω) (bodyError : Option String) :
    Act τ ω (Fixture τ × Option (Scope τ)) := do
  let (f, acquired) ← f.acquire world
  match acquired with
  | none => return (f, none)
  | some (.error e) => return (f, some ⟨none, some (.acquire e)⟩)
  | some (.ok handle) => do
      let seen := some (handle, f.cell.status)
      let (f, released) ← f.release world
      match released with
      | none => return (f, none)
      | some (.error e) => return (f, some ⟨seen, some (.release e)⟩)
      | some (.ok _) => return (f, some ⟨seen, bodyError.map .body⟩)

/-! ## Sessions -/

/-- What the tests of a run got: a handle each, or the error that the first of them met. -/
def acquireForTests (world : World τ ω) :
    Nat → Fixture τ → Act τ ω (Fixture τ × Option (Except (AcquireError τ) (List Handle)))
  | 0, f => return (f, some (.ok []))
  | tests + 1, f => do
      let (f, acquired) ← f.acquire world
      match acquired with
      | none => return (f, none)
      | some (.error e) => return (f, some (.error e))
      | some (.ok handle) => do
          let (f, rest) ← acquireForTests world tests f
          return (f, rest.map fun r => r.map fun handles => handle :: handles)

/-- What happened in a test run. -/
structure Session (τ : Type) where
  handles : Except (AcquireError τ) (List Handle)
  /-- the status of the fixture while the tests ran -/
  during : Status
  /-- and after the run -/
  after : Status

/-- Ends a test run. -/
def finish (f : Fixture τ) (world : World τ ω) :
    Act τ ω (Fixture τ × Option (Except ReleaseError Unit)) := do
  Act.report [.tearingDown]
  let (f, released) ← f.release world
  match released with
  | none => return (f, none)
  | some (.error e) => return (f, some (.error e))
  | some (.ok report) => do
      Act.report (report.failures.map .leaked)
      return (f, some (.ok ()))

/-- A test run in which a number of tests want the database. -/
def session (f : Fixture τ) (world : World τ ω) (tests : Nat) :
    Act τ ω (Option (Except ReleaseError (Session τ))) := do
  let (f, handles) ← acquireForTests world tests f
  let during := f.cell.status
  let (f, finished) ← f.finish world
  match handles, finished with
  | some handles, some (.ok _) => return some (.ok ⟨handles, during, f.cell.status⟩)
  | _, some (.error e) => return some (.error e)
  | _, _ => return none

end Fixture

end EphemeralDatabase
