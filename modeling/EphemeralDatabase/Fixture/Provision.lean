import EphemeralDatabase.Fixture.Ensure
import EphemeralDatabase.Fixture.Handle
import EphemeralDatabase.Fixture.Plan
import EphemeralDatabase.Fixture.Poll

/-!
# Provisioning

To bring up one object is to ensure that it exists and to wait until it is ready.  To provision
the database is to bring up the Service and then the Pod; the handle is the endpoint that the
Service was last seen to have, with the credentials of the plan.

An object that existed may be ready as it was found, and is then not read again.  One that was
created is always read once more, whatever the answer to its creation showed.
-/

namespace EphemeralDatabase

/-- Why a database cannot be had. -/
inductive AcquireError (τ : Type) where
  /-- an object could not be found out about, or not be created; this is what it should have been -/
  | provisioning (descriptor : Descriptor) (cause : Failure)
  /-- an object did not become ready in time -/
  | readiness (t : TimedOut τ)
  /-- something else broke -/
  | raised (fault : Fault)

/-- An error of acquiring in words. -/
def AcquireError.message : AcquireError Float → String
  | provisioning d cause => "Provisioning " ++ d.ref ++ " failed: " ++ cause.text
  | readiness t => t.text
  | raised f => f.text

/-- What came of trying to get a database. -/
abbrev Acquired (τ : Type) := Except (AcquireError τ) Handle

/-! ## One object -/

namespace BringUp

/-- Where bringing up one object stands. -/
inductive Stage (condition : Condition) (τ : Type) where
  | ensuring (stage : Ensure.Stage)
  | waiting (watch : Watch τ) (stage : Poll.Stage condition τ)
  | done (result : Except (AcquireError τ) (Ready condition τ))

/-- What to bring up. -/
structure Task (τ : Type) where
  descriptor : Descriptor
  nodeHost : String
  pace : Pace τ

variable {condition : Condition} {τ : Type}

/-- What is asked of the outside. -/
def ask (t : Task τ) : Stage condition τ → Option (Request τ)
  | .ensuring s => Ensure.ask t.descriptor s
  | .waiting w s => Poll.ask w s
  | .done _ => none

/-- Turns the end of waiting into the end of bringing up. -/
def settle (w : Watch τ) : Poll.Stage condition τ → Stage condition τ
  | .done (.ok (.ready r)) => .done (.ok r)
  | .done (.ok (.timedOut t)) => .done (.error (.readiness t))
  | .done (.error fault) => .done (.error (.raised fault))
  | s => .waiting w s

variable [Clock τ]

/-- Begins to wait at a time. -/
def wait (t : Task τ) (time : τ) (observed : Option ResourceState) :
    Stage condition τ × List (Event τ) :=
  let w : Watch τ := ⟨t.descriptor.address, t.nodeHost, t.pace, time⟩
  let (s, events) := Poll.start w observed
  (settle w s, events)

/-- Turns the end of ensuring into the beginning of waiting. -/
def proceed (t : Task τ) (time : τ) : Ensure.Stage → Stage condition τ × List (Event τ)
  | .done (.ok (.existed s)) => wait t time (some s)
  | .done (.ok (.created _)) => wait t time none
  | .done (.ok (.failed d f)) => (.done (.error (.provisioning d f)), [])
  | .done (.error fault) => (.done (.error (.raised fault)), [])
  | s => (.ensuring s, [])

/-- Goes on with a reply. -/
def resume (t : Task τ) : Stage condition τ → Reply τ → Stage condition τ × List (Event τ)
  | .ensuring s, reply =>
      let (s, events) := Ensure.resume t.nodeHost t.descriptor s reply
      let (next, more) := proceed t reply.time s
      (next, events ++ more)
  | .waiting w s, reply =>
      let (s, events) := Poll.resume w s reply
      (settle w s, events)
  | .done r, _ => (.done r, [])

end BringUp

/-! ## Both objects -/

namespace Provision

/-- Where provisioning stands. -/
inductive Stage (τ : Type) where
  | service (stage : BringUp.Stage endpointAssigned τ)
  | pod (endpoint : Endpoint) (stage : BringUp.Stage phaseRunning τ)
  | done (result : Acquired τ)

variable {τ : Type}

/-- How provisioning begins. -/
def start : Stage τ := .service (.ensuring .reading)

/-- The Service to bring up. -/
def serviceTask (plan : Plan τ) : BringUp.Task τ :=
  ⟨plan.service, plan.nodeHost, plan.poll.service⟩

/-- The Pod to bring up. -/
def podTask (plan : Plan τ) : BringUp.Task τ := ⟨plan.pod, plan.nodeHost, plan.poll.pod⟩

/-- The handle of a database at an endpoint. -/
def handle (plan : Plan τ) (endpoint : Endpoint) : Handle where
  host := endpoint.host
  port := endpoint.port
  database := plan.database
  user := plan.user
  password := plan.password
  space := plan.service.space
  serviceName := plan.service.name
  podName := plan.pod.name

/-- The endpoint of a Service that is ready. -/
def endpointOf (r : Ready endpointAssigned τ) : Endpoint := r.state.endpoint.get r.holds

/-- What is asked of the outside. -/
def ask (plan : Plan τ) : Stage τ → Option (Request τ)
  | .service s => BringUp.ask (serviceTask plan) s
  | .pod _ s => BringUp.ask (podTask plan) s
  | .done _ => none

/-- After the Service comes the Pod. -/
def afterService : BringUp.Stage endpointAssigned τ → Stage τ
  | .done (.ok r) => .pod (endpointOf r) (.ensuring .reading)
  | .done (.error e) => .done (.error e)
  | s => .service s

/-- After the Pod comes the handle. -/
def afterPod (plan : Plan τ) (endpoint : Endpoint) : BringUp.Stage phaseRunning τ → Stage τ
  | .done (.ok _) => .done (.ok (handle plan endpoint))
  | .done (.error e) => .done (.error e)
  | s => .pod endpoint s

/-- Goes on with a reply. -/
def resume [Clock τ] (plan : Plan τ) : Stage τ → Reply τ → Stage τ × List (Event τ)
  | .service s, reply =>
      let (s, events) := BringUp.resume (serviceTask plan) s reply
      (afterService s, events)
  | .pod endpoint s, reply =>
      let (s, events) := BringUp.resume (podTask plan) s reply
      (afterPod plan endpoint s, events)
  | .done r, _ => (.done r, [])

/-- Provisioning, as a machine. -/
def machine [Clock τ] (plan : Plan τ) : Machine τ (Stage τ) := ⟨ask plan, resume plan⟩

end Provision

end EphemeralDatabase
