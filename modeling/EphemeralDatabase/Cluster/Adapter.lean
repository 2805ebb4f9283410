import EphemeralDatabase.Cluster.Fault
import EphemeralDatabase.Cluster.Outcome
import EphemeralDatabase.Cluster.View
import EphemeralDatabase.Text.Blank

/-!
# From answers to outcomes

Every answer of the cluster becomes an outcome, and a fault becomes one too if it is the
server's refusal or a failure of the way to it.  A refusal with status 404 is an absence for
reading and deleting and a failure for creating.  Every other fault is passed on as it is.

A Service is reachable when its own type says how.  For a load balancer that is the first way in
with an address, for a node port the configured host, and for every other type the address
inside the cluster.
-/

namespace EphemeralDatabase

/-! ## Endpoints -/

/-- A text that is there and not empty. -/
def nonempty? (text : Option String) : Option String := text.filter (· != "")

/-- The address of one way into a load balancer. -/
def IngressView.host? (i : IngressView) : Option String :=
  (nonempty? i.ip).or (nonempty? i.hostname)

/-- The ways into a load balancer. -/
def View.ingress (v : View) : List IngressView :=
  ((v.status.bind StatusView.ingress).getD [])

/-- The type of a Service that states none. -/
def SpecView.type (s : SpecView) : String := (nonempty? s.serviceType).getD "ClusterIP"

/-- Where a Service with a given first port can be reached. -/
def SpecView.endpoint? (nodeHost : String) (spec : SpecView) (ingress : List IngressView)
    (first : PortView) : Option Endpoint :=
  if spec.type = "LoadBalancer" then
    (ingress.findSome? IngressView.host?).map fun host => ⟨host, first.port⟩
  else if spec.type = "NodePort" then
    (first.nodePort.filter (· != 0)).map fun port => ⟨nodeHost, some port⟩
  else
    ((nonempty? spec.clusterIP).filter (· != "None")).map fun host => ⟨host, first.port⟩

/-- Where a Service can be reached, if it can be already. -/
def View.endpoint? (nodeHost : String) (v : View) : Option Endpoint :=
  match v.spec with
  | none => none
  | some spec =>
      match spec.ports.getD [] with
      | [] => none
      | first :: _ => spec.endpoint? nodeHost v.ingress first

/-- The state of an object that a view shows. -/
def View.state (nodeHost : String) (a : Address) (v : View) : ResourceState :=
  match a.kind with
  | .service => { address := a, endpoint := v.endpoint? nodeHost }
  | .pod => { address := a, phase := v.status.bind StatusView.phase }

/-! ## Faults -/

/-- The reason of a refusal: what the server said, or that it said nothing. -/
def refusalReason (reason : Option String) : String :=
  let said := trimmed (reason.getD "")
  if said = "" then "API error" else said

/-- The failure that a fault is for an operation, if it is one. -/
def Fault.failure? (a : Address) (operation : Operation) : Fault → Option Failure
  | api status reason => some ⟨a, operation, status, refusalReason reason⟩
  | carrier c details => some ⟨a, operation, none, (carrier c details).text⟩
  | other _ _ => none

/-- Whether a fault says that the object is not there. -/
def Fault.isAbsence : Fault → Bool
  | api status _ => status == some 404
  | _ => false

/-! ## Outcomes -/

/-- What came of reading. -/
def readOutcome (nodeHost : String) (a : Address) : Except Fault View → Except Fault ReadOutcome
  | .ok view => .ok (.found (view.state nodeHost a))
  | .error fault =>
      if fault.isAbsence then .ok (.notFound a)
      else
        match fault.failure? a .get with
        | some failure => .ok (.failed failure)
        | none => .error fault

/-- What came of creating. -/
def createOutcome (nodeHost : String) (a : Address) :
    Except Fault View → Except Fault CreateOutcome
  | .ok view => .ok (.made (view.state nodeHost a))
  | .error fault =>
      match fault.failure? a .create with
      | some failure => .ok (.failed failure)
      | none => .error fault

/-- What came of deleting. -/
def deleteOutcome (a : Address) : Except Fault View → Except Fault DeleteOutcome
  | .ok _ => .ok (.deleted a)
  | .error fault =>
      if fault.isAbsence then .ok (.notFound a)
      else
        match fault.failure? a .delete with
        | some failure => .ok (.failed failure)
        | none => .error fault

end EphemeralDatabase
