import EphemeralDatabase.Cluster.Outcome
import EphemeralDatabase.Cluster.World

/-!
# A scripted cluster

The simulator is a world that keeps objects in memory and follows a script.  Each object shows a
list of views, one per look, and the last of them for ever.  Creating an object that is there and
touching one that is not are refused as an API server would refuse them.  Beside that the script
can make calls slow, let them fail, and say what created objects will look like.

A call first takes its time, then fails if the script has a fault for it, and only then has its
effect.
-/

namespace EphemeralDatabase

/-- A call on a kind of object. -/
structure Method where
  operation : Operation
  kind : Kind
  deriving DecidableEq, Repr

/-- An object and the views it has yet to show. -/
structure StoredObject where
  address : Address
  views : List View

/-- The state of a scripted cluster. -/
structure Simulator (τ : Type) where
  clock : τ
  objects : List StoredObject := []
  /-- the address that a created Service gets inside the cluster -/
  clusterIP : String := "10.43.0.7"
  /-- the views of objects that will be created -/
  onCreate : List (Kind × List View) := []
  /-- for each coming call of a method whether and how it fails, in order -/
  script : List (Method × Option Fault) := []
  latency : List (Method × τ) := []

namespace Simulator

variable {τ : Type}

/-- The refusal of a call on an object that is not there. -/
def absent : Fault := .api (some 404) (some "Not Found")

/-- The refusal to create an object that is there. -/
def conflict : Fault := .api (some 409) (some "Conflict")

/-- Removes the first entry for a key, and gives what it held. -/
def takeFirst {κ α : Type} [DecidableEq κ] (key : κ) : List (κ × α) → Option α × List (κ × α)
  | [] => (none, [])
  | (k, a) :: rest =>
      if k = key then (some a, rest)
      else
        let (found, rest) := takeFirst key rest
        (found, (k, a) :: rest)

/-- The first view, and the views after one look. -/
def look : List View → View × List View
  | [] => ({}, [])
  | [v] => (v, [v])
  | v :: rest => (v, rest)

/-- The object at an address. -/
def find? (s : Simulator τ) (a : Address) : Option StoredObject :=
  s.objects.find? fun o => decide (o.address = a)

/-- Puts an object at its address, in place of one that is there. -/
def put (s : Simulator τ) (a : Address) (views : List View) : Simulator τ :=
  { s with objects := ⟨a, views⟩ :: s.objects.filter fun o => decide (o.address ≠ a) }

/-- Removes the object at an address. -/
def drop (s : Simulator τ) (a : Address) : Simulator τ :=
  { s with objects := s.objects.filter fun o => decide (o.address ≠ a) }

/-- The view of a Service that has just been created from a manifest. -/
def serviceView (clusterIP : String) (body : Manifest) : View :=
  let spec := body.get? "spec"
  let ports := ((spec.bind fun s => s.get? "ports").map Manifest.entries).getD []
  { spec := some {
      serviceType := (spec.bind fun s => s.get? "type").bind Manifest.text?
      ports := some (ports.map fun p =>
        { port := (p.get? "port").bind Manifest.number?
          nodePort := (p.get? "nodePort").bind Manifest.number? })
      clusterIP := some clusterIP } }

/-- The view of a Pod in a phase. -/
def podView (phase : String) : View := { status := some { phase := some phase } }

/-- What an object created from a manifest will look like, unless the script says so. -/
def standardViews (s : Simulator τ) (kind : Kind) (body : Manifest) : List View :=
  match kind with
  | .service => [serviceView s.clusterIP body]
  | .pod => [podView "Pending", podView "Running"]

/-- What an object created from a manifest will look like. -/
def viewsOf (s : Simulator τ) (kind : Kind) (body : Manifest) : List View :=
  match s.onCreate.find? fun entry => decide (entry.1 = kind) with
  | some entry => entry.2
  | none => s.standardViews kind body

/-- Looks at an object, and keeps what it will show next. -/
def present (s : Simulator τ) (a : Address) (views : List View) : Answer × Simulator τ :=
  let (view, views) := look views
  (.ok view, s.put a views)

/-- The effect of a call that does not fail by the script. -/
def effect (s : Simulator τ) : Request τ → Answer × Simulator τ
  | .read a =>
      match s.find? a with
      | some o => s.present a o.views
      | none => (.error absent, s)
  | .create a body =>
      match s.find? a with
      | some _ => (.error conflict, s)
      | none => s.present a (s.viewsOf a.kind body)
  | .delete a =>
      match s.find? a with
      | some _ => (.ok {}, s.drop a)
      | none => (.error absent, s)
  | .sleep _ => (.ok {}, s)

/-- The method of a request; sleeping is none. -/
def method? : Request τ → Option Method
  | .read a => some ⟨.get, a.kind⟩
  | .create a _ => some ⟨.create, a.kind⟩
  | .delete a => some ⟨.delete, a.kind⟩
  | .sleep _ => none

variable [Clock τ]

/-- Lets time pass. -/
def advance (s : Simulator τ) (seconds : τ) : Simulator τ := { s with clock := s.clock + seconds }

/-- How long a call takes. -/
def latencyOf (s : Simulator τ) (m : Method) : τ :=
  ((s.latency.find? fun entry => decide (entry.1 = m)).map Prod.snd).getD Clock.zero

/-- Answers a request by the script. -/
def answer (request : Request τ) (s : Simulator τ) : Answer × Simulator τ :=
  match request with
  | .sleep seconds => (.ok {}, s.advance seconds)
  | _ =>
      match method? request with
      | none => s.effect request
      | some m =>
          let s := s.advance (s.latencyOf m)
          let (fault, script) := takeFirst m s.script
          let s := { s with script := script }
          match fault with
          | some (some fault) => (.error fault, s)
          | _ => s.effect request

/-- The scripted cluster as a world. -/
def world : World τ (Simulator τ) := ⟨answer, fun s => s.clock⟩

end Simulator

end EphemeralDatabase
