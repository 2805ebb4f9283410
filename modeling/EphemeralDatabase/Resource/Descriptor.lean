import EphemeralDatabase.Resource.Kind
import EphemeralDatabase.Resource.Manifest
import EphemeralDatabase.Text.Literal

/-!
# Descriptors

A descriptor says what one object should be when the fixture has to create it.  The payload
decides the kind: a `NetworkSpec` makes a Service and a `WorkloadSpec` a Pod, so a descriptor
whose kind and payload disagree cannot be written down.  Where a kind is stated beside a payload,
`Descriptor.ofKind` checks that they agree.

`Descriptor.manifest` is the document that is sent to the cluster.  Empty labels and an empty
environment are left out, and a Service of type `ClusterIP` never asks for a node port.
-/

namespace EphemeralDatabase

/-- One port that a Service exposes. -/
structure ServicePort where
  port : Int
  target : Int
  nodePort : Option Int := none
  protocol : String := "TCP"
  deriving DecidableEq, Repr

/-- What a Service is. -/
structure NetworkSpec where
  serviceType : String
  /-- the labels of the pods it sends traffic to -/
  selector : List (String × String)
  ports : List ServicePort
  deriving DecidableEq, Repr

/-- What a Pod with one container is. -/
structure WorkloadSpec where
  image : String
  containerName : String
  containerPort : Int
  /-- the variables of the container -/
  env : List (String × String) := []
  deriving DecidableEq, Repr

/-- The payload of a descriptor. -/
inductive Spec where
  | network (spec : NetworkSpec)
  | workload (spec : WorkloadSpec)
  deriving DecidableEq, Repr

namespace Spec

/-- The kind of object that a payload makes. -/
def kind : Spec → Kind
  | network _ => .service
  | workload _ => .pod

/-- What a payload is called in messages. -/
def title : Kind → String
  | .service => "NetworkSpec"
  | .pod => "WorkloadSpec"

end Spec

/-- What one object should be. -/
structure Descriptor where
  space : String
  name : String
  spec : Spec
  labels : List (String × String) := []
  deriving DecidableEq, Repr

/-- Why a descriptor cannot be built. -/
inductive DescriptorError where
  /-- no kind has this name -/
  | unknownKind (name : String)
  /-- the payload makes another kind of object -/
  | mismatch (kind payload : Kind)
  deriving DecidableEq, Repr

/-- The error in words. -/
def DescriptorError.message : DescriptorError → String
  | unknownKind name => literal name ++ " is not a valid ResourceKind"
  | mismatch kind payload =>
      kind.name ++ " descriptor requires " ++ Spec.title kind ++ ", got " ++ Spec.title payload

namespace Descriptor

/-- The kind of object described. -/
def kind (d : Descriptor) : Kind := d.spec.kind

/-- Where the object is. -/
def address (d : Descriptor) : Address := ⟨d.kind, d.space, d.name⟩

/-- How the object is named in messages. -/
def ref (d : Descriptor) : String := d.address.ref

/-- A descriptor for a stated kind. -/
def ofKind (kind : Kind) (d : Descriptor) : Except DescriptorError Descriptor :=
  if d.kind = kind then .ok d else .error (.mismatch kind d.kind)

/-- One entry of a Service's port list. -/
def portEntry (serviceType : String) (p : ServicePort) : Manifest :=
  let nodePort :=
    match p.nodePort with
    | some n => if serviceType = "ClusterIP" then [] else [("nodePort", Manifest.number n)]
    | none => []
  .fields ([("port", .number p.port), ("targetPort", .number p.target),
    ("protocol", .text p.protocol)] ++ nodePort)

/-- The variables of a container. -/
def envEntries (env : List (String × String)) : List Manifest :=
  env.map fun (name, value) => .fields [("name", .text name), ("value", .text value)]

/-- The `spec` part of a manifest. -/
def specManifest : Spec → Manifest
  | .network s =>
      .fields [("type", .text s.serviceType), ("selector", .ofPairs s.selector),
        ("ports", .items (s.ports.map (portEntry s.serviceType)))]
  | .workload s =>
      let env :=
        if s.env.isEmpty then [] else [("env", Manifest.items (envEntries s.env))]
      .fields [("containers", .items [.fields ([("name", .text s.containerName),
        ("image", .text s.image),
        ("ports", .items [.fields [("containerPort", .number s.containerPort)]])] ++ env)])]

/-- The document that is sent to the cluster. -/
def manifest (d : Descriptor) : Manifest :=
  let labels := if d.labels.isEmpty then [] else [("labels", Manifest.ofPairs d.labels)]
  .fields [("apiVersion", .text "v1"), ("kind", .text d.kind.name),
    ("metadata", .fields ([("name", .text d.name), ("namespace", .text d.space)] ++ labels)),
    ("spec", specManifest d.spec)]

end Descriptor

end EphemeralDatabase
