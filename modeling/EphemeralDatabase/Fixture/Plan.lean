import EphemeralDatabase.Resource.Descriptor
import EphemeralDatabase.Settings.Groups

/-!
# Plans

A plan is everything about a fixture that does not change while it lives: the two objects it
needs, the credentials it hands out, the host of node ports, and the pace of waiting.

The Pod gets the credentials as container variables, and further variables from the settings
over them: a setting with the name of a credential replaces its value where it stands.
-/

namespace EphemeralDatabase

/-- The labels that both objects have. -/
def DatabaseSettings.labels (d : DatabaseSettings) : List (String × String) :=
  [("app", d.appLabel), ("app.kubernetes.io/managed-by", "pg-fixture")]

/-- The credentials as container variables. -/
def DatabaseSettings.credentials (d : DatabaseSettings) : Mapping String :=
  [("POSTGRES_DB", d.database), ("POSTGRES_USER", d.user), ("POSTGRES_PASSWORD", d.password)]

/-- The variables of the container. -/
def DatabaseSettings.workloadEnv (d : DatabaseSettings) : Mapping String :=
  d.credentials.update d.env

/-- The Service in front of the database. -/
def serviceDescriptor (c : ClusterSettings) (d : DatabaseSettings) : Descriptor where
  space := c.space
  name := d.serviceName
  labels := d.labels
  spec := .network {
    serviceType := d.serviceType
    selector := [("app", d.appLabel)]
    ports := [{ port := d.containerPort, target := d.containerPort, nodePort := d.nodePort }] }

/-- The Pod with the database. -/
def podDescriptor (c : ClusterSettings) (d : DatabaseSettings) : Descriptor where
  space := c.space
  name := d.podName
  labels := d.labels
  spec := .workload {
    image := d.image
    containerName := d.podName
    containerPort := d.containerPort
    env := d.workloadEnv }

/-- What a fixture is to bring up, and how.  A plan knows that its objects are of the kinds that
their names say. -/
structure Plan (τ : Type) where
  service : Descriptor
  pod : Descriptor
  nodeHost : String
  database : String
  user : String
  password : String
  poll : PollSettings τ
  service_kind : service.kind = .service
  pod_kind : pod.kind = .pod

/-- The plan that settings make. -/
def Plan.ofSettings {τ : Type} (c : ClusterSettings) (d : DatabaseSettings)
    (poll : PollSettings τ) : Plan τ where
  service := serviceDescriptor c d
  pod := podDescriptor c d
  nodeHost := c.nodeHost
  database := d.database
  user := d.user
  password := d.password
  poll := poll
  service_kind := rfl
  pod_kind := rfl

end EphemeralDatabase
