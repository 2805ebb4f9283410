import EphemeralDatabase.Resource.Kind
import EphemeralDatabase.Value.Mapping

/-!
# The three groups of settings

What can be configured comes in three groups: where the cluster is, what the database is, and
how patiently to wait for it.  The default of every setting stands in its group.
-/

namespace EphemeralDatabase

/-- Where the cluster is and how to reach it. -/
structure ClusterSettings where
  /-- the namespace of both objects -/
  space : String := "default"
  /-- the context of the client configuration; the current one if none is given -/
  context : Option String := none
  /-- the path of the client configuration; the usual places if none is given -/
  kubeconfig : Option String := none
  /-- the host at which node ports are reached -/
  nodeHost : String := "127.0.0.1"
  deriving DecidableEq, Repr

/-- What the database and its two objects are. -/
structure DatabaseSettings where
  serviceName : String := "postgres-service"
  podName : String := "postgres"
  /-- the label by which the Service finds the Pod -/
  appLabel : String := "postgres"
  image : String := "postgres:latest"
  containerPort : Int := 5432
  serviceType : String := "NodePort"
  /-- the node port to ask for; none leaves the choice to the cluster -/
  nodePort : Option Int := some 32543
  database : String := "eventstore_db"
  user : String := "postgres"
  password : String := "password"
  /-- further variables of the container -/
  env : Mapping String := []
  deriving DecidableEq, Repr

/-- How often to look, and for how long. -/
structure Pace (τ : Type) where
  interval : τ
  deadline : τ
  deriving DecidableEq, Repr

/-- The pace for each kind of object. -/
structure PollSettings (τ : Type) where
  service : Pace τ
  pod : Pace τ
  deriving DecidableEq, Repr

/-- The pace for one kind of object. -/
def PollSettings.forKind {τ : Type} (s : PollSettings τ) : Kind → Pace τ
  | .service => s.service
  | .pod => s.pod

/-- A Service is looked at every second for half a minute, a Pod every five seconds for five
minutes. -/
def PollSettings.standard : PollSettings Float := ⟨⟨1, 30⟩, ⟨5, 300⟩⟩

/-- Everything that can be configured. -/
structure Settings where
  cluster : ClusterSettings
  database : DatabaseSettings
  poll : PollSettings Float

/-- The name of a group of settings. -/
inductive Group where
  | cluster
  | database
  | poll
  deriving DecidableEq, Repr

namespace Group

/-- What the group is called in messages. -/
def title : Group → String
  | cluster => "ClusterConfig"
  | database => "DatabaseConfig"
  | poll => "PollConfig"

/-- The settings of a group, in the order in which they are checked. -/
def fields : Group → List String
  | cluster => ["namespace", "kube_context", "kubeconfig", "node_host"]
  | database =>
      ["service_name", "pod_name", "app_label", "image", "container_port", "service_type",
        "node_port", "database", "user", "password", "env"]
  | poll => ["service_interval", "service_deadline", "pod_interval", "pod_deadline"]

end Group

/-- Every setting there is. -/
def settingNames : List String :=
  Group.cluster.fields ++ Group.database.fields ++ Group.poll.fields

end EphemeralDatabase
