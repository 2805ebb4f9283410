import EphemeralDatabase.Settings.Environment
import EphemeralDatabase.Settings.Field

/-!
# From keywords and the environment to settings

A group of settings is built from keywords and an environment.  For each field the keyword
counts before the environment and the environment before the default; only container variables
are merged, the environment's first and the keyword's over them.

`Settings.resolve` builds all three groups from the environment alone and then applies overrides:
a group that has any is built once more, with all of its present values as keywords and the
overrides in their place.  Overrides that are null count as not given, and one that names no
setting is an error, though only after the environment has been found in order.
-/

namespace EphemeralDatabase

/-- Values by name. -/
abbrev Keywords := List (String × Value)

/-- What a group is built from. -/
structure Source where
  keywords : Keywords
  environment : Environment
  /-- the container variables that the environment gives -/
  container : Option Value := none

/-- The keyword for a field: the one of its very name, or else the last one that differs from it
in case only. -/
def Keywords.find? (keywords : Keywords) (field : String) : Option Value :=
  match Mapping.get? keywords field with
  | some v => some v
  | none => (keywords.reverse.find? fun pair => lower pair.1 == field).map Prod.snd

namespace Source

/-- What is given for a field. -/
def value? (s : Source) (field : String) : Option Value :=
  match s.keywords.find? field with
  | some v => some v
  | none => (s.environment.raw? field).map Value.text

/-- What is given for the container variables. -/
def container? (s : Source) : Option Value :=
  match s.keywords.find? "env", s.container with
  | some (.record given), some (.record base) => some (.record (Mapping.update base given))
  | some v, _ => some v
  | none, given => given

/-- Reads a field, or takes its default. -/
def read {α : Type} (s : Source) (field : String) (default : α) (reader : Reader α) : Checked α :=
  match s.value? field with
  | some v => reader [field] v
  | none => .ok default

/-- Reads the container variables. -/
def readVariables (s : Source) : Checked (Mapping String) :=
  match s.container? with
  | some v => Reader.mapping ["env"] v
  | none => .ok []

end Source

/-! ## The three groups -/

namespace ClusterSettings

/-- Reads the cluster settings. -/
def read (s : Source) : Checked ClusterSettings :=
  let standard : ClusterSettings := {}
  Checked.start ClusterSettings.mk
    |>.supply (s.read "namespace" standard.space (.formed .label))
    |>.supply (s.read "kube_context" standard.context (.nullable .text))
    |>.supply (s.read "kubeconfig" standard.kubeconfig (.nullable .path))
    |>.supply (s.read "node_host" standard.nodeHost .text)

/-- Builds the cluster settings from keywords and an environment. -/
def build (keywords : Keywords) (env : Environment) : Except SettingsError ClusterSettings :=
  (read ⟨keywords, env, none⟩).mapError (SettingsError.invalid .cluster)

/-- The settings as keywords. -/
def keywords (c : ClusterSettings) : Keywords :=
  let optional := fun (s : Option String) => (s.map Value.text).getD .null
  [("namespace", .text c.space), ("kube_context", optional c.context),
    ("kubeconfig", optional c.kubeconfig), ("node_host", .text c.nodeHost)]

end ClusterSettings

namespace DatabaseSettings

/-- Reads the database settings. -/
def read (s : Source) : Checked DatabaseSettings :=
  let standard : DatabaseSettings := {}
  Checked.start DatabaseSettings.mk
    |>.supply (s.read "service_name" standard.serviceName (.formed .label))
    |>.supply (s.read "pod_name" standard.podName (.formed .label))
    |>.supply (s.read "app_label" standard.appLabel .text)
    |>.supply (s.read "image" standard.image .text)
    |>.supply (s.read "container_port" standard.containerPort (.whole 1 65535))
    |>.supply (s.read "service_type" standard.serviceType (.formed .serviceType))
    |>.supply (s.read "node_port" standard.nodePort (.nullable (.whole 30000 32767)))
    |>.supply (s.read "database" standard.database .text)
    |>.supply (s.read "user" standard.user .text)
    |>.supply (s.read "password" standard.password .text)
    |>.supply s.readVariables

/-- Builds the database settings from keywords and an environment. -/
def build [Interpreter] (keywords : Keywords) (env : Environment) :
    Except SettingsError DatabaseSettings := do
  let container ← env.containerValue
  (read ⟨keywords, env, container⟩).mapError (SettingsError.invalid .database)

/-- The settings as keywords. -/
def keywords (d : DatabaseSettings) : Keywords :=
  [("service_name", .text d.serviceName), ("pod_name", .text d.podName),
    ("app_label", .text d.appLabel), ("image", .text d.image),
    ("container_port", .whole d.containerPort), ("service_type", .text d.serviceType),
    ("node_port", (d.nodePort.map Value.whole).getD .null), ("database", .text d.database),
    ("user", .text d.user), ("password", .text d.password),
    ("env", .record (d.env.map fun pair => (pair.1, .text pair.2)))]

end DatabaseSettings

namespace PollSettings

/-- Reads the poll settings. -/
def read (s : Source) : Checked (PollSettings Float) :=
  let standard := PollSettings.standard
  (Checked.start fun a b c d => PollSettings.mk (Pace.mk a b) (Pace.mk c d))
    |>.supply (s.read "service_interval" standard.service.interval .positive)
    |>.supply (s.read "service_deadline" standard.service.deadline .positive)
    |>.supply (s.read "pod_interval" standard.pod.interval .positive)
    |>.supply (s.read "pod_deadline" standard.pod.deadline .positive)

/-- Builds the poll settings from keywords and an environment. -/
def build (keywords : Keywords) (env : Environment) : Except SettingsError (PollSettings Float) :=
  (read ⟨keywords, env, none⟩).mapError (SettingsError.invalid .poll)

/-- The settings as keywords. -/
def keywords (p : PollSettings Float) : Keywords :=
  [("service_interval", .real p.service.interval), ("service_deadline", .real p.service.deadline),
    ("pod_interval", .real p.pod.interval), ("pod_deadline", .real p.pod.deadline)]

end PollSettings

/-! ## Overrides -/

/-- The overrides that concern a group. -/
def Group.overridesOf (group : Group) (overrides : Keywords) : Keywords :=
  overrides.filter fun pair => group.fields.contains pair.1

/-- Builds a group once more if overrides concern it. -/
def Group.rebuild {α : Type} (group : Group)
    (build : Keywords → Environment → Except SettingsError α) (keywords : α → Keywords)
    (overrides : Keywords) (env : Environment) (present : α) : Except SettingsError α :=
  match group.overridesOf overrides with
  | [] => .ok present
  | given => build (Mapping.update (keywords present) given) env

/-- The overrides that are not null. -/
def Keywords.given (overrides : Keywords) : Keywords :=
  overrides.filter fun pair =>
    match pair.2 with
    | .null => false
    | _ => true

/-- The names of overrides that are no settings, in order of their characters. -/
def Keywords.unknown (overrides : Keywords) : List String :=
  ((overrides.map Prod.fst).filter fun name => !settingNames.contains name).mergeSort
    fun a b => decide (a ≤ b)

namespace Settings

/-- Builds the three groups from keywords of their own and an environment. -/
def build [Interpreter] (cluster database poll : Keywords) (env : Environment) :
    Except SettingsError Settings := do
  let c ← ClusterSettings.build cluster env
  let d ← DatabaseSettings.build database env
  let p ← PollSettings.build poll env
  return ⟨c, d, p⟩

/-- The settings that an environment gives, with overrides applied. -/
def resolve [Interpreter] (overrides : Keywords) (env : Environment) :
    Except SettingsError Settings := do
  let overrides := overrides.given
  let present ← build [] [] [] env
  match overrides.unknown with
  | [] =>
      let c ← Group.cluster.rebuild ClusterSettings.build ClusterSettings.keywords overrides env
        present.cluster
      let d ← Group.database.rebuild DatabaseSettings.build DatabaseSettings.keywords overrides env
        present.database
      let p ← Group.poll.rebuild PollSettings.build PollSettings.keywords overrides env
        present.poll
      return ⟨c, d, p⟩
  | names => .error (.unknown names)

end Settings

end EphemeralDatabase
