import EphemeralDatabase.Cluster.Fault
import EphemeralDatabase.Settings.Groups

/-!
# Choosing credentials

A client of the cluster takes its credentials from inside the cluster or from a client
configuration.  Those inside are tried only when neither a path nor a context is configured, and
if there are none, the client configuration is used after all.  Every other fault ends the
attempt.
-/

namespace EphemeralDatabase

/-- A place where credentials are looked for. -/
inductive CredentialCall where
  | inCluster
  | kubeconfig (file context : Option String)
  deriving DecidableEq, Repr

/-- What looking in each place comes to. -/
structure CredentialStore where
  inCluster : Except Fault Unit
  kubeconfig : Except Fault Unit

/-- A client, by where its credentials are from. -/
inductive Client where
  | inCluster
  | kubeconfig
  deriving DecidableEq, Repr

/-- What became of looking for credentials inside the cluster. -/
inductive CredentialNote where
  | usingInCluster
  | noneInCluster
  deriving DecidableEq, Repr

/-- Whether a fault says that there are no credentials in a place. -/
def Fault.isNoCredentials : Fault → Bool
  | .other .credentials _ => true
  | _ => false

/-- The places looked in, what was noted, and the client. -/
structure Connection where
  calls : List CredentialCall
  notes : List CredentialNote
  client : Except Fault Client

/-- Looks into the client configuration. -/
def ClusterSettings.connectByFile (c : ClusterSettings) (store : CredentialStore) : Connection :=
  { calls := [.kubeconfig c.kubeconfig c.context]
    notes := []
    client := store.kubeconfig.map fun _ => .kubeconfig }

/-- Looks for credentials in the order of preference. -/
def ClusterSettings.connect (c : ClusterSettings) (store : CredentialStore) : Connection :=
  if c.kubeconfig.isSome ∨ c.context.isSome then c.connectByFile store
  else
    match store.inCluster with
    | .ok _ => ⟨[.inCluster], [.usingInCluster], .ok .inCluster⟩
    | .error fault =>
        if fault.isNoCredentials then
          let next := c.connectByFile store
          ⟨.inCluster :: next.calls, .noneInCluster :: next.notes, next.client⟩
        else ⟨[.inCluster], [], .error fault⟩

end EphemeralDatabase
