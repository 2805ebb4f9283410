import EphemeralDatabase.Proofs.Lifecycle.Agreement
import EphemeralDatabase.Proofs.Lifecycle.Leftover

/-!
# The credentials of a database

A handle carries the credentials of the settings.  The container gets the same credentials as
variables, and then the further variables of the settings over them.  So the two can differ, and
`History.credentials_agree_iff` says when they do: a handle agrees with what is sent to the cluster
if and only if no further variable gives a credential another value.

In `Override.differs` a further variable does: the container is told another password than the
handle.
-/

namespace EphemeralDatabase

/-! ## Variables of containers -/

/-- The value of a named entry. -/
def Manifest.named? (entries : List Manifest) (name : String) : Option String :=
  (entries.find? fun entry => (entry.get? "name").bind text? == some name).bind fun entry =>
    (entry.get? "value").bind text?

/-- The value of a variable in the container of a Pod. -/
def Manifest.envValue? (pod : Manifest) (name : String) : Option String := do
  let spec ← pod.get? "spec"
  let containers ← spec.get? "containers"
  let container ← containers.entries.head?
  let env ← container.get? "env"
  named? env.entries name

namespace Descriptor

theorem named?_envEntries (env : List (String × String)) (name : String) :
    Manifest.named? (envEntries env) name = Mapping.get? env name := by
  induction env with
  | nil => rfl
  | cons pair env ih =>
    obtain ⟨key, value⟩ := pair
    by_cases h : key = name
    · simp [Manifest.named?, envEntries, Manifest.get?, Mapping.get?, Manifest.text?, h]
    · simpa [Manifest.named?, envEntries, Manifest.get?, Mapping.get?, Manifest.text?, h] using ih

/-- The container of a Pod has the variables of the descriptor. -/
theorem envValue?_manifest {d : Descriptor} {w : WorkloadSpec} (h : d.spec = .workload w)
    (name : String) : d.manifest.envValue? name = Mapping.get? w.env name := by
  have hspec : d.manifest.get? "spec" = some (specManifest d.spec) := rfl
  rw [← named?_envEntries, Manifest.envValue?, hspec, h]
  cases henv : w.env with
  | nil =>
    simp [specManifest, Manifest.get?, Mapping.get?, Manifest.entries, Manifest.named?, henv,
      envEntries]
  | cons pair env => simp [specManifest, Manifest.get?, Mapping.get?, Manifest.entries, henv]

end Descriptor

/-- A further variable gives the value, and without one the credentials do. -/
theorem DatabaseSettings.get?_workloadEnv (d : DatabaseSettings) (name : String) :
    Mapping.get? d.workloadEnv name =
      ((Mapping.ofPairs d.env).get? name).or (d.credentials.get? name) :=
  Mapping.get?_update ..

/-- The container is told the credentials of the handle. -/
def Handle.AgreesWith (handle : Handle) (pod : Manifest) : Prop :=
  pod.envValue? "POSTGRES_DB" = some handle.database ∧
    pod.envValue? "POSTGRES_USER" = some handle.user ∧
    pod.envValue? "POSTGRES_PASSWORD" = some handle.password

/-- A further variable with the name of a credential repeats its value. -/
def DatabaseSettings.Repeats (d : DatabaseSettings) : Prop :=
  ∀ credential ∈ d.credentials, ∀ value,
    (Mapping.ofPairs d.env).get? credential.1 = some value → value = credential.2

variable {τ : Type}

/-- A value with a default is the default if and only if it is no other. -/
theorem getD_eq_default_iff {α : Type} {o : Option α} {a : α} :
    o.getD a = a ↔ ∀ b, o = some b → b = a := by
  cases o <;> simp

/-- What a handle says is what the container is told, unless a further variable says otherwise. -/
theorem Provision.handle_agreesWith_iff (c : ClusterSettings) (d : DatabaseSettings)
    (poll : PollSettings τ) (endpoint : Endpoint) :
    (handle (Plan.ofSettings c d poll) endpoint).AgreesWith
      (Plan.ofSettings c d poll).pod.manifest ↔ d.Repeats := by
  have hvariable : ∀ name, (Plan.ofSettings c d poll).pod.manifest.envValue? name =
      ((Mapping.ofPairs d.env).get? name).or (d.credentials.get? name) := fun name =>
    (Descriptor.envValue?_manifest (d := (Plan.ofSettings c d poll).pod) rfl name).trans
      (d.get?_workloadEnv name)
  have hdatabase : d.credentials.get? "POSTGRES_DB" = some d.database := rfl
  have huser : d.credentials.get? "POSTGRES_USER" = some d.user := rfl
  have hpassword : d.credentials.get? "POSTGRES_PASSWORD" = some d.password := rfl
  rw [Handle.AgreesWith, hvariable, hvariable, hvariable, hdatabase, huser, hpassword]
  simp [handle, Plan.ofSettings, getD_eq_default_iff, DatabaseSettings.Repeats,
    DatabaseSettings.credentials]

/-! ## Histories -/

section Histories

variable [Clock τ] {plan : Plan τ}

/-- A run of provisioning that makes a database makes a handle of the plan. -/
theorem Provision.Course.exists_endpoint {es : List (Exchange τ)} {handle : Handle}
    (h : Course plan es (.ok handle)) :
    ∃ endpoint, handle = Provision.handle plan endpoint := by
  generalize ho : (.ok handle : Acquired τ) = o at h
  cases h with
  | service => cases ho
  | @both es ps r o =>
    cases o with
    | error e => cases ho
    | ok q =>
      cases ho
      exact ⟨_, rfl⟩

namespace History

variable {h : History plan}

/-- **Every handle that is returned is one of the plan**, whoever returns it. -/
theorem Returns.exists_endpoint {n : ℕ} {t : ThreadId} {f : Flight} {handle : Handle}
    (hn : h.Returns n t f (.ok handle)) :
    ∃ endpoint, handle = Provision.handle plan endpoint := by
  obtain ⟨m, u, -, hpublished⟩ := hn.published
  obtain ⟨l, v, -, hlands⟩ := exists_lands (h := h) (n := m) (f := f) (o := .ok handle)
    (Or.inl ⟨u, _, (h.step hpublished).source, rfl, rfl⟩)
  exact (Provision.course_of_trace hlands.trace).exists_endpoint

/-- **Every Pod that the cluster is told to create is that of the plan.** -/
theorem eq_of_create {n : ℕ} {a : Address} {body : Manifest} {reply : Reply τ}
    (sent : (h.stride n).bind Stride.exchange = some ⟨.create a body, reply⟩)
    (pod : a.kind = .pod) : body = plan.pod.manifest := by
  obtain ⟨x, hx, hex⟩ := Option.bind_eq_some_iff.1 sent
  rcases ((h.step hx).exchange_effect hex).2 with ⟨f, s, asks, -, -⟩ | ⟨strict, s, asks, -, -⟩
  · rcases Provision.eq_of_ask_create asks with ⟨rfl, -⟩ | ⟨-, hbody⟩
    · have hkind : plan.service.kind = .pod := pod
      exact absurd (plan.service_kind.symm.trans hkind) (by simp)
    · exact hbody
  · match s with
    | .deleting (b :: rest) report => simp [Teardown.ask] at asks
    | .deleting [] report | .broken fault => simp [Teardown.ask] at asks

end History

end Histories

/-- **A handle agrees with what the cluster was told to create** if and only if no further variable
gives a credential another value.  It may be any handle that any `acquire` returns, and any Pod that
the fixture has ever sent. -/
theorem History.credentials_agree_iff [Clock τ] {c : ClusterSettings} {d : DatabaseSettings}
    {poll : PollSettings τ} {h : History (Plan.ofSettings c d poll)} {n m : ℕ} {t : ThreadId}
    {f : Flight} {handle : Handle} {a : Address} {body : Manifest} {reply : Reply τ}
    (returns : h.Returns n t f (.ok handle))
    (sent : (h.stride m).bind Stride.exchange = some ⟨.create a body, reply⟩)
    (pod : a.kind = .pod) : handle.AgreesWith body ↔ d.Repeats := by
  obtain ⟨endpoint, rfl⟩ := returns.exists_endpoint
  rw [eq_of_create sent pod]
  exact Provision.handle_agreesWith_iff c d poll endpoint

/-- In a test run with the default settings they agree. -/
theorem Leftover.agrees : ∃ (h : History Delivery.plan) (m : ℕ) (a : Address) (body : Manifest)
    (reply : Reply Tick), (h.stride m).bind Stride.exchange = some ⟨.create a body, reply⟩ ∧
      a.kind = .pod ∧ Delivery.handle.AgreesWith body := by
  obtain ⟨h, hsent, hreturned⟩ := delivered_calls.exists_history
  have hcreated : ⟨.create Delivery.plan.pod.address Delivery.plan.pod.manifest, shows {}⟩ ∈
      service Delivery.plan ++ pod Delivery.plan := by simp [pod]
  obtain ⟨m, sent⟩ := hsent _ (List.mem_singleton_self _) _ hcreated
  obtain ⟨n, t, returns⟩ := hreturned _ (List.mem_singleton_self _) _ _ rfl
  have repeats : DatabaseSettings.Repeats {} := by
    intro credential hmem value hvalue
    cases hvalue
  exact ⟨h, m, _, _, _, sent, rfl, (History.credentials_agree_iff returns sent rfl).2 repeats⟩

namespace Override

/-- A further variable sets the password. -/
def settings : DatabaseSettings := { env := [("POSTGRES_PASSWORD", "secret")] }

/-- A database with that variable. -/
def plan : Plan Tick := Plan.ofSettings {} settings ⟨⟨⟨1⟩, ⟨30⟩⟩, ⟨⟨5⟩, ⟨300⟩⟩⟩

/-- Its handle. -/
def handle : Handle := Provision.handle plan Delivery.endpoint

/-- The container is told another password than the handle that is returned. -/
theorem differs : ∃ (h : History plan) (n m : ℕ) (t : ThreadId) (f : Flight) (a : Address)
    (body : Manifest) (reply : Reply Tick), h.Returns n t f (.ok handle) ∧
      (h.stride m).bind Stride.exchange = some ⟨.create a body, reply⟩ ∧ a.kind = .pod ∧
      body.envValue? "POSTGRES_PASSWORD" = some "secret" ∧ handle.password ≠ "secret" := by
  have trace : (Provision.machine plan).Trace Provision.start
      (Leftover.service plan ++ Leftover.pod plan) (.done (.ok handle)) :=
    .cons rfl (.cons rfl (.cons rfl (.cons rfl (.cons rfl (.cons rfl (.nil _))))))
  obtain ⟨h, hsent, hreturned⟩ := (Plan.calls_of_trace trace).exists_history
  have hcreated : ⟨.create plan.pod.address plan.pod.manifest, Leftover.shows {}⟩ ∈
      Leftover.service plan ++ Leftover.pod plan := by simp [Leftover.pod]
  obtain ⟨m, sent⟩ := hsent _ (List.mem_singleton_self _) _ hcreated
  obtain ⟨n, t, returns⟩ := hreturned _ (List.mem_singleton_self _) _ _ rfl
  refine ⟨h, n, m, t, _, _, _, _, returns, sent, rfl, ?_, by decide⟩
  rw [Descriptor.envValue?_manifest (d := plan.pod) rfl]
  rfl

end Override

end EphemeralDatabase
