import EphemeralDatabase.Proofs.Provision.Display
import EphemeralDatabase.Proofs.Server.Simulator
import EphemeralDatabase.Proofs.Settings.Reading

/-!
# The first acquisition

What becomes of the first acquisition of a fixture on a server that has neither of the two objects,
gives every Service an address inside the cluster and none a load balancer, and is otherwise in
order: `Plan.first_acquisition`.

What the settings ask for is written into a document, the server shows what the document says, and
from that the fixture reads where the database is.  `Simulator.serviceView_manifest` is the way
there, `endpoint?_serviceView` the way back.
-/

namespace EphemeralDatabase

variable {τ ω : Type}

/-! ## What the documents say -/

namespace Manifest

/-- The value behind nested fields. -/
def at? (m : Manifest) : List String → Option Manifest
  | [] => some m
  | key :: keys => (m.get? key).bind fun value => value.at? keys

/-- The ports of a Service go where the container of a Pod listens. -/
def TargetsContainer (service pod : Manifest) : Prop :=
  ∃ port container containerPort target,
    service.at? ["spec", "ports"] = some (.items [port]) ∧
    port.get? "targetPort" = some (.number target) ∧
    pod.at? ["spec", "containers"] = some (.items [container]) ∧
    container.get? "ports" = some (.items [containerPort]) ∧
    containerPort.get? "containerPort" = some (.number target)

/-- A Service selects by labels, and each of them is one of a Pod. -/
def SelectsLabels (service pod : Manifest) : Prop :=
  ∃ selector labels, service.at? ["spec", "selector"] = some selector ∧
    pod.at? ["metadata", "labels"] = some labels ∧ (∃ key, (selector.get? key).isSome) ∧
    ∀ key value, selector.get? key = some value → labels.get? key = some value

/-- Both are in the same namespace. -/
def SharesNamespace (service pod : Manifest) : Prop :=
  ∃ space, service.at? ["metadata", "namespace"] = some (.text space) ∧
    pod.at? ["metadata", "namespace"] = some (.text space)

/-- A Service sends its traffic to a Pod. -/
structure Fronts (service pod : Manifest) : Prop where
  space : service.SharesNamespace pod
  labels : service.SelectsLabels pod
  port : service.TargetsContainer pod

end Manifest

/-- **The Service of a plan fronts its Pod**, whatever the settings are. -/
theorem serviceDescriptor_fronts (c : ClusterSettings) (d : DatabaseSettings) :
    (serviceDescriptor c d).manifest.Fronts (podDescriptor c d).manifest where
  space := ⟨c.space, rfl, rfl⟩
  labels := by
    refine ⟨.ofPairs [("app", d.appLabel)], .ofPairs d.labels, rfl, rfl, ⟨"app", rfl⟩,
      fun key value h => ?_⟩
    by_cases happ : key = "app"
    · subst happ
      exact h
    · simp [Manifest.ofPairs, Manifest.get?, Mapping.ofPairs, Mapping.insert, Mapping.get?,
        Ne.symm happ] at h
  port := ⟨_, _, _, d.containerPort, rfl, rfl, rfl, rfl, rfl⟩

/-! ## What the server shows of the Service -/

/-- What is shown of a port of a Service. -/
def ServicePort.view (p : ServicePort) (serviceType : String) : PortView where
  port := some p.port
  nodePort := if serviceType = "ClusterIP" then none else p.nodePort

/-- The entry of a port in a document says what is shown of it. -/
theorem ServicePort.view_eq (p : ServicePort) (serviceType : String) :
    ({ port := ((Descriptor.portEntry serviceType p).get? "port").bind Manifest.number?
       nodePort := ((Descriptor.portEntry serviceType p).get? "nodePort").bind
        Manifest.number? } : PortView) = p.view serviceType := by
  cases hport : p.nodePort with
  | none => simp [Descriptor.portEntry, view, Manifest.get?, Mapping.get?, Manifest.number?, hport]
  | some n =>
    by_cases htype : serviceType = "ClusterIP"
    · simp [Descriptor.portEntry, view, Manifest.get?, Mapping.get?, Manifest.number?, hport, htype]
    · simp [Descriptor.portEntry, view, Manifest.get?, Mapping.get?, Manifest.number?, hport, htype]

/-- **The server shows a Service as it was described.** -/
theorem Simulator.serviceView_manifest (ip : String) {d : Descriptor} {s : NetworkSpec}
    (network : d.spec = .network s) : serviceView ip d.manifest =
      { spec := some {
          serviceType := some s.serviceType
          ports := some (s.ports.map fun p => p.view s.serviceType)
          clusterIP := some ip } } := by
  have hspec : d.manifest.get? "spec" = some (Descriptor.specManifest (.network s)) := by
    rw [← network]
    rfl
  have hports : (Descriptor.specManifest (.network s)).get? "ports" =
      some (.items (s.ports.map (Descriptor.portEntry s.serviceType))) := rfl
  have htype : (Descriptor.specManifest (.network s)).get? "type" =
      some (.text s.serviceType) := rfl
  simp [serviceView, hspec, hports, htype, Manifest.entries, Manifest.text?, ServicePort.view_eq]

/-- Where such a server lets a database be reached, if anywhere. -/
def DatabaseSettings.destination? (c : ClusterSettings) (d : DatabaseSettings) (ip : String) :
    Option Endpoint :=
  if d.serviceType = "ClusterIP" then some ⟨ip, some d.containerPort⟩
  else if d.serviceType = "NodePort" then d.nodePort.map fun n => ⟨c.nodeHost, some n⟩
  else none

theorem nonempty?_some {text : String} (h : text ≠ "") : nonempty? (some text) = some text := by
  simp [nonempty?, Option.filter, h]

/-- **The fixture reads from what is shown where the settings wanted the database to be.** -/
theorem endpoint?_serviceView {c : ClusterSettings} {d : DatabaseSettings} (valid : d.Valid)
    {ip : String} (address : ip ≠ "" ∧ ip ≠ "None") :
    (Simulator.serviceView ip (serviceDescriptor c d).manifest).endpoint? c.nodeHost =
      d.destination? c ip := by
  have named : d.serviceType ≠ "" := by
    rcases valid.serviceType_mem with htype | htype | htype <;> simp [htype]
  have port : ∀ n, d.nodePort = some n → n ≠ 0 := by
    rintro n hn rfl
    exact absurd (valid.nodePort_range hn).1 (by decide)
  have shown : nonempty? (some ip) = some ip := nonempty?_some address.1
  have type : (nonempty? (some d.serviceType)).getD "ClusterIP" = d.serviceType := by
    rw [nonempty?_some named]
    rfl
  rw [Simulator.serviceView_manifest ip rfl]
  simp only [View.endpoint?, List.map_cons, Option.getD_some, SpecView.endpoint?,
    SpecView.type, type, shown]
  rcases valid.serviceType_mem with htype | htype | htype
  · cases hport : d.nodePort with
    | none => simp [DatabaseSettings.destination?, ServicePort.view, htype, hport]
    | some n =>
      simp [DatabaseSettings.destination?, ServicePort.view, htype, hport, Option.filter,
        port n hport]
  · simp [DatabaseSettings.destination?, htype, View.ingress]
  · simp [DatabaseSettings.destination?, ServicePort.view, htype, Option.filter, address.2]

/-! ## The first acquisition -/

section First

/-- A database is had at an endpoint, and a Service and a Pod have been created for it that belong
together. -/
structure Plan.Provides (plan : Plan τ) (endpoint : Endpoint) (es : List (Exchange τ))
    (o : Acquired τ) : Prop where
  handle : o = .ok (Provision.handle plan endpoint)
  writes : ∃ service pod : Manifest, service.Fronts pod ∧
    Exchange.writes es =
      [.create plan.service.address service, .create plan.pod.address pod]

/-- The Service was not ready in time, and no call was about a Pod. -/
structure Plan.Abandons (plan : Plan τ) (es : List (Exchange τ)) (o : Acquired τ) : Prop where
  timeout : ∃ t, o = .error (.readiness t) ∧ t.address = plan.service.address
  podless : ∀ e ∈ es, ∀ a, e.request.address? = some a → a.kind ≠ .pod

/-- A fresh fixture provisions, and returns what comes of it. -/
theorem Crew.returns_acquire [Clock τ] {σ : Type} {plan : Plan τ} {world : World τ ω}
    {conduct : σ → Exchange τ → σ → Prop} {like : ω → σ → Prop} {p q : Likeness like}
    {es : List (Exchange τ)} {o : Acquired τ} (h : Carries (world.Meets conduct) p es q)
    (trace : (Provision.machine plan).Trace Provision.start es (.done o)) :
    Returns plan world {} .acquire p.world es (Cell.landed {} o) (.acquired 0 o) :=
  returns_of_solo (Plan.solo_acquire_of_trace trace)
    (h.map (fun p => p.world) fun meets => meets.world)

variable [AddCommGroup τ] [LinearOrder τ] [IsOrderedAddMonoid τ] [Archimedean τ]

/-- **The first acquisition gets the database where the settings want it, or gives the Service up.**

Let the settings be valid and the clock exact, and take any world that behaves like a server without
faults that answers at once, echoes type and ports of a Service, gives every Service the address
`ip` and no load balancer, and shows a Pod as pending and then as running.  If neither of the two
objects is there, an acquisition of a fresh fixture returns:

* with a handle at the host of node ports, if the Service is of type `NodePort` and asks for a port;
* with a handle at `ip` and the port of the container, if the Service is of type `ClusterIP`;
* with a timeout for the Service and without any call about a Pod, otherwise.

With a handle it has created a Service and a Pod, in this order, in one namespace.  The Service
selects by labels of the Pod, and its port goes to the port of the container. -/
theorem Plan.first_acquisition {c : ClusterSettings} {d : DatabaseSettings} (valid : d.Valid)
    {poll : PollSettings τ} (positive : poll.Positive) {ip : String}
    (address : ip ≠ "" ∧ ip ≠ "None") {world : World τ ω} {like : ω → Scene τ → Prop}
    (imitates : world.Imitates (Displays ip) like) {w : ω} {scene : Scene τ}
    (stands : like w scene) (service : scene.objects ⟨.service, c.space, d.serviceName⟩ = none)
    (pod : scene.objects ⟨.pod, c.space, d.podName⟩ = none) :
    ∃ es cell o,
      Crew.Returns (ofSettings c d poll) world {} .acquire w es cell (.acquired 0 o) ∧
      (∀ n, d.serviceType = "NodePort" → d.nodePort = some n →
        (ofSettings c d poll).Provides ⟨c.nodeHost, some n⟩ es o) ∧
      (d.serviceType = "ClusterIP" →
        (ofSettings c d poll).Provides ⟨ip, some d.containerPort⟩ es o) ∧
      (d.serviceType ≠ "ClusterIP" → (d.serviceType = "NodePort" → d.nodePort = none) →
        (ofSettings c d poll).Abandons es o) := by
  let plan := ofSettings c d poll
  let start : Likeness like := ⟨w, scene, stands⟩
  have absent : start.server.objects plan.service.address = none := service
  have absent_pod : start.server.objects plan.pod.address = none := pod
  have shown : (Simulator.serviceView ip plan.service.manifest).endpoint? plan.nodeHost =
      d.destination? c ip := endpoint?_serviceView valid address
  cases hd : d.destination? c ip with
  | some endpoint =>
    obtain ⟨es, q, carries, trace, writes⟩ :=
      imitates.exists_provided absent absent_pod positive (shown.trans hd)
    have provides : plan.Provides endpoint es (.ok (Provision.handle plan endpoint)) :=
      ⟨rfl, _, _, serviceDescriptor_fronts c d, writes⟩
    refine ⟨es, _, _, Crew.returns_acquire carries trace, fun n htype hport => ?_,
      fun htype => ?_, fun hip hport => ?_⟩
    · obtain rfl : endpoint = ⟨c.nodeHost, some n⟩ := by
        simpa [DatabaseSettings.destination?, htype, hport, eq_comm] using hd
      exact provides
    · obtain rfl : endpoint = ⟨ip, some d.containerPort⟩ := by
        simpa [DatabaseSettings.destination?, htype, eq_comm] using hd
      exact provides
    · by_cases htype : d.serviceType = "NodePort"
      · simp [DatabaseSettings.destination?, htype, hport htype] at hd
      · simp [DatabaseSettings.destination?, htype, hip] at hd
  | none =>
    obtain ⟨es, q, timeout, carries, trace, ht, about⟩ :=
      imitates.exists_abandoned absent positive (shown.trans hd)
    refine ⟨es, _, _, Crew.returns_acquire carries trace, fun n htype hport => ?_,
      fun htype => ?_, fun _ _ => ⟨⟨timeout, rfl, ht⟩, fun e he a ha => ?_⟩⟩
    · simp [DatabaseSettings.destination?, htype, hport] at hd
    · simp [DatabaseSettings.destination?, htype] at hd
    · obtain rfl := about e he a ha
      exact nofun

end First

/-! ### On the scripted cluster -/

namespace Scripted

/-- A scripted cluster without objects and without a script. -/
def cluster : Simulator ℚ := { clock := 0 }

/-- The defaults, with exact times. -/
def plan : Plan ℚ := Plan.ofSettings {} {} ⟨⟨1, 30⟩, ⟨5, 300⟩⟩

theorem stands : cluster.StandsFor "10.43.0.7" ⟨Objects.bare, fun _ => 0, 0⟩ where
  script := rfl
  latency := rfl
  onCreate := rfl
  clusterIP := rfl
  clock := rfl
  objects _ := rfl
  looks _ there := absurd rfl there

theorem positive : plan.poll.Positive := by
  rintro (_ | _) <;> constructor <;> simp [plan, Plan.ofSettings, PollSettings.forKind]

/-- With the default settings the first acquisition gets the database at the default node port. -/
theorem had_at_node_port : ∃ es cell,
    Crew.Returns plan Simulator.world {} .acquire cluster es cell
      (.acquired 0 (.ok (Provision.handle plan ⟨"127.0.0.1", some 32543⟩))) := by
  obtain ⟨es, cell, o, returns, node_port, -⟩ :=
    Plan.first_acquisition (c := {}) DatabaseSettings.valid_default positive (by decide)
      (Simulator.imitates "10.43.0.7") stands rfl rfl
  obtain ⟨rfl, -⟩ := node_port 32543 rfl rfl
  exact ⟨es, cell, returns⟩

end Scripted

end EphemeralDatabase
