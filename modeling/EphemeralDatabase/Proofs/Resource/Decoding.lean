import EphemeralDatabase.Proofs.Resource.Sameness
import EphemeralDatabase.Resource.Descriptor

/-!
# What a manifest keeps of its descriptor

`Descriptor.ofManifest?` reads a manifest back.  It looks every field up by its name, so manifests
that say the same are read alike (`Descriptor.alike_of_same`), and the manifest of a descriptor is
read as what was asked for (`Descriptor.ofManifest?_manifest`).  Together: the manifests of two
descriptors say the same if and only if the same was asked for, up to the order of labels
(`Descriptor.manifest_lossless`).

What is asked for is the descriptor itself, but for one thing.  A Service of type `ClusterIP` has no
node ports, and its manifest asks for none whatever the descriptor says (`ServicePort.asked`).

Fields that are left out are not mistaken for others: labels and variables are left out when there
are none, and none are never written; a node port is left out when none is asked for, and every
number that is asked for is written, zero too.
-/

namespace EphemeralDatabase

open Mapping (keys)

variable {m m' : Manifest} {d d' : Descriptor}

/-! ## Reading a manifest -/

/-- The port that an entry of a Service's port list asks for. -/
def ServicePort.ofManifest? (entry : Manifest) : Option ServicePort := do
  let port ← entry.numberAt? "port"
  let target ← entry.numberAt? "targetPort"
  let protocol ← entry.textAt? "protocol"
  return { port, target, nodePort := entry.numberAt? "nodePort", protocol }

/-- The container variable that an entry gives. -/
def Manifest.pair? (entry : Manifest) : Option (String × String) := do
  let name ← entry.textAt? "name"
  let value ← entry.textAt? "value"
  return (name, value)

/-- The Service that the `spec` part of a manifest describes. -/
def NetworkSpec.ofManifest? (spec : Manifest) : Option NetworkSpec := do
  let serviceType ← spec.textAt? "type"
  let selector ← (← spec.get? "selector").pairs?
  let ports ← (spec.entriesAt "ports").mapM ServicePort.ofManifest?
  return { serviceType, selector, ports }

/-- The Pod that the `spec` part of a manifest describes, if it has one container with one port. -/
def WorkloadSpec.ofManifest? (spec : Manifest) : Option WorkloadSpec :=
  match spec.entriesAt "containers" with
  | [container] =>
      match container.entriesAt "ports" with
      | [port] => do
          let containerName ← container.textAt? "name"
          let image ← container.textAt? "image"
          let containerPort ← port.numberAt? "containerPort"
          let env ← (container.entriesAt "env").mapM Manifest.pair?
          return { image, containerName, containerPort, env }
      | _ => none
  | _ => none

/-- The payload that the `spec` part of a manifest describes. -/
def Spec.ofManifest? (kind : Kind) (spec : Manifest) : Option Spec :=
  match kind with
  | .service => (NetworkSpec.ofManifest? spec).map Spec.network
  | .pod => (WorkloadSpec.ofManifest? spec).map Spec.workload

/-- The labels in the metadata of a manifest; none if they are left out. -/
def Manifest.labels? (metadata : Manifest) : Option (List (String × String)) :=
  match metadata.get? "labels" with
  | some labels => labels.pairs?
  | none => some []

/-- The descriptor that a manifest describes. -/
def Descriptor.ofManifest? (m : Manifest) : Option Descriptor := do
  let kind ← (← m.textAt? "kind") |> Kind.ofName?
  let metadata ← m.get? "metadata"
  let name ← metadata.textAt? "name"
  let space ← metadata.textAt? "namespace"
  let labels ← metadata.labels?
  let spec ← Spec.ofManifest? kind (← m.get? "spec")
  return { space, name, spec, labels }

/-! ## What is asked for -/

/-- What is asked for of a port.  A Service of type `ClusterIP` has no node ports. -/
def ServicePort.asked (serviceType : String) (p : ServicePort) : ServicePort :=
  if serviceType = "ClusterIP" then { p with nodePort := none } else p

/-- What is asked for of a payload. -/
def Spec.asked : Spec → Spec
  | network s => network { s with ports := s.ports.map (.asked s.serviceType) }
  | workload s => workload s

/-- What a manifest asks for. -/
def Descriptor.asked (d : Descriptor) : Descriptor := { d with spec := d.spec.asked }

/-- The labels by which a payload selects pods. -/
def Spec.selector : Spec → List (String × String)
  | network s => s.selector
  | workload _ => []

/-- No key is repeated among the labels, and none in the selector. -/
structure Descriptor.Distinct (d : Descriptor) : Prop where
  labels : (keys d.labels).Nodup
  selector : (keys d.spec.selector).Nodup

/-- A Service of type `ClusterIP` sets no node ports. -/
def Descriptor.Fits (d : Descriptor) : Prop :=
  ∀ s, d.spec = .network s → s.serviceType = "ClusterIP" → ∀ p ∈ s.ports, p.nodePort = none

/-- The same payload, but for the order of the selector. -/
inductive Spec.Alike : Spec → Spec → Prop
  | network {serviceType : String} {ports : List ServicePort}
      {selector selector' : List (String × String)} (perm : selector.Perm selector') :
      Alike (.network ⟨serviceType, selector, ports⟩) (.network ⟨serviceType, selector', ports⟩)
  | workload (s : WorkloadSpec) : Alike (.workload s) (.workload s)

/-- The same descriptor, but for the order of the labels and of the selector. -/
structure Descriptor.Alike (d d' : Descriptor) : Prop where
  space : d.space = d'.space
  name : d.name = d'.name
  spec : d.spec.Alike d'.spec
  labels : d.labels.Perm d'.labels

@[simp] theorem Spec.selector_asked (s : Spec) : s.asked.selector = s.selector := by
  cases s <;> rfl

@[simp] theorem Spec.kind_asked (s : Spec) : s.asked.kind = s.kind := by
  cases s <;> rfl

theorem Descriptor.Distinct.asked (h : d.Distinct) : d.asked.Distinct where
  labels := h.labels
  selector := by simpa [Descriptor.asked] using h.selector

/-- Where no node port is lost, what is asked for is the descriptor itself. -/
theorem Descriptor.Fits.asked_eq (h : d.Fits) : d.asked = d := by
  obtain ⟨space, name, spec, labels⟩ := d
  cases spec with
  | workload s => rfl
  | network s =>
    have hport : ∀ p ∈ s.ports, p.asked s.serviceType = p := fun p hp => by
      unfold ServicePort.asked
      split
      · rename_i htype
        have hnone : p.nodePort = none := h s rfl htype p hp
        rw [← hnone]
      · rfl
    simp only [Descriptor.asked, Spec.asked, List.map_congr_left hport, List.map_id']

/-! ## Reading what was written -/

/-- A list is read whole if whatever was written for an entry is read. -/
theorem Manifest.mapM_map_eq_some {α β : Type} {write : α → Manifest} {read : Manifest → Option β}
    {f : α → β} (h : ∀ a, read (write a) = some (f a)) (as : List α) :
    (as.map write).mapM read = some (as.map f) := by
  induction as with
  | nil => rfl
  | cons a as ih => simp [h, ih]

theorem ServicePort.ofManifest?_portEntry (serviceType : String) (p : ServicePort) :
    ofManifest? (Descriptor.portEntry serviceType p) = some (p.asked serviceType) := by
  obtain ⟨port, target, nodePort, protocol⟩ := p
  by_cases htype : serviceType = "ClusterIP" <;> cases nodePort <;>
    simp only [Descriptor.portEntry, asked, htype, if_true, if_false] <;> rfl

theorem NetworkSpec.ofManifest?_manifest {s : NetworkSpec} (once : (keys s.selector).Nodup) :
    ofManifest? (Descriptor.specManifest (.network s)) =
      some { s with ports := s.ports.map (.asked s.serviceType) } := by
  have htype : (Descriptor.specManifest (.network s)).textAt? "type" = some s.serviceType := rfl
  have hselector : (Descriptor.specManifest (.network s)).get? "selector" =
      some (.ofPairs s.selector) := rfl
  have hports : (Descriptor.specManifest (.network s)).entriesAt "ports" =
      s.ports.map (Descriptor.portEntry s.serviceType) := rfl
  have hpairs : (Manifest.ofPairs s.selector).pairs? = some s.selector :=
    Manifest.pairs?_eq_some_iff.2 (Manifest.ofPairs_of_nodup once)
  rw [ofManifest?, htype, hselector, hports,
    Manifest.mapM_map_eq_some (ServicePort.ofManifest?_portEntry s.serviceType)]
  simp [hpairs]

/-- Variables are read in their order, repeated names included, and none from a container without
any. -/
theorem WorkloadSpec.ofManifest?_manifest (s : WorkloadSpec) :
    ofManifest? (Descriptor.specManifest (.workload s)) = some s := by
  obtain ⟨image, containerName, containerPort, env⟩ := s
  have hread : (Descriptor.envEntries env).mapM Manifest.pair? = some env := by
    have hmap : (Descriptor.envEntries env).mapM Manifest.pair? = some (env.map id) := by
      refine Manifest.mapM_map_eq_some ?_ env
      exact fun _ => rfl
    rwa [List.map_id] at hmap
  cases env with
  | nil => rfl
  | cons pair env =>
    have hspec : ofManifest? (Descriptor.specManifest
          (.workload ⟨image, containerName, containerPort, pair :: env⟩)) =
        (Descriptor.envEntries (pair :: env)).mapM Manifest.pair? >>= fun env =>
          some ⟨image, containerName, containerPort, env⟩ := rfl
    rw [hspec, hread]
    rfl

theorem Spec.ofManifest?_manifest {s : Spec} (once : (keys s.selector).Nodup) :
    ofManifest? s.kind (Descriptor.specManifest s) = some s.asked := by
  cases s with
  | network s =>
    have h := NetworkSpec.ofManifest?_manifest once
    simp only [ofManifest?, kind, h, Option.map_some, asked]
  | workload s =>
    simp only [ofManifest?, kind, WorkloadSpec.ofManifest?_manifest, Option.map_some, asked]

/-- **A manifest is read as what was asked for.** -/
theorem Descriptor.ofManifest?_manifest (h : d.Distinct) :
    ofManifest? d.manifest = some d.asked := by
  obtain ⟨space, name, spec, labels⟩ := d
  have hspec := Spec.ofManifest?_manifest h.selector
  cases labels with
  | nil =>
    have hread : ofManifest? (manifest ⟨space, name, spec, []⟩) =
        (Kind.ofName? spec.kind.name >>= fun kind =>
          Spec.ofManifest? kind (specManifest spec) >>= fun spec =>
            some ⟨space, name, spec, []⟩) := rfl
    rw [hread, Kind.ofName?_name]
    simp [hspec, asked]
  | cons pair labels =>
    have hpairs : (Manifest.ofPairs (pair :: labels)).pairs? = some (pair :: labels) :=
      Manifest.pairs?_eq_some_iff.2 (Manifest.ofPairs_of_nodup h.labels)
    have hread : ofManifest? (manifest ⟨space, name, spec, pair :: labels⟩) =
        (Kind.ofName? spec.kind.name >>= fun kind =>
          (Manifest.ofPairs (pair :: labels)).pairs? >>= fun labels =>
          Spec.ofManifest? kind (specManifest spec) >>= fun spec =>
            some ⟨space, name, spec, labels⟩) := rfl
    rw [hread, Kind.ofName?_name, hpairs]
    simp [hspec, asked]

/-! ## Reading manifests that say the same -/

theorem ServicePort.ofManifest?_congr (h : m.Same m') : ofManifest? m = ofManifest? m' := by
  simp only [ofManifest?, h.numberAt?, h.textAt?]

theorem Manifest.pair?_congr (h : m.Same m') : m.pair? = m'.pair? := by
  simp only [pair?, h.textAt?]

theorem WorkloadSpec.ofManifest?_congr (h : m.Same m') : ofManifest? m = ofManifest? m' := by
  have hcontainers := h.entriesAt "containers"
  unfold ofManifest?
  generalize m.entriesAt "containers" = containers,
    m'.entriesAt "containers" = containers' at hcontainers
  cases hcontainers with
  | nil => rfl
  | @cons container container' _ _ first rest =>
    cases rest with
    | cons => rfl
    | nil =>
      have hports := first.entriesAt "ports"
      have henv := Manifest.Same.mapM_eq (fun _ _ => Manifest.pair?_congr) (first.entriesAt "env")
      simp only [henv, first.textAt?]
      generalize container.entriesAt "ports" = ports,
        container'.entriesAt "ports" = ports' at hports
      cases hports with
      | nil => rfl
      | cons port others =>
        cases others with
        | nil => simp only [port.numberAt?]
        | cons => rfl

theorem NetworkSpec.alike_of_same {s s' : NetworkSpec} (h : m.Same m')
    (hs : ofManifest? m = some s) (hs' : ofManifest? m' = some s')
    (once : (keys s.selector).Nodup) (once' : (keys s'.selector).Nodup) :
    (Spec.network s).Alike (.network s') := by
  have hports :=
    Manifest.Same.mapM_eq (fun _ _ => ServicePort.ofManifest?_congr) (h.entriesAt "ports")
  simp only [ofManifest?, Option.bind_eq_bind, Option.bind_eq_some_iff, Option.pure_def,
    Option.some.injEq, h.textAt?, hports] at hs hs'
  obtain ⟨type, htype, field, hfield, selector, hselector, ports, hread, rfl⟩ := hs
  obtain ⟨type', htype', field', hfield', selector', hselector', ports', hread', rfl⟩ := hs'
  obtain rfl : type = type' := Option.some.inj (htype.symm.trans htype')
  obtain rfl : ports = ports' := Option.some.inj (hread.symm.trans hread')
  exact .network ((h.of_get? hfield hfield').perm_of_pairs? hselector hselector' once once')

theorem Spec.alike_of_same {kind : Kind} {s s' : Spec} (h : m.Same m')
    (hs : ofManifest? kind m = some s) (hs' : ofManifest? kind m' = some s')
    (once : (keys s.selector).Nodup) (once' : (keys s'.selector).Nodup) : s.Alike s' := by
  cases kind with
  | service =>
    obtain ⟨n, hn, rfl⟩ := Option.map_eq_some_iff.1 hs
    obtain ⟨n', hn', rfl⟩ := Option.map_eq_some_iff.1 hs'
    exact NetworkSpec.alike_of_same h hn hn' once once'
  | pod =>
    rw [ofManifest?, WorkloadSpec.ofManifest?_congr h] at hs
    obtain ⟨w, hw, rfl⟩ := Option.map_eq_some_iff.1 hs
    obtain ⟨w', hw', rfl⟩ := Option.map_eq_some_iff.1 hs'
    obtain rfl : w = w' := Option.some.inj (hw.symm.trans hw')
    exact .workload w

theorem Manifest.Same.perm_of_labels? {labels labels' : List (String × String)} (h : m.Same m')
    (hm : m.labels? = some labels) (hm' : m'.labels? = some labels') (once : (keys labels).Nodup)
    (once' : (keys labels').Nodup) : labels.Perm labels' := by
  unfold Manifest.labels? at hm hm'
  rcases h.get? "labels" with ⟨hx, hx'⟩ | ⟨x, x', hx, hx', same⟩
  · rw [hx] at hm
    rw [hx'] at hm'
    obtain rfl : labels = labels' := Option.some.inj (hm.symm.trans hm')
    exact .refl _
  · rw [hx] at hm
    rw [hx'] at hm'
    exact same.perm_of_pairs? hm hm' once once'

/-- **Manifests that say the same are read alike.** -/
theorem Descriptor.alike_of_same (h : m.Same m') (hd : ofManifest? m = some d)
    (hd' : ofManifest? m' = some d') (distinct : d.Distinct) (distinct' : d'.Distinct) :
    d.Alike d' := by
  simp only [ofManifest?, Option.bind_eq_bind, Option.bind_eq_some_iff, Option.pure_def,
    Option.some.injEq, h.textAt?] at hd hd'
  obtain ⟨word, hword, kind, hkind, data, hdata, name, hname, space, hspace, labels, hlabels,
    part, hpart, spec, hspec, rfl⟩ := hd
  obtain ⟨word', hword', kind', hkind', data', hdata', name', hname', space', hspace', labels',
    hlabels', part', hpart', spec', hspec', rfl⟩ := hd'
  obtain rfl : word = word' := Option.some.inj (hword.symm.trans hword')
  obtain rfl : kind = kind' := Option.some.inj (hkind.symm.trans hkind')
  have same := h.of_get? hdata hdata'
  rw [same.textAt?] at hname hspace
  exact ⟨Option.some.inj (hspace.symm.trans hspace'), Option.some.inj (hname.symm.trans hname'),
    Spec.alike_of_same (h.of_get? hpart hpart') hspec hspec' distinct.selector distinct'.selector,
    same.perm_of_labels? hlabels hlabels' distinct.labels distinct'.labels⟩

/-! ## What is written for the same -/

theorem Descriptor.portEntry_asked (serviceType : String) (p : ServicePort) :
    portEntry serviceType (p.asked serviceType) = portEntry serviceType p := by
  obtain ⟨port, target, nodePort, protocol⟩ := p
  by_cases htype : serviceType = "ClusterIP" <;> cases nodePort <;>
    simp [portEntry, ServicePort.asked, htype]

/-- What is not asked for is not written. -/
theorem Descriptor.manifest_asked (d : Descriptor) : d.asked.manifest = d.manifest := by
  obtain ⟨space, name, spec, labels⟩ := d
  have hspec : specManifest spec.asked = specManifest spec := by
    cases spec with
    | workload s => rfl
    | network s =>
      have hports : (s.ports.map (ServicePort.asked s.serviceType)).map (portEntry s.serviceType) =
          s.ports.map (portEntry s.serviceType) := by
        simp [portEntry_asked]
      simp only [specManifest, Spec.asked, hports]
  simp [manifest, asked, hspec, kind]

theorem Spec.Alike.kind_eq {s s' : Spec} (h : s.Alike s') : s.kind = s'.kind := by
  cases h <;> rfl

theorem Spec.Alike.same {s s' : Spec} (h : s.Alike s') (once : (keys s.selector).Nodup) :
    (Descriptor.specManifest s).Same (Descriptor.specManifest s') := by
  cases h with
  | workload s => exact .refl _
  | network perm =>
    exact .of_forall₂ (.cons ⟨rfl, .refl _⟩ (.cons ⟨rfl, Manifest.Same.ofPairs once perm⟩
      (.cons ⟨rfl, .refl _⟩ .nil)))

/-- **The same in another order is written the same.** -/
theorem Descriptor.Alike.same (h : d.Alike d') (distinct : d.Distinct) :
    d.manifest.Same d'.manifest := by
  obtain ⟨space, name, spec, labels⟩ := d
  obtain ⟨space', name', spec', labels'⟩ := d'
  obtain ⟨hspace, hname, hspec, hlabels⟩ := h
  obtain rfl : space = space' := hspace
  obtain rfl : name = name' := hname
  have hmetadata : List.Forall₂ (fun f f' => f.1 = f'.1 ∧ Manifest.Same f.2 f'.2)
      (if labels.isEmpty then [] else [("labels", Manifest.ofPairs labels)])
      (if labels'.isEmpty then [] else [("labels", Manifest.ofPairs labels')]) := by
    cases labels with
    | nil =>
      obtain rfl : labels' = [] := hlabels.nil_eq.symm
      exact .nil
    | cons pair labels =>
      cases labels' with
      | nil => cases hlabels.eq_nil
      | cons pair' labels' => exact .cons ⟨rfl, Manifest.Same.ofPairs distinct.labels hlabels⟩ .nil
  have hkind : (Manifest.text spec.kind.name).Same (.text spec'.kind.name) := by
    rw [hspec.kind_eq]
    exact .refl _
  exact .of_forall₂ (.cons ⟨rfl, .refl _⟩ (.cons ⟨rfl, hkind⟩
    (.cons ⟨rfl, .of_forall₂ (.cons ⟨rfl, .refl _⟩ (.cons ⟨rfl, .refl _⟩ hmetadata))⟩
      (.cons ⟨rfl, hspec.same distinct.selector⟩ .nil))))

/-! ## What a manifest keeps -/

/-- No entry of a Service of type `ClusterIP` has a node port. -/
theorem Descriptor.get?_nodePort_portEntry (p : ServicePort) :
    (portEntry "ClusterIP" p).get? "nodePort" = none := by
  obtain ⟨port, target, nodePort, protocol⟩ := p
  cases nodePort <;> rfl

/-- **A manifest loses nothing but the node ports of a Service that has none.**  Descriptors that
repeat no key and whose manifests say the same are the same up to the order of labels, unless a
Service of type `ClusterIP` sets node ports; and such a descriptor is read back from its manifest,
with its ports and variables in their order.  In general the manifests say the same if and only if
the same was asked for, and of a `ClusterIP` Service no entry asks for a node port. -/
theorem Descriptor.manifest_lossless (d d' : Descriptor) :
    (d.Distinct → d'.Distinct → d.Fits → d'.Fits → d.manifest.Same d'.manifest → d.Alike d') ∧
    (d.Distinct → d.Fits → ofManifest? d.manifest = some d) ∧
    (d.Distinct → d'.Distinct → (d.manifest.Same d'.manifest ↔ d.asked.Alike d'.asked)) ∧
    ∀ s, d.spec = .network s → s.serviceType = "ClusterIP" →
      ∀ spec, d.manifest.get? "spec" = some spec → ∀ entry ∈ spec.entriesAt "ports",
        entry.get? "nodePort" = none := by
  have hasked : d.Distinct → d'.Distinct →
      (d.manifest.Same d'.manifest ↔ d.asked.Alike d'.asked) := fun distinct distinct' => by
    constructor
    · intro same
      exact alike_of_same same (ofManifest?_manifest distinct) (ofManifest?_manifest distinct')
        distinct.asked distinct'.asked
    · intro alike
      rw [← d.manifest_asked, ← d'.manifest_asked]
      exact alike.same distinct.asked
  refine ⟨fun distinct distinct' fits fits' same => ?_, fun distinct fits => ?_, hasked, ?_⟩
  · have alike := (hasked distinct distinct').1 same
    rwa [fits.asked_eq, fits'.asked_eq] at alike
  · rw [ofManifest?_manifest distinct, fits.asked_eq]
  · intro s hs htype spec hspec entry hentry
    obtain rfl : specManifest d.spec = spec := Option.some.inj hspec
    rw [hs] at hentry
    obtain ⟨p, -, rfl⟩ := List.mem_map.1 (hentry : entry ∈ s.ports.map (portEntry s.serviceType))
    rw [htype]
    exact get?_nodePort_portEntry p

/-- Labels in another order are told as the same labels, and of two ports the one with node port
zero is not taken for the one without a node port. -/
theorem Descriptor.lossless_of_two_ports :
    let d : Descriptor :=
      { space := "default", name := "db", labels := [("app", "db"), ("tier", "test")]
        spec := .network
          { serviceType := "NodePort", selector := [("tier", "test"), ("app", "db")]
            ports := [⟨5432, 5432, some 0, "TCP"⟩, ⟨9187, 9187, none, "TCP"⟩] } }
    let d' : Descriptor := { d with labels := [("tier", "test"), ("app", "db")] }
    d.manifest.Same d'.manifest ∧ d.Alike d' ∧ ofManifest? d.manifest = some d := by
  intro d d'
  have distinct : d.Distinct := ⟨by decide, by decide⟩
  have distinct' : d'.Distinct := ⟨by decide, by decide⟩
  have fits : d.Fits := by
    rintro _ ⟨⟩ htype
    exact absurd htype (by decide)
  have fits' : d'.Fits := fits
  have same : d.manifest.Same d'.manifest := by
    refine Alike.same ⟨rfl, rfl, .network (.refl _), ?_⟩ distinct
    decide
  obtain ⟨halike, hread, -, -⟩ := manifest_lossless d d'
  exact ⟨same, halike distinct distinct' fits fits' same, hread distinct fits⟩

end EphemeralDatabase
