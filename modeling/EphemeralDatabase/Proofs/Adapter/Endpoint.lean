import EphemeralDatabase.Fixture.Single
import Mathlib.Tactic.Common

/-!
# Where a Service is reached

A view may lack anything, and the endpoint of a Service is derived from what it has.  What a
Service is reached by is said here field by field (`SpecView.Reaches`): by the first way into its
load balancer that has an address, by the port of the nodes, or by its address inside the cluster.
The endpoint is derived exactly then (`View.endpoint?_eq_some_iff`).

More ways in and more ports change nothing once a load balancer is reached, since both are taken
from the front of a list.
-/

namespace EphemeralDatabase

variable {τ ω : Type} {nodeHost host : String} {v : View} {e : Endpoint}

/-! ## Texts that may be missing -/

/-- A text is missing or empty. -/
def Lacking (text : Option String) : Prop := ∀ t ∈ text, t = ""

theorem nonempty?_eq_some_iff {text : Option String} :
    nonempty? text = some host ↔ text = some host ∧ host ≠ "" := by
  simp [nonempty?, Option.filter_eq_some_iff]

theorem nonempty?_eq_none_iff {text : Option String} : nonempty? text = none ↔ Lacking text := by
  simp [nonempty?, Lacking, Option.filter_eq_none_iff]

namespace IngressView

/-- What a way into a load balancer offers: its ip, and its hostname if it has no ip. -/
inductive Offers (i : IngressView) : String → Prop
  | ip {host : String} (told : i.ip = some host) (something : host ≠ "") : Offers i host
  | hostname {host : String} (noIp : Lacking i.ip) (told : i.hostname = some host)
      (something : host ≠ "") : Offers i host

/-- It offers nothing. -/
structure Empty (i : IngressView) : Prop where
  ip : Lacking i.ip
  hostname : Lacking i.hostname

theorem host?_eq_some_iff {i : IngressView} : i.host? = some host ↔ i.Offers host := by
  rw [host?, Option.or_eq_some_iff, nonempty?_eq_some_iff, nonempty?_eq_some_iff,
    nonempty?_eq_none_iff]
  constructor
  · rintro (⟨told, something⟩ | ⟨noIp, told, something⟩)
    · exact .ip told something
    · exact .hostname noIp told something
  · rintro (⟨told, something⟩ | ⟨noIp, told, something⟩)
    · exact .inl ⟨told, something⟩
    · exact .inr ⟨noIp, told, something⟩

theorem host?_eq_none_iff {i : IngressView} : i.host? = none ↔ i.Empty := by
  rw [host?, Option.or_eq_none_iff, nonempty?_eq_none_iff, nonempty?_eq_none_iff]
  exact ⟨fun h => ⟨h.1, h.2⟩, fun h => ⟨h.ip, h.hostname⟩⟩

theorem Offers.ne_empty {i : IngressView} (h : i.Offers host) : host ≠ "" := by
  cases h with
  | ip _ something => exact something
  | hostname _ _ something => exact something

end IngressView

/-! ## Reaching a Service -/

namespace SpecView

variable {spec : SpecView} {ingress : List IngressView} {first : PortView}

/-- Where a Service with a first port is reached. -/
inductive Reaches (nodeHost : String) (spec : SpecView) (ingress : List IngressView)
    (first : PortView) : Endpoint → Prop
  | balanced {before after : List IngressView} {i : IngressView} {host : String}
      (type : spec.serviceType = some "LoadBalancer") (ways : ingress = before ++ i :: after)
      (skipped : ∀ j ∈ before, j.Empty) (offers : i.Offers host) :
      Reaches nodeHost spec ingress first ⟨host, first.port⟩
  | nodePort {port : Int} (type : spec.serviceType = some "NodePort")
      (allocated : first.nodePort = some port) (something : port ≠ 0) :
      Reaches nodeHost spec ingress first ⟨nodeHost, some port⟩
  | internal {host : String} (noBalancer : spec.serviceType ≠ some "LoadBalancer")
      (noNode : spec.serviceType ≠ some "NodePort") (allocated : spec.clusterIP = some host)
      (something : host ≠ "") (notNone : host ≠ "None") :
      Reaches nodeHost spec ingress first ⟨host, first.port⟩

/-- A Service with a first port can be reached. -/
def Reachable (spec : SpecView) (ingress : List IngressView) (first : PortView) : Prop :=
  match spec.serviceType with
  | some "LoadBalancer" => ∃ i ∈ ingress, ¬ i.Empty
  | some "NodePort" => ∃ port ∈ first.nodePort, port ≠ 0
  | _ => ∃ host ∈ spec.clusterIP, host ≠ "" ∧ host ≠ "None"

/-- A Service that states no type, or an empty one, is one inside the cluster. -/
theorem type_eq_iff {t : String} (something : t ≠ "") (other : t ≠ "ClusterIP") :
    spec.type = t ↔ spec.serviceType = some t := by
  rw [type]
  cases hn : nonempty? spec.serviceType with
  | none =>
    have hlack := nonempty?_eq_none_iff.1 hn
    refine ⟨fun h => absurd h.symm other, fun h => absurd (hlack t h) something⟩
  | some u =>
    rw [Option.getD_some, (nonempty?_eq_some_iff.1 hn).1, Option.some_inj]

theorem findSome?_host_eq_some_iff :
    ingress.findSome? IngressView.host? = some host ↔ ∃ before i after,
      ingress = before ++ i :: after ∧ (∀ j ∈ before, j.Empty) ∧ i.Offers host := by
  simp only [List.findSome?_eq_some_iff, IngressView.host?_eq_some_iff,
    IngressView.host?_eq_none_iff]
  constructor
  · rintro ⟨before, i, after, ways, offers, skipped⟩
    exact ⟨before, i, after, ways, skipped, offers⟩
  · rintro ⟨before, i, after, ways, skipped, offers⟩
    exact ⟨before, i, after, ways, offers, skipped⟩

/-- The endpoint is derived where the Service is reached. -/
theorem endpoint?_eq_some_iff_reaches :
    spec.endpoint? nodeHost ingress first = some e ↔ spec.Reaches nodeHost ingress first e := by
  have balancer : spec.type = "LoadBalancer" ↔ spec.serviceType = some "LoadBalancer" :=
    type_eq_iff (by decide) (by decide)
  have node : spec.type = "NodePort" ↔ spec.serviceType = some "NodePort" :=
    type_eq_iff (by decide) (by decide)
  simp only [SpecView.endpoint?, balancer, node]
  split
  case isTrue type =>
    rw [Option.map_eq_some_iff]
    constructor
    · rintro ⟨host, found, rfl⟩
      obtain ⟨before, i, after, ways, skipped, offers⟩ := findSome?_host_eq_some_iff.1 found
      exact .balanced type ways skipped offers
    · rintro (⟨-, ways, skipped, offers⟩ | ⟨other, -, -⟩ | ⟨other, -, -, -, -⟩)
      · exact ⟨_, findSome?_host_eq_some_iff.2 ⟨_, _, _, ways, skipped, offers⟩, rfl⟩
      · simp [type] at other
      · exact absurd type other
  case isFalse noBalancer =>
    split
    case isTrue type =>
      rw [Option.map_eq_some_iff]
      constructor
      · rintro ⟨port, found, rfl⟩
        obtain ⟨allocated, something⟩ := Option.filter_eq_some_iff.1 found
        exact .nodePort type allocated (by simpa using something)
      · rintro (⟨other, -, -, -⟩ | ⟨-, allocated, something⟩ | ⟨-, other, -, -, -⟩)
        · exact absurd other noBalancer
        · exact ⟨_, Option.filter_eq_some_iff.2 ⟨allocated, by simpa using something⟩, rfl⟩
        · exact absurd type other
    case isFalse noNode =>
      rw [Option.map_eq_some_iff]
      constructor
      · rintro ⟨host, found, rfl⟩
        obtain ⟨found, notNone⟩ := Option.filter_eq_some_iff.1 found
        obtain ⟨allocated, something⟩ := nonempty?_eq_some_iff.1 found
        exact .internal noBalancer noNode allocated something (by simpa using notNone)
      · rintro (⟨other, -, -, -⟩ | ⟨other, -, -⟩ | ⟨-, -, allocated, something, notNone⟩)
        · exact absurd other noBalancer
        · exact absurd other noNode
        · exact ⟨_, Option.filter_eq_some_iff.2
            ⟨nonempty?_eq_some_iff.2 ⟨allocated, something⟩, by simpa using notNone⟩, rfl⟩

theorem exists_reaches_iff :
    (∃ e, spec.Reaches nodeHost ingress first e) ↔ spec.Reachable ingress first := by
  rw [Reachable]
  split
  case h_1 type =>
    constructor
    · rintro ⟨-, ⟨-, ways, -, offers⟩ | ⟨other, -, -⟩ | ⟨other, -, -, -, -⟩⟩
      · refine ⟨_, ways ▸ List.mem_append_cons_self, fun empty => ?_⟩
        have hhost := IngressView.host?_eq_some_iff.2 offers
        rw [IngressView.host?_eq_none_iff.2 empty] at hhost
        cases hhost
      · simp [type] at other
      · exact absurd type other
    · rintro ⟨i, hi, offering⟩
      have found : (ingress.findSome? IngressView.host?).isSome :=
        List.findSome?_isSome_iff.2 ⟨i, hi, Option.isSome_iff_ne_none.2 fun h =>
          offering (IngressView.host?_eq_none_iff.1 h)⟩
      obtain ⟨host, found⟩ := Option.isSome_iff_exists.1 found
      obtain ⟨before, j, after, ways, skipped, offers⟩ := findSome?_host_eq_some_iff.1 found
      exact ⟨_, .balanced type ways skipped offers⟩
  case h_2 type =>
    constructor
    · rintro ⟨-, ⟨other, -, -, -⟩ | ⟨-, allocated, something⟩ | ⟨-, other, -, -, -⟩⟩
      · simp [type] at other
      · exact ⟨_, allocated, something⟩
      · exact absurd type other
    · rintro ⟨port, allocated, something⟩
      exact ⟨_, .nodePort type allocated something⟩
  case h_3 noBalancer noNode =>
    constructor
    · rintro ⟨-, ⟨other, -, -, -⟩ | ⟨other, -, -⟩ | ⟨-, -, allocated, something, notNone⟩⟩
      · exact absurd other noBalancer
      · exact absurd other noNode
      · exact ⟨_, allocated, something, notNone⟩
    · rintro ⟨host, allocated, something, notNone⟩
      exact ⟨_, .internal noBalancer noNode allocated something notNone⟩

/-- A way in that comes later and a port that comes later do not count. -/
theorem Reaches.extended (h : spec.Reaches nodeHost ingress first e)
    (type : spec.serviceType = some "LoadBalancer") (ports : Option (List PortView))
    (ways : List IngressView) :
    { spec with ports := ports }.Reaches nodeHost (ingress ++ ways) first e := by
  cases h with
  | balanced _ split skipped offers =>
    exact .balanced type (by rw [split, List.append_assoc, List.cons_append]) skipped offers
  | nodePort other _ _ => simp [type] at other
  | internal other _ _ _ _ => exact absurd type other

theorem Reaches.host_ne_empty (h : spec.Reaches nodeHost ingress first e)
    (type : spec.serviceType ≠ some "NodePort") : e.host ≠ "" := by
  cases h with
  | balanced _ _ _ offers => exact offers.ne_empty
  | nodePort other _ _ => exact absurd other type
  | internal _ _ _ something _ => exact something

end SpecView

/-! ## Views -/

namespace View

/-- The type that a view states. -/
def type? (v : View) : Option String := v.spec.bind SpecView.serviceType

/-- Where the Service of a view is reached: it has a first port, and is reached with this one. -/
def ReachedAt (v : View) (nodeHost : String) (e : Endpoint) : Prop :=
  ∃ spec first rest, v.spec = some spec ∧ spec.ports = some (first :: rest) ∧
    spec.Reaches nodeHost v.ingress first e

/-- The Service of a view can be reached. -/
def Reachable (v : View) : Prop :=
  ∃ spec first rest, v.spec = some spec ∧ spec.ports = some (first :: rest) ∧
    spec.Reachable v.ingress first

/-- A view with more ways in and more ports behind those it has. -/
def extended (v : View) (ways : List IngressView) (ports : List PortView) : View where
  spec := v.spec.map fun spec => { spec with ports := some (spec.ports.getD [] ++ ports) }
  status := some { v.status.getD {} with ingress := some (v.ingress ++ ways) }

theorem endpoint?_eq_some_iff : v.endpoint? nodeHost = some e ↔ v.ReachedAt nodeHost e := by
  unfold View.endpoint? ReachedAt
  cases hspec : v.spec with
  | none => simp
  | some spec =>
    cases hports : spec.ports with
    | none => simp [hports]
    | some ports =>
      cases ports with
      | nil => simp [hports]
      | cons first rest => simp [hports, SpecView.endpoint?_eq_some_iff_reaches]

theorem isSome_endpoint?_iff : (v.endpoint? nodeHost).isSome ↔ v.Reachable := by
  rw [Option.isSome_iff_exists]
  constructor
  · rintro ⟨e, h⟩
    obtain ⟨spec, first, rest, hspec, hports, reaches⟩ := endpoint?_eq_some_iff.1 h
    exact ⟨spec, first, rest, hspec, hports, SpecView.exists_reaches_iff.1 ⟨e, reaches⟩⟩
  · rintro ⟨spec, first, rest, hspec, hports, reachable⟩
    obtain ⟨e, reaches⟩ := SpecView.exists_reaches_iff.2 reachable
    exact ⟨e, endpoint?_eq_some_iff.2 ⟨spec, first, rest, hspec, hports, reaches⟩⟩

theorem endpoint?_extended (h : v.endpoint? nodeHost = some e)
    (type : v.type? = some "LoadBalancer") (ways : List IngressView) (ports : List PortView) :
    (v.extended ways ports).endpoint? nodeHost = some e := by
  obtain ⟨spec, first, rest, hspec, hports, reaches⟩ := endpoint?_eq_some_iff.1 h
  have balancer : spec.serviceType = some "LoadBalancer" := by simpa [type?, hspec] using type
  exact endpoint?_eq_some_iff.2 ⟨{ spec with ports := some (first :: (rest ++ ports)) }, first,
    rest ++ ports, by simp [extended, hspec, hports], rfl, reaches.extended balancer _ ways⟩

theorem host_ne_empty (h : v.endpoint? nodeHost = some e) (type : v.type? ≠ some "NodePort") :
    e.host ≠ "" := by
  obtain ⟨spec, first, rest, hspec, hports, reaches⟩ := endpoint?_eq_some_iff.1 h
  exact reaches.host_ne_empty (by simpa [type?, hspec] using type)

/-- **The endpoint of a Service is derived from its view, and exactly when the Service is
reached.**  More ways in and more ports leave that of a load balancer as it is, a host is never
empty unless it is the configured one, and no document that the Service was made from counts. -/
theorem endpoint_derivation (nodeHost : String) (v : View) :
    (∀ e, v.endpoint? nodeHost = some e ↔ v.ReachedAt nodeHost e) ∧
    ((v.endpoint? nodeHost).isSome ↔ v.Reachable) ∧
    (∀ e, v.endpoint? nodeHost = some e → v.type? = some "LoadBalancer" →
      ∀ ways ports, (v.extended ways ports).endpoint? nodeHost = some e) ∧
    (∀ e, v.endpoint? nodeHost = some e → v.type? ≠ some "NodePort" → e.host ≠ "") ∧
    (∀ (world : World τ ω) w a, a.kind = .service →
      (world.ask (.read a) w).1.answer = .ok v →
      (Act.read world nodeHost a w).result =
        .ok (.found { address := a, endpoint := v.endpoint? nodeHost })) ∧
    ∀ (world : World τ ω) w (d : Descriptor), d.kind = .service →
      (world.ask (.create d.address d.manifest) w).1.answer = .ok v →
      (Act.create world nodeHost d w).result =
        .ok (.made { address := d.address, endpoint := v.endpoint? nodeHost }) := by
  have shown {a : Address} (service : a.kind = .service) :
      v.state nodeHost a = { address := a, endpoint := v.endpoint? nodeHost } := by
    rw [View.state, service]
  refine ⟨fun e => endpoint?_eq_some_iff, isSome_endpoint?_iff,
    fun e h type ways ports => endpoint?_extended h type ways ports,
    fun e h type => host_ne_empty h type, fun world w a service answer => ?_,
    fun world w d service answer => ?_⟩
  · have read : (Act.read world nodeHost a w).result =
        readOutcome nodeHost a (world.ask (.read a) w).1.answer := rfl
    rw [read, answer, readOutcome, shown service]
  · have created : (Act.create world nodeHost d w).result =
        createOutcome nodeHost d.address (world.ask (.create d.address d.manifest) w).1.answer := rfl
    rw [created, answer, createOutcome, shown service]

end View

/-! ### A load balancer -/

namespace Balanced

/-- The first way in offers nothing, and the second a hostname. -/
def view : View where
  spec := some
    { serviceType := some "LoadBalancer", ports := some [{ port := some 5432 }],
      clusterIP := some "10.43.0.7" }
  status := some { ingress := some [{}, { ip := some "", hostname := some "balancer" }] }

def endpoint : Endpoint := ⟨"balancer", some 5432⟩

/-- What the Service was made from says another type. -/
def service : Descriptor where
  space := "default"
  name := "postgres-service"
  spec := .network ⟨"NodePort", [], [⟨5432, 5432, some 32543, "TCP"⟩]⟩

/-- A world that shows the load balancer to every request. -/
def world : World ℕ Unit where
  answer _ w := (.ok view, w)
  now _ := 0

/-- The Service is reached by the hostname, whatever comes behind it and whatever it was made
from. -/
theorem reached_by_hostname :
    view.endpoint? "127.0.0.1" = some endpoint ∧
      (view.extended [{ ip := some "10.0.0.9" }] [{ port := some 80 }]).endpoint? "127.0.0.1" =
        some endpoint ∧
      endpoint.host ≠ "" ∧
      (Act.read world "127.0.0.1" service.address ()).result =
        .ok (.found { address := service.address, endpoint := view.endpoint? "127.0.0.1" }) ∧
      (Act.create world "127.0.0.1" service ()).result =
        .ok (.made { address := service.address, endpoint := view.endpoint? "127.0.0.1" }) := by
  obtain ⟨derived, -, kept, named, read, created⟩ := View.endpoint_derivation "127.0.0.1" view
  have empty : ({} : IngressView).Empty := ⟨nofun, nofun⟩
  have lacking : Lacking (some "") := fun t ht => (Option.some.inj ht).symm
  have there : view.endpoint? "127.0.0.1" = some endpoint :=
    (derived endpoint).2 ⟨_, _, _, rfl, rfl, .balanced rfl (List.singleton_append).symm
      (List.forall_mem_singleton.2 empty) (.hostname lacking rfl (by decide))⟩
  exact ⟨there, kept endpoint there rfl _ _, named endpoint there (by decide),
    read world () service.address rfl rfl, created world () service rfl rfl⟩

end Balanced

end EphemeralDatabase
