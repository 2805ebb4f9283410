import EphemeralDatabase.Proofs.Provision.Calls
import EphemeralDatabase.Proofs.Server.Conduct

/-!
# What a fixture keeps away from

A fixture has to do with two objects only, the Service and the Pod of its plan.  Every request that
is about an object at all is about one of these, and a document that is sent along names the same
object (`History.Run.addresses`).

For provisioning this is read off the shape of its calls.  For tearing down it is an invariant: what
is left to delete is left of the objects of the plan.

On a cluster whose calls do nothing to other objects than the one they are about, all others stay
untouched (`Confined.untouched`).
-/

namespace EphemeralDatabase

variable {σ τ β : Type}

/-! ## What requests are about -/

/-- The object that a document is about. -/
def Manifest.address? (m : Manifest) : Option Address := do
  let kind ← (← m.get? "kind").text?
  let metadata ← m.get? "metadata"
  let space ← (← metadata.get? "namespace").text?
  let name ← (← metadata.get? "name").text?
  return ⟨← Kind.ofName? kind, space, name⟩

/-- A descriptor and its document are about the same object. -/
theorem Descriptor.address?_manifest (d : Descriptor) :
    d.manifest.address? = some d.address := by
  simp [Manifest.address?, manifest, Manifest.get?, Mapping.get?, Manifest.text?, address]

/-- If the request is about an object, then about one of the plan, and a document that is sent along
names it, too. -/
def Plan.Addresses (plan : Plan τ) (request : Request τ) : Prop :=
  ∀ a, request.address? = some a →
    a ∈ plan.teardownOrder ∧ ∀ body, request = .create a body → body.address? = some a

/-- Provisioning keeps to the plan. -/
theorem Provision.Sequence.addresses {plan : Plan τ} {es : List (Exchange τ)}
    (h : Sequence plan es) {e : Exchange τ} (he : e ∈ es) : plan.Addresses e.request := by
  have part : ∀ {d condition} {fs : List (Exchange τ)} {r}, d.address ∈ plan.teardownOrder →
      Part plan.nodeHost d condition fs r → e ∈ fs → plan.Addresses e.request := by
    intro d condition fs r hd part he a ha
    obtain rfl := Option.some.inj ((part.address he).symm.trans ha)
    refine ⟨hd, fun body hr => ?_⟩
    rcases part.requests he with hread | hcreate
    · rw [hread] at hr
      cases hr
    · rw [hcreate] at hr
      cases hr
      exact d.address?_manifest
  cases h with
  | service service => exact part (by simp [Plan.teardownOrder]) service he
  | both service reachable pod =>
    rcases List.mem_append.1 he with he | he
    · exact part (by simp [Plan.teardownOrder]) service he
    · exact part (by simp [Plan.teardownOrder]) pod he

/-- What is left to delete is left of certain objects. -/
def Teardown.Stage.Within (addresses : List Address) : Stage → Prop
  | .deleting rest _ => ∀ a ∈ rest, a ∈ addresses
  | .broken _ => True

namespace Teardown.Stage.Within

variable {addresses : List Address} {s : Stage}

theorem resume (h : s.Within addresses) (reply : Reply τ) :
    (Teardown.resume s reply).1.Within addresses := by
  match s with
  | .deleting (a :: rest) report =>
    have hrest : ∀ b ∈ rest, b ∈ addresses := fun b hb => h b (List.mem_cons_of_mem _ hb)
    cases hr : deleteOutcome a reply.answer with
    | ok outcome =>
      simp only [Teardown.resume, hr]
      exact hrest
    | error fault =>
      simp only [Teardown.resume, hr]
      trivial
  | .deleting [] report => exact h
  | .broken fault => trivial

theorem of_ask (h : s.Within addresses) {request : Request τ}
    (asks : Teardown.ask s = some request) : ∃ a ∈ addresses, request = .delete a := by
  match s with
  | .deleting (a :: rest) report =>
    exact ⟨a, h a (List.mem_cons_self ..), (Option.some.inj asks).symm⟩
  | .deleting [] report => cases asks
  | .broken fault => cases asks

end Teardown.Stage.Within

/-! ## Executions -/

namespace History

variable [Clock τ] {plan : Plan τ} (h : History plan)

/-- Whoever tears down has objects of the plan left to delete, and no others. -/
theorem within (n : ℕ) : ∀ t strict s, (h.crew n).At t (.tearDown strict s) →
    s.Within plan.teardownOrder := by
  induction n with
  | zero =>
    intro t strict s ht
    rw [h.start] at ht
    simp [Crew.At] at ht
  | succ n ih =>
    intro t strict s ht
    cases hx : h.stride n with
    | none =>
      rw [h.rest hx] at ht
      exact ih t strict s ht
    | some x =>
      rcases (h.step hx).at_iff.1 ht with ⟨-, htarget⟩ | ⟨-, hstood⟩
      · rcases (h.step hx).begins_or_goes with ⟨hbegins, -⟩ | ⟨p, hp, -, goes⟩
        · rw [← htarget] at hbegins
          exact hbegins.elim
        · rw [← htarget] at goes
          generalize x.exchange = exchange, (h.crew (n + 1)).cell = cell at goes
          cases goes with
          | enter door => cases p <;> simp [Position.door?] at door
          | tearDown => exact fun a ha => ha
          | delete reply asks => exact (ih _ _ _ hp).resume reply
      · exact ih t strict s hstood

/-- **Every request is about one of the two objects of the plan**, or about none. -/
theorem addresses {n : ℕ} {x : Stride τ} (hx : h.stride n = some x) {e : Exchange τ}
    (he : x.exchange = some e) : plan.Addresses e.request := by
  obtain ⟨-, ⟨f, s, -, -, hstride⟩ | ⟨strict, s, asks, hat, -⟩⟩ := (h.step hx).exchange_effect he
  · intro a ha
    rw [hstride] at hx
    have hex : h.exchange? f n = some e := exchange?_eq_some_iff.2 ⟨_, _, _, hx⟩
    have hmem : e ∈ h.callsOf f (n + 1) := by
      refine List.mem_filter.2 ⟨?_, by simp [ha]⟩
      rw [h.exchangesOf_succ, hex]
      simp
    obtain ⟨⟨rest, sequence⟩, -⟩ := h.calls_shape f (n + 1)
    exact sequence.addresses (List.mem_append_left _ hmem) a ha
  · obtain ⟨b, hb, hr⟩ := (h.within n _ _ _ hat).of_ask asks
    rw [hr]
    intro a ha
    obtain rfl : b = a := Option.some.inj ha
    exact ⟨hb, fun body hcreate => by cases hcreate⟩

theorem Run.addresses {xs : List (Stride τ)} {crew : Crew τ} (run : History.Run plan xs crew)
    {e : Exchange τ} (he : e ∈ xs.filterMap Stride.exchange) : plan.Addresses e.request := by
  obtain ⟨h, hstride, -⟩ := exists_of_run run
  obtain ⟨x, hx, hex⟩ := List.mem_filterMap.1 he
  obtain ⟨n, hn⟩ := List.mem_iff_getElem?.1 hx
  exact h.addresses ((hstride n).trans hn) hex

end History

/-! ## Everything else -/

/-- An exchange changes what there is at the address that it is about, and nowhere else. -/
def Confined (conduct : σ → Exchange τ → σ → Prop) (content : σ → Address → β) : Prop :=
  ∀ ⦃w e w'⦄, conduct w e w' → ∀ a, e.request.address? ≠ some a → content w' a = content w a

/-- What no exchange is about stays untouched. -/
theorem Confined.untouched {conduct : σ → Exchange τ → σ → Prop} {content : σ → Address → β}
    (confined : Confined conduct content) {w w' : σ} {es : List (Exchange τ)}
    (h : Carries conduct w es w') {a : Address} (away : ∀ e ∈ es, e.request.address? ≠ some a) :
    content w' a = content w a := by
  obtain ⟨ts, rfl, h⟩ := h
  have step : ∀ t ∈ ts, content t.before a = content w a → content t.after a = content w a :=
    fun t ht hsame =>
      (confined (h.conducts ht) a (away _ (List.mem_map_of_mem ht))).trans hsame
  exact (h.lasting (P := fun v => content v a = content w a) step rfl).2

/-- The servers that hold objects by address are such clusters, with faults and without. -/
theorem Falters.confined : Confined (Falters (τ := τ)) fun o => o := by
  intro o e o' h a ha
  have elsewhere : ∀ {b : Address}, e.request.address? = some b → a ≠ b := by
    rintro b hb rfl
    exact ha hb
  cases h with
  | serves serves =>
    cases serves with
    | found | missing | conflict | gone | slept => rfl
    | made => exact Objects.put_of_ne (elsewhere rfl)
    | deleted => exact Objects.drop_of_ne (elsewhere rfl)
  | unread | refused | restless => rfl
  | unheard => exact Objects.put_of_ne (elsewhere rfl)

end EphemeralDatabase
