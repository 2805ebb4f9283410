import EphemeralDatabase.Proofs.Lifecycle.Leftover
import EphemeralDatabase.Proofs.Server.Conduct

/-!
# Trying again

To ensure that an object exists and to acquire a database can both fail halfway, and are then tried
again.  That is safe because of a property of the machines themselves: they create nothing unless
the exchange just before was a read that was answered by a 404, and they delete nothing
(`Machine.Careful`).  Even a server that falters says 404 only of what is not there, so at the
moment at which an object is created there is none (`Machine.Careful.absent`).

`Efforts` are such calls one after another, in any number and order, each cut off anywhere or
carried to its end.  `Efforts.idempotent` is what retrying comes to: an object is created once at
most, also when the attempt that created it seemed to fail.
-/

namespace EphemeralDatabase

variable {σ τ : Type}

/-! ## Careful machines -/

/-- The machine creates nothing but what it was just told is not there, and deletes nothing. -/
structure Machine.Careful (m : Machine τ σ) : Prop where
  creates : ∀ {s : σ} {reply : Reply τ} {a : Address} {body : Manifest},
    m.ask (m.resume s reply).1 = some (.create a body) →
      m.ask s = some (.read a) ∧ ∃ reason, reply.answer = .error (.api (some 404) reason)
  deletes : ∀ (s : σ) (a : Address), m.ask s ≠ some (.delete a)

/-- **When a careful machine creates an object, there is none**, though reads and attempts to create
may fail. -/
theorem Machine.Careful.absent {m : Machine τ σ} (careful : m.Careful) {s t : σ} {o o' : Objects}
    {ts : List (Transaction Objects τ)} (h : Transactions Falters o ts o')
    (trace : m.Trace s (ts.map Transaction.exchange) t)
    (begins : ∀ a body, m.ask s = some (.create a body) → o a = none) :
    ∀ u ∈ ts, ∀ a body, u.exchange.request = .create a body → u.before a = none := by
  -- what carries the induction is that there is no object that the machine is about to create
  induction h generalizing s with
  | nil o => simp
  | cons first rest ih =>
    cases trace with
    | cons asks next =>
      refine List.forall_mem_cons.2 ⟨fun a body hr => ?_, ih next fun a body hask => ?_⟩
      · exact begins a body (asks.trans (congrArg some hr))
      · obtain ⟨hread, reason, hanswer⟩ := careful.creates hask
        have hr := Option.some.inj (asks.symm.trans hread)
        obtain ⟨rfl, absent⟩ := first.of_missing hr hanswer
        exact absent

section Machines

/-- What is read as an absence is one. -/
theorem Exchange.Reads.of_reply {reply : Reply τ} {nodeHost : String} {a a' : Address}
    (h : readOutcome nodeHost a reply.answer = .ok (.notFound a')) :
    ∃ reason, reply.answer = .error (.api (some 404) reason) :=
  Exchange.Reads.absent (e := ⟨.read a, reply⟩) ⟨rfl, h⟩

/-- **Ensuring is careful.** -/
theorem Ensure.careful (nodeHost : String) (d : Descriptor) :
    (machine nodeHost d : Machine τ Stage).Careful where
  creates := by
    intro s reply a body h
    cases s with
    | reading =>
      rw [resume_reading] at h
      cases hr : readOutcome nodeHost d.address reply.answer with
      | error fault =>
        rw [hr] at h
        cases h
      | ok seen =>
        rw [hr] at h
        cases seen with
        | found s | failed f => cases h
        | notFound a' =>
          obtain ⟨rfl, -⟩ : d.address = a ∧ d.manifest = body := by
            simpa [machine, ask, afterRead] using h
          exact ⟨rfl, Exchange.Reads.of_reply hr⟩
    | creating =>
      rw [resume_creating] at h
      cases hr : createOutcome nodeHost d.address reply.answer with
      | error fault =>
        rw [hr] at h
        cases h
      | ok made =>
        rw [hr] at h
        cases made <;> cases h
    | done r => cases h
  deletes := by
    intro s a h
    cases s with
    | reading | creating | done r => simp [machine, ask] at h

variable {condition : Condition}

theorem BringUp.ask_settle_ne_create {t : Task τ} (w : Watch τ) (s : Poll.Stage condition τ)
    {a : Address} {body : Manifest} : ask t (settle w s) ≠ some (.create a body) := by
  match s with
  | .reading n | .sleeping n | .done (.ok (.ready r)) | .done (.ok (.timedOut r))
  | .done (.error fault) => simp [settle, ask, Poll.ask]

variable [Clock τ]

/-- Bringing up an object creates nothing beyond what ensuring does. -/
theorem BringUp.ask_of_proceed {t : Task τ} {time : τ} {s : Ensure.Stage} {a : Address}
    {body : Manifest}
    (h : ask t (proceed t time s : Stage condition τ × List (Event τ)).1 =
      some (.create a body)) :
    Ensure.ask t.descriptor s = some (.create a body : Request τ) := by
  match s with
  | .reading | .creating => exact h
  | .done (.ok (.existed s)) => exact absurd h (ask_settle_ne_create _ _)
  | .done (.ok (.created s)) =>
    exact absurd h (ask_settle_ne_create (t.watch time) (.reading 0 : Poll.Stage condition τ))
  | .done (.ok (.failed d f)) | .done (.error fault) => cases h

theorem BringUp.careful (t : Task τ) : (machine t : Machine τ (Stage condition τ)).Careful where
  creates := by
    intro s reply a body h
    cases s with
    | ensuring s => exact (Ensure.careful t.nodeHost t.descriptor).creates (ask_of_proceed h)
    | waiting w s => exact absurd h (ask_settle_ne_create _ _)
    | done r => cases h
  deletes := by
    intro s a h
    cases s with
    | ensuring s => exact (Ensure.careful t.nodeHost t.descriptor).deletes s a h
    | waiting w s => cases s <;> simp [machine, ask, Poll.ask] at h
    | done r => cases h

omit [Clock τ] in
theorem Provision.ask_of_afterService {plan : Plan τ} {s : BringUp.Stage endpointAssigned τ}
    {a : Address} {body : Manifest} (h : ask plan (afterService s) = some (.create a body)) :
    BringUp.ask (serviceTask plan) s = some (.create a body) := by
  match s with
  | .ensuring s | .waiting w s => exact h
  | .done (.ok r) | .done (.error e) => cases h

omit [Clock τ] in
theorem Provision.ask_of_afterPod {plan : Plan τ} {endpoint : Endpoint}
    {s : BringUp.Stage phaseRunning τ} {a : Address} {body : Manifest}
    (h : ask plan (afterPod plan endpoint s) = some (.create a body)) :
    BringUp.ask (podTask plan) s = some (.create a body) := by
  match s with
  | .ensuring s | .waiting w s => exact h
  | .done (.ok r) | .done (.error e) => cases h

/-- **Provisioning is careful.** -/
theorem Provision.careful (plan : Plan τ) : (machine plan).Careful where
  creates := by
    intro s reply a body h
    cases s with
    | service s => exact (BringUp.careful (serviceTask plan)).creates (ask_of_afterService h)
    | pod endpoint s => exact (BringUp.careful (podTask plan)).creates (ask_of_afterPod h)
    | done o => cases h
  deletes := ask_ne_delete

end Machines

/-! ## Calls that are tried again -/

/-- What is called so that objects will be there. -/
inductive Attempt (τ : Type) where
  | ensure (nodeHost : String) (d : Descriptor)
  | acquire (plan : Plan τ)

section Attempts

variable [Clock τ]

/-- The exchanges of a call that has come to its end.  The fixture of an acquisition may be in any
state. -/
def Attempt.Goes : Attempt τ → List (Exchange τ) → Prop
  | ensure nodeHost d, es => ∃ r, (Ensure.machine nodeHost d).Trace .reading es (.done r)
  | acquire plan, es => ∃ self c c' q, plan.Solo self c .acquire es c' q

/-- **An attempt is made by a careful machine**, which has nothing to create in the beginning. -/
theorem Attempt.Goes.exists_careful {attempt : Attempt τ} {es : List (Exchange τ)}
    (h : attempt.Goes es) : ∃ (σ : Type) (m : Machine τ σ) (s t : σ), m.Careful ∧
      (∀ a body, m.ask s ≠ some (.create a body)) ∧ m.Trace s es t := by
  cases attempt with
  | ensure nodeHost d =>
    obtain ⟨r, trace⟩ := h
    exact ⟨_, _, _, _, Ensure.careful nodeHost d, by simp [Ensure.machine, Ensure.ask], trace⟩
  | acquire plan =>
    obtain ⟨self, c, c', q, solo⟩ := h
    have begins : ∀ a body, (Provision.machine plan).ask Provision.start ≠
        some (.create a body) := by
      simp [Provision.machine, Provision.start, Provision.ask, BringUp.ask, Ensure.ask]
    rcases solo.provisions with rfl | ⟨o, trace⟩
    · exact ⟨_, _, _, _, Provision.careful plan, begins, .nil _⟩
    · exact ⟨_, _, _, _, Provision.careful plan, begins, trace⟩

/-- An attempt, and what became of it on a server. -/
structure Effort (τ : Type) where
  attempt : Attempt τ
  before : Objects
  transactions : List (Transaction Objects τ)
  after : Objects

omit [Clock τ] in
/-- What was exchanged. -/
def Effort.exchanges (f : Effort τ) : List (Exchange τ) := f.transactions.map Transaction.exchange

/-- An attempt is made on a server that falters, and is carried to its end or cut off before. -/
structure Effort.Made (f : Effort τ) : Prop where
  goes : ∃ rest, f.attempt.Goes (f.exchanges ++ rest)
  falters : Transactions Falters f.before f.transactions f.after

/-- Attempts that are made one after another lead from some objects to others. -/
inductive Efforts : Objects → List (Effort τ) → Objects → Prop
  | nil (o : Objects) : Efforts o [] o
  | cons {f : Effort τ} {fs : List (Effort τ)} {o : Objects} (first : f.Made)
      (rest : Efforts f.after fs o) : Efforts f.before (f :: fs) o

namespace Effort.Made

variable {f : Effort τ}

theorem exists_careful (h : f.Made) : ∃ (σ : Type) (m : Machine τ σ) (s t : σ), m.Careful ∧
    (∀ a body, m.ask s ≠ some (.create a body)) ∧ m.Trace s f.exchanges t := by
  obtain ⟨rest, goes⟩ := h.goes
  obtain ⟨σ, m, s, u, careful, begins, trace⟩ := goes.exists_careful
  obtain ⟨t, trace, -⟩ := trace.exists_of_append
  exact ⟨σ, m, s, t, careful, begins, trace⟩

/-- **No attempt creates what is there.** -/
theorem absent (h : f.Made) : ∀ t ∈ f.transactions, ∀ a body,
    t.exchange.request = .create a body → t.before a = none := by
  obtain ⟨σ, m, s, t, careful, begins, trace⟩ := h.exists_careful
  exact careful.absent h.falters trace fun a body hask => absurd hask (begins a body)

theorem undeleted (h : f.Made) : ∀ t ∈ f.transactions, ∀ a, t.exchange.request ≠ .delete a := by
  obtain ⟨σ, m, s, t, careful, begins, trace⟩ := h.exists_careful
  intro u hu a hr
  obtain ⟨v, hv⟩ := trace.exists_ask (List.mem_map_of_mem hu)
  exact careful.deletes v a (hv.trans (congrArg some hr))

/-- **Ensuring that begins while the object is there reads it, and does nothing else.** -/
theorem read (h : f.Made) {nodeHost : String} {d : Descriptor} (there : f.before d.address ≠ none)
    {found : Ensured}
    (trace : (Ensure.machine nodeHost d).Trace .reading f.exchanges (.done (.ok found))) :
    ∃ e, f.exchanges = [e] ∧ ((∃ s, found = .existed s) ∨
      ∃ cause, e.Reads nodeHost d.address (.ok (.failed cause)) ∧ found = .failed d cause) := by
  have never : ∀ c : Exchange τ, c ∈ f.exchanges → ∀ made, ¬ c.Creates nodeHost d made := by
    rintro c hc made ⟨hr, -⟩
    obtain ⟨t, ht, rfl⟩ := List.mem_map.1 hc
    have hsame := ((h.falters.kept h.undeleted there).1 t ht).1
    exact there (hsame.symm.trans (h.absent t ht _ _ hr))
  have course := Ensure.course_of_trace trace
  generalize hes : f.exchanges = es at course never
  cases course with
  | existed read => exact ⟨_, rfl, Or.inl ⟨_, rfl⟩⟩
  | undetermined read => exact ⟨_, rfl, Or.inr ⟨_, read, rfl⟩⟩
  | created read create | refused read create => exact absurd create (never _ (by simp) _)

end Effort.Made

namespace Efforts

variable {o o' : Objects} {fs : List (Effort τ)}

theorem made (h : Efforts o fs o') : ∀ f ∈ fs, f.Made := by
  induction h with
  | nil o => simp
  | cons first rest ih => exact List.forall_mem_cons.2 ⟨first, ih⟩

/-- What one effort leaves is what the next one finds. -/
theorem transactions (h : Efforts o fs o') :
    Transactions Falters o (fs.flatMap Effort.transactions) o' := by
  induction h with
  | nil o => exact .nil o
  | cons first rest ih => exact first.falters.append ih

/-- What trying again comes to, for one object. -/
structure Idempotent (o : Objects) (fs : List (Effort τ)) (a : Address) : Prop where
  /-- at most one attempt to create it takes effect -/
  once : (fs.flatMap Effort.transactions).Pairwise fun t u => t.Makes a → ¬ u.Makes a
  /-- none is made while it is there -/
  absent : ∀ t ∈ fs.flatMap Effort.transactions, ∀ body,
    t.exchange.request = .create a body → t.before a = none
  /-- ensuring that begins while it is there, and returns, has read it and done nothing else: it was
  found, or the read failed -/
  read : ∀ f ∈ fs, f.before a ≠ none → ∀ nodeHost d, f.attempt = .ensure nodeHost d →
    d.address = a → ∀ found,
    (Ensure.machine nodeHost d).Trace .reading f.exchanges (.done (.ok found)) →
    ∃ e, f.exchanges = [e] ∧ ((∃ s, found = .existed s) ∨
      ∃ cause, e.Reads nodeHost a (.ok (.failed cause)) ∧ found = .failed d cause)
  /-- if it was there in the beginning, it stays as it is, and nobody wants to create it -/
  kept : o a ≠ none → ∀ t ∈ fs.flatMap Effort.transactions,
    t.before a = o a ∧ t.after a = o a ∧ ∀ body, t.exchange.request ≠ .create a body

/-- **Trying again is safe.**  Let objects be ensured and databases be acquired, in any number and
order and for whatever descriptors, each call carried to its end or cut off anywhere, on a server
that says 404 exactly of what is not there and refuses to create what is there, and let reads fail,
attempts to create fail without effect, and others fail although they took effect.  Then for every
object:

* at most one attempt to create it takes effect;
* no attempt is made while it is there;
* ensuring that begins while it is there reads it once, and returns that it existed, or that this
  read failed;
* if it was there in the beginning, it is never created, changed or replaced. -/
theorem idempotent (h : Efforts o fs o') (a : Address) : Idempotent o fs a := by
  have careful : ∀ t ∈ fs.flatMap Effort.transactions,
      (∀ b, t.exchange.request ≠ .delete b) ∧
        ∀ body, t.exchange.request = .create a body → t.before a = none := by
    intro t ht
    obtain ⟨f, hf, htf⟩ := List.mem_flatMap.1 ht
    have made := h.made f hf
    exact ⟨made.undeleted t htf, made.absent t htf a⟩
  refine ⟨?_, fun t ht => (careful t ht).2, ?_, fun there t ht => ?_⟩
  · exact h.transactions.made_once fun t ht => (careful t ht).1
  · rintro f hf there nodeHost d - rfl found trace
    exact (h.made f hf).read there trace
  · have hsame := (h.transactions.kept (fun t ht => (careful t ht).1) there).1 t ht
    refine ⟨hsame.1, hsame.2, fun body hr => there ?_⟩
    rw [← hsame.1]
    exact (careful t ht).2 body hr

end Efforts

end Attempts

/-! ### An answer that is lost -/

namespace Retry

open Delivery (plan)
open Leftover (missing shows)
open Objects (bare)

/-- The Service is there. -/
def served : Objects := bare.put plan.service.address plan.service.manifest

/-- The Pod is there, too. -/
def complete : Objects := served.put plan.pod.address plan.pod.manifest

/-- Says nothing about an object, since the connection is gone. -/
def lost : Reply Tick := ⟨.error (.carrier .http []), ⟨0⟩⟩

/-- The Service is created, but the answer is lost. -/
def unheard : Effort Tick where
  attempt := .ensure plan.nodeHost plan.service
  before := bare
  transactions := [⟨bare, ⟨.read plan.service.address, missing⟩, bare⟩,
    ⟨bare, ⟨.create plan.service.address plan.service.manifest, lost⟩, served⟩]
  after := served

/-- A database is acquired.  Its Service is found, and its Pod is created. -/
def acquired : Effort Tick where
  attempt := .acquire plan
  before := served
  transactions := [⟨served, ⟨.read plan.service.address, shows Delivery.service⟩, served⟩,
    ⟨served, ⟨.read plan.pod.address, missing⟩, served⟩,
    ⟨served, ⟨.create plan.pod.address plan.pod.manifest, shows {}⟩, complete⟩,
    ⟨complete, ⟨.read plan.pod.address, shows Delivery.pod⟩, complete⟩]
  after := complete

/-- The Service is found. -/
def found : Effort Tick where
  attempt := .ensure plan.nodeHost plan.service
  before := complete
  transactions := [⟨complete, ⟨.read plan.service.address, shows Delivery.service⟩, complete⟩]
  after := complete

theorem efforts : Efforts bare [unheard, acquired, found] complete := by
  have hserved : served plan.service.address ≠ none := by simp [served]
  have hpod : served plan.pod.address = none := Objects.put_of_ne plan.pod_address_ne
  have hcreated : complete plan.pod.address ≠ none := by simp [complete]
  have hservice : complete plan.service.address ≠ none := by
    rw [complete, Objects.put_of_ne plan.pod_address_ne.symm, served, Objects.put_self]
    simp
  have first : unheard.Made :=
    ⟨⟨[], _, .cons rfl (.cons rfl (.nil _))⟩, .cons (.serves (.missing rfl))
      (.cons (.unheard rfl) (.nil _))⟩
  have second : acquired.Made := by
    have trace : (Provision.machine plan).Trace Provision.start acquired.exchanges
        (.done (.ok Delivery.handle)) := .cons rfl (.cons rfl (.cons rfl (.cons rfl (.nil _))))
    refine ⟨⟨[], 0, {}, _, _, Plan.solo_acquire_of_trace trace⟩, ?_⟩
    exact .cons (.serves (.found hserved)) (.cons (.serves (.missing hpod))
      (.cons (.serves (.made hpod)) (.cons (.serves (.found hcreated)) (.nil _))))
  have third : found.Made :=
    ⟨⟨[], _, .cons rfl (.nil _)⟩, .cons (.serves (.found hservice)) (.nil _)⟩
  exact .cons first (.cons second (.cons third (.nil _)))

/-- The Service is created once, though the call that created it failed, and is found the next
time. -/
theorem created_once : Efforts.Idempotent bare [unheard, acquired, found] plan.service.address ∧
    (∃ t ∈ unheard.transactions, t.Makes plan.service.address) ∧
    (∃ cause, (Ensure.machine plan.nodeHost plan.service).Trace .reading unheard.exchanges
      (.done (.ok (.failed plan.service cause)))) ∧
    ∃ s, (Ensure.machine plan.nodeHost plan.service).Trace .reading found.exchanges
      (.done (.ok (.existed s))) := by
  refine ⟨efforts.idempotent plan.service.address, ?_, ?_, ?_⟩
  · refine ⟨_, List.mem_cons_of_mem _ (List.mem_cons_self ..), ⟨_, rfl⟩, ?_⟩
    simp [served, bare]
  · exact ⟨_, .cons rfl (.cons rfl (.nil _))⟩
  · exact ⟨_, .cons rfl (.nil _)⟩

end Retry

end EphemeralDatabase
