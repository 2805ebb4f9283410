import EphemeralDatabase.Proofs.Lifecycle.Confinement
import EphemeralDatabase.Proofs.Lifecycle.Leftover

/-!
# Acquiring and releasing in turn

On a server without faults an acquisition that gets a database has created its two objects if they
were not there, and the release after it has deleted them.  What the server holds is then what it
held before, and the fixture can begin anew.

Each of the machines has its share in this.  Ensuring creates what is not there
(`Ensure.Course.creates`), waiting changes nothing, so to bring up an object creates that object
(`BringUp.Course.creates`), and provisioning creates the Service and the Pod
(`Provision.Course.creates`).  Tearing down deletes whatever is there (`Teardown.Course.deletes`).
`Cycle.Goes.clean` is one cycle, and `Plan.Cycles.clean` any number of them.
-/

namespace EphemeralDatabase

open Fixture (Call)

variable {τ : Type} {o o' : Objects} {es : List (Exchange τ)}

/-! ## What a server without faults answers -/

namespace Serves

variable {e : Exchange τ} {nodeHost : String} {a : Address}

theorem reads_absent {seen : Except Fault ReadOutcome} (h : Serves o e o')
    (read : e.Reads nodeHost a seen) (absent : o a = none) :
    o' = o ∧ seen = .ok (.notFound a) := by
  obtain ⟨hsame, ⟨there, -⟩ | ⟨-, reason, hr⟩⟩ := h.of_read read.1
  · exact absurd absent there
  · refine ⟨hsame, ?_⟩
    rw [← read.2, hr]
    rfl

theorem creates_absent {d : Descriptor} {made : Except Fault CreateOutcome} (h : Serves o e o')
    (create : e.Creates nodeHost d made) (absent : o d.address = none) :
    o' = o.put d.address d.manifest ∧ ∃ s, made = .ok (.made s) := by
  rcases h.of_create create.1 with ⟨-, hput, hview⟩ | ⟨there, -⟩
  · exact ⟨hput, create.made_iff.2 hview⟩
  · exact absurd absent there

theorem deletes_there {gone : Except Fault DeleteOutcome} (h : Serves o e o')
    (delete : e.Deletes a gone) (there : o a ≠ none) :
    o' = o.drop a ∧ gone = .ok (.deleted a) := by
  rcases h.of_delete delete.1 with ⟨-, hdrop, view, hview⟩ | ⟨absent, -⟩
  · refine ⟨hdrop, ?_⟩
    rw [← delete.2, hview]
    rfl
  · exact absurd absent there

theorem deletes_absent {gone : Except Fault DeleteOutcome} (h : Serves o e o')
    (delete : e.Deletes a gone) (absent : o a = none) :
    o' = o ∧ gone = .ok (.notFound a) := by
  rcases h.of_delete delete.1 with ⟨there, -⟩ | ⟨-, hsame, reason, hr⟩
  · exact absurd absent there
  · refine ⟨hsame, ?_⟩
    rw [← delete.2, hr]
    rfl

end Serves

/-! ## What is changed -/

/-- The request is to change something. -/
@[simp] def Request.writes : Request τ → Bool
  | .create .. | .delete _ => true
  | .read _ | .sleep _ => false

namespace Exchange

/-- What was to be changed, in order. -/
def writes (es : List (Exchange τ)) : List (Request τ) :=
  (es.map Exchange.request).filter Request.writes

@[simp] theorem writes_append (es fs : List (Exchange τ)) :
    writes (es ++ fs) = writes es ++ writes fs := by
  simp [writes]

@[simp] theorem writes_nil : writes ([] : List (Exchange τ)) = [] := rfl

theorem writes_cons (e : Exchange τ) (es : List (Exchange τ)) : writes (e :: es) =
    if e.request.writes then e.request :: writes es else writes es := by
  simp [writes, List.filter_cons]

/-- Where nothing is to be changed, nothing changes. -/
theorem still (h : Carries Serves o es o') (hes : writes es = []) : o' = o := by
  induction es generalizing o with
  | nil => exact carries_nil.1 h
  | cons e es ih =>
    obtain ⟨o₁, first, rest⟩ := carries_cons.1 h
    rw [writes_cons] at hes
    split at hes
    · cases hes
    · rename_i hquiet
      have hsame : o₁ = o := by
        refine (Falters.serves first).of_quiet (fun b body hr => ?_) fun b hr => ?_
        · simp [hr] at hquiet
        · simp [hr] at hquiet
      rw [hsame] at rest
      exact ih rest hes

end Exchange

/-! ## Provisioning -/

/-- **Ensuring creates what is not there.** -/
theorem Ensure.Course.creates {nodeHost : String} {d : Descriptor} {found : Ensured}
    (course : Course nodeHost d es (.ok found)) (h : Carries Serves o es o')
    (absent : o d.address = none) :
    (∃ s, found = .created s) ∧ o' = o.put d.address d.manifest ∧
      Exchange.writes es = [.create d.address d.manifest] := by
  cases course with
  | existed read | undetermined read =>
    cases ((carries_singleton.1 h).reads_absent read absent).2
  | created read create =>
    obtain ⟨o₁, first, second⟩ := carries_cons.1 h
    obtain rfl := (first.reads_absent read absent).1
    have hput := ((carries_singleton.1 second).creates_absent create absent).1
    refine ⟨⟨_, rfl⟩, hput, ?_⟩
    simp [Exchange.writes_cons, read.1, create.1]
  | refused read create =>
    obtain ⟨o₁, first, second⟩ := carries_cons.1 h
    obtain rfl := (first.reads_absent read absent).1
    obtain ⟨s, hs⟩ := ((carries_singleton.1 second).creates_absent create absent).2
    cases hs

section Courses

variable [Clock τ] {condition : Condition}

/-- Waiting changes nothing. -/
theorem Poll.Course.writes {w : Watch τ} {n : ℕ} {r : Except Fault (Waited condition τ)}
    (h : Poll.Course w n es r) : Exchange.writes es = [] := by
  induction h with
  | ready read | late read | unread read => simp [Exchange.writes_cons, read.1]
  | restless read hides sleep => simp [Exchange.writes_cons, read.1, sleep]
  | again read hides sleep rest ih => simpa [Exchange.writes_cons, read.1, sleep] using ih

/-- **To bring up an object that is not there is to create it.** -/
theorem BringUp.Course.creates {t : Task τ} {r : Ready condition τ}
    (course : Course t es (.ok r)) (h : Carries Serves o es o')
    (absent : o t.descriptor.address = none) :
    o' = o.put t.descriptor.address t.descriptor.manifest ∧
      Exchange.writes es = [.create t.descriptor.address t.descriptor.manifest] := by
  generalize hq : (Except.ok r : Except (AcquireError τ) (Ready condition τ)) = q at course
  cases course with
  | broken | refused => cases hq
  | observed ensure =>
    obtain ⟨⟨s, hs⟩, -⟩ := ensure.creates h absent
    cases hs
  | polled ensure unready poll =>
    obtain ⟨o₁, first, second⟩ := carries_append.1 h
    obtain ⟨-, hput, hwrites⟩ := ensure.creates first absent
    have hstill := Exchange.still second poll.writes
    refine ⟨hstill.trans hput, ?_⟩
    rw [Exchange.writes_append, hwrites, poll.writes]
    rfl

/-- **To provision where neither object is there is to create both.** -/
theorem Provision.Course.creates {plan : Plan τ} {handle : Handle}
    (course : Course plan es (.ok handle)) (h : Carries Serves o es o')
    (service : o plan.service.address = none) (pod : o plan.pod.address = none) :
    o' = (o.put plan.service.address plan.service.manifest).put plan.pod.address
        plan.pod.manifest ∧
      Exchange.writes es = [.create plan.service.address plan.service.manifest,
        .create plan.pod.address plan.pod.manifest] := by
  generalize hq : (Except.ok handle : Acquired τ) = q at course
  cases course with
  | service => cases hq
  | @both es ps r q first second =>
    cases q with
    | error e => cases hq
    | ok q =>
      obtain ⟨o₁, hes, hps⟩ := carries_append.1 h
      obtain ⟨rfl, hservice⟩ := first.creates hes service
      have still : (o.put plan.service.address plan.service.manifest) plan.pod.address = none := by
        rw [Objects.put_of_ne plan.pod_address_ne]
        exact pod
      obtain ⟨hput, hpod⟩ := second.creates hps still
      refine ⟨hput, ?_⟩
      rw [Exchange.writes_append, hservice, hpod]
      rfl

end Courses

/-! ## Tearing down -/

/-- **Tearing down deletes whatever is there**, and reports it. -/
theorem Teardown.Course.deletes {addresses : List Address} {report : Report}
    {r : Except Fault Report} (course : Course addresses report es r)
    (h : Carries Serves o es o') (distinct : addresses.Nodup)
    (there : ∀ a ∈ addresses, o a ≠ none) :
    r = .ok { report with deleted := report.deleted ++ addresses } ∧
      o' = addresses.foldl Objects.drop o ∧ Exchange.writes es = addresses.map .delete := by
  induction course generalizing o with
  | done => exact ⟨by simp, carries_nil.1 h, rfl⟩
  | broken delete =>
    have hdeleted := ((carries_singleton.1 h).deletes_there delete (there _ (by simp))).2
    cases hdeleted
  | @next a rest report e outcome es r delete others ih =>
    obtain ⟨o₁, first, second⟩ := carries_cons.1 h
    obtain ⟨rfl, hdeleted⟩ := first.deletes_there delete (there a (by simp))
    cases hdeleted
    obtain ⟨hnot, hrest⟩ := List.nodup_cons.1 distinct
    have still : ∀ b ∈ rest, o.drop a b ≠ none := by
      intro b hb
      rw [Objects.drop_of_ne (ne_of_mem_of_not_mem hb hnot)]
      exact there b (List.mem_cons_of_mem _ hb)
    obtain ⟨rfl, hdrop, hwrites⟩ := ih second hrest still
    refine ⟨by simp [enter], hdrop, ?_⟩
    simp [Exchange.writes_cons, delete.1, hwrites]

/-! ## Cycles -/

/-- An acquisition and the release after it, and what the server held before and after them. -/
structure Cycle (τ : Type) where
  acquisition : Call τ
  release : Call τ
  before : Objects
  after : Objects

namespace Cycle

/-- What was exchanged in a cycle. -/
def exchanges (k : Cycle τ) : List (Exchange τ) := k.acquisition.exchanges ++ k.release.exchanges

/-- The acquisition gets a database and the release follows, on a server without faults. -/
structure Goes [Clock τ] (plan : Plan τ) (k : Cycle τ) (c c' : Cell τ) : Prop where
  calls : plan.Calls c [k.acquisition, k.release] c'
  acquires : k.acquisition.operation = .acquire
  succeeds : k.acquisition.Succeeds
  releases : ∃ strict, k.release.operation = .release strict
  served : Carries Serves k.before k.exchanges k.after

/-- Both objects are created and deleted again, which is reported, and nothing is left. -/
structure Clean (plan : Plan τ) (k : Cycle τ) : Prop where
  writes : Exchange.writes k.exchanges =
    [.create plan.service.address plan.service.manifest,
      .create plan.pod.address plan.pod.manifest,
      .delete plan.pod.address, .delete plan.service.address]
  reports : k.release.finish =
    .released (.ok { deleted := [plan.pod.address, plan.service.address] })
  restores : k.after = k.before

variable [Clock τ] {plan : Plan τ} {k : Cycle τ} {s : Reference} {c c' : Cell τ}

/-- A cycle on a fixture that is not ready is a run of provisioning and a course of tearing down,
and leaves a fixture that is not ready. -/
theorem Goes.exists_courses (h : k.Goes plan c c') (hd : s.Describes c)
    (unready : ¬ s.phase.IsReady) :
    ∃ handle r strict, Provision.Course plan k.acquisition.exchanges (.ok handle) ∧
      Teardown.Course plan.teardownOrder {} k.release.exchanges r ∧
      k.release.finish = .released (releaseResult strict r) ∧
      ∃ s' : Reference, s'.Describes c' ∧ ¬ s'.phase.IsReady := by
  obtain ⟨⟨op, es, q⟩, ⟨op', fs, q'⟩, before, after⟩ := k
  obtain ⟨calls, rfl, ⟨flight, handle, rfl⟩, ⟨strict, rfl⟩, -⟩ := h
  obtain ⟨s', run, hd'⟩ := hd.exists_run calls
  cases run with
  | cons first rest =>
    cases rest with
    | cons second rest =>
      cases rest
      cases first with
      | reuse => exact absurd trivial unready
      | provide _ trace =>
        cases second with
        | decline unready => exact absurd trivial unready
        | tearDown course answers =>
          rw [Reference.answers_iff.1 answers]
          exact ⟨handle, _, strict, Provision.course_of_trace trace, course, rfl, _, hd', id⟩

/-- **A cycle that begins without the two objects creates them in order, deletes them in reverse
order, and leaves what there was.** -/
theorem Goes.clean (h : k.Goes plan c c') (hd : s.Describes c) (unready : ¬ s.phase.IsReady)
    (service : k.before plan.service.address = none) (pod : k.before plan.pod.address = none) :
    k.Clean plan := by
  obtain ⟨handle, r, strict, provision, tearDown, hfinish, -⟩ := h.exists_courses hd unready
  obtain ⟨o, acquiring, releasing⟩ := carries_append.1 h.served
  obtain ⟨rfl, hcreates⟩ := provision.creates acquiring service pod
  have distinct : plan.teardownOrder.Nodup := by simp [Plan.teardownOrder, plan.pod_address_ne]
  have there : ∀ a ∈ plan.teardownOrder, ((k.before.put plan.service.address
      plan.service.manifest).put plan.pod.address plan.pod.manifest) a ≠ none := by
    simp [Plan.teardownOrder, plan.pod_address_ne.symm]
  have missing : (k.before.put plan.service.address plan.service.manifest)
      plan.pod.address = none := by
    rw [Objects.put_of_ne plan.pod_address_ne]
    exact pod
  obtain ⟨rfl, hafter, hdeletes⟩ := tearDown.deletes releasing distinct there
  refine ⟨?_, ?_, ?_⟩
  · rw [exchanges, Exchange.writes_append, hcreates, hdeletes]
    rfl
  · rw [hfinish]
    cases strict <;> rfl
  · rw [hafter, Plan.teardownOrder, List.foldl_cons, List.foldl_cons, List.foldl_nil,
      Objects.drop_put missing, Objects.drop_put service]

end Cycle

/-- Cycles of a fixture, one after another and on the same server. -/
inductive Plan.Cycles [Clock τ] (plan : Plan τ) :
    Cell τ → Objects → List (Cycle τ) → Cell τ → Objects → Prop
  | nil (c : Cell τ) (o : Objects) : plan.Cycles c o [] c o
  | cons {k : Cycle τ} {ks : List (Cycle τ)} {c c₁ c₂ : Cell τ} {o : Objects}
      (first : k.Goes plan c c₁) (rest : plan.Cycles c₁ k.after ks c₂ o) :
      plan.Cycles c k.before (k :: ks) c₂ o

/-- **Any number of cycles leave what there was**, each of them. -/
theorem Plan.Cycles.clean [Clock τ] {plan : Plan τ} {c c' : Cell τ} {ks : List (Cycle τ)}
    (h : plan.Cycles c o ks c' o') {s : Reference} (hd : s.Describes c)
    (unready : ¬ s.phase.IsReady) (service : o plan.service.address = none)
    (pod : o plan.pod.address = none) :
    o' = o ∧ ∀ k ∈ ks, k.before = o ∧ k.Clean plan := by
  induction h generalizing s with
  | nil => simp
  | @cons k ks c c₁ c₂ o' first rest ih =>
    have clean := first.clean hd unready service pod
    obtain ⟨-, -, -, -, -, -, s₁, hd₁, unready₁⟩ := first.exists_courses hd unready
    rw [clean.restores] at ih
    obtain ⟨rfl, hrest⟩ := ih hd₁ unready₁ service pod
    exact ⟨rfl, List.forall_mem_cons.2 ⟨⟨rfl, clean⟩, hrest⟩⟩

/-- **A fixture keeps to its two objects, and leaves nothing behind.**

* In every execution, with any number of threads and whatever the cluster answers, every call that
  is about an object is about the Service or the Pod that the settings name, and a document that is
  sent along names the same object.  So on a cluster on which a call does nothing to other objects
  than the one it is about, all others stay untouched.
* On a server without faults that holds neither of the two objects, take any number of cycles of an
  acquisition that gets a database and the release after it.  Each creates the Service and then the
  Pod, deletes the Pod and then the Service, changes nothing else, reports both as deleted, and
  leaves exactly the objects that there were in the beginning. -/
theorem Plan.leaves_no_trace [Clock τ] (c : ClusterSettings) (d : DatabaseSettings)
    (poll : PollSettings τ) :
    (∀ xs crew, History.Run (Plan.ofSettings c d poll) xs crew →
      (∀ e ∈ xs.filterMap Stride.exchange, ∀ a, e.request.address? = some a →
        (a = ⟨.service, c.space, d.serviceName⟩ ∨ a = ⟨.pod, c.space, d.podName⟩) ∧
          ∀ body, e.request = .create a body → body.address? = some a) ∧
      ∀ (σ β : Type) (conduct : σ → Exchange τ → σ → Prop) (content : σ → Address → β),
        Confined conduct content → ∀ w w',
        Carries conduct w (xs.filterMap Stride.exchange) w' → ∀ a,
        a ≠ ⟨.service, c.space, d.serviceName⟩ → a ≠ ⟨.pod, c.space, d.podName⟩ →
        content w' a = content w a) ∧
    ∀ ks cell o o', (Plan.ofSettings c d poll).Cycles {} o ks cell o' →
      o ⟨.service, c.space, d.serviceName⟩ = none → o ⟨.pod, c.space, d.podName⟩ = none →
      o' = o ∧ ∀ k ∈ ks, k.before = o ∧ k.Clean (Plan.ofSettings c d poll) := by
  have named : ∀ a ∈ (Plan.ofSettings c d poll).teardownOrder,
      a = ⟨.service, c.space, d.serviceName⟩ ∨ a = ⟨.pod, c.space, d.podName⟩ := by
    intro a ha
    rcases List.mem_cons.1 ha with rfl | ha
    · exact Or.inr rfl
    · exact Or.inl (List.mem_singleton.1 ha)
  refine ⟨fun xs crew run => ⟨fun e he a ha => ?_, ?_⟩, ?_⟩
  · obtain ⟨hmem, hbody⟩ := run.addresses he a ha
    exact ⟨named a hmem, hbody⟩
  · intro σ β conduct content confined w w' carries a hservice hpod
    refine confined.untouched carries fun e he ha => ?_
    rcases named a (run.addresses he a ha).1 with rfl | rfl
    · exact hservice rfl
    · exact hpod rfl
  · intro ks cell o o' cycles service pod
    exact cycles.clean .fresh id service pod

/-! ### Two cycles -/

namespace Leftover

open Delivery (plan)
open Objects (bare)

/-- Both objects are deleted. -/
def deletions (plan : Plan Tick) : List (Exchange Tick) :=
  [⟨.delete plan.pod.address, shows {}⟩, ⟨.delete plan.service.address, shows {}⟩]

/-- A cycle of the fixture whose flights so far are these. -/
def cycle (flights : ℕ) : Cycle Tick where
  acquisition := ⟨.acquire, service plan ++ pod plan, .acquired flights (.ok Delivery.handle)⟩
  release := ⟨.release false, deletions plan,
    .released (.ok { deleted := [plan.pod.address, plan.service.address] })⟩
  before := bare
  after := bare

/-- What the server holds between acquisition and release. -/
def held : Objects :=
  (bare.put plan.service.address plan.service.manifest).put plan.pod.address plan.pod.manifest

theorem cycle_served (flights : ℕ) : Carries Serves bare (cycle flights).exchanges bare := by
  have missing : (bare.put plan.service.address plan.service.manifest) plan.pod.address = none :=
    Objects.put_of_ne plan.pod_address_ne
  have kept : held.drop plan.pod.address plan.service.address ≠ none := by
    rw [Objects.drop_of_ne plan.pod_address_ne.symm, held,
      Objects.put_of_ne plan.pod_address_ne.symm, Objects.put_self]
    simp
  have restored : (held.drop plan.pod.address).drop plan.service.address = bare := by
    rw [held, Objects.drop_put missing, Objects.drop_put rfl]
  have first : Carries Serves bare (service plan)
      (bare.put plan.service.address plan.service.manifest) :=
    ⟨_, rfl, .cons (.missing rfl) (.cons (.made rfl) (.cons (.found (by simp)) (.nil _)))⟩
  have second : Carries Serves (bare.put plan.service.address plan.service.manifest) (pod plan)
      held :=
    ⟨_, rfl, .cons (.missing missing) (.cons (.made missing)
      (.cons (.found (by simp)) (.nil _)))⟩
  have third : Carries Serves held (deletions plan)
      ((held.drop plan.pod.address).drop plan.service.address) :=
    ⟨_, rfl, .cons (.deleted (by simp [held])) (.cons (.deleted kept) (.nil _))⟩
  rw [restored] at third
  exact carries_append.2 ⟨_, carries_append.2 ⟨_, first, second⟩, third⟩

/-- A fixture that is not ready can go through a cycle, and is not ready afterwards. -/
theorem exists_cycle {s : Reference} {c : Cell Tick} (hd : s.Describes c)
    (unready : ¬ s.phase.IsReady) : ∃ c' s', (cycle s.flights).Goes plan c c' ∧
      Reference.Describes s' c' ∧ ¬ s'.phase.IsReady ∧ s'.flights = s.flights + 1 := by
  obtain ⟨phase, n⟩ := s
  have trace : (Provision.machine plan).Trace Provision.start (service plan ++ pod plan)
      (.done (.ok Delivery.handle)) :=
    .cons rfl (.cons rfl (.cons rfl (.cons rfl (.cons rfl (.cons rfl (.nil _))))))
  have tearDown : Teardown.Course plan.teardownOrder {} (deletions plan)
      (.ok { deleted := [plan.pod.address, plan.service.address] }) :=
    .next ⟨rfl, rfl⟩ (.next ⟨rfl, rfl⟩ .done)
  have run : Reference.Run plan ⟨phase, n⟩ [(cycle n).acquisition, (cycle n).release]
      ⟨.tornDown, n + 1⟩ :=
    .cons (.provide unready trace) (.cons (.tearDown tearDown (.report (Or.inl rfl))) (.nil _))
  obtain ⟨c', calls, hd'⟩ := hd.exists_calls run
  exact ⟨c', _, ⟨calls, rfl, ⟨n, _, rfl⟩, ⟨false, rfl⟩, cycle_served n⟩, hd', id, rfl⟩

/-- A fixture goes through two cycles, and neither leaves anything. -/
theorem two_cycles : ∃ cell, plan.Cycles {} bare [cycle 0, cycle 1] cell bare ∧
    ∀ k ∈ [cycle 0, cycle 1], k.before = bare ∧ k.Clean plan := by
  obtain ⟨c₁, s₁, first, hd₁, unready₁, hflights⟩ := exists_cycle .fresh id
  obtain ⟨c₂, s₂, second, -⟩ := exists_cycle hd₁ unready₁
  rw [hflights] at second
  have cycles : plan.Cycles {} bare [cycle 0, cycle 1] c₂ bare :=
    .cons first (.cons second (.nil c₂ bare))
  exact ⟨c₂, cycles, ((Plan.leaves_no_trace {} {} plan.poll).2 _ _ _ _ cycles rfl rfl).2⟩

end Leftover

end EphemeralDatabase
