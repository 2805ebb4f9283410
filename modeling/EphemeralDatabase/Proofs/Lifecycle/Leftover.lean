import EphemeralDatabase.Fixture.Session
import EphemeralDatabase.Proofs.Lifecycle.Reference

/-!
# What a test run leaves behind

At the end of a test run the fixture is released once, and a release tears down only what is ready.
So an object that an acquisition has created and that was not deleted since is deleted at the end
of the run if that acquisition or a later one got a database, and is left behind otherwise
(`Fixture.deleted_at_end_iff`).

An acquisition that creates the Service and is refused the Pod, with nothing after it, is a run that
leaves the Service behind (`Leftover.service_remains`).
-/

namespace EphemeralDatabase

open Fixture (Call)

variable {τ : Type}

namespace Exchange

/-- An object was created. -/
def Made (e : Exchange τ) (a : Address) : Prop :=
  (∃ body, e.request = .create a body) ∧ ∃ view, e.reply.answer = .ok view

/-- An attempt to delete an object has raised what is not caught. -/
def Breaks (e : Exchange τ) : Prop := ∃ a fault, e.Deletes a (.error fault)

end Exchange

/-- Provisioning creates no other objects than those that are deleted later. -/
theorem Provision.mem_teardownOrder_of_ask {plan : Plan τ} {s : Stage τ} {a : Address}
    {body : Manifest} (h : ask plan s = some (.create a body)) : a ∈ plan.teardownOrder := by
  rcases eq_of_ask_create h with ⟨rfl, -⟩ | ⟨rfl, -⟩ <;> simp [Plan.teardownOrder]

namespace Teardown.Course

variable {addresses : List Address} {report : Report} {es : List (Exchange τ)}
  {r : Except Fault Report}

/-- Tearing down creates nothing. -/
theorem exists_delete (h : Course addresses report es r) {e : Exchange τ} (he : e ∈ es) :
    ∃ a, e.request = .delete a := by
  induction h with
  | done => cases he
  | @broken a rest report d fault delete =>
    obtain rfl := List.mem_singleton.1 he
    exact ⟨a, delete.1⟩
  | @next a rest report d outcome es r delete others ih =>
    rcases List.mem_cons.1 he with rfl | he
    · exact ⟨a, delete.1⟩
    · exact ih he

/-- Unless an attempt breaks, every object is attempted. -/
theorem attempted (h : Course addresses report es r) (calm : ∀ e ∈ es, ¬ e.Breaks) {a : Address}
    (ha : a ∈ addresses) : ∃ e ∈ es, e.request = .delete a := by
  rcases h.requests with ⟨-, hes⟩ | ⟨done, b, rest, before, e, fault, -, rfl, -, hd, -⟩
  · have hmem : Request.delete a ∈ es.map Exchange.request := hes ▸ List.mem_map_of_mem ha
    exact List.mem_map.1 hmem
  · exact absurd ⟨b, fault, hd⟩ (calm e (by simp))

end Teardown.Course

/-! ## The reference machine -/

namespace Reference

variable [Clock τ] {plan : Plan τ} {s s' : Reference} {call : Call τ} {a : Address}

/-- What creates an object is an acquisition on a fixture that is not ready. -/
theorem Step.of_made (h : Step plan s call s') (made : ∃ e ∈ call.exchanges, e.Made a) :
    ¬ s.phase.IsReady ∧ a ∈ plan.teardownOrder ∧
      ∀ e ∈ call.exchanges, ∀ b, e.request ≠ .delete b := by
  obtain ⟨e, he, ⟨body, hbody⟩, -⟩ := made
  cases h with
  | reuse | decline => cases he
  | provide unready trace | fail unready trace =>
    obtain ⟨u, hu⟩ := trace.exists_ask he
    refine ⟨unready, Provision.mem_teardownOrder_of_ask (hu.trans (congrArg some hbody)), ?_⟩
    intro d hd b hb
    obtain ⟨v, hv⟩ := trace.exists_ask hd
    exact Provision.ask_ne_delete v b (hv.trans (congrArg some hb))
  | tearDown course =>
    obtain ⟨b, hb⟩ := course.exists_delete he
    exact absurd (hbody.symm.trans hb) (by simp)

/-- While one of its objects is not deleted, there is a database if and only if there was one or the
call got one. -/
theorem Step.isReady_iff (h : Step plan s call s') (ha : a ∈ plan.teardownOrder)
    (calm : ∀ e ∈ call.exchanges, ¬ e.Breaks)
    (kept : ∀ e ∈ call.exchanges, e.request ≠ .delete a) :
    s'.phase.IsReady ↔ s.phase.IsReady ∨ call.Succeeds := by
  cases h with
  | reuse => simp [Phase.IsReady]
  | provide => simp [Phase.IsReady, Call.Succeeds]
  | fail unready => simpa [Phase.IsReady, Call.Succeeds] using unready
  | decline unready => simp [Call.Succeeds]
  | tearDown course =>
    obtain ⟨e, he, hrequest⟩ := course.attempted calm ha
    exact absurd hrequest (kept e he)

theorem Run.isReady_iff {calls : List (Call τ)} (h : Run plan s calls s')
    (ha : a ∈ plan.teardownOrder) (calm : ∀ k ∈ calls, ∀ e ∈ k.exchanges, ¬ e.Breaks)
    (kept : ∀ k ∈ calls, ∀ e ∈ k.exchanges, e.request ≠ .delete a) :
    s'.phase.IsReady ↔ s.phase.IsReady ∨ ∃ k ∈ calls, k.Succeeds := by
  induction h with
  | nil s => simp
  | @cons s s₁ s₂ call calls first rest ih =>
    rw [List.forall_mem_cons] at calm kept
    rw [ih calm.2 kept.2, first.isReady_iff ha calm.1 kept.1]
    simp [or_assoc]

theorem Run.exists_of_append {before calls : List (Call τ)} (h : Run plan s (before ++ calls) s') :
    ∃ s₁, Run plan s before s₁ ∧ Run plan s₁ calls s' := by
  induction before generalizing s with
  | nil => exact ⟨s, .nil s, h⟩
  | cons call before ih =>
    cases h with
    | cons first rest =>
      obtain ⟨s₁, run, hcalls⟩ := ih rest
      exact ⟨s₁, .cons first run, hcalls⟩

end Reference

/-! ## The end of a test run -/

namespace Fixture

variable [Clock τ] {ω : Type} {f : Fixture τ} {world : World τ ω} {w : ω}

/-- The end of a test run is a release that is not strict. -/
theorem finish_solo (h : (f.finish world w).result.2 = some (.ok ())) :
    ∃ report, f.plan.Solo 0 f.cell (.release false) (f.finish world w).journal.exchanges
      (f.finish world w).result.1.cell (.released (.ok report)) := by
  match hr : (f.release world false w).result.2 with
  | some (.ok report) =>
    have hjournal : (f.finish world w).journal.exchanges =
        (f.release world false w).journal.exchanges := by
      simp [finish, bind, pure, Act.report, Act.note, hr, Journal.exchanges]
    have hcell : (f.finish world w).result.1 = (f.release world false w).result.1 := by
      simp [finish, bind, pure, Act.report, Act.note, hr]
    rw [hjournal, hcell]
    exact ⟨report, release_solo hr⟩
  | some (.error e) => simp [finish, bind, pure, Act.report, Act.note, hr] at h
  | none => simp [finish, bind, pure, Act.report, Act.note, hr] at h

/-- **What a fixture has created and not deleted since is deleted at the end of a test run if and
only if the acquisition that created it, or a later one, got a database**, where no attempt to
delete raises what is not caught. -/
theorem deleted_at_end_iff {before after : List (Call τ)} {call : Call τ} {a : Address}
    (run : f.plan.Calls {} (before ++ call :: after) f.cell)
    (made : ∃ e ∈ call.exchanges, e.Made a)
    (kept : ∀ k ∈ after, ∀ e ∈ k.exchanges, e.request ≠ .delete a)
    (calm : ∀ k ∈ after, ∀ e ∈ k.exchanges, ¬ e.Breaks)
    (returns : (f.finish world w).result.2 = some (.ok ())) :
    (∃ e ∈ (f.finish world w).journal.exchanges, e.request = .delete a) ↔
      ∃ k ∈ call :: after, k.Succeeds := by
  obtain ⟨s, hrun, hd⟩ := Reference.Describes.fresh.exists_run run
  obtain ⟨s₁, -, hrest⟩ := hrun.exists_of_append
  obtain ⟨unready, ha, own⟩ : ¬ s₁.phase.IsReady ∧ a ∈ f.plan.teardownOrder ∧
      ∀ e ∈ call.exchanges, ∀ b, e.request ≠ .delete b := by
    cases hrest with
    | cons first _ => exact first.of_made made
  have hready : s.phase.IsReady ↔ ∃ k ∈ call :: after, k.Succeeds := by
    rw [hrest.isReady_iff ha
      (List.forall_mem_cons.2 ⟨fun e he ⟨b, fault, hb⟩ => own e he b hb.1, calm⟩)
      (List.forall_mem_cons.2 ⟨fun e he => own e he a, kept⟩)]
    exact or_iff_right unready
  rw [← hready]
  obtain ⟨report, solo⟩ := finish_solo returns
  constructor
  · rintro ⟨e, he, -⟩
    by_contra hno
    obtain ⟨hes, -⟩ :=
      (Plan.solo_release_of_unready hd.lock hd.inflight (mt hd.ready_iff.1 hno)).1 solo
    rw [hes] at he
    cases he
  · intro hyes
    rcases hd.teardown (hd.ready_iff.2 hyes) solo with ⟨-, -, hes | ⟨e, fault, -, -, -, -, hraised⟩⟩
    · refine List.mem_map.1 (?_ : Request.delete a ∈ _)
      rw [hes]
      simpa [Plan.teardownOrder] using ha
    · cases hraised

end Fixture

/-! ### Two test runs -/

/-- A first acquisition, made by the first thread. -/
theorem Plan.calls_of_trace [Clock τ] {plan : Plan τ} {es : List (Exchange τ)} {o : Acquired τ}
    (h : (Provision.machine plan).Trace Provision.start es (.done o)) :
    plan.Calls {} [⟨.acquire, es, .acquired 0 o⟩] (({} : Cell τ).landed o) := by
  have solo : plan.Solo 0 {} .acquire es (({} : Cell τ).landed o) (.acquired 0 o) :=
    Plan.solo_acquire_of_trace h
  exact .cons solo (.nil _)

namespace Leftover

open Delivery (plan)

/-- Says that an object is not there. -/
def missing : Reply Tick := ⟨.error (.api (some 404) none), ⟨0⟩⟩

/-- Says that an object must not be created. -/
def forbidden : Reply Tick := ⟨.error (.api (some 403) none), ⟨0⟩⟩

/-- Shows an object. -/
def shows (view : View) : Reply Tick := ⟨.ok view, ⟨0⟩⟩

/-- The Service is created, and ready. -/
def service (plan : Plan Tick) : List (Exchange Tick) :=
  [⟨.read plan.service.address, missing⟩,
    ⟨.create plan.service.address plan.service.manifest, shows {}⟩,
    ⟨.read plan.service.address, shows Delivery.service⟩]

/-- The Pod is created, and ready. -/
def pod (plan : Plan Tick) : List (Exchange Tick) :=
  [⟨.read plan.pod.address, missing⟩, ⟨.create plan.pod.address plan.pod.manifest, shows {}⟩,
    ⟨.read plan.pod.address, shows Delivery.pod⟩]

/-- The Pod is refused. -/
def refused (plan : Plan Tick) : List (Exchange Tick) :=
  [⟨.read plan.pod.address, missing⟩, ⟨.create plan.pod.address plan.pod.manifest, forbidden⟩]

/-- Why there is no database then. -/
def refusal : AcquireError Tick :=
  .provisioning plan.pod ⟨plan.pod.address, .create, some 403, refusalReason none⟩

/-- A test run in which the Pod was refused, before it ends. -/
def stranded : Fixture Tick := ⟨plan, ({} : Cell Tick).landed (.error refusal)⟩

/-- A test run in which both objects were created, before it ends. -/
def delivered : Fixture Tick := ⟨plan, ({} : Cell Tick).landed (.ok Delivery.handle)⟩

/-- A cluster that does as it is told. -/
def obliging : World Tick Unit := ⟨fun _ w => (.ok {}, w), fun _ => ⟨0⟩⟩

theorem made : ∃ e ∈ service plan, e.Made plan.service.address :=
  ⟨_, List.mem_cons_of_mem _ (List.mem_cons_self ..), ⟨_, rfl⟩, ⟨_, rfl⟩⟩

theorem stranded_calls :
    plan.Calls {} [⟨.acquire, service plan ++ refused plan, .acquired 0 (.error refusal)⟩]
      stranded.cell :=
  Plan.calls_of_trace (.cons rfl (.cons rfl (.cons rfl (.cons rfl (.cons rfl (.nil _))))))

theorem delivered_calls :
    plan.Calls {} [⟨.acquire, service plan ++ pod plan, .acquired 0 (.ok Delivery.handle)⟩]
      delivered.cell :=
  Plan.calls_of_trace (.cons rfl (.cons rfl (.cons rfl (.cons rfl (.cons rfl (.cons rfl
    (.nil _)))))))

/-- The Service that was created before the Pod was refused is left behind. -/
theorem service_remains :
    plan.Calls {} [⟨.acquire, service plan ++ refused plan, .acquired 0 (.error refusal)⟩]
        stranded.cell ∧
      (∃ e ∈ service plan ++ refused plan, e.Made plan.service.address) ∧
      (stranded.finish obliging ()).result.2 = some (.ok ()) ∧
      ¬ ∃ e ∈ (stranded.finish obliging ()).journal.exchanges,
        e.request = .delete plan.service.address := by
  refine ⟨stranded_calls, ?_, rfl, ?_⟩
  · obtain ⟨e, he, hmade⟩ := made
    exact ⟨e, List.mem_append_left _ he, hmade⟩
  · have quiet : (stranded.finish obliging ()).journal.exchanges = [] := rfl
    simp [quiet]

/-- The Service that was created before the Pod was created is deleted. -/
theorem service_deleted : ∃ e ∈ (delivered.finish obliging ()).journal.exchanges,
    e.request = .delete plan.service.address := by
  obtain ⟨e, he, hmade⟩ := made
  have nothing_after : ∀ k ∈ ([] : List (Call Tick)), ∀ e ∈ k.exchanges,
      e.request ≠ .delete plan.service.address := by simp
  have nothing_breaks : ∀ k ∈ ([] : List (Call Tick)), ∀ e ∈ k.exchanges, ¬ e.Breaks := by simp
  have run : plan.Calls {}
      ([] ++ [⟨.acquire, service plan ++ pod plan, .acquired 0 (.ok Delivery.handle)⟩])
      delivered.cell := delivered_calls
  exact (Fixture.deleted_at_end_iff (f := delivered) run ⟨e, List.mem_append_left _ he, hmade⟩
    nothing_after nothing_breaks rfl).2 ⟨_, List.mem_singleton_self _, 0, Delivery.handle, rfl⟩

end Leftover

end EphemeralDatabase
