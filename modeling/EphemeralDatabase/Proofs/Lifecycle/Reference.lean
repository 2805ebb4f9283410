import EphemeralDatabase.Fixture.Basic
import EphemeralDatabase.Proofs.Lifecycle.Agreement
import EphemeralDatabase.Proofs.Lifecycle.Solo
import EphemeralDatabase.Proofs.Provision.Ending
import EphemeralDatabase.Proofs.Provision.Lingering

/-!
# Calls one after another

When calls are made one after another, locks, flights and doors do not show.  What is left is a
machine with three phases: there is no database, there is one, or it was torn down.  `Reference` is
that machine, with a rule for each of the five things that a call can be:

* an acquisition that finds the handle, and asks nothing of the cluster;
* an acquisition that provisions and makes a database, or does not;
* a release that finds nothing to tear down, and asks nothing of the cluster either;
* a release that tears down.

`Plan.calls_follow_reference` says that the sequences of calls that a fixture can go through are
those of the machine, no more and no fewer, and that every call returns, except an acquisition that
waits for an object of which no read ever ends after the deadline.

Such a sequence is an execution like any other (`Plan.Calls.exists_run`), so what holds of all
histories holds of it.
-/

namespace EphemeralDatabase

variable {τ : Type}

/-! ## Sequences of calls -/

namespace Fixture

/-- What can be asked of a fixture. -/
inductive Operation where
  | acquire
  | release (strict : Bool)
  deriving DecidableEq, Repr

/-- Where a call begins. -/
def Operation.position : Operation → Position τ
  | acquire => .acquire
  | release strict => .release strict

/-- A call that has come to its end. -/
structure Call (τ : Type) where
  operation : Fixture.Operation
  /-- what was exchanged with the outside, in order -/
  exchanges : List (Exchange τ)
  /-- where the thread stands when it has returned -/
  finish : Position τ

/-- The call got a database. -/
def Call.Succeeds (call : Call τ) : Prop :=
  ∃ flight handle, call.finish = .acquired flight (.ok handle)

end Fixture

open Fixture (Call)

/-- Calls that are made one after another, by whatever threads, lead from one cell to another. -/
inductive Plan.Calls [Clock τ] (plan : Plan τ) : Cell τ → List (Call τ) → Cell τ → Prop
  | nil (c : Cell τ) : plan.Calls c [] c
  | cons {self : ThreadId} {c c₁ c₂ : Cell τ} {call : Call τ} {calls : List (Call τ)}
      (first : plan.Solo self c call.operation.position call.exchanges c₁ call.finish)
      (rest : plan.Calls c₁ calls c₂) : plan.Calls c (call :: calls) c₂

/-! ## The reference machine -/

/-- Whether there is a database. -/
inductive Phase where
  | absent
  /-- there is one, which this flight made, with this handle -/
  | ready (flight : Flight) (handle : Handle)
  | tornDown
  deriving DecidableEq, Repr

namespace Phase

/-- The status of a fixture in a phase. -/
def status : Phase → Status
  | absent => .absent
  | ready .. => .ready
  | tornDown => .tornDown

/-- The handle of a fixture in a phase. -/
def handle? : Phase → Option (Flight × Handle)
  | ready flight handle => some (flight, handle)
  | _ => none

/-- There is a database. -/
def IsReady : Phase → Prop
  | ready .. => True
  | _ => False

theorem status_eq_ready_iff {phase : Phase} : phase.status = .ready ↔ phase.IsReady := by
  cases phase <;> simp [status, IsReady]

theorem IsReady.exists_eq {phase : Phase} (h : phase.IsReady) :
    ∃ flight handle, phase = .ready flight handle := by
  cases phase with
  | ready flight handle => exact ⟨flight, handle, rfl⟩
  | absent | tornDown => exact h.elim

theorem eq_of_handle? {phase : Phase} {flight : Flight} {handle : Handle}
    (h : phase.handle? = some (flight, handle)) : phase = .ready flight handle := by
  cases phase <;> simp_all [handle?]

theorem handle?_eq_none {phase : Phase} (h : ¬ phase.IsReady) : phase.handle? = none := by
  cases phase <;> simp_all [handle?, IsReady]

end Phase

/-- A state of the reference machine: the phase, and how many flights there were so far. -/
structure Reference where
  phase : Phase := .absent
  flights : ℕ := 0
  deriving DecidableEq, Repr

namespace Reference

/-- What a release answers, by its course: the report, unless it is strict and something failed. -/
inductive Answers (strict : Bool) : Except Fault Report → Released → Prop
  | report {report : Report} (fine : strict = false ∨ report.failures = []) :
      Answers strict (.ok report) (.ok report)
  | incomplete {report : Report} (hstrict : strict = true) (failed : report.failures ≠ []) :
      Answers strict (.ok report) (.error (.incomplete report))
  | raised {fault : Fault} : Answers strict (.error fault) (.error (.raised fault))

theorem answers_iff {strict : Bool} {r : Except Fault Report} {q : Released} :
    Answers strict r q ↔ q = releaseResult strict r := by
  constructor
  · rintro (fine | ⟨hstrict, failed⟩ | _)
    · rcases fine with rfl | hno <;> simp_all [releaseResult, Report.ok]
    · simp_all [releaseResult, Report.ok]
    · rfl
  · rintro rfl
    rcases r with fault | report
    · exact .raised
    · by_cases hfine : strict = false ∨ report.failures = []
      · have hr : releaseResult strict (.ok report) = .ok report := by
          rcases hfine with rfl | hno <;> simp_all [releaseResult, Report.ok]
        exact hr ▸ .report hfine
      · obtain ⟨hstrict, failed⟩ := not_or.1 hfine
        have hr : releaseResult strict (.ok report) = .error (.incomplete report) := by
          simp_all [releaseResult, Report.ok]
        exact hr ▸ .incomplete (by simpa using hstrict) failed

/-- What a strict release answers where another one answers this. -/
def strictly : Released → Released
  | .ok report => if report.failures = [] then .ok report else .error (.incomplete report)
  | .error e => .error e

theorem strictly_releaseResult (r : Except Fault Report) :
    strictly (releaseResult false r) = releaseResult true r := by
  cases r with
  | error fault => rfl
  | ok report => cases hf : report.failures <;> simp [strictly, releaseResult, Report.ok, hf]

/-- One call of the reference machine. -/
inductive Step [Clock τ] (plan : Plan τ) : Reference → Call τ → Reference → Prop
  /-- finds the handle -/
  | reuse {flight : Flight} {handle : Handle} {n : ℕ} :
      Step plan ⟨.ready flight handle, n⟩ ⟨.acquire, [], .acquired flight (.ok handle)⟩
        ⟨.ready flight handle, n⟩
  /-- provisions, and makes a database -/
  | provide {phase : Phase} {n : ℕ} {es : List (Exchange τ)} {handle : Handle}
      (unready : ¬ phase.IsReady)
      (trace : (Provision.machine plan).Trace Provision.start es (.done (.ok handle))) :
      Step plan ⟨phase, n⟩ ⟨.acquire, es, .acquired n (.ok handle)⟩ ⟨.ready n handle, n + 1⟩
  /-- provisions, and makes none -/
  | fail {phase : Phase} {n : ℕ} {es : List (Exchange τ)} {e : AcquireError τ}
      (unready : ¬ phase.IsReady)
      (trace : (Provision.machine plan).Trace Provision.start es (.done (.error e))) :
      Step plan ⟨phase, n⟩ ⟨.acquire, es, .acquired n (.error e)⟩ ⟨.absent, n + 1⟩
  /-- finds nothing to tear down -/
  | decline {phase : Phase} {n : ℕ} {strict : Bool} (unready : ¬ phase.IsReady) :
      Step plan ⟨phase, n⟩ ⟨.release strict, [], .released (.ok {})⟩ ⟨phase, n⟩
  /-- tears down -/
  | tearDown {flight : Flight} {handle : Handle} {n : ℕ} {strict : Bool}
      {es : List (Exchange τ)} {r : Except Fault Report} {q : Released}
      (course : Teardown.Course plan.teardownOrder {} es r) (answers : Answers strict r q) :
      Step plan ⟨.ready flight handle, n⟩ ⟨.release strict, es, .released q⟩ ⟨.tornDown, n⟩

/-- Calls of the reference machine, one after another. -/
inductive Run [Clock τ] (plan : Plan τ) : Reference → List (Call τ) → Reference → Prop
  | nil (s : Reference) : Run plan s [] s
  | cons {s s₁ s₂ : Reference} {call : Call τ} {calls : List (Call τ)}
      (first : Step plan s call s₁) (rest : Run plan s₁ calls s₂) : Run plan s (call :: calls) s₂

/-- What a cell is between two calls, in a state of the reference machine. -/
structure Describes (s : Reference) (c : Cell τ) : Prop where
  lock : c.lock = none
  inflight : c.inflight = none
  status : c.status = s.phase.status
  handle : c.handle = s.phase.handle?
  flights : c.flights.length = s.flights

theorem Describes.fresh : ({} : Reference).Describes ({} : Cell τ) := ⟨rfl, rfl, rfl, rfl, rfl⟩

/-- Between two calls nobody provisions, nothing is in flight, and there is a handle exactly while
the fixture is ready. -/
theorem Describes.settled {s : Reference} {c : Cell τ} (h : s.Describes c) :
    c.status ≠ .provisioning ∧ c.inflight = none ∧ (c.handle.isSome ↔ c.status = .ready) := by
  rw [h.status, h.handle]
  cases s.phase <;> simp [h.inflight, Phase.status, Phase.handle?]

theorem Describes.ready_iff {s : Reference} {c : Cell τ} (h : s.Describes c) :
    c.status = .ready ↔ s.phase.IsReady := by
  rw [h.status, Phase.status_eq_ready_iff]

theorem Describes.exists_handle {s : Reference} {c : Cell τ} (h : s.Describes c)
    (ready : c.status = .ready) : ∃ flight handle, c.handle = some (flight, handle) := by
  obtain ⟨flight, handle, hphase⟩ := (h.ready_iff.1 ready).exists_eq
  exact ⟨flight, handle, by rw [h.handle, hphase]; rfl⟩

theorem Describes.landed_ok {s : Reference} {c : Cell τ} (h : s.Describes c) (handle : Handle) :
    Describes ⟨.ready s.flights handle, s.flights + 1⟩ (c.landed (.ok handle)) := by
  constructor <;> simp [Cell.landed, Cell.claimed, Cell.published, Cell.completed, h.lock,
    h.flights, Phase.status, Phase.handle?]

theorem Describes.landed_error {s : Reference} {c : Cell τ} (h : s.Describes c)
    (unready : ¬ s.phase.IsReady) (e : AcquireError τ) :
    Describes ⟨.absent, s.flights + 1⟩ (c.landed (.error e)) := by
  have hno := h.handle.trans (Phase.handle?_eq_none unready)
  constructor <;> simp [Cell.landed, Cell.claimed, Cell.published, Cell.completed, h.lock,
    h.flights, Phase.status, Phase.handle?, hno]

variable [Clock τ] {plan : Plan τ} {s s' : Reference} {c c' : Cell τ} {self : ThreadId}

/-! ## The fixture follows the machine -/

/-- **A call is a call of the reference machine.** -/
theorem Describes.exists_step (hd : s.Describes c) {op : Fixture.Operation} {es : List (Exchange τ)}
    {q : Position τ} (h : plan.Solo self c op.position es c' q) :
    ∃ s', Step plan s ⟨op, es, q⟩ s' ∧ s'.Describes c' := by
  obtain ⟨phase, n⟩ := s
  by_cases hready : phase.IsReady
  · obtain ⟨flight, handle, rfl⟩ := hready.exists_eq
    cases op with
    | acquire =>
      obtain ⟨rfl, rfl, rfl⟩ := (Plan.solo_acquire_of_ready hd.lock hd.status hd.handle).1 h
      exact ⟨_, .reuse, hd⟩
    | release strict =>
      obtain ⟨r, course, rfl, rfl⟩ :=
        (Plan.solo_release_of_ready hd.lock hd.inflight hd.status).1 h
      exact ⟨_, .tearDown course (answers_iff.2 rfl),
        ⟨hd.lock, hd.inflight, rfl, rfl, hd.flights⟩⟩
  · have hstatus : c.status ≠ .ready := mt hd.ready_iff.1 hready
    cases op with
    | acquire =>
      obtain ⟨o, trace, rfl, rfl⟩ :=
        (Plan.solo_acquire_of_unready hd.lock hstatus hd.inflight).1 h
      rw [hd.flights]
      cases o with
      | ok handle => exact ⟨_, .provide hready trace, hd.landed_ok handle⟩
      | error e => exact ⟨_, .fail hready trace, hd.landed_error hready e⟩
    | release strict =>
      obtain ⟨rfl, rfl, rfl⟩ := (Plan.solo_release_of_unready hd.lock hd.inflight hstatus).1 h
      exact ⟨_, .decline hready, hd⟩

/-- **Every call of the reference machine can be made.** -/
theorem Describes.exists_solo (hd : s.Describes c) {call : Call τ} (h : Step plan s call s')
    (self : ThreadId) :
    ∃ c', plan.Solo self c call.operation.position call.exchanges c' call.finish ∧
      s'.Describes c' := by
  cases h with
  | reuse =>
    exact ⟨c, (Plan.solo_acquire_of_ready hd.lock hd.status hd.handle).2 ⟨rfl, rfl, rfl⟩, hd⟩
  | provide unready trace =>
    have hstatus : c.status ≠ .ready := mt hd.ready_iff.1 unready
    exact ⟨_, (Plan.solo_acquire_of_unready hd.lock hstatus hd.inflight).2
      ⟨_, trace, rfl, by rw [hd.flights]⟩, hd.landed_ok _⟩
  | fail unready trace =>
    have hstatus : c.status ≠ .ready := mt hd.ready_iff.1 unready
    exact ⟨_, (Plan.solo_acquire_of_unready hd.lock hstatus hd.inflight).2
      ⟨_, trace, rfl, by rw [hd.flights]⟩, hd.landed_error unready _⟩
  | decline unready =>
    have hstatus : c.status ≠ .ready := mt hd.ready_iff.1 unready
    exact ⟨c, (Plan.solo_release_of_unready hd.lock hd.inflight hstatus).2 ⟨rfl, rfl, rfl⟩, hd⟩
  | tearDown course answers =>
    exact ⟨_, (Plan.solo_release_of_ready hd.lock hd.inflight hd.status).2
      ⟨_, course, rfl, by rw [answers_iff.1 answers]⟩,
      ⟨hd.lock, hd.inflight, rfl, rfl, hd.flights⟩⟩

theorem Describes.exists_run (hd : s.Describes c) {calls : List (Call τ)}
    (h : plan.Calls c calls c') : ∃ s', Run plan s calls s' ∧ s'.Describes c' := by
  induction h generalizing s with
  | nil c => exact ⟨s, .nil s, hd⟩
  | cons first rest ih =>
    obtain ⟨s₁, step, hd₁⟩ := hd.exists_step first
    obtain ⟨s₂, run, hd₂⟩ := ih hd₁
    exact ⟨s₂, .cons step run, hd₂⟩

theorem Describes.exists_calls (hd : s.Describes c) {calls : List (Call τ)}
    (h : Run plan s calls s') : ∃ c', plan.Calls c calls c' ∧ s'.Describes c' := by
  induction h generalizing c with
  | nil s => exact ⟨c, .nil c, hd⟩
  | cons first rest ih =>
    obtain ⟨c₁, solo, hd₁⟩ := hd.exists_solo first 0
    obtain ⟨c₂, calls, hd₂⟩ := ih hd₁
    exact ⟨c₂, .cons solo calls, hd₂⟩

/-! ## Calls one after another are an execution -/

/-- A call does not depend on who makes it. -/
theorem Describes.solo_iff (hd : s.Describes c) {op : Fixture.Operation} {es : List (Exchange τ)}
    {q : Position τ} {other : ThreadId} :
    plan.Solo self c op.position es c' q ↔ plan.Solo other c op.position es c' q := by
  cases op with
  | acquire =>
    by_cases hready : c.status = .ready
    · obtain ⟨flight, handle, found⟩ := hd.exists_handle hready
      exact (Plan.solo_acquire_of_ready hd.lock hready found).trans
        (Plan.solo_acquire_of_ready hd.lock hready found).symm
    · exact (Plan.solo_acquire_of_unready hd.lock hready hd.inflight).trans
        (Plan.solo_acquire_of_unready hd.lock hready hd.inflight).symm
  | release strict =>
    by_cases hready : c.status = .ready
    · exact (Plan.solo_release_of_ready hd.lock hd.inflight hready).trans
        (Plan.solo_release_of_ready hd.lock hd.inflight hready).symm
    · exact (Plan.solo_release_of_unready hd.lock hd.inflight hready).trans
        (Plan.solo_release_of_unready hd.lock hd.inflight hready).symm

end Reference

/-- A thread that has returned from an acquisition did return. -/
theorem History.exists_returns [Clock τ] {plan : Plan τ} (H : History plan) {n : ℕ} {t : ThreadId}
    {f : Flight} {o : Acquired τ} (hat : (H.crew n).At t (.acquired f o)) :
    ∃ m u, H.Returns m u f o := by
  obtain ⟨m, x, -, hx, hno, hyes⟩ :=
    History.exists_beginning (fun crew => crew.At t (.acquired f o)) (by simp [Crew.At]) hat
  rcases (H.step hx).at_iff.1 hyes with ⟨rfl, hq⟩ | ⟨-, hold⟩
  · obtain ⟨t, source, q, e⟩ := x
    subst hq
    exact ⟨m, t, source, e, hx⟩
  · exact absurd hold hno

namespace History.Run

variable [Clock τ] {plan : Plan τ} {xs : List (Stride τ)} {c c' : Cell τ} {ts : List (Position τ)}

/-- The thread that came last goes on until it has returned. -/
theorem exists_of_solo {p q : Position τ} {es : List (Exchange τ)}
    (run : History.Run plan xs ⟨c, ts ++ [p]⟩) (solo : plan.Solo ts.length c p es c' q) :
    ∃ ys, History.Run plan (xs ++ ys) ⟨c', ts ++ [q]⟩ ∧ ys.filterMap Stride.exchange = es := by
  induction solo generalizing xs with
  | ended => exact ⟨[], by simpa using run, rfl⟩
  | @silent c c₁ c₂ p q r events es move rest ih =>
    have ht : Crew.At ⟨c, ts ++ [p]⟩ ts.length p := by simp [Crew.At]
    have step := Crew.Step.silent ht move
    have hplace : Crew.place ⟨c, ts ++ [p]⟩ ts.length c₁ q = ⟨c₁, ts ++ [q]⟩ := by simp [Crew.place]
    rw [hplace] at step
    obtain ⟨ys, run', hys⟩ := ih (run.snoc step)
    exact ⟨_ :: ys, by simpa using run', by simpa using hys⟩
  | @ask c c₂ p r request resume es reply move rest ih =>
    have ht : Crew.At ⟨c, ts ++ [p]⟩ ts.length p := by simp [Crew.At]
    have step := Crew.Step.ask reply ht move
    have hplace : Crew.place ⟨c, ts ++ [p]⟩ ts.length c (resume reply).1 =
        ⟨c, ts ++ [(resume reply).1]⟩ := by simp [Crew.place]
    rw [hplace] at step
    obtain ⟨ys, run', hys⟩ := ih (run.snoc step)
    exact ⟨_ :: ys, by simpa using run', by simpa using hys⟩

/-- A new thread for every call. -/
theorem exists_of_calls {calls : List (Call τ)} {s : Reference}
    (run : History.Run plan xs ⟨c, ts⟩) (hd : s.Describes c) (h : plan.Calls c calls c') :
    ∃ ys, History.Run plan (xs ++ ys) ⟨c', ts ++ calls.map Call.finish⟩ ∧
      ys.filterMap Stride.exchange = calls.flatMap Call.exchanges := by
  induction h generalizing xs ts s with
  | nil c => exact ⟨[], by simpa using run, rfl⟩
  | @cons self c c₁ c₂ call calls first rest ih =>
    obtain ⟨s₁, -, hd₁⟩ := hd.exists_step first
    have begins : (call.operation.position : Position τ).Begins := by
      cases call.operation <;> trivial
    obtain ⟨ys, run₁, hys⟩ := (run.snoc (.enlist begins)).exists_of_solo (hd.solo_iff.1 first)
    obtain ⟨zs, run₂, hzs⟩ := ih run₁ hd₁
    exact ⟨_ :: (ys ++ zs), by simpa using run₂, by simp [hys, hzs]⟩

end History.Run

/-- **Calls that are made one after another are an execution**, in which every call is made by a
thread of its own. -/
theorem Plan.Calls.exists_run [Clock τ] {plan : Plan τ} {calls : List (Call τ)} {c : Cell τ}
    (h : plan.Calls {} calls c) : ∃ xs, History.Run plan xs ⟨c, calls.map Call.finish⟩ ∧
      xs.filterMap Stride.exchange = calls.flatMap Call.exchanges :=
  History.Run.nil.exists_of_calls .fresh h

/-- What is exchanged and returned in calls is exchanged and returned in a history. -/
theorem Plan.Calls.exists_history [Clock τ] {plan : Plan τ} {calls : List (Call τ)} {c : Cell τ}
    (h : plan.Calls {} calls c) : ∃ H : History plan,
      (∀ call ∈ calls, ∀ e ∈ call.exchanges, ∃ n, (H.stride n).bind Stride.exchange = some e) ∧
      ∀ call ∈ calls, ∀ f o, call.finish = .acquired f o → ∃ n t, H.Returns n t f o := by
  obtain ⟨xs, run, hxs⟩ := h.exists_run
  obtain ⟨H, hstride, hcrew⟩ := History.exists_of_run run
  refine ⟨H, fun call hcall e he => ?_, fun call hcall f o hfinish => ?_⟩
  · have hmem : e ∈ xs.filterMap Stride.exchange := hxs ▸ List.mem_flatMap.2 ⟨call, hcall, he⟩
    obtain ⟨x, hx, hex⟩ := List.mem_filterMap.1 hmem
    obtain ⟨n, hn⟩ := List.mem_iff_getElem?.1 hx
    exact ⟨n, by rw [hstride, hn]; exact hex⟩
  · obtain ⟨t, ht⟩ := List.mem_iff_getElem?.1 (List.mem_map_of_mem hcall)
    have hat : (H.crew xs.length).At t (.acquired f o) := by
      rw [hcrew]
      exact ht.trans (congrArg some hfinish)
    exact H.exists_returns hat

namespace Reference

variable [Clock τ] {plan : Plan τ} {s s' : Reference} {c c' : Cell τ} {self : ThreadId}

/-! ## What follows for calls -/

/-- While there is a database, it is the one that the last acquisition to provision has made, and
every call since has only found its handle. -/
theorem Run.made_or_reused {calls : List (Call τ)} (h : Run plan s calls s') {flight : Flight}
    {handle : Handle} (hs' : s'.phase = .ready flight handle) :
    (∃ before es after, calls = before ++ ⟨.acquire, es, .acquired flight (.ok handle)⟩ :: after ∧
        (Provision.machine plan).Trace Provision.start es (.done (.ok handle)) ∧
        ∀ call ∈ after, call = ⟨.acquire, [], .acquired flight (.ok handle)⟩) ∨
      s.phase = .ready flight handle ∧
        ∀ call ∈ calls, call = ⟨.acquire, [], .acquired flight (.ok handle)⟩ := by
  induction h with
  | nil s => exact Or.inr ⟨hs', by simp⟩
  | @cons s s₁ s₂ call calls first rest ih =>
    rcases ih hs' with ⟨before, es, after, rfl, hmade⟩ | ⟨hs₁, hreused⟩
    · exact Or.inl ⟨call :: before, es, after, rfl, hmade⟩
    · cases first with
      | reuse =>
        obtain ⟨rfl, rfl⟩ : _ = flight ∧ _ = handle := by simpa using hs₁
        exact Or.inr ⟨rfl, by simpa using hreused⟩
      | provide unready trace =>
        obtain ⟨rfl, rfl⟩ : _ = flight ∧ _ = handle := by simpa using hs₁
        exact Or.inl ⟨[], _, calls, rfl, trace, hreused⟩
      | fail => cases hs₁
      | decline unready =>
        obtain rfl : _ = Phase.ready flight handle := hs₁
        exact (unready trivial).elim
      | tearDown => cases hs₁

/-- **A call comes to its end with any replies**, but an acquisition may linger while the deadline
does not pass. -/
theorem Describes.answered (hd : s.Describes c) (self : ThreadId) (op : Fixture.Operation)
    (reply : ℕ → Reply τ) :
    (∃ es c' q, plan.Solo self c op.position es c' q ∧ q.Ended ∧ Exchange.Answered reply es) ∨
      op = .acquire ∧ c.status ≠ .ready ∧ Provision.Lingers plan reply := by
  by_cases hready : c.status = .ready
  · cases op with
    | acquire =>
      obtain ⟨flight, handle, found⟩ := hd.exists_handle hready
      exact Or.inl ⟨[], c, _, (Plan.solo_acquire_of_ready hd.lock hready found).2 ⟨rfl, rfl, rfl⟩,
        trivial, .nil⟩
    | release strict =>
      obtain ⟨es, r, course, hes⟩ := Teardown.Course.exists_answered plan.teardownOrder {} reply
      exact Or.inl ⟨es, _, _,
        (Plan.solo_release_of_ready hd.lock hd.inflight hready).2 ⟨r, course, rfl, rfl⟩,
        trivial, hes⟩
  · cases op with
    | acquire =>
      rcases Provision.ends_or_lingers plan reply with ⟨es, o, trace, hes⟩ | lingers
      · exact Or.inl ⟨es, _, _,
          (Plan.solo_acquire_of_unready hd.lock hready hd.inflight).2 ⟨o, trace, rfl, rfl⟩,
          trivial, hes⟩
      · exact Or.inr ⟨rfl, hready, lingers⟩
    | release strict =>
      exact Or.inl ⟨[], c, _,
        (Plan.solo_release_of_unready hd.lock hd.inflight hready).2 ⟨rfl, rfl, rfl⟩, trivial, .nil⟩

/-- **A strict release differs in its answer only.** -/
theorem Describes.strict_iff (hd : s.Describes c) {es : List (Exchange τ)} {q : Released} :
    plan.Solo self c (.release true) es c' (.released q) ↔
      ∃ r, plan.Solo self c (.release false) es c' (.released r) ∧ q = strictly r := by
  by_cases hready : c.status = .ready
  · simp only [Plan.solo_release_of_ready hd.lock hd.inflight hready, Position.released.injEq]
    constructor
    · rintro ⟨r, course, hcell, rfl⟩
      exact ⟨_, ⟨r, course, hcell, rfl⟩, (strictly_releaseResult r).symm⟩
    · rintro ⟨_, ⟨r, course, hcell, rfl⟩, rfl⟩
      exact ⟨r, course, hcell, strictly_releaseResult r⟩
  · simp only [Plan.solo_release_of_unready hd.lock hd.inflight hready, Position.released.injEq]
    constructor
    · rintro ⟨hes, hcell, rfl⟩
      exact ⟨_, ⟨hes, hcell, rfl⟩, rfl⟩
    · rintro ⟨_, ⟨hes, hcell, rfl⟩, rfl⟩
      exact ⟨hes, hcell, rfl⟩

/-- **A release that tears down deletes the Pod and then the Service**, unless deleting the Pod
raises what is not caught, and forgets the database whatever comes of it. -/
theorem Describes.teardown (hd : s.Describes c) (hready : c.status = .ready) {strict : Bool}
    {es : List (Exchange τ)} {q : Position τ} (h : plan.Solo self c (.release strict) es c' q) :
    c'.status = .tornDown ∧ c'.handle = none ∧
      (es.map Exchange.request = [.delete plan.pod.address, .delete plan.service.address] ∨
        ∃ e fault, es = [e] ∧ e.request = .delete plan.pod.address ∧
          e.reply.answer = .error fault ∧ fault.failure? plan.pod.address .delete = none ∧
          q = .released (.error (.raised fault))) := by
  obtain ⟨r, course, rfl, rfl⟩ := (Plan.solo_release_of_ready hd.lock hd.inflight hready).1 h
  refine ⟨rfl, rfl, ?_⟩
  rcases course.requests with
    ⟨-, hes⟩ | ⟨done, a, rest, before, e, fault, horder, rfl, hdone, delete, rfl⟩
  · exact Or.inl hes
  · -- it breaks at the first of the two objects or at the second
    match done with
    | [] =>
      obtain ⟨rfl, -⟩ := List.cons.inj horder
      obtain rfl : before = [] := by simpa using hdone
      exact Or.inr ⟨e, fault, rfl, delete.1, delete.broken.1, delete.broken.2, rfl⟩
    | [b] =>
      obtain ⟨rfl, rfl, -⟩ : plan.pod.address = b ∧ plan.service.address = a ∧ [] = rest := by
        simpa [Plan.teardownOrder] using horder
      exact Or.inl (by simp [hdone, delete.1])
    | _ :: _ :: _ => simp [Plan.teardownOrder] at horder

end Reference

variable [Clock τ]

/-- **Calls that are made one after another follow the reference machine**, whatever the cluster
answers, and the machine does nothing that they cannot do.  After any such calls:

* nobody provisions, nothing is in flight, and there is a handle exactly while the fixture is ready;
* the handle is that of the last run of provisioning that made a database, and every call since was
  an acquisition that exchanged nothing and returned it;
* whatever the replies will be, the next call comes to its end with them, unless it is an
  acquisition on a fixture that is not ready, and lingers: it reads an object that is not ready
  again and again, and no read ever ends after the deadline;
* a release on a fixture that is ready deletes the Pod and then the Service, once each, unless
  deleting the Pod raises what is not caught, and forgets the database whatever comes of it;
* a strict release differs from another in its answer only, and by the same report. -/
theorem Plan.calls_follow_reference (plan : Plan τ) :
    (∀ calls c, plan.Calls {} calls c →
      (∃ s, Reference.Run plan {} calls s ∧ s.Describes c) ∧
      (c.status ≠ .provisioning ∧ c.inflight = none ∧ (c.handle.isSome ↔ c.status = .ready)) ∧
      (∀ flight handle, c.handle = some (flight, handle) → ∃ before es after,
        calls = before ++ ⟨.acquire, es, .acquired flight (.ok handle)⟩ :: after ∧
          (Provision.machine plan).Trace Provision.start es (.done (.ok handle)) ∧
          ∀ call ∈ after, call = ⟨.acquire, [], .acquired flight (.ok handle)⟩) ∧
      (∀ self (op : Fixture.Operation) (reply : ℕ → Reply τ),
        (∃ es c' q, plan.Solo self c op.position es c' q ∧ q.Ended ∧ Exchange.Answered reply es) ∨
          op = .acquire ∧ c.status ≠ .ready ∧ Provision.Lingers plan reply) ∧
      (c.status = .ready → ∀ self strict es c' q, plan.Solo self c (.release strict) es c' q →
        c'.status = .tornDown ∧ c'.handle = none ∧
          (es.map Exchange.request = [.delete plan.pod.address, .delete plan.service.address] ∨
            ∃ e fault, es = [e] ∧ e.request = .delete plan.pod.address ∧
              e.reply.answer = .error fault ∧ fault.failure? plan.pod.address .delete = none ∧
              q = .released (.error (.raised fault)))) ∧
      ∀ self es c' q, plan.Solo self c (.release true) es c' (.released q) ↔
        ∃ r, plan.Solo self c (.release false) es c' (.released r) ∧
          q = Reference.strictly r) ∧
    ∀ calls s, Reference.Run plan {} calls s → ∃ c, plan.Calls {} calls c ∧ s.Describes c := by
  refine ⟨fun calls c hcalls => ?_, fun calls s run => Reference.Describes.fresh.exists_calls run⟩
  obtain ⟨s, run, hd⟩ := Reference.Describes.fresh.exists_run hcalls
  refine ⟨⟨s, run, hd⟩, hd.settled, fun flight handle hhandle => ?_,
    fun self op reply => hd.answered self op reply,
    fun hready self strict es c' q solo => hd.teardown hready solo,
    fun self es c' q => hd.strict_iff⟩
  have hphase : s.phase = .ready flight handle := Phase.eq_of_handle? (hd.handle ▸ hhandle)
  rcases run.made_or_reused hphase with hmade | ⟨habsent, -⟩
  · exact hmade
  · cases habsent

end EphemeralDatabase
