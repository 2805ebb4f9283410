import EphemeralDatabase.Proofs.Poll.Bound
import EphemeralDatabase.Proofs.Lifecycle.First

/-!
# How many calls provisioning makes

Bringing up an object is two calls at most, and then waiting.  So what bounds waiting bounds
provisioning: `Paced` follows one object, and then both, and says at every stage how many calls
there have been and, while waiting, what time it can be.

That makes `Plan.calls` calls at most, and because there is at most one pause to every call an
acquisition comes to its end (`Plan.exists_returns`).
-/

namespace EphemeralDatabase

variable {τ ω : Type}

/-! ## One object -/

namespace BringUp

variable {condition : Condition}

theorem settle_cases (w : Watch τ) (s : Poll.Stage condition τ) :
    settle w s = .waiting w s ∨ ∃ r, settle w s = .done r := by
  match s with
  | .reading _ | .sleeping _ => exact Or.inl rfl
  | .done (.ok (.ready _)) | .done (.ok (.timedOut _)) | .done (.error _) => exact Or.inr ⟨_, rfl⟩

variable [Field τ] [LinearOrder τ] [IsStrictOrderedRing τ] [FloorSemiring τ] {t : Task τ} {m : ℕ}
  {time time' : τ}

/-- What is known of bringing up an object at a time, after so many calls. -/
def Paced (t : Task τ) (m : ℕ) (time : τ) : Stage condition τ → Prop
  | .ensuring .reading => m = 0
  | .ensuring .creating => m = 1
  | .ensuring (.done _) => m ≤ 2
  | .waiting w s => w.pace = t.pace ∧ ∃ k, m ≤ 2 + k ∧ Poll.Paced w k time s
  | .done _ => m ≤ 2 + t.pace.reads

/-- Waiting for an object is part of bringing it up. -/
theorem paced_settle (positive : t.pace.Positive) {w : Watch τ} (pace : w.pace = t.pace) {k : ℕ}
    (calls : m ≤ 2 + k) {s : Poll.Stage condition τ} (h : Poll.Paced w k time s) :
    Paced t m time (settle w s) := by
  rcases settle_cases w s with hs | ⟨r, hs⟩ <;> rw [hs]
  · exact ⟨pace, k, calls, h⟩
  · have reads : k ≤ t.pace.reads := pace ▸ h.le_reads (pace ▸ positive)
    exact calls.trans (Nat.add_le_add_left reads 2)

/-- Waiting begins when there have been two calls at most. -/
theorem paced_wait (positive : t.pace.Positive) (few : m ≤ 2) (observed : Option ResourceState) :
    Paced t m time (wait t time observed : Stage condition τ × _).1 :=
  paced_settle positive rfl (k := 0) few (Poll.paced_start positive observed)

theorem paced_proceed (positive : t.pace.Positive) (few : m ≤ 2) (r : Except Fault Ensured) :
    Paced t m time (proceed t time (.done r) : Stage condition τ × _).1 := by
  match r with
  | .ok (.existed s) => exact paced_wait positive few (some s)
  | .ok (.created s) => exact paced_wait positive few none
  | .ok (.failed d f) => exact few.trans (Nat.le_add_right 2 _)
  | .error fault => exact few.trans (Nat.le_add_right 2 _)

theorem Paced.le_calls (positive : t.pace.Positive) {s : Stage condition τ}
    (h : Paced t m time s) : m ≤ 2 + t.pace.reads := by
  match s with
  | .ensuring .reading =>
    obtain rfl : m = 0 := h
    exact Nat.zero_le _
  | .ensuring .creating =>
    obtain rfl : m = 1 := h
    omega
  | .ensuring (.done r) => exact le_trans h (Nat.le_add_right 2 _)
  | .waiting w s =>
    obtain ⟨pace, k, calls, paced⟩ := h
    have reads : k ≤ t.pace.reads := pace ▸ paced.le_reads (pace ▸ positive)
    omega
  | .done r => exact h

/-- **Whatever bringing up asks and whatever it is told, it is paced afterwards.** -/
theorem Paced.resume (positive : t.pace.Positive) {s : Stage condition τ} (h : Paced t m time s)
    {request : Request τ} (asks : ask t s = some request) {reply : Reply τ}
    (ticks : Ticks time ⟨request, reply⟩ time') :
    Paced t (m + (Exchange.calls [⟨request, reply⟩]).length) time'
      (BringUp.resume t s reply).1 := by
  match s with
  | .ensuring .reading =>
    obtain rfl : .read t.descriptor.address = request := Option.some.inj asks
    obtain rfl : m = 0 := h
    match seen : readOutcome t.nodeHost t.descriptor.address reply.answer with
    | .ok (.found s) | .ok (.failed s) | .error s =>
      simp only [BringUp.resume, Ensure.resume, seen, Ensure.afterRead]
      rw [ticks.stamp]
      exact paced_proceed positive one_le_two _
    | .ok (.notFound a) =>
      simp only [BringUp.resume, Ensure.resume, seen, Ensure.afterRead]
      rfl
  | .ensuring .creating =>
    obtain rfl : .create t.descriptor.address t.descriptor.manifest = request :=
      Option.some.inj asks
    obtain rfl : m = 1 := h
    match made : createOutcome t.nodeHost t.descriptor.address reply.answer with
    | .ok (.made s) | .ok (.failed s) | .error s =>
      simp only [BringUp.resume, Ensure.resume, made, Ensure.afterCreate]
      rw [ticks.stamp]
      exact paced_proceed positive le_rfl _
  | .ensuring (.done r) => cases asks
  | .waiting w s =>
    obtain ⟨pace, k, calls, paced⟩ := h
    refine paced_settle positive pace (k := k + (Exchange.calls [⟨request, reply⟩]).length) ?_
      (paced.resume (pace ▸ positive) asks ticks)
    omega
  | .done r => cases asks

end BringUp

/-! ## Both objects -/

/-- After a pause the object is read, or it has been brought up, or given up. -/
theorem BringUp.settle_sleeping [Clock τ] {condition : Condition} (w : Watch τ) (n : ℕ)
    (reply : Reply τ) :
    settle w (Poll.resume w (.sleeping n : Poll.Stage condition τ) reply).1 =
        .waiting w (.reading n) ∨
      ∃ r, settle w (Poll.resume w (.sleeping n : Poll.Stage condition τ) reply).1 = .done r := by
  rcases Poll.resume_sleeping_cases condition w n reply with
    ⟨hs, -⟩ | ⟨r, hs⟩ <;> rw [hs]
  · exact Or.inl rfl
  · exact Or.inr ⟨_, settle_done w r⟩

/-- Provisioning does not pause twice in a row. -/
theorem Provision.alert [Clock τ] (plan : Plan τ) : (machine plan).Alert := by
  intro s request asks sleep reply next again
  match s with
  | .service (.waiting w (.sleeping n)) =>
    have h : (machine plan).resume (.service (.waiting w (.sleeping n))) reply =
        (afterService (BringUp.settle w (Poll.resume w (.sleeping n) reply).1),
          (Poll.resume w (.sleeping n : Poll.Stage endpointAssigned τ) reply).2) := rfl
    rw [h] at again
    rcases BringUp.settle_sleeping w n reply with hs | ⟨r, hs⟩ <;> rw [hs] at again
    · obtain rfl : .read w.address = next := Option.some.inj again
      exact id
    · cases r with
      | ok r =>
        obtain rfl : .read plan.pod.address = next := Option.some.inj again
        exact id
      | error e => cases again
  | .pod endpoint (.waiting w (.sleeping n)) =>
    have h : (machine plan).resume (.pod endpoint (.waiting w (.sleeping n))) reply =
        (afterPod plan endpoint (BringUp.settle w (Poll.resume w (.sleeping n) reply).1),
          (Poll.resume w (.sleeping n : Poll.Stage phaseRunning τ) reply).2) := rfl
    rw [h] at again
    rcases BringUp.settle_sleeping w n reply with hs | ⟨r, hs⟩ <;> rw [hs] at again
    · obtain rfl : .read w.address = next := Option.some.inj again
      exact id
    · cases r <;> cases again
  | .service (.ensuring .reading) | .service (.ensuring .creating)
  | .service (.waiting _ (.reading _)) | .pod _ (.ensuring .reading)
  | .pod _ (.ensuring .creating) | .pod _ (.waiting _ (.reading _)) =>
    obtain rfl := Option.some.inj asks
    exact sleep.elim
  | .service (.ensuring (.done _)) | .service (.waiting _ (.done _)) | .service (.done _)
  | .pod _ (.ensuring (.done _)) | .pod _ (.waiting _ (.done _)) | .pod _ (.done _)
  | .done _ => cases asks

/-- How many calls provisioning makes at most. -/
def Plan.calls [Field τ] [LinearOrder τ] [FloorSemiring τ] (plan : Plan τ) : ℕ :=
  4 + plan.poll.service.reads + plan.poll.pod.reads

namespace Provision

variable [Field τ] [LinearOrder τ] [FloorSemiring τ] {plan : Plan τ} {m : ℕ} {time time' : τ}

/-- What is known of provisioning at a time, after so many calls. -/
def Paced (plan : Plan τ) (m : ℕ) (time : τ) : Stage τ → Prop
  | .service s => BringUp.Paced (serviceTask plan) m time s
  | .pod _ s => ∃ k, m ≤ 2 + plan.poll.service.reads + k ∧ BringUp.Paced (podTask plan) k time s
  | .done _ => m ≤ plan.calls

theorem paced_start : Paced plan 0 time start := rfl

theorem paced_afterService {s : BringUp.Stage endpointAssigned τ}
    (h : BringUp.Paced (serviceTask plan) m time s) : Paced plan m time (afterService s) := by
  match s with
  | .done (.ok r) => exact ⟨0, h, rfl⟩
  | .done (.error e) =>
    have few : m ≤ 2 + plan.poll.service.reads := h
    simp only [afterService, Paced, Plan.calls]
    omega
  | .ensuring s => exact h
  | .waiting w s => exact h

theorem paced_afterPod {endpoint : Endpoint} {s : BringUp.Stage phaseRunning τ} {k : ℕ}
    (calls : m ≤ 2 + plan.poll.service.reads + k) (h : BringUp.Paced (podTask plan) k time s) :
    Paced plan m time (afterPod plan endpoint s) := by
  match s with
  | .done (.ok r) | .done (.error r) =>
    have few : k ≤ 2 + plan.poll.pod.reads := h
    simp only [afterPod, Paced, Plan.calls]
    omega
  | .ensuring s => exact ⟨k, calls, h⟩
  | .waiting w s => exact ⟨k, calls, h⟩

variable [IsStrictOrderedRing τ]

/-- **Whatever provisioning asks and whatever it is told, it is paced afterwards.** -/
theorem Paced.resume (positive : plan.poll.Positive) {s : Stage τ} (h : Paced plan m time s)
    {request : Request τ} (asks : ask plan s = some request) {reply : Reply τ}
    (ticks : Ticks time ⟨request, reply⟩ time') :
    Paced plan (m + (Exchange.calls [⟨request, reply⟩]).length) time'
      (Provision.resume plan s reply).1 := by
  cases s with
  | service s =>
    exact paced_afterService (BringUp.Paced.resume (positive .service) h asks ticks)
  | pod endpoint s =>
    obtain ⟨k, calls, paced⟩ := h
    refine paced_afterPod (k := k + (Exchange.calls [⟨request, reply⟩]).length) ?_
      (paced.resume (positive .pod) asks ticks)
    omega
  | done o => cases asks

/-- There have been no more calls than that at any stage. -/
theorem Paced.le_calls (positive : plan.poll.Positive) {s : Stage τ} (h : Paced plan m time s) :
    m ≤ plan.calls := by
  cases s with
  | service s =>
    have part := BringUp.Paced.le_calls (positive .service) h
    simp only [Plan.calls, serviceTask] at part ⊢
    omega
  | pod endpoint s =>
    obtain ⟨k, calls, paced⟩ := h
    have part := paced.le_calls (positive .pod)
    simp only [Plan.calls, podTask] at part ⊢
    omega
  | done o => exact h

/-- **Provisioning makes a bounded number of calls**, on an exact clock and against any cluster. -/
theorem calls_le (positive : plan.poll.Positive) {s : Stage τ} {es : List (Exchange τ)}
    (trace : (machine plan).Trace start es s) (timed : Carries Ticks time es time') :
    (Exchange.calls es).length ≤ plan.calls := by
  have paced := trace.lasting (P := Paced plan) (fun h asks ticks => h.resume positive asks ticks)
    paced_start timed
  rw [Nat.zero_add] at paced
  exact paced.le_calls positive

/-- **Provisioning comes to its end** on a world with an exact clock. -/
theorem exists_returns (positive : plan.poll.Positive) {world : World τ ω} {w : ω}
    (exact : world.KeepsTime w) :
    ∃ es w' o, es.length ≤ 2 * plan.calls ∧ (machine plan).Trace start es (.done o) ∧
      Carries world.Conducts w es w' := by
  obtain ⟨es, s, w', -, trace, carries, stops⟩ :=
    Machine.exists_runs (machine plan) world (2 * plan.calls + 1) start w
  have calls : (Exchange.calls es).length ≤ plan.calls :=
    calls_le positive trace (exact.carries carries)
  have length : es.length ≤ 2 * (Exchange.calls es).length :=
    Machine.length_le_of_call (alert plan) rfl
      (show ¬ (Request.read plan.service.address).IsSleep from id) trace
  have quiet : ask plan s = none := stops.resolve_right (by omega)
  obtain ⟨o, rfl⟩ := (awake_of_trace awake_start trace).resolve_right (absurd quiet)
  exact ⟨es, w', o, by omega, trace, carries⟩

end Provision

/-! ## The bounds -/

section Bounds

variable [Field τ] [LinearOrder τ] [IsStrictOrderedRing τ] [FloorSemiring τ]

/-- An acquisition on a fixture that is not ready, and that nobody else uses, returns, and makes no
more calls than provisioning may. -/
theorem Plan.exists_returns {plan : Plan τ} (positive : plan.poll.Positive) {world : World τ ω}
    {w : ω} (exact : world.KeepsTime w) {c : Cell τ} (free : c.lock = none)
    (idle : c.inflight = none) (unready : c.status ≠ .ready) :
    ∃ es o, Crew.Returns plan world c .acquire w es (c.landed o) (.acquired c.flights.length o) ∧
      (Exchange.calls es).length ≤ plan.calls := by
  obtain ⟨es, w', o, -, trace, carries⟩ := Provision.exists_returns positive exact
  exact ⟨es, o, Crew.returns_of_solo
    ((solo_acquire_of_unready free unready idle).2 ⟨o, trace, rfl, rfl⟩) carries,
    Provision.calls_le positive trace (exact.carries carries)⟩

/-- **On an exact clock time bounds what is done**, whatever is replied and however long it takes.

Waiting comes to its end on every world that keeps time.  It reads the object at most
`⌊deadline / interval⌋ + 2` times, makes no other call, and ends at most one interval and one read
after the deadline.  If reads take no time and never show what is waited for, they are exactly as
many.

Provisioning makes at most four calls beside that for the Service and for the Pod, finished or not,
and an acquisition that has to provision returns. -/
theorem time_bounds_calls :
    (∀ (condition : Condition) (watch : Watch τ) (observed : Option ResourceState) (ω : Type)
        (world : World τ ω) (w : ω), watch.pace.Positive → world.KeepsTime w →
        world.now w = watch.started →
      ∃ ts w', ∃ r : Except Fault (Waited condition τ),
        (∀ fuel, 2 * watch.pace.reads ≤ fuel →
          (Poll.machine watch).Runs world fuel (Poll.start watch observed).1 w
            (ts.map Transaction.exchange) (.done r) w') ∧
        Transactions Ticks watch.started ts (world.now w') ∧
        Poll.Bounded watch ts (world.now w') ∧
        ((∀ s, observed = some s → condition s = false) →
          (∀ k, world.now (world.afterRead watch w k) = world.now (world.beforeRead watch w k)) →
          (∀ k, (world.replies watch w).Calm k) →
          (∀ k, ∃ seen, (world.replies watch w).seen watch k = .ok seen ∧
            seen.shows condition = false) →
          (Exchange.calls (ts.map Transaction.exchange)).length = watch.pace.reads)) ∧
    ∀ plan : Plan τ, plan.poll.Positive →
      (∀ es s t t', (Provision.machine plan).Trace Provision.start es s → Carries Ticks t es t' →
        (Exchange.calls es).length ≤ plan.calls) ∧
      ∀ (ω : Type) (world : World τ ω) (w : ω) (c : Cell τ), world.KeepsTime w → c.lock = none →
        c.inflight = none → c.status ≠ .ready →
        ∃ es o, Crew.Returns plan world c .acquire w es (c.landed o)
            (.acquired c.flights.length o) ∧
          (Exchange.calls es).length ≤ plan.calls := by
  refine ⟨fun condition watch observed ω world w positive exact started => ?_,
    fun plan positive => ⟨fun es s t t' trace timed => Provision.calls_le positive trace timed,
      fun ω world w c exact free idle unready =>
        Plan.exists_returns positive exact free idle unready⟩⟩
  rcases Poll.hides_or_holds condition observed with hides | ⟨s, rfl, holds⟩
  · rw [Poll.start_of_hides hides]
    obtain ⟨es, w', r, few, trace, carries⟩ := Poll.exists_returns condition positive exact started
    obtain ⟨ts, rfl, timed⟩ := exact.carries carries
    rw [started] at timed
    have runs (fuel : ℕ) (enough : 2 * watch.pace.reads ≤ fuel) :
        (Poll.machine watch).Runs world fuel (.reading 0) w (ts.map Transaction.exchange)
          (.done r) w' :=
      Machine.runs_of_trace trace carries (few.trans enough) (Or.inl rfl)
    refine ⟨ts, w', r, runs, timed, Poll.bounded positive trace timed,
      fun _ prompt calm never => ?_⟩
    obtain ⟨r', full⟩ := Poll.calls_of_prompt positive exact started prompt calm never
    obtain ⟨es, v, runs', calls⟩ := full _ le_rfl
    -- a run makes the same exchanges however it was found
    rw [← (runs _ le_rfl).exchanges, runs'.exchanges]
    exact calls
  · rw [Poll.start_of_holds holds]
    refine ⟨[], w, .ok (.ready ⟨s, 0, Clock.zero, holds⟩),
      fun fuel _ => Machine.runs_of_quiet rfl, started ▸ .nil _, ⟨by simp, Nat.zero_le _, ?_⟩, ?_⟩
    · intro before x after split
      simp at split
    · intro hidden
      exact absurd holds (by simp [hidden s rfl])

namespace Scripted

/-- With the defaults an acquisition on the scripted cluster makes fewer than a hundred calls, and
waiting for a Pod that stays pending with a pause beyond the deadline makes two. -/
theorem calls_of_defaults :
    (∃ es o, Crew.Returns plan Simulator.world {} .acquire cluster es (({} : Cell ℚ).landed o)
      (.acquired 0 o) ∧ (Exchange.calls es).length ≤ 98) ∧
    ∃ ts : List (Transaction ℚ ℚ), ∃ w', ∃ r : Except Fault (Waited phaseRunning ℚ),
      (Poll.machine hasty).Runs Simulator.world 4 (.reading 0) pending
        (ts.map Transaction.exchange) (.done r) w' ∧
      (Exchange.calls (ts.map Transaction.exchange)).length = 2 := by
  have bound : plan.calls = 98 := by
    norm_num [Plan.calls, Pace.reads, plan, Plan.ofSettings]
  have reads : hasty.pace.reads = 2 := by
    norm_num [Pace.reads, hasty]
  constructor
  · rw [← bound]
    exact ((time_bounds_calls (τ := ℚ)).2 plan positive).2 _ Simulator.world cluster {}
      (Simulator.keepsTime (by simp [cluster])) rfl rfl (by simp)
  · obtain ⟨ts, w', r, runs, -, -, full⟩ := (time_bounds_calls (τ := ℚ)).1 phaseRunning hasty none
      _ Simulator.world pending hasty_positive
      (Simulator.keepsTime (by simp [pending, Simulator.still])) rfl
    rw [reads] at runs full
    exact ⟨ts, w', r, runs 4 le_rfl, full (by simp) (Simulator.now_afterRead_still hasty _ 0)
      (Simulator.calm_still hasty _ 0) fun k => ⟨_, Simulator.seen_still hasty _ 0 k, rfl⟩⟩

end Scripted

end Bounds

end EphemeralDatabase
