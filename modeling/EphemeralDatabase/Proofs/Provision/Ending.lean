import EphemeralDatabase.Proofs.Lifecycle.Agreement
import EphemeralDatabase.Proofs.Provision.Calls

/-!
# How provisioning ends

There are four endings: a handle is delivered, the cluster refuses something, an object is not
ready in time, or something breaks.  `Provision.Ending.Describes` says of each what the last
exchange was, what the outcome has to do with it, and in which state the fixture is left; and
exactly one of the four describes what happened.

The last exchange explains the outcome of an object that was brought up (`BringUp.Ends`), so it
explains that of provisioning as well: what is brought up last is what decides.
-/

namespace EphemeralDatabase

open Exchange

variable {τ : Type}

/-- What publication leaves in the cell. -/
def Cell.Shows (c : Cell τ) (f : Flight) : Acquired τ → Prop
  | .ok handle => c.status = .ready ∧ c.handle = some (f, handle)
  | .error _ => c.status = .absent ∧ c.handle = none

/-! ## Faults that are passed on -/

/-- Nothing that the cluster or the way to it could have answered. -/
def Fault.Uncaught (fault : Fault) : Prop := ∃ breakage details, fault = .other breakage details

theorem Fault.uncaught_of_failure? {fault : Fault} {a : Address} {operation : Operation}
    (h : fault.failure? a operation = none) : fault.Uncaught := by
  match fault with
  | .api status reason => simp [failure?] at h
  | .carrier c details => simp [failure?] at h
  | .other breakage details => exact ⟨breakage, details, rfl⟩

namespace Exchange

variable {e : Exchange τ} {nodeHost : String} {fault : Fault}

theorem Reads.uncaught {a : Address} (h : e.Reads nodeHost a (.error fault)) :
    e.reply.answer = .error fault ∧ fault.Uncaught := by
  have hr := h.2
  unfold readOutcome at hr
  split at hr
  · cases hr
  · rename_i fault' ha
    split at hr
    · cases hr
    · split at hr
      · cases hr
      · rename_i hf
        cases hr
        exact ⟨ha, Fault.uncaught_of_failure? hf⟩

theorem Creates.uncaught {d : Descriptor} (h : e.Creates nodeHost d (.error fault)) :
    e.reply.answer = .error fault ∧ fault.Uncaught := by
  have hr := h.2
  unfold createOutcome at hr
  split at hr
  · cases hr
  · rename_i fault' ha
    split at hr
    · cases hr
    · rename_i hf
      cases hr
      exact ⟨ha, Fault.uncaught_of_failure? hf⟩

/-- The last exchange broke: it was a call that raised what is not the cluster's answer, or the
pause after a call. -/
def Break (es : List (Exchange τ)) (fault : Fault) : Prop :=
  (∃ before e, es = before ++ [e] ∧ e.request.address?.isSome ∧ e.reply.answer = .error fault ∧
      fault.Uncaught) ∨
    ∃ before e z seconds, es = before ++ [e, z] ∧ e.request.address?.isSome ∧
      z.request = .sleep seconds ∧ z.reply.answer = .error fault

theorem Break.append {es : List (Exchange τ)} (h : Break es fault) (fs : List (Exchange τ)) :
    Break (fs ++ es) fault := by
  rcases h with ⟨before, e, rfl, h⟩ | ⟨before, e, z, seconds, rfl, h⟩
  · exact Or.inl ⟨fs ++ before, e, by simp, h⟩
  · exact Or.inr ⟨fs ++ before, e, z, seconds, by simp, h⟩

theorem Reads.break {a : Address} (h : e.Reads nodeHost a (.error fault))
    (before : List (Exchange τ)) : Break (before ++ [e]) fault :=
  Or.inl ⟨before, e, rfl, by rw [h.address]; rfl, h.uncaught⟩

theorem Creates.break {d : Descriptor} (h : e.Creates nodeHost d (.error fault))
    (before : List (Exchange τ)) : Break (before ++ [e]) fault :=
  Or.inl ⟨before, e, rfl, by rw [h.address]; rfl, h.uncaught⟩

end Exchange

/-! ## One object -/

namespace BringUp

variable [Clock τ] {condition : Condition} {t : Task τ}

/-- How bringing up an object ends, by its last exchange. -/
inductive Ends (t : Task τ) :
    List (Exchange τ) → Except (AcquireError τ) (Ready condition τ) → Prop
  | ready {before : List (Exchange τ)} {e : Exchange τ} {r : Ready condition τ}
      (read : e.Reads t.nodeHost t.descriptor.address (.ok (.found r.state))) :
      Ends t (before ++ [e]) (.ok r)
  | unread {e : Exchange τ} {f : Failure}
      (read : e.Reads t.nodeHost t.descriptor.address (.ok (.failed f))) :
      Ends t [e] (.error (.provisioning t.descriptor f))
  | uncreated {before : List (Exchange τ)} {e : Exchange τ} {f : Failure}
      (create : e.Creates t.nodeHost t.descriptor (.ok (.failed f))) :
      Ends t (before ++ [e]) (.error (.provisioning t.descriptor f))
  | late {before : List (Exchange τ)} {e : Exchange τ} {seen : ReadOutcome} {attempts : ℕ}
      {elapsed : τ} (read : e.Reads t.nodeHost t.descriptor.address (.ok seen))
      (hides : seen.shows condition = false) (late : t.pace.deadline < elapsed) :
      Ends t (before ++ [e]) (.error (.readiness
        ⟨t.descriptor.address, t.pace.deadline, attempts, elapsed, some seen⟩))
  | broken {es : List (Exchange τ)} {fault : Fault} (broken : Break es fault) :
      Ends t es (.error (.raised fault))

/-- Waiting ends with its last exchange, whatever was before. -/
theorem ends_of_poll {time : τ} {n : ℕ} {ps : List (Exchange τ)}
    {r : Except Fault (Waited condition τ)} (h : Poll.Course (t.watch time) n ps r)
    (before : List (Exchange τ)) : Ends t (before ++ ps) (verdict r) := by
  generalize hw : t.watch time = w at h
  induction h generalizing before with
  | ready read holds =>
    subst hw
    exact .ready read
  | late read hides late =>
    subst hw
    exact .late read hides late
  | unread read => exact .broken (read.break before)
  | @restless n e z seen fault read hides sleep broken =>
    exact .broken (Or.inr ⟨before, e, z, _, rfl, by rw [read.address]; rfl, sleep, broken⟩)
  | @again n e z seen es r read hides sleep rest ih =>
    have hends := ih (before ++ [e, z])
    simpa using hends

/-- **The last exchange explains what came of bringing up an object.** -/
theorem Course.ends {es : List (Exchange τ)} {r : Except (AcquireError τ) (Ready condition τ)}
    (h : Course t es r) : Ends t es r := by
  cases h with
  | broken ensure =>
    cases ensure with
    | unread read => exact .broken (read.break [])
    | broken read create => exact .broken (create.break [_])
  | refused ensure =>
    cases ensure with
    | undetermined read => exact .unread read
    | @refused first c a f read create =>
      show Ends t ([first] ++ [c]) _
      exact .uncreated create
  | observed ensure holds =>
    cases ensure with
    | @existed e _ read =>
      show Ends t ([] ++ [e]) _
      exact .ready read
  | polled ensure unready poll => exact ends_of_poll poll _

/-- Whatever is exchanged for an object is about it, or a pause. -/
theorem Course.address {es : List (Exchange τ)} {r : Except (AcquireError τ) (Ready condition τ)}
    (h : Course t es r) {e : Exchange τ} (he : e ∈ es) {a : Address}
    (ha : e.request.address? = some a) : a = t.descriptor.address := by
  have hcall : e ∈ Exchange.calls es := by simp [Exchange.calls, he, ha]
  exact Option.some.inj (ha.symm.trans (h.part.address hcall))

end BringUp

/-! ## Both objects -/

namespace Provision

/-- The four ways in which an acquisition ends. -/
inductive Ending where
  | delivered
  | refused
  | late
  | broken
  deriving DecidableEq, Repr

namespace Ending

/-- The ending that an outcome stands for. -/
def of : Acquired τ → Ending
  | .ok _ => delivered
  | .error (.provisioning _ _) => refused
  | .error (.readiness _) => late
  | .error (.raised _) => broken

/-- A handle is made of what was seen last and of what is configured. -/
structure Delivers (plan : Plan τ) (es : List (Exchange τ)) (handle : Handle) : Prop where
  /-- the last exchange was a read of the Pod, which was running -/
  running : ∃ before e s, es = before ++ [e] ∧
    e.Reads plan.nodeHost plan.pod.address (.ok (.found s)) ∧ s.phase = some "Running"
  /-- host and port are where the Service could be reached when it was last looked at -/
  endpoint : ∃ before e s after, es = before ++ e :: after ∧
    e.Reads plan.nodeHost plan.service.address (.ok (.found s)) ∧
    s.endpoint = some ⟨handle.host, handle.port⟩ ∧
    ∀ d ∈ after, d.request.address? ≠ some plan.service.address
  credentials : handle.database = plan.database ∧ handle.user = plan.user ∧
    handle.password = plan.password
  names : handle.space = plan.service.space ∧ handle.serviceName = plan.service.name ∧
    handle.podName = plan.pod.name

/-- The last exchange failed: it was the first call about an object, a read, or an attempt to
create the object.  The descriptor is the one in the plan, whole. -/
def Refuses (plan : Plan τ) (es : List (Exchange τ)) (d : Descriptor) (cause : Failure) : Prop :=
  (d = plan.service ∨ d = plan.pod) ∧ ∃ before e, es = before ++ [e] ∧
    ((e.Reads plan.nodeHost d.address (.ok (.failed cause)) ∧
        ∀ x ∈ before, x.request.address? ≠ some d.address) ∨
      e.Creates plan.nodeHost d (.ok (.failed cause)))

/-- The last exchange was a read that ended after the deadline for its kind of object and did not
show the object to be ready. -/
def Expires [LT τ] (plan : Plan τ) (es : List (Exchange τ)) (t : TimedOut τ) : Prop :=
  (t.address = plan.service.address ∨ t.address = plan.pod.address) ∧
    t.deadline = (plan.poll.forKind t.address.kind).deadline ∧ t.deadline < t.elapsed ∧
    ∃ before e seen, es = before ++ [e] ∧ e.Reads plan.nodeHost t.address (.ok seen) ∧
      seen.shows t.address.kind.ready = false ∧ t.last = some seen

/-- What an ending says about the exchanges of a flight, its outcome, and the cell. -/
def Describes [LT τ] (plan : Plan τ) (es : List (Exchange τ)) (f : Flight) (o : Acquired τ)
    (c : Cell τ) : Ending → Prop
  | delivered => ∃ handle, o = .ok handle ∧ Delivers plan es handle ∧
      c.status = .ready ∧ c.handle = some (f, handle)
  | refused => ∃ d cause, o = .error (.provisioning d cause) ∧ Refuses plan es d cause ∧
      c.status = .absent ∧ c.handle = none
  | late => ∃ t, o = .error (.readiness t) ∧ Expires plan es t ∧
      c.status = .absent ∧ c.handle = none
  | broken => ∃ fault, o = .error (.raised fault) ∧ Break es fault ∧
      c.status = .absent ∧ c.handle = none

/-- No two endings describe the same outcome. -/
theorem Describes.eq_of [LT τ] {plan : Plan τ} {es : List (Exchange τ)} {f : Flight}
    {o : Acquired τ} {c : Cell τ} {ending : Ending} (h : ending.Describes plan es f o c) :
    ending = of o := by
  cases ending with
  | delivered =>
    obtain ⟨handle, rfl, -⟩ := h
    rfl
  | refused =>
    obtain ⟨d, cause, rfl, -⟩ := h
    rfl
  | late =>
    obtain ⟨t, rfl, -⟩ := h
    rfl
  | broken =>
    obtain ⟨fault, rfl, -⟩ := h
    rfl

end Ending

variable [Clock τ] {plan : Plan τ} {f : Flight} {c : Cell τ}

/-- What could not be brought up decides how provisioning ends, if nothing was exchanged for it
before. -/
theorem describes_of_ends {t : BringUp.Task τ} {condition : Condition}
    (hd : t.descriptor = plan.service ∨ t.descriptor = plan.pod)
    (host : t.nodeHost = plan.nodeHost)
    (pace : t.pace = plan.poll.forKind t.descriptor.kind)
    (hcond : condition = t.descriptor.kind.ready) {before ps : List (Exchange τ)}
    {e : AcquireError τ}
    (ends : BringUp.Ends t ps (.error e : Except (AcquireError τ) (Ready condition τ)))
    (apart : ∀ x ∈ before, x.request.address? ≠ some t.descriptor.address)
    (left : c.Shows f (.error e)) :
    (Ending.of (.error e)).Describes plan (before ++ ps) f (.error e) c := by
  cases ends with
  | unread read =>
    rw [host] at read
    exact ⟨_, _, rfl, ⟨hd, before, _, rfl, Or.inl ⟨read, apart⟩⟩, left⟩
  | @uncreated first e f create =>
    rw [host] at create
    exact ⟨_, _, rfl, ⟨hd, before ++ first, e, by simp, Or.inr create⟩, left⟩
  | @late first e seen attempts elapsed read hides late =>
    rw [host] at read
    subst hcond
    have address : t.descriptor.address = plan.service.address ∨
        t.descriptor.address = plan.pod.address :=
      hd.imp (congrArg Descriptor.address) (congrArg Descriptor.address)
    refine ⟨_, rfl, ⟨address, congrArg Pace.deadline pace, late, ?_⟩, left⟩
    exact ⟨before ++ first, e, seen, by simp, read, hides, rfl⟩
  | broken broken => exact ⟨_, rfl, broken.append before, left⟩

/-- **The last exchange explains what came of provisioning.** -/
theorem Course.describes {es : List (Exchange τ)} {o : Acquired τ} (h : Course plan es o)
    (hc : c.Shows f o) : (Ending.of o).Describes plan es f o c := by
  cases h with
  | service service =>
    have pace : (serviceTask plan).pace = plan.poll.forKind plan.service.kind := by
      simp [serviceTask, plan.service_kind, PollSettings.forKind]
    have ready : endpointAssigned = plan.service.kind.ready := by
      simp [plan.service_kind, Kind.ready]
    have apart : ∀ x ∈ ([] : List (Exchange τ)),
        x.request.address? ≠ some (serviceTask plan).descriptor.address := by simp
    exact describes_of_ends (Or.inl rfl) rfl pace ready service.ends apart hc
  | @both es ps r o service pod =>
    cases o with
    | error e =>
      have pace : (podTask plan).pace = plan.poll.forKind plan.pod.kind := by
        simp [podTask, plan.pod_kind, PollSettings.forKind]
      have ready : phaseRunning = plan.pod.kind.ready := by
        simp [plan.pod_kind, Kind.ready]
      have apart : ∀ x ∈ es, x.request.address? ≠ some (podTask plan).descriptor.address :=
        fun x hx ha => plan.pod_address_ne (service.address hx ha)
      exact describes_of_ends (Or.inr rfl) rfl pace ready pod.ends apart hc
    | ok q =>
      have hservice := service.ends
      have hpod := pod.ends
      cases hservice with
      | @ready before e _ read =>
        cases hpod with
        | @ready first p _ seen =>
          refine ⟨_, rfl, ⟨?_, ?_, ⟨rfl, rfl, rfl⟩, ⟨rfl, rfl, rfl⟩⟩, hc⟩
          · have running : q.state.phase = some "Running" := by simpa [phaseRunning] using q.holds
            exact ⟨before ++ [e] ++ first, p, q.state, by simp, seen, running⟩
          · refine ⟨before, e, r.state, first ++ [p], by simp, read, ?_, ?_⟩
            · exact (Option.some_get _).symm
            · exact fun d hd ha => plan.pod_address_ne (pod.address hd ha).symm

end Provision

/-! ## Histories -/

section Histories

open Crew Position

variable [Clock τ] {plan : Plan τ}

/-- A thread that has published a flight completes it next. -/
theorem Crew.Step.of_complete {crew crew' : Crew τ} {x : Stride τ} (h : Step plan crew x crew')
    {f : Flight} {o : Acquired τ} (hp : crew.At x.thread (.complete f o)) :
    x = ⟨x.thread, some (.complete f o), .acquired f o, none⟩ ∧
      crew'.cell = crew.cell.completed f o := by
  rcases h.begins_or_goes with ⟨-, hended, -, -⟩ | ⟨p, hat, hsource, hg⟩
  · exact (hended _ hp).elim
  · obtain rfl : p = .complete f o := Option.some.inj (hat.symm.trans hp)
    obtain ⟨t, source, q, e⟩ := x
    subst hsource
    generalize crew'.cell = c' at hg ⊢
    cases hg with
    | enter door free => simp [door?] at door
    | complete => exact ⟨rfl, rfl⟩

namespace History

variable {h : History plan} {t : ThreadId} {f : Flight} {o : Acquired τ}

/-- Who completes a flight has published it. -/
theorem Completes.exists_publishes {n : ℕ} (hn : h.Completes n t f o) :
    ∃ m, m < n ∧ h.Publishes m t f o := by
  have hp : (h.crew n).At t (.complete f o) := (h.step hn).source
  have h0 : ¬ (h.crew 0).Stands t (Finishes f o) := by simp [h.start, Stands, At]
  obtain ⟨m, -, hmn, hpub⟩ := publishes_of_finishes (Nat.zero_le n) h0 ⟨_, hp, rfl, rfl⟩
  exact ⟨m, hmn, hpub⟩

/-- A thread that has published a flight stays where it is until it completes the flight. -/
theorem Publishes.at_complete {m k n : ℕ} (hm : h.Publishes m t f o) (hmk : m < k) (hkn : k ≤ n)
    (hn : h.Completes n t f o) : (h.crew k).At t (.complete f o) := by
  have hs : (h.crew (m + 1)).At t (.complete f o) := (h.step hm).at_target
  refine lasting (P := fun crew => crew.At t (.complete f o)) hmk ?_ hs
  intro j x hmj hjk hx hj
  by_cases ht : t = x.thread
  · subst ht
    have hdone : h.Completes j x.thread f o :=
      hx.trans (congrArg some ((h.step hx).of_complete hj).1)
    exact absurd (hdone.unique hn) (Nat.ne_of_lt (Nat.lt_of_lt_of_le hjk hkn))
  · exact (h.step hx).at_iff.2 (Or.inr ⟨ht, hj⟩)

/-- A publication shows in the cell. -/
theorem Publishes.shows {m : ℕ} (hm : h.Publishes m t f o) : (h.crew (m + 1)).cell.Shows f o := by
  have hp : (h.crew m).At t (.publish f o) := (h.step hm).source
  rw [hm.spec.2.2]
  cases o with
  | ok handle => exact ⟨rfl, rfl⟩
  | error e => exact ⟨rfl, ((h.coherent m).unready_of_publish hp).2.2⟩

/-- What was published is still there if nobody else has made a step. -/
theorem Publishes.shows_alone {m k n : ℕ} (hm : h.Publishes m t f o) (hmk : m < k)
    (hkn : k ≤ n + 1) (hn : h.Completes n t f o)
    (alone : ∀ j x, m < j → j < k → h.stride j = some x → x.thread = t) :
    (h.crew k).cell.Shows f o := by
  refine lasting (P := fun crew => crew.cell.Shows f o) hmk ?_ hm.shows
  intro j x hmj hjk hx hj
  obtain rfl := alone j x hmj hjk hx
  have hat := hm.at_complete hmj (Nat.le_of_lt_succ (Nat.lt_of_lt_of_le hjk hkn)) hn
  rw [((h.step hx).of_complete hat).2]
  cases o <;> exact hj

/-- **Exactly one ending.**  When an `acquire` that has run a provisioning sequence returns, exactly
one of the four endings describes the exchanges of the sequence, what the `acquire` returns or
raises, and the cell, from the publication until it returns or another thread makes a step. -/
theorem ending {n : ℕ} (hn : h.Completes n t f o) :
    ∃ m, m < n ∧ h.Publishes m t f o ∧ ∀ k, m < k → k ≤ n + 1 →
      (∀ j x, m < j → j < k → h.stride j = some x → x.thread = t) →
      ∃! ending : Provision.Ending,
        ending.Describes plan (h.exchangesOf f n) f o (h.crew k).cell := by
  obtain ⟨m, hmn, hm⟩ := hn.exists_publishes
  refine ⟨m, hmn, hm, ?_⟩
  intro k hmk hkn alone
  have hp : (h.crew n).At t (.complete f o) := (h.step hn).source
  have reached : (h.crew n).Reached f (.done o) :=
    Or.inr ⟨o, rfl, Or.inl ⟨t, _, hp, rfl, rfl⟩⟩
  have course : Provision.Course plan (h.exchangesOf f n) o :=
    Provision.course_of_trace (trace_of_reached reached)
  have left : (h.crew k).cell.Shows f o := hm.shows_alone hmk hkn hn alone
  exact ⟨.of o, course.describes left, fun _ hd => hd.eq_of⟩

end History

end Histories

/-! ### A delivery -/

/-- Exact time, in ticks. -/
structure Tick where
  count : ℕ

instance : Clock Tick where
  add a b := ⟨a.count + b.count⟩
  sub a b := ⟨a.count - b.count⟩
  lt a b := a.count < b.count
  zero := ⟨0⟩
  decidableLT a b := inferInstanceAs (Decidable (a.count < b.count))

namespace Delivery

open Crew

/-- A database behind a Service that can be reached inside the cluster. -/
def plan : Plan Tick := Plan.ofSettings {} {} ⟨⟨⟨1⟩, ⟨30⟩⟩, ⟨⟨5⟩, ⟨300⟩⟩⟩

/-- The Service as the cluster shows it. -/
def service : View where
  spec := some { ports := some [{ port := some 5432 }], clusterIP := some "10.0.0.7" }

/-- The Pod as the cluster shows it. -/
def pod : View where
  status := some { phase := some "Running" }

/-- Where the Service can be reached. -/
def endpoint : Endpoint := ⟨"10.0.0.7", some 5432⟩

/-- What is delivered. -/
def handle : Handle := Provision.handle plan endpoint

/-- The provisioning of the Pod. -/
def second : Provision.Stage Tick := .pod endpoint (.ensuring .reading)

/-- What the threads share while the flight is in progress. -/
def provisioning : Cell Tick := { status := .provisioning, inflight := some 0, flights := [none] }

/-- What they share when it is published. -/
def ready : Cell Tick := { status := .ready, handle := some (0, handle), flights := [none] }

/-- One thread acquires, and finds both objects ready. -/
theorem run : ∃ xs crew, History.Run plan xs crew ∧
    xs[8]? = some ⟨0, some (.complete 0 (.ok handle)), .acquired 0 (.ok handle), none⟩ := by
  have begins : Step plan ⟨{}, []⟩ ⟨0, none, .acquire, none⟩ ⟨{}, [.acquire]⟩ := .enlist trivial
  have enters : Step plan ⟨{}, [.acquire]⟩ ⟨0, some .acquire, .claim, none⟩
      ⟨{ lock := some 0 }, [.claim]⟩ := .silent rfl rfl
  have claims : Step plan ⟨{ lock := some 0 }, [.claim]⟩
      ⟨0, some .claim, .provision 0 Provision.start, none⟩
      ⟨provisioning, [.provision 0 Provision.start]⟩ := .silent rfl rfl
  have reads : Step plan ⟨provisioning, [.provision 0 Provision.start]⟩
      ⟨0, some (.provision 0 Provision.start), .provision 0 second,
        some ⟨.read plan.service.address, ⟨.ok service, ⟨1⟩⟩⟩⟩
      ⟨provisioning, [.provision 0 second]⟩ :=
    @Step.ask _ _ plan ⟨provisioning, [.provision 0 Provision.start]⟩ 0 _ _ _ ⟨.ok service, ⟨1⟩⟩
      rfl rfl
  have observes : Step plan ⟨provisioning, [.provision 0 second]⟩
      ⟨0, some (.provision 0 second), .provision 0 (.done (.ok handle)),
        some ⟨.read plan.pod.address, ⟨.ok pod, ⟨2⟩⟩⟩⟩
      ⟨provisioning, [.provision 0 (.done (.ok handle))]⟩ :=
    @Step.ask _ _ plan ⟨provisioning, [.provision 0 second]⟩ 0 _ _ _ ⟨.ok pod, ⟨2⟩⟩ rfl rfl
  have lands : Step plan ⟨provisioning, [.provision 0 (.done (.ok handle))]⟩
      ⟨0, some (.provision 0 (.done (.ok handle))), .land 0 (.ok handle), none⟩
      ⟨provisioning, [.land 0 (.ok handle)]⟩ := .silent rfl rfl
  have returns : Step plan ⟨provisioning, [.land 0 (.ok handle)]⟩
      ⟨0, some (.land 0 (.ok handle)), .publish 0 (.ok handle), none⟩
      ⟨provisioning.taken 0, [.publish 0 (.ok handle)]⟩ := .silent rfl rfl
  have publishes : Step plan ⟨provisioning.taken 0, [.publish 0 (.ok handle)]⟩
      ⟨0, some (.publish 0 (.ok handle)), .complete 0 (.ok handle), none⟩
      ⟨ready, [.complete 0 (.ok handle)]⟩ := .silent rfl rfl
  have completes : Step plan ⟨ready, [.complete 0 (.ok handle)]⟩
      ⟨0, some (.complete 0 (.ok handle)), .acquired 0 (.ok handle), none⟩
      ⟨ready.completed 0 (.ok handle), [.acquired 0 (.ok handle)]⟩ := .silent rfl rfl
  exact ⟨_, _, (((((((((History.Run.nil).snoc begins).snoc enters).snoc claims).snoc reads).snoc
    observes).snoc lands).snoc returns).snoc publishes).snoc completes, rfl⟩

/-- The thread that acquires in `Delivery.run` ends in exactly one way. -/
theorem ending_of_delivery : ∃ h : History plan, h.Completes 8 0 0 (.ok handle) ∧
    ∃ m, m < 8 ∧ h.Publishes m 0 0 (.ok handle) ∧ ∃! ending : Provision.Ending,
      ending.Describes plan (h.exchangesOf 0 8) 0 (.ok handle) (h.crew (m + 1)).cell := by
  obtain ⟨xs, crew, run, last⟩ := run
  obtain ⟨h, hstride, -⟩ := History.exists_of_run run
  have completes : h.Completes 8 0 0 (.ok handle) := (hstride 8).trans last
  obtain ⟨m, hm, publishes, ending⟩ := History.ending completes
  refine ⟨h, completes, m, hm, publishes, ending (m + 1) (Nat.lt_succ_self m) ?_ ?_⟩
  · exact Nat.succ_le_succ (Nat.le_of_lt hm)
  · exact fun j x hmj hj _ => absurd (Nat.lt_succ_iff.1 hj) (Nat.not_le.2 hmj)

end Delivery

end EphemeralDatabase
