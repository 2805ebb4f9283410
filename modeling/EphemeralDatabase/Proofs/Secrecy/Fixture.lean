import EphemeralDatabase.Proofs.Lifecycle.Solo
import EphemeralDatabase.Proofs.Secrecy.Twins

/-!
# A fixture with a masked password

A fixture holds the password in its plan, in the handles of its cell, and in the errors of its
flights, where the Pod that could not be provisioned is kept whole.  The masked fixture holds the
mask in all of these places.

Nothing that a thread does depends on what is masked.  Where a fixture makes a step, the masked one
makes the same step from the masked cell and place to the masked ones, reports the same and asks for
what is masked to the same (`Plan.move_masked`).  So a whole call on a fixture and the same call on
the masked one are twins (`Fixture.call_twins`), and fixtures that are masked to the same cannot be
told apart but by what is masked.
-/

namespace EphemeralDatabase

variable {τ ω : Type}

/-! ## Stages -/

/-- What came of ensuring that an object exists, with the password masked. -/
def Ensured.masked : Ensured → Ensured
  | failed d cause => failed d.masked cause
  | r => r

/-- Ensuring, with the password masked in what it came to. -/
def Ensure.Stage.masked : Ensure.Stage → Ensure.Stage
  | done r => done (r.map Ensured.masked)
  | s => s

namespace BringUp

variable {condition : Condition}

/-- The object to bring up, with the password masked. -/
def Task.masked (t : Task τ) : Task τ := { t with descriptor := t.descriptor.masked }

/-- Bringing up, with the password masked in what it came to. -/
def Stage.masked : Stage condition τ → Stage condition τ
  | ensuring s => ensuring s.masked
  | waiting w s => waiting w s
  | done (.ok r) => done (.ok r)
  | done (.error e) => done (.error e.masked)

end BringUp

/-- Provisioning, with the password masked in what it came to. -/
def Provision.Stage.masked : Provision.Stage τ → Provision.Stage τ
  | service s => service s.masked
  | pod endpoint s => pod endpoint s.masked
  | done outcome => done (Acquired.masked outcome)

/-! ### Ensuring -/

namespace Ensure

variable (nodeHost : String) (d : Descriptor) (s : Stage)

/-- What is asked of the cluster is masked to the same. -/
theorem ask_masked :
    (ask d.masked s.masked : Option (Request τ)).map Request.masked =
      (ask d s).map Request.masked := by
  cases s with
  | creating =>
    obtain ⟨space, name, spec, labels⟩ := d
    cases spec with
    | network spec => rfl
    | workload spec =>
      have hpod : (Descriptor.address ⟨space, name, .workload spec, labels⟩).kind = .pod := rfl
      simp [ask, Stage.masked, Request.masked, Request.onPodBody, hpod, Descriptor.manifest_masked]
  | reading | done => simp [ask, Stage.masked]

/-- **Ensuring goes on the same way.** -/
theorem resume_masked (reply : Reply τ) : resume nodeHost d.masked s.masked reply =
    ((resume nodeHost d s reply).1.masked, (resume nodeHost d s reply).2) := by
  cases s with
  | reading =>
    simp only [resume, Stage.masked, Descriptor.masked_address]
    rcases readOutcome nodeHost d.address reply.answer with fault | _ | _ | _ <;>
      simp [afterRead, Except.map, Ensured.masked]
  | creating =>
    simp only [resume, Stage.masked, Descriptor.masked_address]
    rcases createOutcome nodeHost d.address reply.answer with fault | _ | _ <;>
      simp [afterCreate, Except.map, Ensured.masked]
  | done r => rfl

end Ensure

/-! ### Bringing up one object -/

namespace BringUp

variable {condition : Condition} (t : Task τ)

theorem ask_masked (s : Stage condition τ) :
    (ask t.masked s.masked).map Request.masked = (ask t s).map Request.masked := by
  match s with
  | .ensuring s => exact Ensure.ask_masked t.descriptor s
  | .waiting w s | .done (.ok r) | .done (.error e) => rfl

theorem settle_masked (w : Watch τ) (s : Poll.Stage condition τ) :
    (settle w s).masked = settle w s := by
  match s with
  | .reading _ | .sleeping _ | .done (.ok (.ready _)) | .done (.ok (.timedOut _))
  | .done (.error _) => rfl

variable [Clock τ]

theorem wait_masked (time : τ) (observed : Option ResourceState) :
    (wait t.masked time observed : Stage condition τ × List (Event τ)) =
      (wait t time observed).map Stage.masked id := by
  simp only [wait, settle_masked, Task.masked, Descriptor.masked_address, Prod.map_apply, id]

theorem proceed_masked (time : τ) (s : Ensure.Stage) :
    (proceed t.masked time s.masked : Stage condition τ × List (Event τ)) =
      (proceed t time s).map Stage.masked id := by
  match s with
  | .done (.ok (.existed s)) => exact wait_masked t time (some s)
  | .done (.ok (.created s)) => exact wait_masked t time none
  | .reading | .creating | .done (.ok (.failed d f)) | .done (.error fault) => rfl

/-- **Bringing up goes on the same way.** -/
theorem resume_masked (s : Stage condition τ) (reply : Reply τ) :
    resume t.masked s.masked reply = ((resume t s reply).1.masked, (resume t s reply).2) := by
  match s with
  | .ensuring s =>
    have ensure : Ensure.resume t.masked.nodeHost t.masked.descriptor s.masked reply = _ :=
      Ensure.resume_masked t.nodeHost t.descriptor s reply
    simp only [resume, Stage.masked, ensure, proceed_masked, Prod.map_fst, Prod.map_snd, id]
  | .waiting w s => exact Prod.ext (settle_masked w _).symm rfl
  | .done (.ok r) | .done (.error e) => rfl

end BringUp

/-! ### Provisioning -/

/-- The plan with the password masked. -/
def Plan.masked (plan : Plan τ) : Plan τ :=
  { plan with
    service := plan.service.masked
    pod := plan.pod.masked
    password := mask
    service_kind := plan.service.masked_kind.trans plan.service_kind
    pod_kind := plan.pod.masked_kind.trans plan.pod_kind }

/-- **Plans for settings that differ in the password only are masked to the same.** -/
theorem Plan.ofSettings_masked (c : ClusterSettings) {d d' : DatabaseSettings}
    (h : d.masked = d'.masked) (poll : PollSettings τ) :
    (ofSettings c d poll).masked = (ofSettings c d' poll).masked := by
  have hpod := podDescriptor_masked c h
  obtain ⟨password, rfl⟩ := DatabaseSettings.masked_eq_iff.1 h
  simp only [masked, ofSettings, hpod]
  rfl

@[simp] theorem Plan.masked_teardownOrder (plan : Plan τ) :
    plan.masked.teardownOrder = plan.teardownOrder := by
  simp [teardownOrder, masked]

namespace Provision

variable (plan : Plan τ)

theorem ask_masked (s : Stage τ) :
    (ask plan.masked s.masked).map Request.masked = (ask plan s).map Request.masked := by
  cases s with
  | service s => exact BringUp.ask_masked (serviceTask plan) s
  | pod endpoint s => exact BringUp.ask_masked (podTask plan) s
  | done o => rfl

theorem afterService_masked (s : BringUp.Stage endpointAssigned τ) :
    afterService s.masked = (afterService s).masked := by
  match s with
  | .ensuring s | .waiting w s | .done (.ok r) | .done (.error e) => rfl

theorem afterPod_masked (endpoint : Endpoint) (s : BringUp.Stage phaseRunning τ) :
    afterPod plan.masked endpoint s.masked = (afterPod plan endpoint s).masked := by
  match s with
  | .ensuring s | .waiting w s | .done (.ok r) | .done (.error e) => rfl

/-- **Provisioning goes on the same way with a masked password**, and comes to a handle with it. -/
theorem resume_masked [Clock τ] (s : Stage τ) (reply : Reply τ) :
    resume plan.masked s.masked reply =
      ((resume plan s reply).1.masked, (resume plan s reply).2) := by
  cases s with
  | service s =>
    have service : BringUp.resume (serviceTask plan.masked) s.masked reply = _ :=
      BringUp.resume_masked (serviceTask plan) s reply
    simp only [resume, Stage.masked, service, afterService_masked]
  | pod endpoint s =>
    have pod : BringUp.resume (podTask plan.masked) s.masked reply = _ :=
      BringUp.resume_masked (podTask plan) s reply
    simp only [resume, Stage.masked, pod, afterPod_masked]
  | done o => rfl

end Provision

/-! ## Cells and positions -/

/-- The cell with the password masked in its handle and in what came of its flights. -/
def Cell.masked (c : Cell τ) : Cell τ :=
  { c with
    handle := c.handle.map fun held => (held.1, held.2.masked)
    flights := c.flights.map fun outcome => outcome.map Acquired.masked }

/-- Where a thread stands, with the password masked in what it has got. -/
def Position.masked : Position τ → Position τ
  | provision flight stage => provision flight stage.masked
  | land flight outcome => land flight (Acquired.masked outcome)
  | publish flight outcome => publish flight (Acquired.masked outcome)
  | complete flight outcome => complete flight (Acquired.masked outcome)
  | acquired flight outcome => acquired flight (Acquired.masked outcome)
  | p => p

namespace Cell

variable (c : Cell τ)

@[simp] theorem masked_status : c.masked.status = c.status := rfl

@[simp] theorem masked_handle :
    c.masked.handle = c.handle.map fun held => (held.1, held.2.masked) := rfl

@[simp] theorem masked_inflight : c.masked.inflight = c.inflight := rfl

@[simp] theorem masked_freed : c.masked.freed = c.freed.masked := rfl

@[simp] theorem masked_cleared : c.masked.cleared = c.cleared.masked := rfl

@[simp] theorem masked_length : c.masked.flights.length = c.flights.length := List.length_map _

@[simp] theorem masked_claimed : c.masked.claimed = c.claimed.masked := by
  simp [claimed, masked]

@[simp] theorem masked_published (flight : Flight) (o : Acquired τ) :
    c.masked.published flight (Acquired.masked o) = (c.published flight o).masked := by
  cases o <;> rfl

@[simp] theorem masked_completed (flight : Flight) (o : Acquired τ) :
    c.masked.completed flight (Acquired.masked o) = (c.completed flight o).masked := by
  simp [completed, masked, List.map_set]

@[simp] theorem masked_outcome? (flight : Flight) :
    c.masked.outcome? flight = (c.outcome? flight).map Acquired.masked := by
  simp only [outcome?, masked, List.getElem?_map]
  rcases c.flights[flight]? with _ | _ | o <;> rfl

end Cell

/-! ## Moves -/

/-- Two moves that do the same, the second with a masked password. -/
inductive Move.Twins : Move τ → Move τ → Prop
  | blocked : Twins .blocked .blocked
  | finished : Twins .finished .finished
  | silent (c : Cell τ) (next : Position τ) (events : List (Event τ)) :
      Twins (.silent c next events) (.silent c.masked next.masked events)
  | ask {request request' : Request τ} {resume resume' : Reply τ → Position τ × List (Event τ)}
      (masked : request.masked = request'.masked)
      (resumes : ∀ reply, resume' reply = ((resume reply).1.masked, (resume reply).2)) :
      Twins (.ask request resume) (.ask request' resume')

namespace Cell

theorem enter_masked (c : Cell τ) (self : ThreadId) (next : Position τ) :
    Move.Twins (c.enter self next) (c.masked.enter self next.masked) := by
  unfold enter
  split
  · rw [if_pos ‹_›]
    exact .silent _ _ _
  · rw [if_neg ‹_›]
    exact .blocked

/-- With a handle to hand out, it is handed out. -/
theorem claim_of_ready {c : Cell τ} {flight : Flight} {handle : Handle}
    (ready : c.status = .ready) (held : c.handle = some (flight, handle)) :
    c.claim = .silent c.freed (.acquired flight (.ok handle)) [] := by
  simp [claim, ready, held]

/-- Without one, a flight is joined or claimed. -/
theorem claim_of_unready {c : Cell τ} (h : ¬ (c.status = .ready ∧ c.handle.isSome)) :
    c.claim = match c.inflight with
      | some flight => .silent c.freed (.join flight) [.joined]
      | none => .silent c.claimed.freed (.provision c.flights.length Provision.start) [] := by
  unfold claim
  split
  · simp_all
  · rfl

theorem claim_masked (c : Cell τ) : Move.Twins c.claim c.masked.claim := by
  by_cases h : c.status = .ready ∧ c.handle.isSome
  · obtain ⟨ready, hheld⟩ := h
    obtain ⟨⟨flight, handle⟩, held⟩ := Option.isSome_iff_exists.1 hheld
    have held' : c.masked.handle = some (flight, handle.masked) := by simp [held]
    have ready' : c.masked.status = .ready := ready
    rw [claim_of_ready ready held, claim_of_ready ready' held', masked_freed]
    exact .silent _ (.acquired flight (.ok handle)) _
  · have h' : ¬ (c.masked.status = .ready ∧ c.masked.handle.isSome) := by simpa using h
    rw [claim_of_unready h, claim_of_unready h', masked_inflight, masked_claimed, masked_freed,
      masked_freed, masked_length]
    cases c.inflight with
    | some flight => exact .silent _ (.join flight) _
    | none => exact .silent _ (.provision _ Provision.start) _

end Cell

section Moves

variable [Clock τ]

/-- Provisioning with nothing to ask for has to wait, unless it is done. -/
theorem Plan.move_of_quiet {plan : Plan τ} {self : ThreadId} {c : Cell τ} {flight : Flight}
    {s : Provision.Stage τ} (quiet : Provision.ask plan s = none) (unfinished : ∀ o, s ≠ .done o) :
    plan.move self c (.provision flight s) = .blocked := by
  cases s with
  | done o => exact absurd rfl (unfinished o)
  | service s => simp [move, quiet]
  | pod endpoint s => simp [move, quiet]

variable (plan : Plan τ) (self : ThreadId) (c : Cell τ)

theorem Plan.move_provision_masked (flight : Flight) (s : Provision.Stage τ) :
    Move.Twins (plan.move self c (.provision flight s))
      (plan.masked.move self c.masked (.provision flight s.masked)) := by
  have masked := Provision.ask_masked plan s
  cases hask : Provision.ask plan s with
  | some request =>
    obtain ⟨request', hask', hmasked⟩ : ∃ request',
        Provision.ask plan.masked s.masked = some request' ∧
          request'.masked = request.masked := by
      simpa [hask] using masked
    rw [move_provision hask, move_provision hask']
    refine .ask hmasked.symm fun reply => ?_
    rw [Provision.resume_masked plan s reply]
    rfl
  | none =>
    have hask' : Provision.ask plan.masked s.masked = none := by
      simpa [hask] using masked
    cases s with
    | done o => exact .silent c (.land flight o) []
    | service s =>
      rw [move_of_quiet hask (by simp), move_of_quiet hask' (by simp [Provision.Stage.masked])]
      exact .blocked
    | pod endpoint s =>
      rw [move_of_quiet hask (by simp), move_of_quiet hask' (by simp [Provision.Stage.masked])]
      exact .blocked

/-- **With a masked password a thread makes the same moves.** -/
theorem Plan.move_masked (p : Position τ) :
    Move.Twins (plan.move self c p) (plan.masked.move self c.masked p.masked) := by
  cases p with
  | acquire => exact c.enter_masked self .claim
  | claim => exact c.claim_masked
  | join flight =>
    simp only [move, Position.masked, Cell.masked_outcome?]
    cases c.outcome? flight with
    | some o => exact .silent c (.acquired flight o) []
    | none => exact .blocked
  | provision flight s => exact plan.move_provision_masked self c flight s
  | land flight o => exact c.enter_masked self (.publish flight o)
  | publish flight o =>
    simp only [move, Position.masked, Cell.masked_published, Cell.masked_freed]
    exact .silent _ (.complete flight o) []
  | complete flight o =>
    have hevents : landingEvents (Acquired.masked o) = landingEvents o := by
      cases o <;> rfl
    simp only [move, Position.masked, Cell.masked_completed, hevents]
    exact .silent _ (.acquired flight o) _
  | acquired flight o => exact .finished
  | release strict => exact c.enter_masked self (.peek strict)
  | peek strict =>
    simp only [move, Position.masked, Cell.masked_inflight, Cell.masked_freed]
    cases c.inflight with
    | some flight => exact .silent _ (.await strict flight) []
    | none => exact .silent _ (.descend strict) []
  | await strict flight =>
    simp only [move, Position.masked, Cell.masked_outcome?]
    cases c.outcome? flight with
    | some o => exact .silent c (.descend strict) []
    | none => exact .blocked
  | descend strict => exact c.enter_masked self (.decide strict)
  | decide strict =>
    simp only [move, Position.masked, Cell.masked_status, Cell.masked_freed, masked_teardownOrder]
    split
    · exact .silent c (.tearDown strict _) []
    · exact .silent _ (.released _) _
  | tearDown strict s =>
    simp only [move, Position.masked, Cell.masked_cleared, Cell.masked_freed]
    cases Teardown.ask s with
    | some request => exact .ask rfl fun reply => rfl
    | none => exact .silent _ (.released _) []
  | released result => exact .finished

end Moves

/-! ## Calls -/

namespace Crew

/-- The crew with the password masked in its cell and in what its threads have got. -/
def masked (crew : Crew τ) : Crew τ := ⟨crew.cell.masked, crew.threads.map Position.masked⟩

theorem place_masked (crew : Crew τ) (self : ThreadId) (c : Cell τ) (p : Position τ) :
    crew.masked.place self c.masked p.masked = (crew.place self c p).masked := by
  simp [place, masked, List.map_set]

variable [Clock τ] (plan : Plan τ) {world : World τ ω}

theorem move_masked (crew : Crew τ) (self : ThreadId) :
    Move.Twins (crew.move plan self) (crew.masked.move plan.masked self) := by
  simp only [move, masked, List.getElem?_map]
  cases crew.threads[self]? with
  | some p => exact plan.move_masked self crew.cell p
  | none => exact .finished

/-- **A thread that goes on as far as it can does the same with a masked password.** -/
theorem advance_twins (shy : Bool) (self : ThreadId) (fuel : ℕ) (crew : Crew τ) :
    Act.Twins world (fun crew crew' => crew' = crew.masked) (advance plan world shy self fuel crew)
      (advance plan.masked world shy self fuel crew.masked) := by
  induction fuel generalizing crew with
  | zero => exact .pure rfl
  | succ fuel ih =>
    have hmove := crew.move_masked plan self
    rw [advance, advance]
    generalize crew.move plan self = m at hmove ⊢
    generalize crew.masked.move plan.masked self = m' at hmove ⊢
    cases hmove with
    | blocked => exact .pure rfl
    | finished => exact .pure rfl
    | silent c next events =>
      refine (Act.steady_report events).bind fun _ _ _ => ?_
      rw [place_masked]
      exact ih _
    | ask masked resumes =>
      cases shy with
      | true => exact .pure rfl
      | false =>
        refine (Act.Twins.request masked).bind fun reply _ hreply => ?_
        subst hreply
        rw [resumes]
        refine (Act.steady_report _).bind fun _ _ _ => ?_
        have hcell : crew.masked.cell = crew.cell.masked := rfl
        rw [hcell, place_masked]
        exact ih _

end Crew

namespace Fixture

/-- The fixture with the password masked. -/
def masked (f : Fixture τ) : Fixture τ := ⟨f.plan.masked, f.cell.masked⟩

@[simp] theorem masked_status (f : Fixture τ) : f.masked.cell.status = f.cell.status := rfl

@[simp] theorem masked_handle? (f : Fixture τ) :
    f.masked.handle? = f.handle?.map Handle.masked := by
  simp only [handle?, masked, Cell.masked_handle, Option.map_map]
  rfl

theorem acquiredAt?_masked (p? : Option (Position τ)) :
    acquiredAt? (p?.map Position.masked) =
      (acquiredAt? p?).map fun got => (got.1, Acquired.masked got.2) := by
  cases p? with
  | none => rfl
  | some p => cases p <;> rfl

theorem releasedAt?_masked (p? : Option (Position τ)) :
    releasedAt? (p?.map Position.masked) = releasedAt? p? := by
  cases p? with
  | none => rfl
  | some p => cases p <;> rfl

variable [Clock τ] {world : World τ ω} (f : Fixture τ)

/-- **What is called on a fixture and on the masked one does the same and comes to the same**, but
for what is masked. -/
theorem call_twins (p : Position τ) :
    Act.Twins world
      (fun done done' => done'.1 = done.1.masked ∧ done'.2 = done.2.map Position.masked)
      (f.call world p) (f.masked.call world p.masked) := by
  unfold call
  refine (Crew.advance_twins f.plan false 0 patience ⟨f.cell, [p]⟩).bind ?_
  rintro crew _ rfl
  refine .pure ⟨rfl, ?_⟩
  simp [Crew.masked]

/-- **Acquiring gives the same but for what is masked.** -/
theorem acquire_twins :
    Act.Twins world
      (fun done done' => done'.1 = done.1.masked ∧ done'.2 = done.2.map Acquired.masked)
      (f.acquire world) (f.masked.acquire world) := by
  refine (f.call_twins .acquire).bind ?_
  rintro ⟨g, p?⟩ ⟨_, _⟩ ⟨rfl, rfl⟩
  refine .pure ⟨rfl, ?_⟩
  simp [acquiredAt?_masked, Function.comp_def]

/-- **Releasing gives the same.** -/
theorem release_twins (strict : Bool) :
    Act.Twins world (fun done done' => done'.1 = done.1.masked ∧ done'.2 = done.2)
      (f.release world strict) (f.masked.release world strict) := by
  refine (f.call_twins (.release strict)).bind ?_
  rintro ⟨g, p?⟩ ⟨_, _⟩ ⟨rfl, rfl⟩
  exact .pure ⟨rfl, releasedAt?_masked p?⟩

end Fixture

end EphemeralDatabase
