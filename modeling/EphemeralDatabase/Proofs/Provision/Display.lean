import EphemeralDatabase.Proofs.Lifecycle.Cycle
import EphemeralDatabase.Proofs.Poll.Exact
import EphemeralDatabase.Proofs.Server.Scene

/-!
# Provisioning on a server that shows what it holds

What bringing up an object comes to on such a server, when the object is not there.  It is created
and then waited for.  A Service whose document says where to reach it is ready at the first look
(`exists_service_ready`).  One whose document does not is looked at until the deadline has passed,
which it does after enough pauses, since time has no end (`exists_service_late`).  A Pod is ready at
the second look at the latest (`exists_pod_ready`).

Every world is meant that behaves like the server, and is followed beside it.
-/

namespace EphemeralDatabase

variable {τ ω : Type} [AddCommGroup τ] [LinearOrder τ] {world : World τ ω} {ip : String}
  {like : ω → Scene τ → Prop}

/-! ## Single requests -/

namespace World.Imitates

variable (h : world.Imitates (Displays ip) like) (p : Likeness like)

include h

theorem exists_read_absent {a : Address} (nodeHost : String) (absent : p.server.objects a = none) :
    ∃ e q, world.Meets (Displays ip) p e q ∧ q.server = p.server ∧
      e.reply.time = p.server.time ∧ e.Reads nodeHost a (.ok (.notFound a)) := by
  obtain ⟨reply, q, meets⟩ := h.exists_meets p (.read a)
  obtain ⟨hsame, htime, reason, hr⟩ := meets.server.of_read_absent rfl absent
  refine ⟨_, q, meets, hsame, htime, rfl, ?_⟩
  rw [hr]
  rfl

theorem exists_read_there {a : Address} (nodeHost : String) {body : Manifest}
    (there : p.server.objects a = some body) :
    ∃ e q view, world.Meets (Displays ip) p e q ∧ q.server = p.server.looked a ∧
      e.reply.time = p.server.time ∧ Appears ip body a.kind (p.server.looks a) view ∧
      e.Reads nodeHost a (.ok (.found (view.state nodeHost a))) := by
  obtain ⟨reply, q, meets⟩ := h.exists_meets p (.read a)
  obtain ⟨hlooked, htime, view, hr, appears⟩ := meets.server.of_read_there rfl there
  refine ⟨_, q, view, meets, hlooked, htime, appears, rfl, ?_⟩
  rw [hr]
  rfl

theorem exists_create {d : Descriptor} (nodeHost : String)
    (absent : p.server.objects d.address = none) :
    ∃ e q s, world.Meets (Displays ip) p e q ∧
      q.server = p.server.made d.address d.manifest ∧ e.reply.time = p.server.time ∧
      e.Creates nodeHost d (.ok (.made s)) := by
  obtain ⟨reply, q, meets⟩ := h.exists_meets p (.create d.address d.manifest)
  obtain ⟨hmade, htime, view, hr⟩ := meets.server.of_create_absent rfl absent
  refine ⟨_, q, view.state nodeHost d.address, meets, hmade, htime, rfl, ?_⟩
  rw [hr]
  rfl

theorem exists_sleep (seconds : τ) :
    ∃ e q view, world.Meets (Displays ip) p e q ∧ q.server = p.server.later seconds ∧
      e.request = .sleep seconds ∧ e.reply.answer = .ok view := by
  obtain ⟨reply, q, meets⟩ := h.exists_meets p (.sleep seconds)
  obtain ⟨hlater, view, hr⟩ := meets.server.of_sleep rfl
  exact ⟨_, q, view, meets, hlater, rfl, hr⟩

/-- **What is not there is created**, at once. -/
theorem exists_ensure {d : Descriptor} (nodeHost : String)
    (absent : p.server.objects d.address = none) :
    ∃ es e q s, Carries (world.Meets (Displays ip)) p (es ++ [e]) q ∧
      q.server = p.server.made d.address d.manifest ∧ e.reply.time = p.server.time ∧
      Ensure.Course nodeHost d (es ++ [e]) (.ok (.created s)) := by
  obtain ⟨e₁, p₁, first, hsame, -, read⟩ := h.exists_read_absent p nodeHost absent
  rw [← hsame] at absent ⊢
  obtain ⟨e₂, q, s, second, hmade, htime, create⟩ := h.exists_create p₁ nodeHost absent
  refine ⟨[e₁], e₂, q, s, ?_, hmade, htime, .created read create⟩
  exact carries_cons.2 ⟨p₁, first, carries_singleton.2 second⟩

end World.Imitates

/-! ## Services -/

/-- After a pause one pause less is left. -/
theorem Watch.spent_later (w : Watch τ) {d : Scene τ} {pauses : ℕ} :
    w.pace.Spent (w.elapsed (d.later w.pace.interval).time) pauses ↔
      w.pace.Spent (w.elapsed d.time) (pauses + 1) := by
  have pause : w.elapsed (d.later w.pace.interval).time = w.elapsed d.time + w.pace.interval := by
    simp only [elapsed, Scene.later_time]
    abel
  rw [Pace.spent_succ, pause]

/-- What a Service shows of where to reach it is what its document says. -/
theorem Appears.endpoint?_eq {body : Manifest} {looks : ℕ} {view : View}
    (h : Appears ip body .service looks view) (nodeHost : String) :
    view.endpoint? nodeHost = (Simulator.serviceView ip body).endpoint? nodeHost := by
  cases h with
  | service told unbalanced =>
    have ingress : (Simulator.serviceView ip body).ingress = [] := rfl
    rw [View.endpoint?, View.endpoint?, told, unbalanced, ingress]

theorem View.endpoint_state {view : View} {nodeHost : String} {a : Address}
    (service : a.kind = .service) : (view.state nodeHost a).endpoint = view.endpoint? nodeHost := by
  simp [View.state, service]

theorem View.phase_state {view : View} {nodeHost : String} {a : Address} (pod : a.kind = .pod) :
    (view.state nodeHost a).phase = view.status.bind StatusView.phase := by
  simp [View.state, pod]

section Services

variable (h : world.Imitates (Displays ip) like) {w : Watch τ} {body : Manifest}
  (service : w.address.kind = .service)

include h service

/-- A Service whose document says where to reach it is ready at the first look. -/
theorem World.Imitates.exists_service_ready {p : Likeness like}
    (there : p.server.objects w.address = some body) {endpoint : Endpoint}
    (reachable : (Simulator.serviceView ip body).endpoint? w.nodeHost = some endpoint) :
    ∃ e q r, world.Meets (Displays ip) p e q ∧ q.server.objects = p.server.objects ∧
      (Poll.machine w).Trace (.reading 0 : Poll.Stage endpointAssigned τ) [e]
        (.done (.ok (.ready r))) ∧ Provision.endpointOf r = endpoint := by
  obtain ⟨e, q, view, meets, hlooked, -, appears, read⟩ :=
    h.exists_read_there p w.nodeHost there
  rw [service] at appears
  have shown : (view.state w.nodeHost w.address).endpoint = some endpoint := by
    rw [View.endpoint_state service, appears.endpoint?_eq, reachable]
  have holds : endpointAssigned (view.state w.nodeHost w.address) = true := by
    simp [endpointAssigned, shown]
  refine ⟨e, q, _, meets, by rw [hlooked]; rfl, Poll.trace_ready read holds, ?_⟩
  simp [Provision.endpointOf, shown]

/-- One whose document does not is not ready at any look. -/
theorem World.Imitates.exists_service_look
    (unreachable : (Simulator.serviceView ip body).endpoint? w.nodeHost = none) {p : Likeness like}
    (there : p.server.objects w.address = some body) :
    ∃ e q seen, world.Meets (Displays ip) p e q ∧ q.server = p.server.looked w.address ∧
      e.reply.time = p.server.time ∧ e.Reads w.nodeHost w.address (.ok seen) ∧
      seen.shows endpointAssigned = false := by
  obtain ⟨e, q, view, meets, hlooked, htime, appears, read⟩ :=
    h.exists_read_there p w.nodeHost there
  rw [service] at appears
  refine ⟨e, q, _, meets, hlooked, htime, read, ?_⟩
  simp [ReadOutcome.shows, endpointAssigned, View.endpoint_state service, appears.endpoint?_eq,
    unreachable]

/-- So it is waited for until the deadline has passed. -/
theorem World.Imitates.exists_service_late_of_spent
    (unreachable : (Simulator.serviceView ip body).endpoint? w.nodeHost = none) (pauses n : ℕ)
    {p : Likeness like} (there : p.server.objects w.address = some body)
    (spent : w.pace.Spent (w.elapsed p.server.time) pauses) :
    ∃ es q t, Carries (world.Meets (Displays ip)) p es q ∧
      (Poll.machine w).Trace (.reading n : Poll.Stage endpointAssigned τ) es
        (.done (.ok (.timedOut t))) ∧ t.address = w.address := by
  -- the induction is on the pauses that are left
  induction pauses generalizing n p with
  | zero =>
    obtain ⟨e, q, seen, meets, -, htime, read, hides⟩ :=
      h.exists_service_look service unreachable there
    have late : w.pace.deadline < e.reply.time - w.started := by
      rw [htime]
      exact Pace.spent_zero.1 spent
    exact ⟨[e], q, _, carries_singleton.2 meets, Poll.trace_late read hides late, rfl⟩
  | succ pauses ih =>
    obtain ⟨e, p₁, seen, meets, hlooked, htime, read, hides⟩ :=
      h.exists_service_look service unreachable there
    by_cases late : w.pace.deadline < e.reply.time - w.started
    · exact ⟨[e], p₁, _, carries_singleton.2 meets, Poll.trace_late read hides late, rfl⟩
    · obtain ⟨z, p₂, view, pause, hlater, sleep, calm⟩ := h.exists_sleep p₁ w.pace.interval
      have still : p₂.server.objects w.address = some body := by
        rw [hlater, hlooked]
        exact there
      have rest : w.pace.Spent (w.elapsed p₂.server.time) pauses := by
        rw [hlater, hlooked, w.spent_later]
        exact spent
      obtain ⟨es, q, t, carries, trace, ht⟩ := ih (n + 1) still rest
      refine ⟨e :: z :: es, q, t, ?_, Poll.trace_again read hides late sleep calm trace, ht⟩
      exact carries_cons.2 ⟨p₁, meets, carries_cons.2 ⟨p₂, pause, carries⟩⟩

/-- **A Service that nobody says where to reach is waited for in vain.** -/
theorem World.Imitates.exists_service_late [IsOrderedAddMonoid τ] [Archimedean τ]
    (unreachable : (Simulator.serviceView ip body).endpoint? w.nodeHost = none)
    (positive : w.pace.Positive) {p : Likeness like}
    (there : p.server.objects w.address = some body) :
    ∃ es q t, Carries (world.Meets (Displays ip)) p es q ∧
      (Poll.machine w).Trace (.reading 0 : Poll.Stage endpointAssigned τ) es
        (.done (.ok (.timedOut t))) ∧ t.address = w.address := by
  obtain ⟨pauses, spent⟩ := Pace.exists_spent positive (w.elapsed p.server.time)
  exact h.exists_service_late_of_spent service unreachable pauses 0 there spent

end Services

/-! ## Pods -/

/-- **A Pod is ready at the second look at the latest**, and the deadline is not past before. -/
theorem World.Imitates.exists_pod_ready (h : world.Imitates (Displays ip) like) {w : Watch τ}
    {body : Manifest} (pod : w.address.kind = .pod) {p : Likeness like}
    (there : p.server.objects w.address = some body) (shown : p.server.looks w.address = 1)
    (starts : p.server.time = w.started) (positive : w.pace.Positive) :
    ∃ es q r, Carries (world.Meets (Displays ip)) p es q ∧
      (Poll.machine w).Trace (.reading 0 : Poll.Stage phaseRunning τ) es
        (.done (.ok (.ready r))) := by
  obtain ⟨e, p₁, view, meets, hlooked, htime, appears, read⟩ :=
    h.exists_read_there p w.nodeHost there
  rw [pod, shown] at appears
  cases appears with
  | running _ phase =>
    have holds : phaseRunning (view.state w.nodeHost w.address) = true := by
      simp [phaseRunning, View.phase_state pod, phase]
    exact ⟨[e], p₁, _, carries_singleton.2 meets, Poll.trace_ready read holds⟩
  | pending _ phase =>
    have hides : (ReadOutcome.found (view.state w.nodeHost w.address)).shows phaseRunning =
        false := by
      simp [ReadOutcome.shows, phaseRunning, View.phase_state pod, phase]
    have timely : ¬ w.pace.deadline < e.reply.time - w.started := by
      rw [htime, starts]
      have none_elapsed : w.started - w.started = 0 := sub_self w.started
      rw [none_elapsed]
      exact positive.deadline.not_gt
    obtain ⟨z, p₂, view₁, pause, hlater, sleep, calm⟩ := h.exists_sleep p₁ w.pace.interval
    have still : p₂.server.objects w.address = some body := by
      rw [hlater, hlooked]
      exact there
    have twice : p₂.server.looks w.address = 2 := by
      rw [hlater, hlooked]
      simp [shown]
    obtain ⟨f, q, view₂, meets₂, -, -, appears₂, read₂⟩ := h.exists_read_there p₂ w.nodeHost still
    rw [pod, twice] at appears₂
    have phase₂ : view₂.status.bind StatusView.phase = some "Running" := by
      cases appears₂ with
      | running _ phase => exact phase
      | pending early => exact absurd early (by decide)
    have holds : phaseRunning (view₂.state w.nodeHost w.address) = true := by
      simp [phaseRunning, View.phase_state pod, phase₂]
    refine ⟨[e, z, f], q, _, ?_,
      Poll.trace_again read hides timely sleep calm (Poll.trace_ready read₂ holds)⟩
    exact carries_cons.2 ⟨p₁, meets, carries_cons.2 ⟨p₂, pause, carries_singleton.2 meets₂⟩⟩

/-! ## Bringing up -/

section Objects

variable (h : world.Imitates (Displays ip) like) {t : BringUp.Task τ} {p : Likeness like}
  (absent : p.server.objects t.descriptor.address = none)

include h absent

/-- An object that is not there is created, and then waited for. -/
theorem World.Imitates.exists_waiting {condition : Condition} :
    ∃ es q, Carries (world.Meets (Displays ip)) p es q ∧
      q.server = p.server.made t.descriptor.address t.descriptor.manifest ∧
      ∀ ps (r : Except Fault (Waited condition τ)),
        (Poll.machine (t.watch q.server.time)).Trace (.reading 0) ps (.done r) →
        (BringUp.machine t).Trace (.ensuring .reading) (es ++ ps) (.done (BringUp.verdict r)) := by
  obtain ⟨es, e, q, s, carries, hmade, htime, ensure⟩ := h.exists_ensure p t.nodeHost absent
  refine ⟨es ++ [e], q, carries, hmade, fun ps r poll => ?_⟩
  have starts : q.server.time = e.reply.time := by
    rw [hmade, htime]
    rfl
  rw [starts] at poll
  exact BringUp.trace_of_waiting ensure trivial poll

/-- A Service whose document says where to reach it comes up. -/
theorem World.Imitates.exists_service_up (service : t.descriptor.kind = .service)
    {endpoint : Endpoint} (reachable :
      (Simulator.serviceView ip t.descriptor.manifest).endpoint? t.nodeHost = some endpoint) :
    ∃ es q r, Carries (world.Meets (Displays ip)) p es q ∧
      q.server.objects = p.server.objects.put t.descriptor.address t.descriptor.manifest ∧
      (BringUp.machine t).Trace (.ensuring .reading) es (.done (.ok r)) ∧
      Provision.endpointOf r = endpoint := by
  obtain ⟨es, p₁, first, hmade, waits⟩ := h.exists_waiting absent
  have there : p₁.server.objects t.descriptor.address = some t.descriptor.manifest := by
    simp [hmade]
  obtain ⟨e, q, r, meets, hsame, poll, hr⟩ :=
    h.exists_service_ready (w := t.watch p₁.server.time) service there reachable
  refine ⟨es ++ [e], q, r, carries_append.2 ⟨p₁, first, carries_singleton.2 meets⟩, ?_,
    waits _ _ poll, hr⟩
  rw [hsame, hmade]
  rfl

/-- One whose document does not is given up. -/
theorem World.Imitates.exists_service_down [IsOrderedAddMonoid τ] [Archimedean τ]
    (service : t.descriptor.kind = .service)
    (unreachable : (Simulator.serviceView ip t.descriptor.manifest).endpoint? t.nodeHost = none)
    (positive : t.pace.Positive) :
    ∃ es q timeout, Carries (world.Meets (Displays ip)) p es q ∧
      (BringUp.machine t).Trace (.ensuring .reading : BringUp.Stage endpointAssigned τ) es
        (.done (.error (.readiness timeout))) ∧
      timeout.address = t.descriptor.address := by
  obtain ⟨es, p₁, first, hmade, waits⟩ := h.exists_waiting absent
  have there : p₁.server.objects t.descriptor.address = some t.descriptor.manifest := by
    simp [hmade]
  obtain ⟨ps, q, timeout, second, poll, ht⟩ :=
    h.exists_service_late (w := t.watch p₁.server.time) service unreachable positive there
  exact ⟨es ++ ps, q, timeout, carries_append.2 ⟨p₁, first, second⟩, waits _ _ poll, ht⟩

/-- A Pod comes up. -/
theorem World.Imitates.exists_pod_up (pod : t.descriptor.kind = .pod)
    (positive : t.pace.Positive) :
    ∃ es q r, Carries (world.Meets (Displays ip)) p es q ∧
      (BringUp.machine t).Trace (.ensuring .reading : BringUp.Stage phaseRunning τ) es
        (.done (.ok r)) := by
  obtain ⟨es, p₁, first, hmade, waits⟩ := h.exists_waiting absent
  have there : p₁.server.objects t.descriptor.address = some t.descriptor.manifest := by
    simp [hmade]
  have shown : p₁.server.looks t.descriptor.address = 1 := by simp [hmade]
  obtain ⟨ps, q, r, second, poll⟩ :=
    h.exists_pod_ready (w := t.watch p₁.server.time) pod there shown rfl positive
  exact ⟨es ++ ps, q, r, carries_append.2 ⟨p₁, first, second⟩, waits _ _ poll⟩

end Objects

/-! ## Both objects -/

section Both

variable (h : world.Imitates (Displays ip) like) {plan : Plan τ} {p : Likeness like}
  (absent : p.server.objects plan.service.address = none)

include h absent

/-- **A database that the document of its Service says where to reach is provided there**, by
creating both objects. -/
theorem World.Imitates.exists_provided
    (absent_pod : p.server.objects plan.pod.address = none) (positive : plan.poll.Positive)
    {endpoint : Endpoint} (reachable :
      (Simulator.serviceView ip plan.service.manifest).endpoint? plan.nodeHost = some endpoint) :
    ∃ es q, Carries (world.Meets (Displays ip)) p es q ∧
      (Provision.machine plan).Trace Provision.start es
        (.done (.ok (Provision.handle plan endpoint))) ∧
      Exchange.writes es = [.create plan.service.address plan.service.manifest,
        .create plan.pod.address plan.pod.manifest] := by
  obtain ⟨es, p₁, r, first, hput, service, rfl⟩ :=
    h.exists_service_up (t := Provision.serviceTask plan) absent plan.service_kind reachable
  have still : p₁.server.objects plan.pod.address = none := by
    rw [hput]
    exact (Objects.put_of_ne plan.pod_address_ne).trans absent_pod
  obtain ⟨ps, q, r', second, pod⟩ :=
    h.exists_pod_up (t := Provision.podTask plan) still plan.pod_kind (positive .pod)
  have carries := carries_append.2 ⟨p₁, first, second⟩
  have trace := Provision.trace_of_both service pod
  have served : Carries Serves p.server.objects (es ++ ps) q.server.objects :=
    carries.map (fun p => p.server.objects) fun meets => meets.server.serves
  exact ⟨es ++ ps, q, carries, trace,
    ((Provision.course_of_trace trace).creates served absent absent_pod).2⟩

/-- **One that it does not is given up**, and the Pod is left alone. -/
theorem World.Imitates.exists_abandoned [IsOrderedAddMonoid τ] [Archimedean τ]
    (positive : plan.poll.Positive) (unreachable :
      (Simulator.serviceView ip plan.service.manifest).endpoint? plan.nodeHost = none) :
    ∃ es q timeout, Carries (world.Meets (Displays ip)) p es q ∧
      (Provision.machine plan).Trace Provision.start es (.done (.error (.readiness timeout))) ∧
      timeout.address = plan.service.address ∧
      ∀ e ∈ es, ∀ a, e.request.address? = some a → a = plan.service.address := by
  obtain ⟨es, q, timeout, carries, service, ht⟩ := h.exists_service_down
    (t := Provision.serviceTask plan) absent plan.service_kind unreachable (positive .service)
  have course := BringUp.course_of_trace service
  exact ⟨es, q, timeout, carries, Provision.trace_of_service service, ht,
    fun e he a ha => course.address he ha⟩

end Both

end EphemeralDatabase
