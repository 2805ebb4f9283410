import EphemeralDatabase.Fixture.Provision
import EphemeralDatabase.Proofs.Poll.Course

/-!
# Courses of provisioning

The courses of bringing up an object, which are those of ensuring that it exists with those of
waiting for it behind them, and the courses of provisioning, which brings up two objects.

* `Provision.course_of_trace`: whatever the outside replies, a provisioning that has come to its
  end took a course.
* `Provision.exists_course`: a provisioning that has not come to its end can still take one: an
  interruption ends it at its next request.  So what has happened so far is always the beginning
  of a course.
-/

namespace EphemeralDatabase

variable {τ : Type}

/-! ## Bringing up an object -/

/-- The object is there, and is not known to be ready. -/
def Ensured.Unready (condition : Condition) : Ensured → Prop
  | .existed s => condition s = false
  | .created _ => True
  | .failed _ _ => False

namespace BringUp

variable {condition : Condition}

/-- What to watch when waiting begins at a time. -/
def Task.watch (t : Task τ) (time : τ) : Watch τ :=
  ⟨t.descriptor.address, t.nodeHost, t.pace, time⟩

/-- What the end of waiting means for bringing up. -/
def verdict : Except Fault (Waited condition τ) → Except (AcquireError τ) (Ready condition τ)
  | .ok (.ready r) => .ok r
  | .ok (.timedOut t) => .error (.readiness t)
  | .error fault => .error (.raised fault)

variable [Clock τ]

/-- How bringing up an object can go: ensuring goes wrong, or finds the object ready, or is
followed by waiting from the time of its last reply on. -/
inductive Course (t : Task τ) :
    List (Exchange τ) → Except (AcquireError τ) (Ready condition τ) → Prop
  | broken {es : List (Exchange τ)} {fault : Fault}
      (ensure : Ensure.Course t.nodeHost t.descriptor es (.error fault)) :
      Course t es (.error (.raised fault))
  | refused {es : List (Exchange τ)} {d : Descriptor} {f : Failure}
      (ensure : Ensure.Course t.nodeHost t.descriptor es (.ok (.failed d f))) :
      Course t es (.error (.provisioning d f))
  | observed {es : List (Exchange τ)} {s : ResourceState}
      (ensure : Ensure.Course t.nodeHost t.descriptor es (.ok (.existed s)))
      (holds : condition s = true) : Course t es (.ok ⟨s, 0, Clock.zero, holds⟩)
  | polled {es ps : List (Exchange τ)} {e : Exchange τ} {found : Ensured}
      {r : Except Fault (Waited condition τ)}
      (ensure : Ensure.Course t.nodeHost t.descriptor (es ++ [e]) (.ok found))
      (unready : found.Unready condition) (poll : Poll.Course (t.watch e.reply.time) 0 ps r) :
      Course t (es ++ [e] ++ ps) (verdict r)

/-- Bringing up an object, as a machine. -/
def machine (t : Task τ) : Machine τ (Stage condition τ) := ⟨ask t, resume t⟩

variable {t : Task τ}

omit [Clock τ] in
theorem settle_done (w : Watch τ) (r : Except Fault (Waited condition τ)) :
    settle w (.done r) = .done (verdict r) := by
  rcases r with _ | (_ | _) <;> rfl

omit [Clock τ] in
theorem settle_of_ask {w : Watch τ} {s : Poll.Stage condition τ} (h : Poll.ask w s ≠ none) :
    settle w s = .waiting w s := by
  cases s with
  | reading n => rfl
  | sleeping n => rfl
  | done r => exact absurd rfl h

theorem proceed_of_ask {time : τ} {s : Ensure.Stage}
    (h : Ensure.ask t.descriptor s ≠ (none : Option (Request τ))) :
    (proceed t time s).1 = (.ensuring s : Stage condition τ) := by
  cases s with
  | reading => rfl
  | creating => rfl
  | done r => exact absurd rfl h

theorem embeds_ensure : Machine.Embeds (Ensure.machine t.nodeHost t.descriptor)
    (machine t : Machine τ (Stage condition τ)) .ensuring
    (fun s reply => (proceed t reply.time s).1) where
  ask h := h
  stay _ hn := proceed_of_ask hn
  leave _ _ := rfl

theorem embeds_poll (w : Watch τ) : Machine.Embeds (Poll.machine w)
    (machine t : Machine τ (Stage condition τ)) (.waiting w) (fun s _ => settle w s) where
  ask h := h
  stay _ hn := settle_of_ask hn
  leave _ _ := rfl

/-- What follows from waiting. -/
theorem course_of_waiting {es fs ps : List (Exchange τ)} {e : Exchange τ} {found : Ensured}
    {r : Except (AcquireError τ) (Ready condition τ)} (hfs : fs = es ++ [e])
    (ensure : Ensure.Course t.nodeHost t.descriptor fs (.ok found))
    (unready : found.Unready condition)
    (h : (machine t).Trace (.waiting (t.watch e.reply.time) (.reading 0)) ps (.done r)) :
    Course t (fs ++ ps) r := by
  obtain ⟨ps₁, p, ps₂, s, rfl, poll, hs, rest⟩ :=
    (embeds_poll (t.watch e.reply.time)).split (by simp [Poll.machine, Poll.ask]) rfl h
  obtain ⟨q, rfl⟩ := Poll.ask_eq_none_iff.1 hs
  rw [settle_done] at rest
  obtain ⟨rfl, hd⟩ := rest.of_quiet rfl
  cases hd
  subst hfs
  exact .polled ensure unready (Poll.course_of_trace poll)

/-- **Whatever the outside answers, bringing up an object takes a course.** -/
theorem course_of_trace {es : List (Exchange τ)}
    {r : Except (AcquireError τ) (Ready condition τ)}
    (h : (machine t).Trace (.ensuring .reading) es (.done r)) : Course t es r := by
  obtain ⟨es₁, e, es₂, s, rfl, ensure, hs, rest⟩ :=
    embeds_ensure.split (by simp [Ensure.machine, Ensure.ask]) rfl h
  obtain ⟨found, rfl⟩ := Ensure.ask_eq_none_iff.1 hs
  have ensure := Ensure.course_of_trace ensure
  rw [List.append_cons]
  rcases found with fault | (s | s | ⟨d, f⟩)
  · obtain ⟨rfl, hd⟩ := rest.of_quiet rfl
    cases hd
    rw [List.append_nil]
    exact .broken ensure
  · by_cases holds : condition s = true
    · simp only [proceed, wait, Poll.start, dif_pos holds, settle] at rest
      obtain ⟨rfl, hd⟩ := rest.of_quiet rfl
      cases hd
      rw [List.append_nil]
      exact .observed ensure holds
    · simp only [proceed, wait, Poll.start, dif_neg holds, settle] at rest
      exact course_of_waiting rfl ensure (eq_false_of_ne_true holds) rest
  · exact course_of_waiting rfl ensure trivial rest
  · obtain ⟨rfl, hd⟩ := rest.of_quiet rfl
    cases hd
    rw [List.append_nil]
    exact .refused ensure

/-- Ensuring that leaves an object unready is followed by waiting. -/
theorem trace_of_waiting {es ps : List (Exchange τ)} {e : Exchange τ} {found : Ensured}
    {r : Except Fault (Waited condition τ)}
    (ensure : Ensure.Course t.nodeHost t.descriptor (es ++ [e]) (.ok found))
    (unready : found.Unready condition)
    (poll : (Poll.machine (t.watch e.reply.time)).Trace (.reading 0) ps (.done r)) :
    (machine t).Trace (.ensuring .reading) (es ++ [e] ++ ps) (.done (verdict r)) := by
  have begins : (Ensure.machine t.nodeHost t.descriptor).ask .reading ≠
      (none : Option (Request τ)) := by simp [Ensure.machine, Ensure.ask]
  have embeds : Machine.Embeds _ (machine t : Machine τ (Stage condition τ)) _ _ := embeds_ensure
  obtain ⟨fs, f, hlast, first⟩ := embeds.join begins ensure.trace rfl
  obtain ⟨-, rfl⟩ := List.append_singleton_inj.1 hlast
  have waits : (proceed t e.reply.time (.done (.ok found))).1 =
      (.waiting (t.watch e.reply.time) (.reading 0) : Stage condition τ) := by
    cases found with
    | existed s =>
      have hides : ¬ condition s = true := ne_true_of_eq_false unready
      simp only [proceed, wait, Poll.start, dif_neg hides, settle, Task.watch]
    | created s => rfl
    | failed d f => exact unready.elim
  rw [waits] at first
  obtain ⟨-, -, -, second⟩ := (embeds_poll (t.watch e.reply.time)).join
    (by simp [Poll.machine, Poll.ask]) poll rfl
  rw [settle_done] at second
  exact first.append second

/-! ### What has not come to its end -/

/-- The stage is the last, or something is asked in it. -/
def Awake (t : Task τ) (s : Stage condition τ) : Prop := (∃ r, s = .done r) ∨ ask t s ≠ none

omit [Clock τ] in
theorem awake_settle (w : Watch τ) (s : Poll.Stage condition τ) : Awake t (settle w s) := by
  cases s with
  | reading n => exact Or.inr (by simp [settle, ask, Poll.ask])
  | sleeping n => exact Or.inr (by simp [settle, ask, Poll.ask])
  | done r =>
    rw [settle_done]
    exact Or.inl ⟨_, rfl⟩

theorem awake_proceed (time : τ) (s : Ensure.Stage) :
    Awake t (proceed t time s : Stage condition τ × List (Event τ)).1 := by
  match s with
  | .reading => exact Or.inr (by simp [proceed, ask, Ensure.ask])
  | .creating => exact Or.inr (by simp [proceed, ask, Ensure.ask])
  | .done (.ok (.existed s)) => exact awake_settle _ _
  | .done (.ok (.created s)) => exact awake_settle (t.watch time) (.reading 0)
  | .done (.ok (.failed d f)) => exact Or.inl ⟨_, rfl⟩
  | .done (.error fault) => exact Or.inl ⟨_, rfl⟩

/-- Bringing up an object never stops without an outcome. -/
theorem awake_resume (s : Stage condition τ) (reply : Reply τ) :
    Awake t (resume t s reply).1 := by
  cases s with
  | ensuring s => exact awake_proceed _ _
  | waiting w s => exact awake_settle _ _
  | done r => exact Or.inl ⟨r, rfl⟩

end BringUp

/-! ## Provisioning -/

namespace Provision

variable [Clock τ] {plan : Plan τ}

/-- How provisioning can go: the Service is brought up, and then the Pod. -/
inductive Course (plan : Plan τ) : List (Exchange τ) → Acquired τ → Prop
  | service {es : List (Exchange τ)} {e : AcquireError τ}
      (service : BringUp.Course (serviceTask plan) es
        (.error e : Except (AcquireError τ) (Ready endpointAssigned τ))) :
      Course plan es (.error e)
  | both {es ps : List (Exchange τ)} {r : Ready endpointAssigned τ}
      {o : Except (AcquireError τ) (Ready phaseRunning τ)}
      (service : BringUp.Course (serviceTask plan) es (.ok r))
      (pod : BringUp.Course (podTask plan) ps o) :
      Course plan (es ++ ps) (o.map fun _ => handle plan (endpointOf r))

omit [Clock τ] in
theorem afterService_of_ask {t : BringUp.Task τ} {s : BringUp.Stage endpointAssigned τ}
    (h : BringUp.ask t s ≠ none) : afterService s = .service s := by
  cases s with
  | ensuring s => rfl
  | waiting w s => rfl
  | done r => exact absurd rfl h

omit [Clock τ] in
theorem afterPod_of_ask {t : BringUp.Task τ} {endpoint : Endpoint}
    {s : BringUp.Stage phaseRunning τ} (h : BringUp.ask t s ≠ none) :
    afterPod plan endpoint s = .pod endpoint s := by
  cases s with
  | ensuring s => rfl
  | waiting w s => rfl
  | done r => exact absurd rfl h

theorem embeds_service : Machine.Embeds (BringUp.machine (serviceTask plan)) (machine plan)
    .service (fun s _ => afterService s) where
  ask h := h
  stay _ hn := afterService_of_ask hn
  leave _ _ := rfl

theorem embeds_pod (endpoint : Endpoint) : Machine.Embeds (BringUp.machine (podTask plan))
    (machine plan) (.pod endpoint) (fun s _ => afterPod plan endpoint s) where
  ask h := h
  stay _ hn := afterPod_of_ask hn
  leave _ _ := rfl

/-- What follows from bringing up the Pod. -/
theorem course_of_pod {es ps : List (Exchange τ)} {r : Ready endpointAssigned τ}
    {o : Acquired τ} (service : BringUp.Course (serviceTask plan) es (.ok r))
    (h : (machine plan).Trace (.pod (endpointOf r) (.ensuring .reading)) ps (.done o)) :
    Course plan (es ++ ps) o := by
  obtain ⟨ps₁, p, ps₂, s, rfl, pod, hs, rest⟩ := (embeds_pod (endpointOf r)).split
    (by simp [BringUp.machine, BringUp.ask, Ensure.ask]) rfl h
  cases s with
  | ensuring s => exact absurd (rest.of_quiet hs).2 (by simp [afterPod])
  | waiting w s => exact absurd (rest.of_quiet hs).2 (by simp [afterPod])
  | done q =>
    have hd : ps₂ = [] ∧ o = q.map fun _ => handle plan (endpointOf r) := by
      cases q with
      | ok q =>
        obtain ⟨hps, hd⟩ := rest.of_quiet rfl
        cases hd
        exact ⟨hps, rfl⟩
      | error e =>
        obtain ⟨hps, hd⟩ := rest.of_quiet rfl
        cases hd
        exact ⟨hps, rfl⟩
    obtain ⟨rfl, rfl⟩ := hd
    exact .both service (BringUp.course_of_trace pod)

/-- **Whatever the outside answers, provisioning takes a course.** -/
theorem course_of_trace {es : List (Exchange τ)} {o : Acquired τ}
    (h : (machine plan).Trace start es (.done o)) : Course plan es o := by
  obtain ⟨es₁, e, es₂, s, rfl, service, hs, rest⟩ := embeds_service.split
    (by simp [BringUp.machine, BringUp.ask, Ensure.ask]) rfl h
  rw [List.append_cons]
  cases s with
  | ensuring s => exact absurd (rest.of_quiet hs).2 (by simp [afterService])
  | waiting w s => exact absurd (rest.of_quiet hs).2 (by simp [afterService])
  | done q =>
    cases q with
    | ok r => exact course_of_pod (BringUp.course_of_trace service) rest
    | error e =>
      obtain ⟨rfl, hd⟩ := rest.of_quiet rfl
      cases hd
      rw [List.append_nil]
      exact .service (BringUp.course_of_trace service)

/-- A Service that cannot be brought up ends provisioning. -/
theorem trace_of_service {es : List (Exchange τ)} {e : AcquireError τ}
    (service : (BringUp.machine (serviceTask plan)).Trace
      (.ensuring .reading : BringUp.Stage endpointAssigned τ) es (.done (.error e))) :
    (machine plan).Trace start es (.done (.error e)) := by
  obtain ⟨-, -, -, trace⟩ := embeds_service.join
    (by simp [BringUp.machine, BringUp.ask, Ensure.ask]) service rfl
  exact trace

/-- A Service that is ready is followed by the Pod. -/
theorem trace_of_both {es ps : List (Exchange τ)} {r : Ready endpointAssigned τ}
    {q : Ready phaseRunning τ}
    (service : (BringUp.machine (serviceTask plan)).Trace (.ensuring .reading) es (.done (.ok r)))
    (pod : (BringUp.machine (podTask plan)).Trace (.ensuring .reading) ps (.done (.ok q))) :
    (machine plan).Trace start (es ++ ps) (.done (.ok (handle plan (endpointOf r)))) := by
  obtain ⟨-, -, -, first⟩ := embeds_service.join
    (by simp [BringUp.machine, BringUp.ask, Ensure.ask]) service rfl
  obtain ⟨-, -, -, second⟩ := (embeds_pod (endpointOf r)).join
    (by simp [BringUp.machine, BringUp.ask, Ensure.ask]) pod rfl
  exact first.append second

/-! ### What has not come to its end -/

/-- The stage is the last, or something is asked in it. -/
def Awake (plan : Plan τ) (s : Stage τ) : Prop := (∃ o, s = .done o) ∨ ask plan s ≠ none

omit [Clock τ] in
theorem awake_start : Awake plan start :=
  Or.inr (by simp [start, ask, BringUp.ask, Ensure.ask])

omit [Clock τ] in
theorem awake_afterService {s : BringUp.Stage endpointAssigned τ}
    (h : BringUp.Awake (serviceTask plan) s) : Awake plan (afterService s) := by
  rcases h with ⟨r, rfl⟩ | h
  · cases r with
    | ok r => exact Or.inr (by simp [afterService, ask, BringUp.ask, Ensure.ask])
    | error e => exact Or.inl ⟨_, rfl⟩
  · rw [afterService_of_ask h]
    exact Or.inr h

omit [Clock τ] in
theorem awake_afterPod {endpoint : Endpoint} {s : BringUp.Stage phaseRunning τ}
    (h : BringUp.Awake (podTask plan) s) : Awake plan (afterPod plan endpoint s) := by
  rcases h with ⟨r, rfl⟩ | h
  · cases r <;> exact Or.inl ⟨_, rfl⟩
  · rw [afterPod_of_ask h]
    exact Or.inr h

/-- **Provisioning never stops without an outcome.** -/
theorem awake_resume (s : Stage τ) (reply : Reply τ) : Awake plan (resume plan s reply).1 := by
  cases s with
  | service s => exact awake_afterService (BringUp.awake_resume s reply)
  | pod endpoint s => exact awake_afterPod (BringUp.awake_resume s reply)
  | done o => exact Or.inl ⟨o, rfl⟩

theorem awake_of_trace {es : List (Exchange τ)} {s t : Stage τ} (hs : Awake plan s)
    (h : (machine plan).Trace s es t) : Awake plan t := by
  induction h with
  | nil s => exact hs
  | cons asks _ ih => exact ih (awake_resume _ _)

/-- **What breaks a request is passed on**, whatever the request is. -/
theorem resume_broken {s : Stage τ} (hs : ask plan s ≠ none) (breakage : Breakage)
    (details : List Value) (time : τ) :
    (resume plan s ⟨.error (.other breakage details), time⟩).1 =
      .done (.error (.raised (.other breakage details))) := by
  match s with
  | .service (.ensuring .reading) | .service (.ensuring .creating)
  | .service (.waiting _ (.reading _)) | .service (.waiting _ (.sleeping _))
  | .pod _ (.ensuring .reading) | .pod _ (.ensuring .creating)
  | .pod _ (.waiting _ (.reading _)) | .pod _ (.waiting _ (.sleeping _)) => rfl
  | .service (.ensuring (.done _)) | .service (.waiting _ (.done _)) | .service (.done _)
  | .pod _ (.ensuring (.done _)) | .pod _ (.waiting _ (.done _)) | .pod _ (.done _)
  | .done _ => exact absurd rfl hs

/-- **What has happened so far is the beginning of a course**, which an interruption would end. -/
theorem exists_course {es : List (Exchange τ)} {s : Stage τ}
    (h : (machine plan).Trace start es s) : ∃ rest o, Course plan (es ++ rest) o := by
  rcases awake_of_trace awake_start h with ⟨o, rfl⟩ | hask
  · exact ⟨[], o, by simpa using course_of_trace h⟩
  · obtain ⟨request, hr⟩ := Option.ne_none_iff_exists'.1 hask
    have trace := h.snoc ⟨.error (.other .interrupt []), Clock.zero⟩ hr
    rw [show (machine plan).resume = resume plan from rfl, resume_broken hask] at trace
    exact ⟨_, _, course_of_trace trace⟩

omit [Clock τ] in
/-- Provisioning deletes nothing. -/
theorem ask_ne_delete (s : Stage τ) (a : Address) : ask plan s ≠ some (.delete a) := by
  match s with
  | .service (.ensuring .reading) | .service (.ensuring .creating)
  | .service (.waiting _ (.reading _)) | .service (.waiting _ (.sleeping _))
  | .pod _ (.ensuring .reading) | .pod _ (.ensuring .creating)
  | .pod _ (.waiting _ (.reading _)) | .pod _ (.waiting _ (.sleeping _))
  | .service (.ensuring (.done _)) | .service (.waiting _ (.done _)) | .service (.done _)
  | .pod _ (.ensuring (.done _)) | .pod _ (.waiting _ (.done _)) | .pod _ (.done _)
  | .done _ => simp [ask, BringUp.ask, Ensure.ask, Poll.ask]

omit [Clock τ] in
/-- What provisioning creates is one of the two objects, as the plan has it. -/
theorem eq_of_ask_create {s : Stage τ} {a : Address} {body : Manifest}
    (h : ask plan s = some (.create a body)) :
    (a = plan.service.address ∧ body = plan.service.manifest) ∨
      (a = plan.pod.address ∧ body = plan.pod.manifest) := by
  match s with
  | .service (.ensuring .creating) =>
    obtain ⟨rfl, rfl⟩ : plan.service.address = a ∧ plan.service.manifest = body := by
      simpa [ask, BringUp.ask, Ensure.ask, serviceTask] using h
    exact Or.inl ⟨rfl, rfl⟩
  | .pod _ (.ensuring .creating) =>
    obtain ⟨rfl, rfl⟩ : plan.pod.address = a ∧ plan.pod.manifest = body := by
      simpa [ask, BringUp.ask, Ensure.ask, podTask] using h
    exact Or.inr ⟨rfl, rfl⟩
  | .service (.ensuring .reading) | .service (.ensuring (.done _))
  | .service (.waiting _ (.reading _)) | .service (.waiting _ (.sleeping _))
  | .service (.waiting _ (.done _)) | .service (.done _)
  | .pod _ (.ensuring .reading) | .pod _ (.ensuring (.done _))
  | .pod _ (.waiting _ (.reading _)) | .pod _ (.waiting _ (.sleeping _))
  | .pod _ (.waiting _ (.done _)) | .pod _ (.done _) | .done _ =>
    simp [ask, BringUp.ask, Ensure.ask, Poll.ask] at h

end Provision

end EphemeralDatabase
