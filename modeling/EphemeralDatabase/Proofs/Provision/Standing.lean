import EphemeralDatabase.Proofs.Provision.Course

/-!
# Databases that stand already

A database *stands* when one read of the Service shows an endpoint and one read of the Pod shows
that it is running.  Then provisioning has nothing to create and nothing to wait for: these two
reads are all its exchanges, and what it comes to is the handle at that endpoint.  With two
exchanges provisioning can end well in no other way (`Provision.trace_pair_iff`), because to
create an object or to wait for one takes an exchange more for that object.
-/

namespace EphemeralDatabase

variable {τ : Type}

theorem Ensure.Course.ne_nil {nodeHost : String} {d : Descriptor} {es : List (Exchange τ)}
    {r : Except Fault Ensured} (h : Ensure.Course nodeHost d es r) : es ≠ [] := by
  cases h <;> exact List.cons_ne_nil _ _

variable [Clock τ]

theorem Poll.Course.ne_nil {condition : Condition} {w : Watch τ} {n : ℕ} {es : List (Exchange τ)}
    {r : Except Fault (Waited condition τ)} (h : Poll.Course w n es r) : es ≠ [] := by
  cases h <;> exact List.cons_ne_nil _ _

/-! ## One object -/

namespace BringUp

variable {condition : Condition} {t : Task τ} {e : Exchange τ} {es : List (Exchange τ)}

theorem Course.ne_nil {r : Except (AcquireError τ) (Ready condition τ)} (h : Course t es r) :
    es ≠ [] := by
  cases h with
  | broken ensure | refused ensure | observed ensure => exact ensure.ne_nil
  | polled ensure => simp

/-- An object that a read shows to be ready is left as it is. -/
theorem trace_of_found {s : ResourceState}
    (read : e.Reads t.nodeHost t.descriptor.address (.ok (.found s))) (holds : condition s = true) :
    (machine t).Trace (.ensuring .reading) [e] (.done (.ok ⟨s, 0, Clock.zero, holds⟩)) := by
  have begins : (Ensure.machine t.nodeHost t.descriptor).ask .reading ≠
      (none : Option (Request τ)) := by simp [Ensure.machine, Ensure.ask]
  have embeds : Machine.Embeds _ (machine t : Machine τ (Stage condition τ)) _ _ := embeds_ensure
  obtain ⟨_, _, _, trace⟩ := embeds.join begins (Ensure.Course.existed read).trace rfl
  simpa only [proceed, wait, Poll.start, dif_pos holds, settle] using trace

/-- **With one exchange an object is brought up only if it was ready as it was found.** -/
theorem Course.found_of_singleton {r : Ready condition τ} (h : Course t [e] (.ok r)) :
    e.Reads t.nodeHost t.descriptor.address (.ok (.found r.state)) := by
  generalize hes : [e] = es, ho : (Except.ok r : Except (AcquireError τ) _) = o at h
  cases h with
  | broken | refused => cases ho
  | observed ensure holds =>
    cases ho
    subst hes
    cases ensure with
    | existed read => exact read
  | @polled before ps last found r' ensure unready poll =>
    have hlength := congrArg List.length hes
    have := List.length_pos_iff.2 poll.ne_nil
    simp only [List.length_append, List.length_singleton] at hlength
    omega

end BringUp

/-! ## Both objects -/

namespace Provision

variable {plan : Plan τ} {service pod : Exchange τ}

/-- One read of each object shows that the database is ready, and at which endpoint. -/
structure Standing (plan : Plan τ) (service pod : Exchange τ) (endpoint : Endpoint) : Prop where
  service : ∃ s, service.Reads plan.nodeHost plan.service.address (.ok (.found s)) ∧
    s.endpoint = some endpoint
  pod : ∃ s, pod.Reads plan.nodeHost plan.pod.address (.ok (.found s)) ∧ phaseRunning s = true

omit [Clock τ] in
/-- The two reads show that the database stands if each of them shows its object to be ready. -/
theorem exists_standing_iff {serviceSeen podSeen : ReadOutcome}
    (hservice : service.Reads plan.nodeHost plan.service.address (.ok serviceSeen))
    (hpod : pod.Reads plan.nodeHost plan.pod.address (.ok podSeen)) :
    (∃ endpoint, Standing plan service pod endpoint) ↔
      serviceSeen.shows endpointAssigned = true ∧ podSeen.shows phaseRunning = true := by
  constructor
  · rintro ⟨endpoint, ⟨s, hs, hendpoint⟩, p, hp, running⟩
    obtain rfl : serviceSeen = .found s := Except.ok.inj (hservice.2.symm.trans hs.2)
    obtain rfl : podSeen = .found p := Except.ok.inj (hpod.2.symm.trans hp.2)
    exact ⟨by simp [ReadOutcome.shows, endpointAssigned, hendpoint], running⟩
  · rintro ⟨assigned, running⟩
    cases serviceSeen with
    | notFound a | failed f => cases assigned
    | found s =>
    cases podSeen with
    | notFound a | failed f => cases running
    | found p =>
    obtain ⟨endpoint, hendpoint⟩ := Option.isSome_iff_exists.1 assigned
    exact ⟨endpoint, ⟨s, hservice, hendpoint⟩, p, hpod, running⟩

/-- **With two exchanges provisioning comes to a handle if and only if they show that the database
stands**, and then the handle is at the endpoint that they show. -/
theorem trace_pair_iff {handle : Handle} :
    (machine plan).Trace start [service, pod] (.done (.ok handle)) ↔
      ∃ endpoint, Standing plan service pod endpoint ∧
        handle = Provision.handle plan endpoint := by
  constructor
  · intro h
    have course := course_of_trace h
    generalize hes : [service, pod] = es, ho : (Except.ok handle : Acquired τ) = o at course
    cases course with
    | service => cases ho
    | @both es ps r o first second =>
      -- each of the two takes an exchange, so neither takes more
      have hlength := congrArg List.length hes
      have := List.length_pos_iff.2 first.ne_nil
      have := List.length_pos_iff.2 second.ne_nil
      simp only [List.length_append, List.length_cons, List.length_nil] at hlength
      obtain ⟨e, rfl⟩ := List.length_eq_one_iff.1 (show es.length = 1 by omega)
      obtain ⟨f, rfl⟩ := List.length_eq_one_iff.1 (show ps.length = 1 by omega)
      obtain ⟨rfl, rfl⟩ : service = e ∧ pod = f := by simpa using hes
      cases o with
      | error e => cases ho
      | ok q =>
        refine ⟨endpointOf r, ⟨⟨_, first.found_of_singleton, ?_⟩, _, second.found_of_singleton,
          q.holds⟩, Except.ok.inj ho⟩
        exact (Option.some_get r.holds).symm
  · rintro ⟨endpoint, ⟨⟨s, hs, hendpoint⟩, p, hp, running⟩, rfl⟩
    have assigned : endpointAssigned s = true := by simp [endpointAssigned, hendpoint]
    have first : (BringUp.machine (serviceTask plan)).Trace (.ensuring .reading) [service] _ :=
      BringUp.trace_of_found hs assigned
    have second : (BringUp.machine (podTask plan)).Trace (.ensuring .reading) [pod] _ :=
      BringUp.trace_of_found hp running
    have trace := trace_of_both first second
    simpa only [endpointOf, hendpoint, Option.get_some, List.singleton_append] using trace

end Provision

end EphemeralDatabase
