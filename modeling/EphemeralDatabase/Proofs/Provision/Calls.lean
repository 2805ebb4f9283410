import EphemeralDatabase.Proofs.Lifecycle.Sequence
import EphemeralDatabase.Proofs.Provision.Course

/-!
# The calls of provisioning

Provisioning makes its calls to the cluster in a fixed order: a *part* for the Service, and if that
ends with a Service that can be reached, a part for the Pod.  A part is one read, then at most one
attempt to create, then reads while waiting.  `Provision.Sequence` is this language; it is read off
the courses by leaving out the pauses.

What must not happen follows from the shape alone, for every beginning of a sequence
(`Provision.Orderly`): nothing is created without the cluster having said just before that it is
not there, nothing is created twice, waiting never leads back to creating, and so on.
-/

namespace EphemeralDatabase

variable {τ : Type}

/-! ## Calls -/

/-- The object that a request is about; a pause is about none. -/
def Request.address? : Request τ → Option Address
  | .read a | .create a _ | .delete a => some a
  | .sleep _ => none

namespace Exchange

/-- Leaves the pauses out. -/
def calls (es : List (Exchange τ)) : List (Exchange τ) :=
  es.filter fun e => e.request.address?.isSome

@[simp] theorem calls_nil : calls ([] : List (Exchange τ)) = [] := rfl

@[simp] theorem calls_append (es fs : List (Exchange τ)) :
    calls (es ++ fs) = calls es ++ calls fs := List.filter_append ..

theorem calls_cons_of_address {e : Exchange τ} {a : Address} (he : e.request.address? = some a)
    (es : List (Exchange τ)) : calls (e :: es) = e :: calls es := by
  simp [calls, he]

theorem calls_cons_of_sleep {e : Exchange τ} {seconds : τ} (he : e.request = .sleep seconds)
    (es : List (Exchange τ)) : calls (e :: es) = calls es := by
  simp [calls, he, Request.address?]

variable {e : Exchange τ} {nodeHost : String} {a : Address} {d : Descriptor}

theorem Reads.address {seen : Except Fault ReadOutcome} (h : e.Reads nodeHost a seen) :
    e.request.address? = some a := by
  rw [h.1]
  rfl

theorem Creates.address {made : Except Fault CreateOutcome} (h : e.Creates nodeHost d made) :
    e.request.address? = some d.address := by
  rw [h.1]
  rfl

/-- An object is not there when the server says so, and only then. -/
theorem Reads.absent {a' : Address} (h : e.Reads nodeHost a (.ok (.notFound a'))) :
    ∃ reason, e.reply.answer = .error (.api (some 404) reason) := by
  have hr := h.2
  match ha : e.reply.answer with
  | .ok view => simp [ha, readOutcome] at hr
  | .error (.api status reason) =>
    rw [ha] at hr
    by_cases hs : status = some 404
    · exact ⟨reason, by rw [hs]⟩
    · simp [readOutcome, Fault.isAbsence, Fault.failure?, hs] at hr
  | .error (.carrier c details) => simp [ha, readOutcome, Fault.isAbsence, Fault.failure?] at hr
  | .error (.other b details) => simp [ha, readOutcome, Fault.isAbsence, Fault.failure?] at hr

/-- An object is made exactly when the attempt to create it is not refused. -/
theorem Creates.made_iff {made : Except Fault CreateOutcome} (h : e.Creates nodeHost d made) :
    (∃ s, made = .ok (.made s)) ↔ ∃ v, e.reply.answer = .ok v := by
  rw [← h.2]
  match e.reply.answer with
  | .ok v => simp [createOutcome]
  | .error fault => cases hf : fault.failure? d.address .create <;> simp [createOutcome, hf]

end Exchange

/-! ## The language -/

open Exchange

/-- Reads while waiting: the last may show the condition to hold, in the state that is given, and
none before it does. -/
inductive Polls (nodeHost : String) (a : Address) (condition : Condition) :
    List (Exchange τ) → Option ResourceState → Prop
  | ready {e : Exchange τ} {s : ResourceState} (read : e.Reads nodeHost a (.ok (.found s)))
      (holds : condition s = true) : Polls nodeHost a condition [e] (some s)
  | vain {e : Exchange τ} {seen : Except Fault ReadOutcome} (read : e.Reads nodeHost a seen)
      (hides : ∀ o, seen = .ok o → o.shows condition = false) :
      Polls nodeHost a condition [e] none
  | again {e : Exchange τ} {seen : ReadOutcome} {es : List (Exchange τ)}
      {r : Option ResourceState} (read : e.Reads nodeHost a (.ok seen))
      (hides : seen.shows condition = false) (rest : Polls nodeHost a condition es r) :
      Polls nodeHost a condition (e :: es) r

/-- The calls for one object, and the state in which it was seen to be ready, if it was. -/
inductive Part (nodeHost : String) (d : Descriptor) (condition : Condition) :
    List (Exchange τ) → Option ResourceState → Prop
  /-- it is ready as it is found -/
  | ready {e : Exchange τ} {s : ResourceState} (read : e.Reads nodeHost d.address (.ok (.found s)))
      (holds : condition s = true) : Part nodeHost d condition [e] (some s)
  /-- it is there, and is waited for -/
  | polled {e : Exchange τ} {s : ResourceState} {es : List (Exchange τ)}
      {r : Option ResourceState} (read : e.Reads nodeHost d.address (.ok (.found s)))
      (hides : condition s = false) (polls : Polls nodeHost d.address condition es r) :
      Part nodeHost d condition (e :: es) r
  /-- it is not there, and is created and waited for -/
  | created {e c : Exchange τ} {a : Address} {s : ResourceState} {es : List (Exchange τ)}
      {r : Option ResourceState} (read : e.Reads nodeHost d.address (.ok (.notFound a)))
      (create : c.Creates nodeHost d (.ok (.made s)))
      (polls : Polls nodeHost d.address condition es r) :
      Part nodeHost d condition (e :: c :: es) r
  /-- it is not there, and cannot be created -/
  | uncreated {e c : Exchange τ} {a : Address} {made : Except Fault CreateOutcome}
      (read : e.Reads nodeHost d.address (.ok (.notFound a))) (create : c.Creates nodeHost d made)
      (unmade : ∀ s, made ≠ .ok (.made s)) : Part nodeHost d condition [e, c] none
  /-- nothing can be found out about it -/
  | failed {e : Exchange τ} {f : Failure} (read : e.Reads nodeHost d.address (.ok (.failed f))) :
      Part nodeHost d condition [e] none
  /-- reading it breaks -/
  | broken {e : Exchange τ} {fault : Fault} (read : e.Reads nodeHost d.address (.error fault)) :
      Part nodeHost d condition [e] none

/-- The calls of provisioning: those for the Service, and those for the Pod behind them if the
Service can be reached. -/
inductive Provision.Sequence (plan : Plan τ) : List (Exchange τ) → Prop
  | service {es : List (Exchange τ)}
      (service : Part plan.nodeHost plan.service endpointAssigned es none) : Sequence plan es
  | both {es ps : List (Exchange τ)} {s : ResourceState} {r : Option ResourceState}
      (service : Part plan.nodeHost plan.service endpointAssigned es (some s))
      (reachable : s.endpoint.isSome) (pod : Part plan.nodeHost plan.pod phaseRunning ps r) :
      Sequence plan (es ++ ps)

/-! ## Courses make sequences -/

/-- The state in which an object was seen to be ready. -/
def BringUp.readyState? {condition : Condition}
    (r : Except (AcquireError τ) (Ready condition τ)) : Option ResourceState :=
  r.toOption.map Ready.state

section Courses

variable [Clock τ] {condition : Condition} {es : List (Exchange τ)}

theorem Poll.Course.polls {w : Watch τ} {n : ℕ} {r : Except Fault (Waited condition τ)}
    (h : Poll.Course w n es r) : Polls w.nodeHost w.address condition (calls es)
      (BringUp.readyState? (BringUp.verdict r)) := by
  induction h with
  | ready read holds =>
    rw [calls_cons_of_address read.address]
    exact .ready read holds
  | late read hides late =>
    rw [calls_cons_of_address read.address]
    refine .vain read fun o ho => ?_
    cases ho
    exact hides
  | unread read =>
    rw [calls_cons_of_address read.address]
    exact .vain read fun o ho => by cases ho
  | restless read hides sleep broken =>
    rw [calls_cons_of_address read.address, calls_cons_of_sleep sleep]
    refine .vain read fun o ho => ?_
    cases ho
    exact hides
  | again read hides sleep rest ih =>
    rw [calls_cons_of_address read.address, calls_cons_of_sleep sleep]
    exact .again read hides ih

omit [Clock τ] in
/-- Ensuring consists of calls only. -/
theorem Ensure.Course.calls {nodeHost : String} {d : Descriptor} {r : Except Fault Ensured}
    (h : Ensure.Course nodeHost d es r) : Exchange.calls es = es := by
  cases h with
  | existed read | undetermined read | unread read =>
    exact calls_cons_of_address read.address _
  | created read create | refused read create | broken read create =>
    rw [calls_cons_of_address read.address, calls_cons_of_address create.address, calls_nil]

theorem BringUp.Course.part {t : BringUp.Task τ}
    {r : Except (AcquireError τ) (Ready condition τ)} (h : BringUp.Course t es r) :
    Part t.nodeHost t.descriptor condition (Exchange.calls es) (BringUp.readyState? r) := by
  cases h with
  | broken ensure =>
    rw [ensure.calls]
    cases ensure with
    | unread read => exact .broken read
    | broken read create => exact .uncreated read create fun s hs => by cases hs
  | refused ensure =>
    rw [ensure.calls]
    cases ensure with
    | undetermined read => exact .failed read
    | refused read create => exact .uncreated read create fun s hs => by cases hs
  | observed ensure holds =>
    rw [ensure.calls]
    cases ensure with
    | existed read => exact .ready read holds
  | polled ensure unready poll =>
    rw [calls_append, ensure.calls]
    have polls := poll.polls
    generalize Exchange.calls _ = ps at polls ⊢
    generalize _ ++ [_] = fs at ensure ⊢
    cases ensure with
    | existed read => exact .polled read unready polls
    | created read create => exact .created read create polls
    | undetermined read => exact unready.elim
    | refused read create => exact unready.elim

/-- **The calls of every course of provisioning are a sequence.** -/
theorem Provision.Course.sequence {plan : Plan τ} {o : Acquired τ}
    (h : Provision.Course plan es o) : Provision.Sequence plan (Exchange.calls es) := by
  cases h with
  | service service => exact .service service.part
  | @both es ps r o service pod =>
    rw [calls_append]
    exact .both service.part r.holds pod.part

end Courses

/-! ## What follows from the shape -/

/-- What is true of the calls of provisioning at every moment. -/
structure Provision.Orderly (es : List (Exchange τ)) : Prop where
  /-- no call about a Service comes after one about a Pod -/
  podLast : es.Pairwise fun d e => ∀ a b, d.request.address? = some a →
    e.request.address? = some b → a.kind = .pod → b.kind = .pod
  /-- an attempt to create comes directly after the first call about the object, a read that was
  answered by a 404 -/
  absent : ∀ {before c after a body}, es = before ++ c :: after → c.request = .create a body →
    ∃ before' d reason, before = before' ++ [d] ∧ d.request = .read a ∧
      d.reply.answer = .error (.api (some 404) reason) ∧
      ∀ e ∈ before', e.request.address? ≠ some a
  /-- no object is created twice -/
  once : ∀ {before c after a body}, es = before ++ c :: after → c.request = .create a body →
    ∀ d ∈ after, ∀ body', d.request ≠ .create a body'
  /-- what was created is read again -/
  again : ∀ {before c after a body v}, es = before ++ c :: after → c.request = .create a body →
    c.reply.answer = .ok v → after = [] ∨ ∃ d after', after = d :: after' ∧ d.request = .read a
  /-- nothing is deleted -/
  kept : ∀ e ∈ es, ∀ a, e.request ≠ .delete a

/-- What was created is read again, at once and in any case. -/
def Provision.Confirmed (es : List (Exchange τ)) : Prop :=
  ∀ {before c after a body v}, es = before ++ c :: after → c.request = .create a body →
    c.reply.answer = .ok v → ∃ d after', after = d :: after' ∧ d.request = .read a

section Shape

variable {nodeHost : String} {condition : Condition} {d : Descriptor} {es : List (Exchange τ)}
  {r : Option ResourceState}

theorem Polls.reads {a : Address} (h : Polls nodeHost a condition es r) :
    es ≠ [] ∧ ∀ e ∈ es, e.request = .read a := by
  induction h with
  | ready read | vain read => exact ⟨by simp, by simpa using read.1⟩
  | again read hides rest ih => exact ⟨by simp, by simpa using ⟨read.1, ih.2⟩⟩

namespace Part

/-- **A part is a read, then reads only, or an attempt to create what the read did not find and
then reads only.** -/
theorem shape (h : Part nodeHost d condition es r) :
    ∃ e rest, es = e :: rest ∧ e.request = .read d.address ∧
      ((∀ e ∈ rest, e.request = .read d.address) ∨
        ∃ c polls reason, rest = c :: polls ∧ c.request = .create d.address d.manifest ∧
          e.reply.answer = .error (.api (some 404) reason) ∧
          (∀ e ∈ polls, e.request = .read d.address) ∧
          ∀ v, c.reply.answer = .ok v → polls ≠ []) := by
  cases h with
  | ready read | failed read | broken read =>
    exact ⟨_, [], rfl, read.1, Or.inl (by simp)⟩
  | polled read hides polls => exact ⟨_, _, rfl, read.1, Or.inl polls.reads.2⟩
  | created read create polls =>
    obtain ⟨reason, absent⟩ := read.absent
    exact ⟨_, _, rfl, read.1,
      Or.inr ⟨_, _, reason, rfl, create.1, absent, polls.reads.2, fun v _ => polls.reads.1⟩⟩
  | uncreated read create unmade =>
    obtain ⟨reason, absent⟩ := read.absent
    refine ⟨_, _, rfl, read.1, Or.inr ⟨_, [], reason, rfl, create.1, absent, by simp, ?_⟩⟩
    intro v hv
    obtain ⟨s, hs⟩ := create.made_iff.2 ⟨v, hv⟩
    exact absurd hs (unmade s)

/-- Every call of a part is a read or an attempt to create, and about the one object. -/
theorem requests (h : Part nodeHost d condition es r) {e : Exchange τ} (he : e ∈ es) :
    e.request = .read d.address ∨ e.request = .create d.address d.manifest := by
  obtain ⟨first, rest, rfl, hfirst, hrest | ⟨c, polls, -, rfl, hc, -, hpolls, -⟩⟩ := h.shape
  · rcases List.mem_cons.1 he with rfl | he
    · exact Or.inl hfirst
    · exact Or.inl (hrest e he)
  · rcases List.mem_cons.1 he with rfl | he
    · exact Or.inl hfirst
    · rcases List.mem_cons.1 he with rfl | he
      · exact Or.inr hc
      · exact Or.inl (hpolls e he)

theorem address (h : Part nodeHost d condition es r) {e : Exchange τ} (he : e ∈ es) :
    e.request.address? = some d.address := by
  rcases h.requests he with hr | hr <;> rw [hr] <;> rfl

theorem kind (h : Part nodeHost d condition es r) {e : Exchange τ} (he : e ∈ es) {a : Address}
    (ha : e.request.address? = some a) : a.kind = d.kind := by
  obtain rfl := Option.some.inj ((h.address he).symm.trans ha)
  rfl

/-- An attempt to create is the second call of its part. -/
theorem of_create (h : Part nodeHost d condition es r) {before after : List (Exchange τ)}
    {c : Exchange τ} {a : Address} {body : Manifest} (hes : es = before ++ c :: after)
    (hc : c.request = .create a body) :
    a = d.address ∧ (∃ e reason, before = [e] ∧ e.request = .read a ∧
      e.reply.answer = .error (.api (some 404) reason)) ∧ (∀ e ∈ after, e.request = .read a) ∧
      ∀ v, c.reply.answer = .ok v → after ≠ [] := by
  have hread : ∀ e : Exchange τ, e.request = .read d.address → e ≠ c := by
    rintro e he rfl
    exact absurd (he.symm.trans hc) (by simp)
  obtain ⟨first, rest, rfl, hfirst, hrest⟩ := h.shape
  rcases before with _ | ⟨e, before⟩
  · obtain ⟨rfl, -⟩ := List.cons.inj hes
    exact absurd rfl (hread _ hfirst)
  obtain ⟨rfl, rfl⟩ := List.cons.inj hes
  rcases hrest with hreads | ⟨c', polls, reason, hsplit, hc', absent, hreads, hagain⟩
  · exact absurd rfl (hread c (hreads c (by simp)))
  rcases before with _ | ⟨e', before⟩
  · obtain ⟨rfl, rfl⟩ := List.cons.inj hsplit
    obtain ⟨rfl, -⟩ : d.address = a ∧ _ := by simpa [hc'] using hc
    exact ⟨rfl, ⟨_, reason, rfl, hfirst, absent⟩, hreads, hagain⟩
  · obtain ⟨rfl, rfl⟩ := List.cons.inj hsplit
    exact absurd rfl (hread c (hreads c (by simp)))

end Part

end Shape

/-- The two objects of a plan are not the same, since they are not of the same kind. -/
theorem Plan.pod_address_ne (plan : Plan τ) : plan.pod.address ≠ plan.service.address := by
  intro h
  have hkind : plan.pod.kind = plan.service.kind := congrArg Address.kind h
  rw [plan.pod_kind, plan.service_kind] at hkind
  cases hkind

namespace Provision.Sequence

variable {plan : Plan τ} {es : List (Exchange τ)}

/-- Every call is a read of an object, or an attempt to create one. -/
theorem requests (h : Sequence plan es) {e : Exchange τ} (he : e ∈ es) :
    ∃ a, e.request = .read a ∨ ∃ body, e.request = .create a body := by
  have hpart : ∀ {d condition} {fs : List (Exchange τ)} {r},
      Part plan.nodeHost d condition fs r → e ∈ fs →
      ∃ a, e.request = .read a ∨ ∃ body, e.request = .create a body := by
    intro d condition fs r part he
    rcases part.requests he with hr | hr
    · exact ⟨_, Or.inl hr⟩
    · exact ⟨_, Or.inr ⟨_, hr⟩⟩
  cases h with
  | service service => exact hpart service he
  | both service reachable pod =>
    rcases List.mem_append.1 he with he | he
    · exact hpart service he
    · exact hpart pod he

/-- The Pod comes last. -/
theorem podLast (h : Sequence plan es) : es.Pairwise fun d e => ∀ a b,
    d.request.address? = some a → e.request.address? = some b → a.kind = .pod → b.kind = .pod := by
  have hservice : ∀ {fs : List (Exchange τ)} {r},
      Part plan.nodeHost plan.service endpointAssigned fs r →
      ∀ d ∈ fs, ∀ a, d.request.address? = some a → a.kind ≠ .pod := by
    intro fs r part d hd a ha
    simp [part.kind hd ha, plan.service_kind]
  cases h with
  | service service =>
    exact List.pairwise_of_forall_mem_list fun d hd e he a b ha hb hk =>
      absurd hk (hservice service d hd a ha)
  | both service reachable pod =>
    refine List.pairwise_append.2 ⟨List.pairwise_of_forall_mem_list ?_,
      List.pairwise_of_forall_mem_list ?_, ?_⟩
    · exact fun d hd e he a b ha hb hk => absurd hk (hservice service d hd a ha)
    · exact fun d hd e he a b ha hb hk => (pod.kind he hb).trans plan.pod_kind
    · exact fun d hd e he a b ha hb hk => absurd hk (hservice service d hd a ha)

/-- **What surrounds an attempt to create**: directly before it the first call about the object, a
read that was answered by a 404; after it no other attempt to create the object, and, if it was
created, directly after it a read of it. -/
theorem of_create (h : Sequence plan es) {before after : List (Exchange τ)} {c : Exchange τ}
    {a : Address} {body : Manifest} (hes : es = before ++ c :: after)
    (hc : c.request = .create a body) :
    (∃ before' d reason, before = before' ++ [d] ∧ d.request = .read a ∧
        d.reply.answer = .error (.api (some 404) reason) ∧
        ∀ e ∈ before', e.request.address? ≠ some a) ∧
      (∀ d ∈ after, ∀ body', d.request ≠ .create a body') ∧
      ∀ v, c.reply.answer = .ok v → ∃ d after', after = d :: after' ∧ d.request = .read a := by
  have hread : ∀ {fs : List (Exchange τ)}, (∀ e ∈ fs, e.request = .read a) →
      ∀ d ∈ fs, ∀ body', d.request ≠ .create a body' := by
    intro fs hreads d hd body'
    simp [hreads d hd]
  have hnext : ∀ {fs : List (Exchange τ)}, fs ≠ [] → (∀ e ∈ fs, e.request = .read a) →
      ∃ d after', fs = d :: after' ∧ d.request = .read a := by
    intro fs hne hreads
    obtain ⟨d, fs', rfl⟩ := List.exists_cons_of_ne_nil hne
    exact ⟨d, fs', rfl, hreads d (by simp)⟩
  cases h with
  | service service =>
    obtain ⟨rfl, ⟨d, reason, rfl, hd, absent⟩, hreads, hagain⟩ := service.of_create hes hc
    refine ⟨⟨[], d, reason, rfl, hd, absent, by simp⟩, hread hreads, fun v hv => ?_⟩
    exact hnext (hagain v hv) hreads
  | @both es ps s r service reachable pod =>
    rcases List.append_eq_append_iff.1 hes with ⟨mid, rfl, hps⟩ | ⟨mid, rfl, hmid⟩
    · obtain ⟨rfl, ⟨d, reason, rfl, hd, absent⟩, hreads, hagain⟩ := pod.of_create hps hc
      refine ⟨⟨es, d, reason, rfl, hd, absent, fun e he ha => ?_⟩, hread hreads, fun v hv => ?_⟩
      · exact plan.pod_address_ne (Option.some.inj (ha.symm.trans (service.address he)))
      · exact hnext (hagain v hv) hreads
    · rcases mid with _ | ⟨c', mid⟩
      · have hfirst : ps = [] ++ c :: after := hmid.symm
        obtain ⟨-, ⟨d, reason, hd, -⟩, -⟩ := pod.of_create hfirst hc
        exact absurd hd (by simp)
      · obtain ⟨rfl, rfl⟩ := List.cons.inj hmid
        obtain ⟨rfl, ⟨d, reason, rfl, hd, absent⟩, hreads, hagain⟩ := service.of_create rfl hc
        refine ⟨⟨[], d, reason, rfl, hd, absent, by simp⟩, fun e he body' => ?_, fun v hv => ?_⟩
        · rcases List.mem_append.1 he with he | he
          · exact hread hreads e he body'
          · intro hcreate
            have ha := pod.address he
            rw [hcreate] at ha
            exact plan.pod_address_ne (Option.some.inj ha).symm
        · obtain ⟨e, after', rfl, he⟩ := hnext (hagain v hv) hreads
          exact ⟨e, after' ++ ps, rfl, he⟩

/-- What was created is read again. -/
theorem confirmed (h : Sequence plan es) : Confirmed es :=
  fun hes hc hv => (h.of_create hes hc).2.2 _ hv

/-- **Every beginning of a sequence is in order.** -/
theorem orderly {rest : List (Exchange τ)} (h : Sequence plan (es ++ rest)) : Orderly es where
  podLast := (List.pairwise_append.1 h.podLast).1
  absent := by
    rintro before c after a body rfl hc
    exact (h.of_create (List.append_assoc ..) hc).1
  once := by
    rintro before c after a body rfl hc d hd
    exact (h.of_create (List.append_assoc ..) hc).2.1 d (List.mem_append_left _ hd)
  again := by
    rintro before c after a body v rfl hc hv
    obtain ⟨d, after', hafter, hd⟩ := (h.of_create (List.append_assoc ..) hc).2.2 v hv
    rcases List.append_eq_cons_iff.1 hafter with ⟨hnil, -⟩ | ⟨after'', hcons, -⟩
    · exact Or.inl hnil
    · exact Or.inr ⟨d, after'', hcons, hd⟩
  kept := by
    intro e he a hdelete
    obtain ⟨b, hr | ⟨body, hr⟩⟩ := h.requests (List.mem_append_left _ he) <;> simp [hr] at hdelete

end Provision.Sequence

/-! ## Histories -/

namespace History

variable [Clock τ] {plan : Plan τ} (h : History plan)

/-- The calls to the cluster that were made for a flight before an instant, in order. -/
def callsOf (f : Flight) (n : ℕ) : List (Exchange τ) := Exchange.calls (h.exchangesOf f n)

/-- **The calls of provisioning have their shape.**  In every history and at every instant, the
calls made so far for a flight are the beginning of a sequence, and in order; and when the flight
has come to its end, they are a whole sequence, in which everything created is read again. -/
theorem calls_shape (f : Flight) (n : ℕ) :
    (∃ rest, Provision.Sequence plan (h.callsOf f n ++ rest)) ∧
      Provision.Orderly (h.callsOf f n) ∧
      ∀ o, (h.crew n).Reached f (.done o) →
        Provision.Sequence plan (h.callsOf f n) ∧ Provision.Confirmed (h.callsOf f n) := by
  obtain ⟨s, trace⟩ := h.exists_trace f n
  obtain ⟨rest, o, course⟩ := Provision.exists_course trace
  have sequence := course.sequence
  rw [Exchange.calls_append] at sequence
  refine ⟨⟨_, sequence⟩, sequence.orderly, fun o hend => ?_⟩
  have whole := (Provision.course_of_trace (trace_of_reached hend)).sequence
  exact ⟨whole, whole.confirmed⟩

end History

end EphemeralDatabase
