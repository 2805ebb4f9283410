import EphemeralDatabase.Fixture.Teardown
import EphemeralDatabase.Proofs.Machine.Trace

/-!
# Courses of tearing down

Objects are deleted one after another, and whatever comes of an attempt is put into the report,
unless it breaks: then nothing more is deleted and there is no report.  Every object that comes
before is attempted once, and in the given order.

Tearing down always comes to an end, since it makes no more attempts than there are objects
(`Course.exists_answered`), and its report is about these objects (`about_of_trace`).
-/

namespace EphemeralDatabase

variable {τ : Type}

/-- An attempt to delete an object, and what came of it. -/
def Exchange.Deletes (e : Exchange τ) (a : Address) (gone : Except Fault DeleteOutcome) : Prop :=
  e.request = .delete a ∧ deleteOutcome a e.reply.answer = gone

theorem Exchange.Deletes.broken {e : Exchange τ} {a : Address} {fault : Fault}
    (h : e.Deletes a (.error fault)) :
    e.reply.answer = .error fault ∧ fault.failure? a .delete = none := by
  have hr := h.2
  unfold deleteOutcome at hr
  split at hr
  · cases hr
  · rename_i fault' ha
    split at hr
    · cases hr
    · split at hr
      · cases hr
      · rename_i hf
        cases hr
        exact ⟨ha, hf⟩

namespace Teardown

/-- How tearing down can go: with these objects left to delete and this report so far, these
exchanges lead to this result. -/
inductive Course : List Address → Report → List (Exchange τ) → Except Fault Report → Prop
  | done {report : Report} : Course [] report [] (.ok report)
  | broken {a : Address} {rest : List Address} {report : Report} {e : Exchange τ} {fault : Fault}
      (delete : e.Deletes a (.error fault)) : Course (a :: rest) report [e] (.error fault)
  | next {a : Address} {rest : List Address} {report : Report} {e : Exchange τ}
      {outcome : DeleteOutcome} {es : List (Exchange τ)} {r : Except Fault Report}
      (delete : e.Deletes a (.ok outcome))
      (others : Course rest (enter a report outcome : Report × Event τ).1 es r) :
      Course (a :: rest) report (e :: es) r

variable {addresses : List Address} {report : Report} {es : List (Exchange τ)}
  {r : Except Fault Report}

theorem resume_of_ok {a : Address} {rest : List Address} {reply : Reply τ}
    {outcome : DeleteOutcome} (h : deleteOutcome a reply.answer = .ok outcome) :
    (machine.resume (.deleting (a :: rest) report) reply).1 =
      .deleting rest (enter a report outcome : Report × Event τ).1 := by
  simp [machine, resume, h]

theorem resume_of_error {a : Address} {rest : List Address} {reply : Reply τ} {fault : Fault}
    (h : deleteOutcome a reply.answer = .error fault) :
    (machine.resume (.deleting (a :: rest) report) reply).1 = .broken fault := by
  simp [machine, resume, h]

namespace Course

theorem exists_trace (h : Course addresses report es r) :
    ∃ s, machine.Trace (.deleting addresses report) es s ∧ ask s = (none : Option (Request τ)) ∧
      result s = r := by
  induction h with
  | done => exact ⟨_, .nil _, rfl, rfl⟩
  | @broken a rest report e fault delete =>
    obtain ⟨request, reply⟩ := e
    obtain ⟨rfl, hr⟩ := delete
    refine ⟨.broken fault, .cons rfl ?_, rfl, rfl⟩
    rw [resume_of_error hr]
    exact .nil _
  | @next a rest report e outcome es r delete others ih =>
    obtain ⟨request, reply⟩ := e
    obtain ⟨rfl, hr⟩ := delete
    obtain ⟨s, trace, hs, hresult⟩ := ih
    refine ⟨s, .cons rfl ?_, hs, hresult⟩
    rw [resume_of_ok hr]
    exact trace

/-- **Whatever the cluster answers, tearing down takes a course.** -/
theorem of_trace {s : Stage} (h : machine.Trace (.deleting addresses report) es s)
    (hs : ask s = (none : Option (Request τ))) : Course addresses report es (result s) := by
  induction addresses generalizing report es with
  | nil =>
    obtain ⟨rfl, rfl⟩ := h.of_quiet rfl
    exact .done
  | cons a rest ih =>
    obtain ⟨e, fs, rfl, hreq, next⟩ := h.exists_cons rfl hs
    match hr : deleteOutcome a e.reply.answer with
    | .ok outcome =>
      rw [resume_of_ok hr] at next
      exact .next ⟨hreq, hr⟩ (ih next)
    | .error fault =>
      rw [resume_of_error hr] at next
      obtain ⟨rfl, rfl⟩ := next.of_quiet rfl
      exact .broken ⟨hreq, hr⟩

/-- **Tearing down comes to its end**, whatever the replies are. -/
theorem exists_answered (addresses : List Address) (report : Report) (reply : ℕ → Reply τ) :
    ∃ es r, Course addresses report es r ∧ Exchange.Answered reply es := by
  induction addresses generalizing report reply with
  | nil => exact ⟨[], _, .done, .nil⟩
  | cons a rest ih =>
    match hr : deleteOutcome a (reply 0).answer with
    | .ok outcome =>
      obtain ⟨es, r, course, answered⟩ :=
        ih (enter a report outcome : Report × Event τ).1 fun i => reply (i + 1)
      exact ⟨⟨.delete a, reply 0⟩ :: es, r, .next ⟨rfl, hr⟩ course, answered.cons rfl⟩
    | .error fault =>
      exact ⟨[⟨.delete a, reply 0⟩], _, .broken ⟨rfl, hr⟩, Exchange.Answered.nil.cons rfl⟩

/-- **Every object is attempted once, in the given order**, up to the one with which it breaks. -/
theorem requests (h : Course addresses report es r) :
    ((∃ full, r = .ok full) ∧ es.map Exchange.request = addresses.map .delete) ∨
      ∃ done a rest before e fault, addresses = done ++ a :: rest ∧ es = before ++ [e] ∧
        before.map Exchange.request = done.map .delete ∧ e.Deletes a (.error fault) ∧
        r = .error fault := by
  induction h with
  | @done report => exact Or.inl ⟨⟨report, rfl⟩, rfl⟩
  | @broken a rest report e fault delete =>
    exact Or.inr ⟨[], a, rest, [], e, fault, rfl, rfl, rfl, delete, rfl⟩
  | @next a rest report e outcome es r delete others ih =>
    rcases ih with ⟨hr, hes⟩ | ⟨done, b, rest, before, d, fault, rfl, rfl, hdone, hd, rfl⟩
    · exact Or.inl ⟨hr, by simp [hes, delete.1]⟩
    · exact Or.inr ⟨a :: done, b, rest, e :: before, d, fault, rfl, rfl, by simp [hdone, delete.1],
        hd, rfl⟩

end Course

/-! ## Reports -/

/-- The report is about these objects. -/
structure About (addresses : List Address) (report : Report) : Prop where
  deleted : ∀ a ∈ report.deleted, a ∈ addresses
  alreadyGone : ∀ a ∈ report.alreadyGone, a ∈ addresses
  failures : ∀ f ∈ report.failures, f.address ∈ addresses

theorem address_of_failed {a : Address} {answer : Answer} {f : Failure}
    (h : deleteOutcome a answer = .ok (.failed f)) : f.address = a := by
  cases answer with
  | ok view => simp [deleteOutcome] at h
  | error fault =>
    simp only [deleteOutcome] at h
    split at h
    · cases h
    · cases fault <;> simp [Fault.failure?] at h <;> simp [← h]

/-- What comes of an attempt is entered for its object. -/
theorem About.enter {a : Address} {answer : Answer} {outcome : DeleteOutcome}
    (h : About addresses report) (ha : a ∈ addresses)
    (hread : deleteOutcome a answer = .ok outcome) :
    About addresses (enter a report outcome : Report × Event τ).1 := by
  obtain ⟨hdeleted, hgone, hfailures⟩ := h
  cases outcome with
  | deleted b =>
    exact ⟨List.forall_mem_append.2 ⟨hdeleted, List.forall_mem_singleton.2 ha⟩, hgone, hfailures⟩
  | notFound b =>
    exact ⟨hdeleted, List.forall_mem_append.2 ⟨hgone, List.forall_mem_singleton.2 ha⟩, hfailures⟩
  | failed f =>
    have hf : f.address ∈ addresses := by rwa [address_of_failed hread]
    exact ⟨hdeleted, hgone, List.forall_mem_append.2 ⟨hfailures, List.forall_mem_singleton.2 hf⟩⟩

/-- What is left to delete and what is reported are of these objects. -/
def Stage.About (addresses : List Address) : Stage → Prop
  | .deleting rest report => (∀ a ∈ rest, a ∈ addresses) ∧ Teardown.About addresses report
  | .broken _ => True

theorem Stage.About.resume {s : Stage} (h : s.About addresses) (reply : Reply τ) :
    (machine.resume s reply).1.About addresses := by
  match s, h with
  | .deleting [] _, h => exact h
  | .broken _, _ => trivial
  | .deleting (a :: rest) report, ⟨hrest, hreport⟩ =>
    obtain ⟨ha, hrest⟩ := List.forall_mem_cons.1 hrest
    match hread : deleteOutcome a reply.answer with
    | .ok outcome =>
      rw [resume_of_ok hread]
      exact ⟨hrest, hreport.enter ha hread⟩
    | .error fault =>
      rw [resume_of_error hread]
      trivial

theorem Stage.About.trace {s t : Stage} (h : s.About addresses) (trace : machine.Trace s es t) :
    t.About addresses := by
  induction trace with
  | nil s => exact h
  | cons asks _ ih => exact ih (h.resume _)

/-- **A report is about the objects that were to be deleted.** -/
theorem about_of_trace {s : Stage} (trace : machine.Trace (start addresses) es s)
    (h : result s = .ok report) : About addresses report := by
  have hstart : (start addresses).About addresses := ⟨fun _ ha => ha, nofun, nofun, nofun⟩
  have hs := hstart.trace trace
  cases s with
  | deleting rest found =>
    obtain rfl : found = report := Except.ok.inj h
    exact hs.2
  | broken fault => cases h

end Teardown

end EphemeralDatabase
