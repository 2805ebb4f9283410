import EphemeralDatabase.Fixture.Ensure
import EphemeralDatabase.Proofs.Machine.Trace

/-!
# Courses of ensuring

A machine says what happens next.  A *course* says what happened on the whole: which exchanges
there were, in order, what each of them found, and what came of them.  The course of a machine is
a relation with a constructor for every way in which things can go, and `course_of_trace` says
that they go in no other way, whatever the outside replies.

Here are the courses of ensuring that an object exists: it is read, and created if and only if
the cluster says that it is not there.
-/

namespace EphemeralDatabase

variable {τ : Type}

/-! ## Exchanges -/

namespace Exchange

/-- A read of an object, and what came of it. -/
def Reads (e : Exchange τ) (nodeHost : String) (a : Address) (seen : Except Fault ReadOutcome) :
    Prop :=
  e.request = .read a ∧ readOutcome nodeHost a e.reply.answer = seen

/-- An attempt to create an object, and what came of it. -/
def Creates (e : Exchange τ) (nodeHost : String) (d : Descriptor)
    (made : Except Fault CreateOutcome) : Prop :=
  e.request = .create d.address d.manifest ∧ createOutcome nodeHost d.address e.reply.answer = made

end Exchange

/-! ## Courses -/

namespace Ensure

/-- How ensuring that an object exists can go: it is read, and created if it is not there. -/
inductive Course (nodeHost : String) (d : Descriptor) :
    List (Exchange τ) → Except Fault Ensured → Prop
  | existed {e : Exchange τ} {s : ResourceState}
      (read : e.Reads nodeHost d.address (.ok (.found s))) :
      Course nodeHost d [e] (.ok (.existed s))
  | undetermined {e : Exchange τ} {f : Failure}
      (read : e.Reads nodeHost d.address (.ok (.failed f))) :
      Course nodeHost d [e] (.ok (.failed d f))
  | unread {e : Exchange τ} {fault : Fault} (read : e.Reads nodeHost d.address (.error fault)) :
      Course nodeHost d [e] (.error fault)
  | created {e c : Exchange τ} {a : Address} {s : ResourceState}
      (read : e.Reads nodeHost d.address (.ok (.notFound a)))
      (create : c.Creates nodeHost d (.ok (.made s))) : Course nodeHost d [e, c] (.ok (.created s))
  | refused {e c : Exchange τ} {a : Address} {f : Failure}
      (read : e.Reads nodeHost d.address (.ok (.notFound a)))
      (create : c.Creates nodeHost d (.ok (.failed f))) :
      Course nodeHost d [e, c] (.ok (.failed d f))
  | broken {e c : Exchange τ} {a : Address} {fault : Fault}
      (read : e.Reads nodeHost d.address (.ok (.notFound a)))
      (create : c.Creates nodeHost d (.error fault)) : Course nodeHost d [e, c] (.error fault)

variable {nodeHost : String} {d : Descriptor} {es : List (Exchange τ)}

/-- Ensuring has nothing to ask exactly when it is done. -/
theorem ask_eq_none_iff {s : Stage} :
    (machine nodeHost d).ask s = (none : Option (Request τ)) ↔ ∃ r, s = .done r := by
  cases s <;> simp [machine, ask]

theorem resume_reading (reply : Reply τ) : (machine nodeHost d).resume .reading reply =
    afterRead d (readOutcome nodeHost d.address reply.answer) := rfl

theorem resume_creating (reply : Reply τ) : (machine nodeHost d).resume .creating reply =
    afterCreate d (createOutcome nodeHost d.address reply.answer) := rfl

theorem course_of_creating {e : Exchange τ} {a : Address} {r : Except Fault Ensured}
    (read : e.Reads nodeHost d.address (.ok (.notFound a)))
    (h : (machine nodeHost d).Trace .creating es (.done r)) : Course nodeHost d (e :: es) r := by
  obtain ⟨c, fs, rfl, hreq, rest⟩ := h.exists_cons rfl rfl
  rw [resume_creating] at rest
  match hr : createOutcome nodeHost d.address c.reply.answer with
  | .ok (.made s) =>
    rw [hr] at rest
    obtain ⟨rfl, hd⟩ := rest.of_quiet rfl
    cases hd
    exact .created read ⟨hreq, hr⟩
  | .ok (.failed f) =>
    rw [hr] at rest
    obtain ⟨rfl, hd⟩ := rest.of_quiet rfl
    cases hd
    exact .refused read ⟨hreq, hr⟩
  | .error fault =>
    rw [hr] at rest
    obtain ⟨rfl, hd⟩ := rest.of_quiet rfl
    cases hd
    exact .broken read ⟨hreq, hr⟩

/-- **Whatever the cluster answers, ensuring takes a course.** -/
theorem course_of_trace {r : Except Fault Ensured}
    (h : (machine nodeHost d).Trace .reading es (.done r)) : Course nodeHost d es r := by
  obtain ⟨e, fs, rfl, hreq, rest⟩ := h.exists_cons rfl rfl
  rw [resume_reading] at rest
  match hr : readOutcome nodeHost d.address e.reply.answer with
  | .ok (.found s) =>
    rw [hr] at rest
    obtain ⟨rfl, hd⟩ := rest.of_quiet rfl
    cases hd
    exact .existed ⟨hreq, hr⟩
  | .ok (.failed f) =>
    rw [hr] at rest
    obtain ⟨rfl, hd⟩ := rest.of_quiet rfl
    cases hd
    exact .undetermined ⟨hreq, hr⟩
  | .ok (.notFound a) =>
    rw [hr] at rest
    exact course_of_creating ⟨hreq, hr⟩ rest
  | .error fault =>
    rw [hr] at rest
    obtain ⟨rfl, hd⟩ := rest.of_quiet rfl
    cases hd
    exact .unread ⟨hreq, hr⟩

/-- **Every course is a trace**: ensuring can go in all of these ways. -/
theorem Course.trace {r : Except Fault Ensured} (h : Course nodeHost d es r) :
    (machine nodeHost d).Trace .reading es (.done r) := by
  cases h with
  | @existed e s read | @undetermined e s read | @unread e s read =>
    obtain ⟨request, reply⟩ := e
    obtain ⟨rfl, hr⟩ := read
    refine .cons rfl ?_
    rw [resume_reading, hr]
    exact .nil _
  | @created e c a s read create | @refused e c a s read create | @broken e c a s read create =>
    obtain ⟨request, reply⟩ := e
    obtain ⟨request', reply'⟩ := c
    obtain ⟨rfl, hr⟩ := read
    obtain ⟨rfl, hc⟩ := create
    refine .cons rfl ?_
    rw [resume_reading, hr]
    change (machine nodeHost d).Trace .creating _ _
    refine .cons rfl ?_
    rw [resume_creating, hc]
    exact .nil _

/-- **Ensuring comes to its end**, whatever the replies are, and not before the first of them. -/
theorem exists_answered (nodeHost : String) (d : Descriptor) (reply : ℕ → Reply τ) :
    ∃ es e r, Course nodeHost d (es ++ [e]) r ∧ Exchange.Answered reply (es ++ [e]) := by
  let read : Exchange τ := ⟨.read d.address, reply 0⟩
  let create : Exchange τ := ⟨.create d.address d.manifest, reply 1⟩
  have first : Exchange.Answered reply [read] := Exchange.Answered.nil.cons rfl
  match hr : readOutcome nodeHost d.address (reply 0).answer with
  | .ok (.found s) => exact ⟨[], read, _, .existed ⟨rfl, hr⟩, first⟩
  | .ok (.failed f) => exact ⟨[], read, _, .undetermined ⟨rfl, hr⟩, first⟩
  | .error fault => exact ⟨[], read, _, .unread ⟨rfl, hr⟩, first⟩
  | .ok (.notFound a) =>
    have both : Exchange.Answered reply [read, create] := first.snoc rfl
    match hc : createOutcome nodeHost d.address (reply 1).answer with
    | .ok (.made s) => exact ⟨[read], create, _, .created ⟨rfl, hr⟩ ⟨rfl, hc⟩, both⟩
    | .ok (.failed f) => exact ⟨[read], create, _, .refused ⟨rfl, hr⟩ ⟨rfl, hc⟩, both⟩
    | .error fault => exact ⟨[read], create, _, .broken ⟨rfl, hr⟩ ⟨rfl, hc⟩, both⟩

end Ensure

end EphemeralDatabase
