import EphemeralDatabase.Proofs.Machine.Run
import EphemeralDatabase.Proofs.Teardown.Course
import Mathlib.Data.List.Forall2

/-!
# What a report accounts for

A `Deletion` is an attempt to delete an object, together with what came of it.  Tearing down makes
one for every object in the given order, whatever came of those before, and its report is the one on
these attempts (`Teardown.deleteAll_of_attempts`): deleted objects, missing ones and failures stand
in three lists, each in the order of the attempts, and no attempt is left out.

Only what is no outcome at all ends a teardown early, when a call is broken by something that is
neither the answer of the server nor a failure on the way to it (`Teardown.Breaks`).
-/

namespace EphemeralDatabase

variable {τ ω : Type}

/-! ## Attempts -/

namespace DeleteOutcome

/-- The object was deleted. -/
def isDeleted : DeleteOutcome → Bool
  | deleted _ => true
  | _ => false

/-- The object was not there. -/
def isMissing : DeleteOutcome → Bool
  | notFound _ => true
  | _ => false

/-- Why the object was not deleted. -/
def failure? : DeleteOutcome → Option Failure
  | failed f => some f
  | _ => none

end DeleteOutcome

/-- An attempt to delete an object, and what came of it. -/
structure Deletion where
  address : Address
  outcome : DeleteOutcome

/-- An exchange is this attempt. -/
def Deletion.MadeBy (t : Deletion) (e : Exchange τ) : Prop := e.Deletes t.address (.ok t.outcome)

/-- Attempts ask for the deletion of their objects. -/
theorem Deletion.requests_eq {attempts : List Deletion} {es : List (Exchange τ)}
    (each : List.Forall₂ (fun t e => t.MadeBy e) attempts es) :
    es.map Exchange.request = attempts.map fun t => .delete t.address := by
  induction each with
  | nil => rfl
  | cons made _ ih => rw [List.map_cons, List.map_cons, ih, made.1]

/-- One after the other, the world answers these attempts in these exchanges. -/
structure World.Attempts (world : World τ ω) (w : ω) (attempts : List Deletion)
    (es : List (Exchange τ)) (w' : ω) : Prop where
  carries : Carries world.Conducts w es w'
  each : List.Forall₂ (fun t e => t.MadeBy e) attempts es

/-! ## Reports -/

namespace Report

/-- The report on attempts. -/
def on (attempts : List Deletion) : Report where
  deleted := (attempts.filter fun t => t.outcome.isDeleted).map Deletion.address
  alreadyGone := (attempts.filter fun t => t.outcome.isMissing).map Deletion.address
  failures := attempts.filterMap fun t => t.outcome.failure?

/-- A report, and another one behind it. -/
def followedBy (r s : Report) : Report where
  deleted := r.deleted ++ s.deleted
  alreadyGone := r.alreadyGone ++ s.alreadyGone
  failures := r.failures ++ s.failures

@[simp] theorem followedBy_on_nil (r : Report) : r.followedBy (on []) = r := by
  simp [followedBy, on]

theorem followedBy_assoc (r s t : Report) :
    (r.followedBy s).followedBy t = r.followedBy (s.followedBy t) := by
  simp [followedBy]

theorem on_cons (t : Deletion) (attempts : List Deletion) :
    on (t :: attempts) = (on [t]).followedBy (on attempts) := by
  rw [← List.singleton_append]
  simp only [on, followedBy, List.filter_append, List.map_append, List.filterMap_append]

/-- What is entered for an attempt is the report on it. -/
theorem enter_eq (r : Report) (t : Deletion) :
    (Teardown.enter t.address r t.outcome : Report × Event τ).1 = r.followedBy (on [t]) := by
  obtain ⟨a, outcome⟩ := t
  cases outcome <;>
    simp [Teardown.enter, followedBy, on, DeleteOutcome.isDeleted, DeleteOutcome.isMissing,
      DeleteOutcome.failure?]

/-- What is entered first stands in front. -/
theorem enter_followedBy (r : Report) (t : Deletion) (attempts : List Deletion) :
    (Teardown.enter t.address r t.outcome : Report × Event τ).1.followedBy (on attempts) =
      r.followedBy (on (t :: attempts)) := by
  rw [enter_eq, followedBy_assoc, ← on_cons]

/-- How many attempts a report accounts for. -/
def size (r : Report) : ℕ := r.deleted.length + r.alreadyGone.length + r.failures.length

theorem size_followedBy (r s : Report) : (r.followedBy s).size = r.size + s.size := by
  simp only [size, followedBy, List.length_append]
  omega

theorem size_on (attempts : List Deletion) : (on attempts).size = attempts.length := by
  induction attempts with
  | nil => rfl
  | cons t attempts ih =>
    have single : (on [t]).size = 1 := by
      obtain ⟨a, outcome⟩ := t
      cases outcome <;> rfl
    rw [on_cons, size_followedBy, single, ih, List.length_cons, Nat.add_comm]

/-- A report parts attempts by what came of them: each is in one of the three lists, and in each
list they stand in order. -/
structure Parts (r : Report) (attempts : List Deletion) : Prop where
  deleted : r.deleted = (attempts.filter fun t => t.outcome.isDeleted).map Deletion.address
  alreadyGone : r.alreadyGone = (attempts.filter fun t => t.outcome.isMissing).map Deletion.address
  failures : r.failures = attempts.filterMap fun t => t.outcome.failure?
  failed : r.failures.map Failure.address =
    (attempts.filter fun t => t.outcome.failure?.isSome).map Deletion.address
  size : r.size = attempts.length
  ok : r.ok = true ↔ ∀ t ∈ attempts, t.outcome.failure? = none

theorem ok_on_iff (attempts : List Deletion) :
    (on attempts).ok = true ↔ ∀ t ∈ attempts, t.outcome.failure? = none := by
  rw [ok, List.isEmpty_iff, on, List.filterMap_eq_nil_iff]

/-- A failure is that of its object. -/
theorem failed_on {attempts : List Deletion} {es : List (Exchange τ)}
    (each : List.Forall₂ (fun t e => t.MadeBy e) attempts es) :
    (on attempts).failures.map Failure.address =
      (attempts.filter fun t => t.outcome.failure?.isSome).map Deletion.address := by
  induction each with
  | nil => rfl
  | @cons t e attempts es made _ ih =>
    obtain ⟨a, outcome⟩ := t
    cases outcome with
    | deleted b => simpa [on, DeleteOutcome.failure?] using ih
    | notFound b => simpa [on, DeleteOutcome.failure?] using ih
    | failed f =>
      have hf : f.address = a := Teardown.address_of_failed made.2
      simpa [on, DeleteOutcome.failure?, hf] using ih

theorem parts_on {attempts : List Deletion} {es : List (Exchange τ)}
    (each : List.Forall₂ (fun t e => t.MadeBy e) attempts es) : (on attempts).Parts attempts :=
  ⟨rfl, rfl, rfl, failed_on each, size_on attempts, ok_on_iff attempts⟩

end Report

/-! ## Tearing down -/

namespace Teardown

variable {world : World τ ω} {w w' : ω} {attempts : List Deletion} {addresses : List Address}
  {report : Report} {es : List (Exchange τ)} {r : Except Fault Report}

/-- There is an exchange at most for every object. -/
theorem Course.length_le (course : Course addresses report es r) :
    es.length ≤ addresses.length := by
  induction course with
  | done => exact Nat.le_refl _
  | broken delete => simp
  | next delete others ih => exact Nat.succ_le_succ ih

/-- **A teardown takes the course in which the world takes part.** -/
theorem deleteAll_of_course (course : Course addresses {} es r)
    (carries : Carries world.Conducts w es w') :
    (deleteAll world addresses w).result = r ∧ (deleteAll world addresses w).world = w' ∧
      (deleteAll world addresses w).journal.exchanges = es := by
  obtain ⟨t, trace, quiet, rfl⟩ := course.exists_trace
  have runs := Machine.runs_of_trace trace carries course.length_le (.inl quiet)
  refine ⟨?_, ?_, ?_⟩
  · rw [← runs.result]
    rfl
  · rw [← runs.leaves]
    rfl
  · rw [← runs.exchanges]
    simp [deleteAll, bind, pure, start]

/-- There is a course that the world takes part in. -/
theorem exists_course (world : World τ ω) (addresses : List Address) (report : Report) (w : ω) :
    ∃ es r w', Course addresses report es r ∧ Carries world.Conducts w es w' := by
  induction addresses generalizing report w with
  | nil => exact ⟨[], _, w, .done, carries_nil.2 rfl⟩
  | cons a rest ih =>
    let asked := world.ask (.delete a) w
    have first : world.Conducts w ⟨.delete a, asked.1⟩ asked.2 := rfl
    match hr : deleteOutcome a asked.1.answer with
    | .ok outcome =>
      obtain ⟨es, r, w', course, carries⟩ :=
        ih (enter a report outcome : Report × Event τ).1 asked.2
      exact ⟨_, r, w', .next ⟨rfl, hr⟩ course, carries_cons.2 ⟨_, first, carries⟩⟩
    | .error fault => exact ⟨_, _, asked.2, .broken ⟨rfl, hr⟩, carries_singleton.2 first⟩

/-- Attempts that the world answers are a course, at whose end the report on them stands. -/
theorem Course.of_attempts (report : Report)
    (each : List.Forall₂ (fun t e => t.MadeBy e) attempts es) :
    Course (attempts.map Deletion.address) report es
      (.ok (report.followedBy (Report.on attempts))) := by
  induction each generalizing report with
  | nil =>
    rw [Report.followedBy_on_nil]
    exact .done
  | @cons t e attempts es made _ ih =>
    refine .next made ?_
    have rest := ih (enter t.address report t.outcome : Report × Event τ).1
    rwa [Report.enter_followedBy] at rest

/-- A course consists of attempts, one for each object, unless one of them is broken. -/
theorem Course.exists_attempts (course : Course addresses report es r) :
    (∃ attempts, attempts.map Deletion.address = addresses ∧
      List.Forall₂ (fun t e => t.MadeBy e) attempts es) ∨
      ∃ attempts a rest before e fault,
        addresses = attempts.map Deletion.address ++ a :: rest ∧ es = before ++ [e] ∧
        List.Forall₂ (fun t e => t.MadeBy e) attempts before ∧ e.Deletes a (.error fault) ∧
        r = .error fault := by
  induction course with
  | done => exact .inl ⟨[], rfl, .nil⟩
  | @broken a rest report e fault delete =>
    exact .inr ⟨[], a, rest, [], e, fault, rfl, rfl, .nil, delete, rfl⟩
  | @next a rest report e outcome es r delete others ih =>
    rcases ih with ⟨attempts, rfl, each⟩ | ⟨attempts, b, rest, before, d, fault, rfl, rfl, each,
      broken, rfl⟩
    · exact .inl ⟨⟨a, outcome⟩ :: attempts, rfl, .cons delete each⟩
    · exact .inr ⟨⟨a, outcome⟩ :: attempts, b, rest, e :: before, d, fault, rfl, rfl,
        .cons delete each, broken, rfl⟩

/-- Tearing down has made these attempts and no others, and its report parts them. -/
structure Completes (world : World τ ω) (w : ω) (attempts : List Deletion) (es : List (Exchange τ))
    (w' : ω) : Prop where
  requests : es.map Exchange.request = attempts.map fun t => .delete t.address
  exchanges : (deleteAll world (attempts.map Deletion.address) w).journal.exchanges = es
  leaves : (deleteAll world (attempts.map Deletion.address) w).world = w'
  reports : ∃ report, (deleteAll world (attempts.map Deletion.address) w).result = .ok report ∧
    report.Parts attempts

/-- **Whatever comes of the attempts, tearing down makes all of them**, in order, and reports on
them. -/
theorem deleteAll_of_attempts (h : world.Attempts w attempts es w') :
    Completes world w attempts es w' := by
  have course : Course (attempts.map Deletion.address) {} es (.ok (Report.on attempts)) :=
    .of_attempts {} h.each
  obtain ⟨hresult, hleaves, hexchanges⟩ := deleteAll_of_course course h.carries
  exact ⟨Deletion.requests_eq h.each, hexchanges, hleaves, _, hresult, Report.parts_on h.each⟩

/-- A call is broken by something that is no outcome of it: those before it have been made, and
nothing comes after it. -/
def Breaks (world : World τ ω) (addresses : List Address) (w : ω) : Prop :=
  ∃ attempts a rest before e fault w₁ w', addresses = attempts.map Deletion.address ++ a :: rest ∧
    world.Attempts w attempts before w₁ ∧ world.Conducts w₁ e w' ∧ e.Deletes a (.error fault) ∧
    (deleteAll world addresses w).result = .error fault ∧
    (deleteAll world addresses w).journal.exchanges = before ++ [e]

/-- **The world answers attempts for all objects, or a call is broken.** -/
theorem exists_attempts_or_breaks (world : World τ ω) (addresses : List Address) (w : ω) :
    (∃ attempts es w', attempts.map Deletion.address = addresses ∧
      world.Attempts w attempts es w') ∨ Breaks world addresses w := by
  obtain ⟨es, r, w', course, carries⟩ := exists_course world addresses {} w
  obtain ⟨hresult, -, hexchanges⟩ := deleteAll_of_course course carries
  rcases course.exists_attempts with ⟨attempts, rfl, each⟩ | ⟨attempts, a, rest, before, e, fault,
    rfl, rfl, each, broken, rfl⟩
  · exact .inl ⟨attempts, es, w', rfl, carries, each⟩
  · obtain ⟨w₁, first, last⟩ := carries_append.1 carries
    exact .inr ⟨attempts, a, rest, before, e, fault, w₁, w', rfl, ⟨first, each⟩,
      carries_singleton.1 last, broken, hresult, hexchanges⟩

/-- A report is about the objects that were to be deleted. -/
theorem about_of_deleteAll (h : (deleteAll world addresses w).result = .ok report) :
    About addresses report := by
  obtain ⟨es, t, w', runs, trace, -, -⟩ :=
    machine.exists_runs world addresses.length (start addresses) w
  have hresult : result t = .ok report := by
    rw [← h, ← runs.result]
    rfl
  exact about_of_trace trace hresult

end Teardown

end EphemeralDatabase
