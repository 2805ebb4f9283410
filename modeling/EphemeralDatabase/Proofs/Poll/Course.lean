import EphemeralDatabase.Fixture.Poll
import EphemeralDatabase.Proofs.Ensure.Course

/-!
# Courses of waiting

The courses of waiting for an object: reads and pauses take turns until a read shows the condition
to hold, or one that does not ends too late, or something breaks.  Waiting may go on for ever, and
then it has no course; `Poll.course_of_trace` is about waiting that has come to its end.

Replies come with times, and a course compares them as waiting does: with the time at which it
began, never with each other.
-/

namespace EphemeralDatabase

variable {τ : Type}

/-- What was read satisfies a condition. -/
def ReadOutcome.shows (condition : Condition) : ReadOutcome → Bool
  | .found s => condition s
  | _ => false

theorem ReadOutcome.shows_iff {condition : Condition} {seen : ReadOutcome} :
    seen.shows condition = true ↔ ∃ s, seen = .found s ∧ condition s = true := by
  cases seen <;> simp [shows]

namespace Poll

/-- How waiting for an object can go: it is read, with pauses, until the condition is seen to
hold or a read ends too late, or until something breaks.  The number is how often the object was
read before. -/
inductive Course [Clock τ] {condition : Condition} (w : Watch τ) :
    ℕ → List (Exchange τ) → Except Fault (Waited condition τ) → Prop
  | ready {n : ℕ} {e : Exchange τ} {s : ResourceState}
      (read : e.Reads w.nodeHost w.address (.ok (.found s))) (holds : condition s = true) :
      Course w n [e] (.ok (.ready ⟨s, n + 1, e.reply.time - w.started, holds⟩))
  | late {n : ℕ} {e : Exchange τ} {seen : ReadOutcome}
      (read : e.Reads w.nodeHost w.address (.ok seen)) (hides : seen.shows condition = false)
      (late : w.pace.deadline < e.reply.time - w.started) :
      Course w n [e] (.ok (.timedOut
        ⟨w.address, w.pace.deadline, n + 1, e.reply.time - w.started, some seen⟩))
  | unread {n : ℕ} {e : Exchange τ} {fault : Fault}
      (read : e.Reads w.nodeHost w.address (.error fault)) : Course w n [e] (.error fault)
  | restless {n : ℕ} {e z : Exchange τ} {seen : ReadOutcome} {fault : Fault}
      (read : e.Reads w.nodeHost w.address (.ok seen)) (hides : seen.shows condition = false)
      (sleep : z.request = .sleep w.pace.interval) (broken : z.reply.answer = .error fault) :
      Course w n [e, z] (.error fault)
  | again {n : ℕ} {e z : Exchange τ} {seen : ReadOutcome} {es : List (Exchange τ)}
      {r : Except Fault (Waited condition τ)}
      (read : e.Reads w.nodeHost w.address (.ok seen)) (hides : seen.shows condition = false)
      (sleep : z.request = .sleep w.pace.interval) (rest : Course w (n + 1) es r) :
      Course w n (e :: z :: es) r

variable [Clock τ] {condition : Condition} {w : Watch τ} {es : List (Exchange τ)}

/-- Waiting has nothing to ask exactly when it is done. -/
theorem ask_eq_none_iff {s : Stage condition τ} :
    (machine w).ask s = none ↔ ∃ r, s = .done r := by
  cases s <;> simp [machine, ask]

/-- What is seen decides how waiting goes on. -/
theorem afterRead_of_hides {n : ℕ} {elapsed : τ} {seen : ReadOutcome}
    (hides : seen.shows condition = false) :
    afterRead w n elapsed seen = (again w n elapsed seen : Stage condition τ × _) := by
  cases seen with
  | found s =>
    have hs : ¬ condition s = true := ne_true_of_eq_false hides
    simp only [afterRead, dif_neg hs]
  | notFound a => rfl
  | failed f => rfl

/-- What happens in a pause and after it. -/
theorem exists_sleep {n : ℕ} {r : Except Fault (Waited condition τ)}
    (h : (machine w).Trace (.sleeping n) es (.done r)) :
    ∃ z fs, es = z :: fs ∧ z.request = .sleep w.pace.interval ∧
      ((∃ fault, z.reply.answer = .error fault ∧ fs = [] ∧ r = .error fault) ∨
        (machine w).Trace (.reading n) fs (.done r)) := by
  obtain ⟨z, fs, rfl, hreq, rest⟩ := h.exists_cons rfl rfl
  refine ⟨z, fs, rfl, hreq, ?_⟩
  simp only [machine, resume] at rest
  match ha : z.reply.answer with
  | .ok v =>
    rw [ha] at rest
    exact Or.inr rest
  | .error fault =>
    rw [ha] at rest
    obtain ⟨rfl, hd⟩ := rest.of_quiet rfl
    cases hd
    exact Or.inl ⟨fault, rfl, rfl, rfl⟩

/-- What follows from a read that did not show the condition to hold. -/
theorem course_of_again {n : ℕ} {r : Except Fault (Waited condition τ)} {e : Exchange τ}
    {seen : ReadOutcome} (read : e.Reads w.nodeHost w.address (.ok seen))
    (hides : seen.shows condition = false)
    (ih : ∀ fs, fs.length < es.length → (machine w).Trace (.reading (n + 1)) fs (.done r) →
      Course w (n + 1) fs r)
    (h : (machine w).Trace (again w (n + 1) (e.reply.time - w.started) seen).1 es (.done r)) :
    Course w n (e :: es) r := by
  unfold again at h
  split at h
  · rename_i late
    obtain ⟨rfl, hd⟩ := h.of_quiet rfl
    cases hd
    exact .late read hides late
  · obtain ⟨z, fs, rfl, sleep, ⟨fault, broken, rfl, rfl⟩ | rest⟩ := exists_sleep h
    · exact .restless read hides sleep broken
    · exact .again read hides sleep (ih fs (Nat.lt_succ_self _) rest)

/-- **Whatever the outside answers and whenever, waiting takes a course.** -/
theorem course_of_trace {n : ℕ} {r : Except Fault (Waited condition τ)}
    (h : (machine w).Trace (.reading n) es (.done r)) : Course w n es r := by
  -- a read and the pause after it are two exchanges, so the induction is on their number
  induction hlen : es.length using Nat.strongRecOn generalizing es n with
  | _ len ih =>
    obtain ⟨e, fs, rfl, hreq, rest⟩ := h.exists_cons rfl rfl
    have shorter : ∀ gs, gs.length < fs.length →
        (machine w).Trace (.reading (n + 1)) gs (.done r) → Course w (n + 1) gs r := by
      intro gs hgs hg
      refine ih gs.length ?_ hg rfl
      rw [← hlen, List.length_cons]
      exact Nat.lt_succ_of_lt hgs
    simp only [machine, resume] at rest
    match hr : readOutcome w.nodeHost w.address e.reply.answer with
    | .error fault =>
      rw [hr] at rest
      obtain ⟨rfl, hd⟩ := rest.of_quiet rfl
      cases hd
      exact .unread ⟨hreq, hr⟩
    | .ok seen =>
      rw [hr] at rest
      by_cases hides : seen.shows condition = false
      · simp only [afterRead_of_hides hides] at rest
        exact course_of_again ⟨hreq, hr⟩ hides shorter rest
      · obtain ⟨s, rfl, holds⟩ := ReadOutcome.shows_iff.1 (eq_true_of_ne_false hides)
        simp only [afterRead, dif_pos holds] at rest
        obtain ⟨rfl, hd⟩ := rest.of_quiet rfl
        cases hd
        exact .ready ⟨hreq, hr⟩ holds

/-! ### Traces put together -/

section Traces

variable {n : ℕ} {e : Exchange τ} {seen : ReadOutcome}

theorem resume_reading {reply : Reply τ}
    (h : readOutcome w.nodeHost w.address reply.answer = .ok seen) :
    (machine w).resume (.reading n : Stage condition τ) reply =
      afterRead w (n + 1) (reply.time - w.started) seen := by
  simp [machine, resume, h]

/-- A read that shows the condition to hold is the last. -/
theorem trace_ready {s : ResourceState} (read : e.Reads w.nodeHost w.address (.ok (.found s)))
    (holds : condition s = true) : (machine w).Trace (.reading n) [e]
      (.done (.ok (.ready ⟨s, n + 1, e.reply.time - w.started, holds⟩))) := by
  obtain ⟨request, reply⟩ := e
  obtain ⟨rfl, hr⟩ := read
  refine .cons rfl ?_
  rw [resume_reading hr]
  simp only [afterRead, dif_pos holds]
  exact .nil _

/-- One that does not, but ends too late, is the last as well. -/
theorem trace_late (read : e.Reads w.nodeHost w.address (.ok seen))
    (hides : seen.shows condition = false) (late : w.pace.deadline < e.reply.time - w.started) :
    (machine w).Trace (.reading n : Stage condition τ) [e] (.done (.ok (.timedOut
      ⟨w.address, w.pace.deadline, n + 1, e.reply.time - w.started, some seen⟩))) := by
  obtain ⟨request, reply⟩ := e
  obtain ⟨rfl, hr⟩ := read
  refine .cons rfl ?_
  rw [resume_reading hr, afterRead_of_hides hides]
  simp only [again, if_pos late]
  exact .nil _

/-- A read that breaks is the last as well. -/
theorem trace_unread {fault : Fault} (read : e.Reads w.nodeHost w.address (.error fault)) :
    (machine w).Trace (.reading n : Stage condition τ) [e] (.done (.error fault)) := by
  obtain ⟨request, reply⟩ := e
  obtain ⟨rfl, hr⟩ := read
  refine .cons rfl ?_
  simp only [machine, resume, hr]
  exact .nil _

/-- One that does not and ends in time is followed by a pause. -/
theorem trace_timely (read : e.Reads w.nodeHost w.address (.ok seen))
    (hides : seen.shows condition = false) (timely : ¬ w.pace.deadline < e.reply.time - w.started) :
    (machine w).Trace (.reading n : Stage condition τ) [e] (.sleeping (n + 1)) := by
  obtain ⟨request, reply⟩ := e
  obtain ⟨rfl, hr⟩ := read
  refine .cons rfl ?_
  rw [resume_reading hr, afterRead_of_hides hides]
  simp only [again, if_neg timely]
  exact .nil _

/-- A pause leads to the next read, unless it breaks. -/
theorem trace_pause {z : Exchange τ} (sleep : z.request = .sleep w.pace.interval) :
    (∀ view, z.reply.answer = .ok view →
      (machine w).Trace (.sleeping n : Stage condition τ) [z] (.reading n)) ∧
    ∀ fault, z.reply.answer = .error fault →
      (machine w).Trace (.sleeping n : Stage condition τ) [z] (.done (.error fault)) := by
  obtain ⟨request, answer, time⟩ := z
  obtain rfl : request = .sleep w.pace.interval := sleep
  constructor
  · rintro view (rfl : answer = .ok view)
    exact .cons rfl (.nil _)
  · rintro fault (rfl : answer = .error fault)
    exact .cons rfl (.nil _)

/-- A read that ends in time, a pause, and what follows. -/
theorem trace_again {z : Exchange τ} {view : View} {s : Stage condition τ}
    (read : e.Reads w.nodeHost w.address (.ok seen)) (hides : seen.shows condition = false)
    (timely : ¬ w.pace.deadline < e.reply.time - w.started)
    (sleep : z.request = .sleep w.pace.interval) (calm : z.reply.answer = .ok view)
    (rest : (machine w).Trace (.reading (n + 1)) es s) :
    (machine w).Trace (.reading n) (e :: z :: es) s :=
  ((trace_timely read hides timely).append ((trace_pause sleep).1 view calm)).append rest

end Traces

end Poll

end EphemeralDatabase
