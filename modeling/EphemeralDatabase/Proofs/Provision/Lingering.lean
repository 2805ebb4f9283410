import EphemeralDatabase.Proofs.Poll.Reference
import EphemeralDatabase.Proofs.Provision.Course

/-!
# Provisioning that does not end

Provisioning ends with whatever is replied, but for one thing: an object is waited for, and what is
waited for never comes.  `Poll.Lingers` says what the replies are then.  They come by turns of reads
and pauses, every read shows that the object is not ready and ends in time, and no pause breaks.  So
on a clock that passes the deadline at last nothing lingers.

`Provision.ends_or_lingers` is proved from the inside out: ensuring that an object exists ends with
any replies, waiting ends or lingers, and the stages behind which they run are left with the same
replies.
-/

namespace EphemeralDatabase

variable {τ : Type} [Clock τ] {condition : Condition} {reply : ℕ → Reply τ}

/-! ## Waiting -/

namespace Replies

omit [Clock τ] in
/-- A sequence of replies, the first to a read and the next to a pause. -/
def byTurns (reply : ℕ → Reply τ) : Replies τ where
  read k := reply (2 * k)
  pause k := reply (2 * k + 1)

omit [Clock τ] in
theorem answered_turns (reply : ℕ → Reply τ) (w : Watch τ) (k : ℕ) :
    Exchange.Answered reply ((byTurns reply).turns w k) := by
  induction k with
  | zero => exact .nil
  | succ k ih =>
    have read := ih.snoc (e := (byTurns reply).look w k) (by simp [look, byTurns])
    rw [turns_succ, List.append_cons]
    exact read.snoc (by simp [rest, byTurns])

end Replies

namespace Poll

/-- Waiting goes on for ever with these replies: a read that shows the condition not to hold and
ends in time, a pause that does not break, and so on. -/
structure Lingers (condition : Condition) (w : Watch τ) (reply : ℕ → Reply τ) : Prop where
  hides : ∀ k, ∃ seen, readOutcome w.nodeHost w.address (reply (2 * k)).answer = .ok seen ∧
    seen.shows condition = false
  timely : ∀ k, ¬ w.pace.deadline < (reply (2 * k)).time - w.started
  calm : ∀ k, ∃ view, (reply (2 * k + 1)).answer = .ok view

open Replies

/-- **With given replies waiting comes to its end or lingers.** -/
theorem ends_or_lingers (condition : Condition) (w : Watch τ) (reply : ℕ → Reply τ) :
    (∃ es, ∃ r : Except Fault (Waited condition τ),
      (machine w).Trace (.reading 0) es (.done r) ∧ Exchange.Answered reply es) ∨
      Lingers condition w reply := by
  classical
  set rs := byTurns reply
  by_cases stops : ∃ k, rs.Ends w condition k ∨ ¬ rs.Calm k
  · -- the first turn that is not followed by another one
    have before : ∀ j < Nat.find stops, ¬ rs.Ends w condition j ∧ rs.Calm j := fun j hj => by
      simpa only [not_or, not_not] using Nat.find_min stops hj
    have turns : Exchange.Answered reply (rs.turns w (Nat.find stops)) := answered_turns reply w _
    have read := turns.snoc (e := rs.look w (Nat.find stops)) (by simp [look, rs, byTurns])
    have idle := fun j hj => (before j hj).1
    have calm := fun j hj => (before j hj).2
    by_cases ends : rs.Ends w condition (Nat.find stops)
    · obtain ⟨r, concludes⟩ := ends.exists_concludes
      exact Or.inl ⟨_, r, (trace_turns idle calm).append concludes.trace, read⟩
    · have restless : ¬ rs.Calm (Nat.find stops) := (Nat.find_spec stops).resolve_left ends
      match broken : (rs.pause (Nat.find stops)).answer with
      | .ok view => exact absurd ⟨view, broken⟩ restless
      | .error fault =>
        refine Or.inl ⟨_, _, (trace_turns idle calm).append (trace_restless ends broken), ?_⟩
        rw [List.append_cons]
        exact read.snoc (by simp [rest, rs, byTurns])
  · simp only [not_exists, not_or, not_not] at stops
    have hidden (k : ℕ) := exists_hides (stops k).1
    exact Or.inr ⟨fun k => (hidden k).imp fun _ h => ⟨h.1, h.2.1⟩,
      fun k => (hidden k).elim fun _ h => h.2.2, fun k => (stops k).2⟩

end Poll

/-! ## One object -/

namespace BringUp

variable {t : Task τ}

/-- After ensuring an object has been brought up, or cannot be, or is waited for. -/
theorem proceed_done (t : Task τ) (time : τ) (r : Except Fault Ensured) :
    (∃ q, (proceed t time (.done r)).1 = (.done q : Stage condition τ)) ∨
      (proceed t time (.done r)).1 =
        (.waiting (t.watch time) (.reading 0) : Stage condition τ) := by
  match r with
  | .ok (.existed s) =>
    by_cases holds : condition s = true
    · exact Or.inl ⟨_, by simp only [proceed, wait, Poll.start, dif_pos holds, settle]; rfl⟩
    · exact Or.inr (by simp only [proceed, wait, Poll.start, dif_neg holds, settle, Task.watch])
  | .ok (.created s) => exact Or.inr rfl
  | .ok (.failed d f) => exact Or.inl ⟨_, rfl⟩
  | .error fault => exact Or.inl ⟨_, rfl⟩

/-- Bringing up an object goes on for ever: it is waited for from the last reply on, and with the
replies that are left waiting lingers. -/
def Lingers (t : Task τ) (condition : Condition) (reply : ℕ → Reply τ) : Prop :=
  ∃ es e, (machine t).Trace (.ensuring .reading) (es ++ [e])
      (.waiting (t.watch e.reply.time) (.reading 0) : Stage condition τ) ∧
    Exchange.Answered reply (es ++ [e]) ∧
    Poll.Lingers condition (t.watch e.reply.time) fun i => reply ((es ++ [e]).length + i)

/-- **With given replies bringing up an object comes to its end or lingers.** -/
theorem ends_or_lingers (condition : Condition) (t : Task τ) (reply : ℕ → Reply τ) :
    (∃ es, ∃ r : Except (AcquireError τ) (Ready condition τ),
      (machine t).Trace (.ensuring .reading) es (.done r) ∧ Exchange.Answered reply es) ∨
      Lingers t condition reply := by
  obtain ⟨es, e, r, course, answered⟩ := Ensure.exists_answered t.nodeHost t.descriptor reply
  have embeds : Machine.Embeds _ (machine t : Machine τ (Stage condition τ)) _ _ := embeds_ensure
  obtain ⟨fs, f, hlast, first⟩ :=
    embeds.join (by simp [Ensure.machine, Ensure.ask]) course.trace rfl
  obtain ⟨-, rfl⟩ := List.append_singleton_inj.1 hlast
  have settled : (∃ q, _ = (.done q : Stage condition τ)) ∨ _ := proceed_done t e.reply.time r
  rcases settled with ⟨q, done⟩ | waits
  · rw [done] at first
    exact Or.inl ⟨_, q, first, answered⟩
  · rw [waits] at first
    rcases Poll.ends_or_lingers condition (t.watch e.reply.time)
      (fun i => reply ((es ++ [e]).length + i)) with ⟨ps, r, poll, more⟩ | lingers
    · obtain ⟨-, -, -, second⟩ := (embeds_poll (t.watch e.reply.time)).join
        (by simp [Poll.machine, Poll.ask]) poll rfl
      rw [settle_done] at second
      exact Or.inl ⟨_, _, first.append second, answered.append more⟩
    · exact Or.inr ⟨es, e, first, answered, lingers⟩

end BringUp

/-! ## Both objects -/

namespace Provision

/-- Provisioning goes on for ever: the Service lingers, or it came up and the Pod lingers. -/
inductive Lingers (plan : Plan τ) (reply : ℕ → Reply τ) : Prop
  | service (lingers : BringUp.Lingers (serviceTask plan) endpointAssigned reply)
  | pod {es : List (Exchange τ)} {endpoint : Endpoint}
      (trace : (machine plan).Trace start es (.pod endpoint (.ensuring .reading)))
      (answered : Exchange.Answered reply es)
      (lingers : BringUp.Lingers (podTask plan) phaseRunning fun i => reply (es.length + i))

/-- **With given replies provisioning comes to its end or lingers.** -/
theorem ends_or_lingers (plan : Plan τ) (reply : ℕ → Reply τ) :
    (∃ es o, (machine plan).Trace start es (.done o) ∧ Exchange.Answered reply es) ∨
      Lingers plan reply := by
  have begins (t : BringUp.Task τ) (condition : Condition) :
      (BringUp.machine t).ask (.ensuring .reading : BringUp.Stage condition τ) ≠ none := by
    simp [BringUp.machine, BringUp.ask, Ensure.ask]
  rcases BringUp.ends_or_lingers endpointAssigned (serviceTask plan) reply with
    ⟨es, r, service, answered⟩ | lingers
  · obtain ⟨-, -, -, first⟩ := embeds_service.join (begins _ _) service rfl
    cases r with
    | error e => exact Or.inl ⟨es, _, first, answered⟩
    | ok ready =>
      rcases BringUp.ends_or_lingers phaseRunning (podTask plan) fun i => reply (es.length + i) with
        ⟨ps, q, pod, more⟩ | lingers
      · obtain ⟨-, -, -, second⟩ := (embeds_pod (endpointOf ready)).join (begins _ _) pod rfl
        cases q <;> exact Or.inl ⟨_, _, first.append second, answered.append more⟩
      · exact Or.inr (.pod first answered lingers)
  · exact Or.inr (.service lingers)

end Provision

end EphemeralDatabase
