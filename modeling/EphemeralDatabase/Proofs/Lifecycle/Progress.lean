import EphemeralDatabase.Proofs.Lifecycle.Sequence
import EphemeralDatabase.Proofs.Provision.Course

/-!
# Progress

Threads wait for two things, the lock and the outcome of a flight, and both come.  A thread that
cannot go on is at a door, waits for a flight, or provisions and has nothing to ask
(`Plan.move_eq_blocked`); the last does not happen, since provisioning never stops without an
outcome.  So every thread that cannot go on waits for another one:

* who waits for a flight waits for the thread that claimed it, until that has completed it.  This
  covers the time between publication and completion, when the flight is not in progress any more
  but has no outcome yet;
* the thread that flies a flight waits for no flight, but perhaps for the lock;
* the thread that holds the lock waits for nothing.  A release that deletes has requests to make,
  and they are answered.

The chain of threads that wait is therefore three long at most, and at its end somebody can go on.
Replies are arbitrary, so all of this holds as well after an interruption of whatever request.
-/

namespace EphemeralDatabase

open Crew Position

variable {τ : Type}

/-- The thread waits for the lock. -/
def Position.AtDoor (p : Position τ) : Prop := p.door?.isSome

theorem Position.HoldsLock.idle {p : Position τ} (h : p.HoldsLock) :
    ¬ p.Ended ∧ ¬ p.AtDoor ∧ ∀ f, ¬ p.Awaits f := by
  cases p <;> simp_all [HoldsLock, Ended, AtDoor, door?, Awaits]

theorem Position.Flies.going {f : Flight} {p : Position τ} (h : p.Flies f) :
    ¬ p.Ended ∧ ∀ g, ¬ p.Awaits g := by
  cases p <;> simp_all [Flies, Ended, Awaits]

theorem Position.Awaits.going {f : Flight} {p : Position τ} (h : p.Awaits f) :
    ¬ p.Ended ∧ ¬ p.AtDoor ∧ ∀ g, p.Awaits g → g = f := by
  cases p <;> simp_all [Awaits, Ended, AtDoor, door?]

theorem Position.AtDoor.going {p : Position τ} (h : p.AtDoor) : ¬ p.Ended := by
  cases p <;> simp_all [AtDoor, door?, Ended]

/-! ## Who cannot go on -/

theorem Cell.enter_eq_blocked {c : Cell τ} {self : ThreadId} {next : Position τ}
    (h : c.enter self next = .blocked) : c.lock ≠ none := by
  unfold Cell.enter at h
  split at h
  · cases h
  · rename_i hlock
    simpa using hlock

variable [Clock τ] {plan : Plan τ}

/-- **A thread cannot go on** when it waits for a lock that is taken, or for a flight that is not
completed, or provisions and has nothing to ask and no outcome. -/
theorem Plan.move_eq_blocked {self : ThreadId} {c : Cell τ} {p : Position τ}
    (h : plan.move self c p = .blocked) :
    (p.AtDoor ∧ c.lock ≠ none) ∨ (∃ f, p.Awaits f ∧ c.outcome? f = none) ∨
      ∃ f s, p = .provision f s ∧ ¬ Provision.Awake plan s := by
  cases p with
  | acquire | land | release | descend => exact Or.inl ⟨rfl, Cell.enter_eq_blocked h⟩
  | join flight | await strict flight =>
    simp only [Plan.move] at h
    split at h
    · cases h
    · rename_i hnone
      exact Or.inr (Or.inl ⟨flight, rfl, hnone⟩)
  | provision flight stage =>
    refine Or.inr (Or.inr ⟨flight, stage, rfl, ?_⟩)
    simp only [Plan.move] at h
    split at h
    · cases h
    · rename_i hdone
      split at h
      · cases h
      · rename_i hask
        rintro (⟨o, rfl⟩ | hawake)
        · exact hdone o rfl
        · exact hawake hask
  | claim =>
    simp only [Plan.move, Cell.claim] at h
    split at h
    · cases h
    · split at h <;> cases h
  | peek | decide | tearDown =>
    simp only [Plan.move] at h
    split at h <;> cases h
  | publish | complete | acquired | released => cases h

theorem Plan.ended_of_finished {self : ThreadId} {c : Cell τ} {p : Position τ}
    (h : plan.move self c p = .finished) : p.Ended := by
  cases p with
  | acquired | released => trivial
  | acquire | land | release | descend =>
    simp only [Plan.move, Cell.enter] at h
    split at h <;> cases h
  | claim =>
    simp only [Plan.move, Cell.claim] at h
    split at h
    · cases h
    · split at h <;> cases h
  | provision =>
    simp only [Plan.move] at h
    split at h
    · cases h
    · split at h <;> cases h
  | join | await | peek | decide | tearDown =>
    simp only [Plan.move] at h
    split at h <;> cases h
  | publish | complete => cases h

namespace Crew

/-- A thread can go on with its call: by itself, or with whatever reply it gets to a request. -/
def Able (plan : Plan τ) (crew : Crew τ) (t : ThreadId) : Prop :=
  ∃ p, crew.At t p ∧ ¬ p.Ended ∧
    ((∃ q crew', Step plan crew ⟨t, some p, q, none⟩ crew') ∨
      ∃ request, ∀ reply, ∃ q crew', Step plan crew ⟨t, some p, q, some ⟨request, reply⟩⟩ crew')

variable {crew : Crew τ} {t : ThreadId} {p : Position τ}

/-- A thread whose move is not to wait goes on. -/
theorem able_of_move (ht : crew.At t p) (hp : ¬ p.Ended)
    (hm : plan.move t crew.cell p ≠ .blocked) : Able plan crew t := by
  refine ⟨p, ht, hp, ?_⟩
  cases hmove : plan.move t crew.cell p with
  | blocked => exact absurd hmove hm
  | finished => exact absurd (Plan.ended_of_finished hmove) hp
  | silent cell q events => exact Or.inl ⟨_, _, .silent ht hmove⟩
  | ask request resume => exact Or.inr ⟨request, fun reply => ⟨_, _, .ask reply ht hmove⟩⟩

/-- **Who holds the lock can go on.** -/
theorem able_of_holdsLock (ht : crew.Stands t HoldsLock) : Able plan crew t := by
  obtain ⟨p, hp, hl⟩ := ht
  obtain ⟨hended, hdoor, hawaits⟩ := hl.idle
  refine able_of_move hp hended fun hm => ?_
  rcases Plan.move_eq_blocked hm with ⟨hd, -⟩ | ⟨f, hf, -⟩ | ⟨f, s, rfl, -⟩
  · exact hdoor hd
  · exact hawaits f hf
  · exact hl

/-- **Who waits for the lock in vain waits for one who can go on.** -/
theorem Coherent.able_of_door (hc : Coherent crew) (ht : crew.Stands t AtDoor)
    (hlock : crew.cell.lock ≠ none) :
    ∃ v, crew.cell.lock = some v ∧ v ≠ t ∧ Able plan crew v := by
  obtain ⟨v, hv⟩ := Option.ne_none_iff_exists'.1 hlock
  have hholds := (hc.lock v).1 hv
  refine ⟨v, hv, ?_, able_of_holdsLock hholds⟩
  rintro rfl
  obtain ⟨p, hp, hd⟩ := ht
  exact (hp.stands_iff.1 hholds).idle.2.1 hd

end Crew

/-! ## Histories -/

namespace History

variable {h : History plan} {n : ℕ} {t : ThreadId} {f : Flight}

/-- Provisioning never stops without an outcome, whatever other threads do. -/
theorem awake {s : Provision.Stage τ} (ht : (h.crew n).At t (.provision f s)) :
    Provision.Awake plan s := by
  have hstart : Provision.Awake plan Provision.start :=
    Or.inr (by simp [Provision.start, Provision.ask, BringUp.ask, Ensure.ask])
  exact Provision.awake_of_trace hstart (trace_of_reached (Or.inl ⟨t, ht⟩))

/-- A thread that cannot go on waits for the lock or for a flight. -/
theorem able_or_waits {p : Position τ} (ht : (h.crew n).At t p) (hp : ¬ p.Ended) :
    Able plan (h.crew n) t ∨ (p.AtDoor ∧ (h.crew n).cell.lock ≠ none) ∨
      ∃ f, p.Awaits f ∧ (h.crew n).cell.outcome? f = none := by
  by_cases hm : plan.move t (h.crew n).cell p = .blocked
  · rcases Plan.move_eq_blocked hm with hdoor | hawaits | ⟨f, s, rfl, hasleep⟩
    · exact Or.inr (Or.inl hdoor)
    · exact Or.inr (Or.inr hawaits)
    · exact absurd (awake ht) hasleep
  · exact Or.inl (able_of_move ht hp hm)

/-- Who flies a flight has claimed it. -/
theorem exists_claims_of_flies (ht : (h.crew n).Stands t (Flies f)) :
    ∃ m, m < n ∧ h.Claims m t f := by
  obtain ⟨m, x, hmn, hx, hm, hs⟩ :=
    exists_beginning (fun crew => crew.Stands t (Flies f)) (by simp [Stands, At]) ht
  rcases (h.step hx).stands_iff.1 hs with ⟨rfl, hq⟩ | ⟨-, hold⟩
  · rcases (h.step hx).flights_effect with ⟨-, hsame⟩ | ⟨-, -, hstride⟩ | ⟨g, o, -, -, hstride⟩
    · exact absurd ((hsame f).1 hq) hm
    · rw [hstride] at hq
      obtain rfl : (h.crew m).cell.flights.length = f := hq
      exact ⟨m, hmn, hx.trans (congrArg some hstride)⟩
    · rw [hstride] at hq
      exact hq.elim
  · exact absurd hold hm

/-- **Who flies a flight can go on, or waits for one who can.** -/
theorem able_of_flies (ht : (h.crew n).Stands t (Flies f)) :
    Able plan (h.crew n) t ∨ ((h.crew n).Stands t AtDoor ∧
      ∃ v, (h.crew n).cell.lock = some v ∧ v ≠ t ∧ Able plan (h.crew n) v) := by
  obtain ⟨p, hp, hflies⟩ := ht
  rcases able_or_waits hp hflies.going.1 with hable | ⟨hdoor, hlock⟩ | ⟨g, hg, -⟩
  · exact Or.inl hable
  · exact Or.inr ⟨⟨p, hp, hdoor⟩, (h.coherent n).able_of_door ⟨p, hp, hdoor⟩ hlock⟩
  · exact absurd hg (hflies.going.2 g)

/-- A flight that is waited for and has no outcome is flown by somebody. -/
theorem exists_flies_of_awaits (ht : (h.crew n).Stands t (Awaits f))
    (hno : (h.crew n).cell.outcome? f = none) : ∃ u, (h.crew n).Stands u (Flies f) := by
  have hlt := (h.coherent n).awaited t f ht
  refine ((h.coherent n).pending f).1 ?_
  cases ho : (h.crew n).cell.flights[f] with
  | none => simp [hlt, ho]
  | some o => simp [Cell.outcome?, hlt, ho] at hno

/-- **What breaks a request ends the flight**, and the thread that flies it can go on to publish. -/
theorem able_of_broken {x : Stride τ} {s : Provision.Stage τ} {e : Exchange τ} {b : Breakage}
    {details : List Value} (hx : h.stride n = some x) (hs : x.source = some (.provision f s))
    (he : x.exchange = some e) (hbroken : e.reply.answer = .error (.other b details)) :
    x.target = .provision f (.done (.error (.raised (.other b details)))) ∧
      Able plan (h.crew (n + 1)) x.thread := by
  obtain ⟨s', asks, -, hq⟩ :=
    (h.step hx).at_of_exchangeFor (Stride.exchangeFor_eq_some_iff.2 ⟨s, hs, he⟩)
  obtain ⟨request, answer, time⟩ := e
  obtain rfl : answer = .error (.other b details) := hbroken
  rw [Provision.resume_broken (by simp [asks])] at hq
  refine ⟨hq, able_of_move (hq ▸ (h.step hx).at_target) id ?_⟩
  exact fun hm => by cases hm

/-- **No deadlock.**  In every history and at every instant: if some thread has not returned from
its call, then some thread can go on with its call.  A thread that waits for a flight and cannot
go on waits for the one thread that has claimed it and has not completed it; that thread waits for
no flight, and can go on unless it waits for the lock, and then the thread that holds the lock can.
Whoever waits for the lock in vain waits for a thread that can go on.  And when a request of a
flight is interrupted or breaks otherwise, the flight is over, and the thread that flies it can go
on. -/
theorem progress (h : History plan) :
    (∀ n t p, (h.crew n).At t p → ¬ p.Ended → ∃ u, Able plan (h.crew n) u) ∧
    (∀ n t f, (h.crew n).Stands t (Awaits f) → ¬ Able plan (h.crew n) t →
      ∃ u, (∃ m, m < n ∧ h.Claims m u f) ∧ (h.crew n).Stands u (Flies f) ∧
        (∀ v, (h.crew n).Stands v (Flies f) → v = u) ∧
        (∀ g, ¬ (h.crew n).Stands u (Awaits g)) ∧
        (Able plan (h.crew n) u ∨ ((h.crew n).Stands u AtDoor ∧
          ∃ v, (h.crew n).cell.lock = some v ∧ v ≠ u ∧ Able plan (h.crew n) v))) ∧
    (∀ n t, (h.crew n).Stands t AtDoor → ¬ Able plan (h.crew n) t →
      ∃ v, (h.crew n).cell.lock = some v ∧ v ≠ t ∧ Able plan (h.crew n) v) ∧
    (∀ n x f s e b details, h.stride n = some x → x.source = some (.provision f s) →
      x.exchange = some e → e.reply.answer = .error (.other b details) →
      x.target = .provision f (.done (.error (.raised (.other b details)))) ∧
        Able plan (h.crew (n + 1)) x.thread) := by
  refine ⟨?_, ?_, ?_, ?_⟩
  · intro n t p hp hended
    rcases able_or_waits hp hended with hable | ⟨hdoor, hlock⟩ | ⟨f, hf, hno⟩
    · exact ⟨t, hable⟩
    · obtain ⟨v, -, -, hv⟩ := (h.coherent n).able_of_door ⟨p, hp, hdoor⟩ hlock
      exact ⟨v, hv⟩
    · obtain ⟨u, hu⟩ := exists_flies_of_awaits ⟨p, hp, hf⟩ hno
      rcases able_of_flies hu with hable | ⟨-, v, -, -, hv⟩
      · exact ⟨u, hable⟩
      · exact ⟨v, hv⟩
  · rintro n t f ⟨p, hp, hf⟩ hstuck
    have hno : (h.crew n).cell.outcome? f = none := by
      rcases able_or_waits hp hf.going.1 with hable | ⟨hdoor, -⟩ | ⟨g, hg, hno⟩
      · exact absurd hable hstuck
      · exact absurd hdoor hf.going.2.1
      · exact hf.going.2.2 g hg ▸ hno
    obtain ⟨u, hu⟩ := exists_flies_of_awaits ⟨p, hp, hf⟩ hno
    refine ⟨u, exists_claims_of_flies hu, hu, ?_, ?_, able_of_flies hu⟩
    · intro v hv
      exact (h.coherent n).alone v u f hv hu
    · intro g hg
      obtain ⟨q, hq, hflies⟩ := hu
      exact hflies.going.2 g (hq.stands_iff.1 hg)
  · rintro n t ⟨p, hp, hdoor⟩ hstuck
    rcases able_or_waits hp hdoor.going with hable | ⟨-, hlock⟩ | ⟨g, hg, -⟩
    · exact absurd hable hstuck
    · exact (h.coherent n).able_of_door ⟨p, hp, hdoor⟩ hlock
    · exact absurd hdoor hg.going.2.1
  · intro n x f s e b details hx hs he hbroken
    exact able_of_broken hx hs he hbroken

end History

end EphemeralDatabase
