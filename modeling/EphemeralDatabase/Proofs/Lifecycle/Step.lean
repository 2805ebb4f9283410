import EphemeralDatabase.Fixture.Lifecycle
import Mathlib.Tactic.Common

/-!
# Steps of a crew

A concurrent execution is an interleaving of the steps of single threads, and `Crew.Step` is one
of them: a thread begins a call, or it makes the move that `Plan.move` gives it.  Nothing is said
about which thread goes next or what the outside replies, so every schedule and every behaviour
of the cluster is an execution.  A `Stride` records who made the step, between which positions,
and what was exchanged with the outside on the way.

## Reading `Plan.move` once

`Plan.Goes` lists what a thread in the middle of a call can do, one constructor for every line
between two changes of shared data.  `Goes.of_silent` and `Goes.of_ask` say that the list is
complete, and `Crew.Step.goes` says it of a step.  Whatever is preserved by all of `Goes` is
preserved by every execution, and no later proof looks at `Plan.move` again.
-/

namespace EphemeralDatabase

variable {τ : Type}

/-! ## Positions -/

namespace Position

/-- The positions in which a call begins. -/
def Begins : Position τ → Prop
  | .acquire | .release _ => True
  | _ => False

/-- The positions of a thread that has returned from its call. -/
def Ended : Position τ → Prop
  | .acquired .. | .released _ => True
  | _ => False

/-- Where a thread that waits for the lock goes with it. -/
def door? : Position τ → Option (Position τ)
  | .acquire => some .claim
  | .land flight outcome => some (.publish flight outcome)
  | .release strict => some (.peek strict)
  | .descend strict => some (.decide strict)
  | _ => none

end Position

/-! ## The moves of one thread -/

/-- What a thread in the middle of a call can do: from a cell and a position, by an exchange with
the outside or by none, to a cell and a position. -/
inductive Plan.Goes [Clock τ] (plan : Plan τ) (self : ThreadId) (c : Cell τ) :
    Position τ → Option (Exchange τ) → Cell τ → Position τ → Prop
  /-- takes the lock -/
  | enter {p q : Position τ} (door : p.door? = some q) (free : c.lock = none) :
      plan.Goes self c p none (c.taken self) q
  /-- finds a handle -/
  | reuse {flight : Flight} {handle : Handle} (ready : c.status = .ready)
      (found : c.handle = some (flight, handle)) :
      plan.Goes self c .claim none c.freed (.acquired flight (.ok handle))
  /-- finds a flight in progress -/
  | join {flight : Flight} (unready : ¬ (c.status = .ready ∧ c.handle.isSome))
      (inflight : c.inflight = some flight) :
      plan.Goes self c .claim none c.freed (.join flight)
  /-- claims a new flight -/
  | claim (unready : ¬ (c.status = .ready ∧ c.handle.isSome)) (idle : c.inflight = none) :
      plan.Goes self c .claim none c.claimed.freed (.provision c.flights.length Provision.start)
  /-- returns what came of the flight it had joined -/
  | wake {flight : Flight} {outcome : Acquired τ} (done : c.outcome? flight = some outcome) :
      plan.Goes self c (.join flight) none c (.acquired flight outcome)
  /-- makes a call to the cluster, or sleeps -/
  | provision {flight : Flight} {stage : Provision.Stage τ} {request : Request τ}
      (reply : Reply τ) (asks : Provision.ask plan stage = some request) :
      plan.Goes self c (.provision flight stage) (some ⟨request, reply⟩) c
        (.provision flight (Provision.resume plan stage reply).1)
  /-- has nothing more to ask -/
  | land {flight : Flight} {outcome : Acquired τ} :
      plan.Goes self c (.provision flight (.done outcome)) none c (.land flight outcome)
  | publish {flight : Flight} {outcome : Acquired τ} :
      plan.Goes self c (.publish flight outcome) none (c.published flight outcome).freed
        (.complete flight outcome)
  | complete {flight : Flight} {outcome : Acquired τ} :
      plan.Goes self c (.complete flight outcome) none (c.completed flight outcome)
        (.acquired flight outcome)
  /-- has to wait for a flight before it tears down -/
  | await {strict : Bool} {flight : Flight} (inflight : c.inflight = some flight) :
      plan.Goes self c (.peek strict) none c.freed (.await strict flight)
  /-- has no flight to wait for -/
  | pass {strict : Bool} (idle : c.inflight = none) :
      plan.Goes self c (.peek strict) none c.freed (.descend strict)
  /-- has waited for a flight -/
  | rise {strict : Bool} {flight : Flight} {outcome : Acquired τ}
      (done : c.outcome? flight = some outcome) :
      plan.Goes self c (.await strict flight) none c (.descend strict)
  /-- begins to tear down -/
  | tearDown {strict : Bool} (ready : c.status = .ready) :
      plan.Goes self c (.decide strict) none c
        (.tearDown strict (Teardown.start plan.teardownOrder))
  /-- finds nothing to tear down -/
  | decline {strict : Bool} (unready : c.status ≠ .ready) :
      plan.Goes self c (.decide strict) none c.freed (.released (.ok {}))
  /-- makes an attempt to delete -/
  | delete {strict : Bool} {stage : Teardown.Stage} {request : Request τ} (reply : Reply τ)
      (asks : Teardown.ask stage = some request) :
      plan.Goes self c (.tearDown strict stage) (some ⟨request, reply⟩) c
        (.tearDown strict (Teardown.resume stage reply).1)
  /-- has nothing more to delete -/
  | clear {strict : Bool} {stage : Teardown.Stage}
      (done : Teardown.ask stage = (none : Option (Request τ))) :
      plan.Goes self c (.tearDown strict stage) none c.cleared.freed
        (.released (releaseResult strict (Teardown.result stage)))

namespace Plan.Goes

variable [Clock τ] {plan : Plan τ} {self : ThreadId} {c c' : Cell τ} {p q : Position τ}

theorem of_enter {next : Position τ} {events : List (Event τ)} (door : p.door? = some next)
    (h : c.enter self next = .silent c' q events) : plan.Goes self c p none c' q := by
  unfold Cell.enter at h
  split at h
  · rename_i free
    injection h with hc hq
    subst hc hq
    exact .enter door (Option.isNone_iff_eq_none.1 free)
  · cases h

theorem of_claim {events : List (Event τ)} (h : c.claim = .silent c' q events) :
    plan.Goes self c .claim none c' q := by
  unfold Cell.claim at h
  split at h
  · rename_i flight handle ready found
    injection h with hc hq
    subst hc hq
    exact .reuse ready found
  · rename_i hn
    have unready : ¬ (c.status = .ready ∧ c.handle.isSome) := by
      rintro ⟨ready, found⟩
      obtain ⟨⟨flight, handle⟩, hh⟩ := Option.isSome_iff_exists.1 found
      exact hn flight handle ready hh
    split at h
    · rename_i inflight
      injection h with hc hq
      subst hc hq
      exact .join unready inflight
    · rename_i idle
      injection h with hc hq
      subst hc hq
      exact .claim unready idle

theorem of_provision {flight : Flight} {stage : Provision.Stage τ} {events : List (Event τ)}
    (h : plan.move self c (.provision flight stage) = .silent c' q events) :
    plan.Goes self c (.provision flight stage) none c' q := by
  simp only [Plan.move] at h
  split at h
  · injection h with hc hq
    subst hc hq
    exact .land
  · split at h <;> cases h

/-- **Every change of the cell is one of the moves listed.** -/
theorem of_silent {events : List (Event τ)} (h : plan.move self c p = .silent c' q events) :
    plan.Goes self c p none c' q := by
  cases p with
  | acquire => exact of_enter rfl h
  | claim => exact of_claim h
  | join flight =>
    simp only [Plan.move] at h
    split at h
    · rename_i done
      injection h with hc hq
      subst hc hq
      exact .wake done
    · cases h
  | provision flight stage => exact of_provision h
  | land flight outcome => exact of_enter rfl h
  | publish flight outcome =>
    injection h with hc hq
    subst hc hq
    exact .publish
  | complete flight outcome =>
    injection h with hc hq
    subst hc hq
    exact .complete
  | acquired flight outcome => cases h
  | release strict => exact of_enter rfl h
  | peek strict =>
    simp only [Plan.move] at h
    split at h <;> rename_i found <;> injection h with hc hq <;> subst hc hq
    · exact .await found
    · exact .pass found
  | await strict flight =>
    simp only [Plan.move] at h
    split at h
    · rename_i done
      injection h with hc hq
      subst hc hq
      exact .rise done
    · cases h
  | descend strict => exact of_enter rfl h
  | decide strict =>
    simp only [Plan.move] at h
    split at h <;> rename_i ready <;> injection h with hc hq <;> subst hc hq
    · exact .tearDown ready
    · exact .decline ready
  | tearDown strict stage =>
    simp only [Plan.move] at h
    split at h
    · cases h
    · rename_i done
      injection h with hc hq
      subst hc hq
      exact .clear done
  | released result => cases h

/-- **Every exchange with the outside is one of the moves listed.** -/
theorem of_ask {request : Request τ} {resume : Reply τ → Position τ × List (Event τ)}
    (h : plan.move self c p = .ask request resume) (reply : Reply τ) :
    plan.Goes self c p (some ⟨request, reply⟩) c (resume reply).1 := by
  cases p with
  | provision flight stage =>
    simp only [Plan.move] at h
    split at h
    · cases h
    · split at h
      · rename_i asks
        injection h with hr hk
        subst hr hk
        exact .provision reply asks
      · cases h
  | tearDown strict stage =>
    simp only [Plan.move] at h
    split at h
    · rename_i asks
      injection h with hr hk
      subst hr hk
      exact .delete reply asks
    · cases h
  | acquire | land | release | descend =>
    simp only [Plan.move, Cell.enter] at h
    split at h <;> cases h
  | claim =>
    simp only [Plan.move, Cell.claim] at h
    split at h
    · cases h
    · split at h <;> cases h
  | join | await | peek | decide =>
    simp only [Plan.move] at h
    split at h <;> cases h
  | publish | complete | acquired | released => cases h

end Plan.Goes

/-! ## Steps -/

/-- Who makes a step, from where to where, and what is exchanged with the outside.  There is no
position to start from for a thread that was not there before. -/
structure Stride (τ : Type) where
  thread : ThreadId
  source : Option (Position τ)
  target : Position τ
  exchange : Option (Exchange τ) := none

/-- What a stride exchanges with the outside for a flight. -/
def Stride.exchangeFor (f : Flight) (x : Stride τ) : Option (Exchange τ) :=
  match x.source with
  | some (.provision g _) => if g = f then x.exchange else none
  | _ => none

theorem Stride.exchangeFor_eq_some_iff {f : Flight} {x : Stride τ} {e : Exchange τ} :
    x.exchangeFor f = some e ↔ ∃ s, x.source = some (.provision f s) ∧ x.exchange = some e := by
  obtain ⟨t, source, q, e'⟩ := x
  rcases source with _ | p
  · simp [exchangeFor]
  · cases p <;> simp [exchangeFor]

namespace Crew

/-- A thread stands at a position. -/
def At (crew : Crew τ) (t : ThreadId) (p : Position τ) : Prop := crew.threads[t]? = some p

/-- A thread stands at a position of a certain sort. -/
def Stands (crew : Crew τ) (t : ThreadId) (sort : Position τ → Prop) : Prop :=
  ∃ p, crew.At t p ∧ sort p

theorem At.stands_iff {crew : Crew τ} {t : ThreadId} {p : Position τ} (h : crew.At t p)
    {sort : Position τ → Prop} : crew.Stands t sort ↔ sort p := by
  constructor
  · rintro ⟨q, hq, hs⟩
    exact Option.some.inj (h.symm.trans hq) ▸ hs
  · intro hs
    exact ⟨p, h, hs⟩

variable [Clock τ] {plan : Plan τ} {crew crew' : Crew τ} {x : Stride τ}

/-- One step of one thread. -/
inductive Step (plan : Plan τ) (crew : Crew τ) : Stride τ → Crew τ → Prop
  /-- a new thread begins its first call -/
  | enlist {q : Position τ} (hq : q.Begins) :
      Step plan crew ⟨crew.threads.length, none, q, none⟩ ⟨crew.cell, crew.threads ++ [q]⟩
  /-- a thread that has returned begins another call -/
  | call {t : ThreadId} {p q : Position τ} (ht : crew.At t p) (hp : p.Ended) (hq : q.Begins) :
      Step plan crew ⟨t, some p, q, none⟩ (crew.place t crew.cell q)
  /-- a thread goes on by itself -/
  | silent {t : ThreadId} {p q : Position τ} {cell : Cell τ} {events : List (Event τ)}
      (ht : crew.At t p) (hm : plan.move t crew.cell p = .silent cell q events) :
      Step plan crew ⟨t, some p, q, none⟩ (crew.place t cell q)
  /-- a thread makes a request, and goes on with the reply -/
  | ask {t : ThreadId} {p : Position τ} {request : Request τ}
      {resume : Reply τ → Position τ × List (Event τ)} (reply : Reply τ) (ht : crew.At t p)
      (hm : plan.move t crew.cell p = .ask request resume) :
      Step plan crew ⟨t, some p, (resume reply).1, some ⟨request, reply⟩⟩
        (crew.place t crew.cell (resume reply).1)

/-- The thread stood where it started from. -/
theorem Step.source (h : Step plan crew x crew') : crew.threads[x.thread]? = x.source := by
  cases h with
  | enlist hq => exact List.getElem?_eq_none (Nat.le_refl _)
  | call ht hp hq => exact ht
  | silent ht hm => exact ht
  | ask reply ht hm => exact ht

/-- **A step begins a call or goes on with one.** -/
theorem Step.begins_or_goes (h : Step plan crew x crew') :
    (x.target.Begins ∧ (∀ p, crew.At x.thread p → p.Ended) ∧ x.exchange = none ∧
        crew'.cell = crew.cell) ∨
      ∃ p, crew.At x.thread p ∧ x.source = some p ∧
        plan.Goes x.thread crew.cell p x.exchange crew'.cell x.target := by
  have hsource := h.source
  cases h with
  | enlist hq =>
    refine Or.inl ⟨hq, fun p hp => ?_, rfl, rfl⟩
    exact absurd (hp.symm.trans hsource) (by simp)
  | call ht hp hq =>
    refine Or.inl ⟨hq, fun p h => ?_, rfl, rfl⟩
    exact Option.some.inj (ht.symm.trans h) ▸ hp
  | silent ht hm => exact Or.inr ⟨_, ht, rfl, Plan.Goes.of_silent hm⟩
  | ask reply ht hm => exact Or.inr ⟨_, ht, rfl, Plan.Goes.of_ask hm reply⟩

omit [Clock τ] in
theorem place_at_iff {t u : ThreadId} {p q r : Position τ} {cell : Cell τ} (ht : crew.At t p) :
    (crew.place t cell q).At u r ↔ (u = t ∧ r = q) ∨ (u ≠ t ∧ crew.At u r) := by
  have hlt : t < crew.threads.length := (List.getElem?_eq_some_iff.1 ht).1
  unfold At place
  rw [List.getElem?_set]
  by_cases hu : t = u
  · subst hu
    simp [hlt, eq_comm]
  · simp [hu, Ne.symm hu]

/-- **The thread stands where it went, and every other where it was.** -/
theorem Step.at_iff (h : Step plan crew x crew') {u : ThreadId} {r : Position τ} :
    crew'.At u r ↔ (u = x.thread ∧ r = x.target) ∨ (u ≠ x.thread ∧ crew.At u r) := by
  cases h with
  | @enlist q hq =>
    unfold At
    rcases Nat.lt_trichotomy u crew.threads.length with hu | hu | hu
    · simp [List.getElem?_append_left hu, Nat.ne_of_lt hu]
    · simp [hu, eq_comm]
    · have hnew : (crew.threads ++ [q])[u]? = none := by simp; omega
      have hold : crew.threads[u]? = none := List.getElem?_eq_none (Nat.le_of_lt hu)
      simp [hnew, hold, Nat.ne_of_gt hu]
  | call ht hp hq => exact place_at_iff ht
  | silent ht hm => exact place_at_iff ht
  | ask reply ht hm => exact place_at_iff ht

theorem Step.at_target (h : Step plan crew x crew') : crew'.At x.thread x.target :=
  h.at_iff.2 (Or.inl ⟨rfl, rfl⟩)

theorem Step.stands_target_iff (h : Step plan crew x crew') {sort : Position τ → Prop} :
    crew'.Stands x.thread sort ↔ sort x.target :=
  h.at_target.stands_iff

theorem Step.stands_other_iff (h : Step plan crew x crew') {u : ThreadId} (hu : u ≠ x.thread)
    {sort : Position τ → Prop} : crew'.Stands u sort ↔ crew.Stands u sort := by
  simp [Stands, h.at_iff, hu]

/-- A sort of position is taken up by the thread that went there or by one that stayed. -/
theorem Step.stands_iff (h : Step plan crew x crew') {u : ThreadId} {sort : Position τ → Prop} :
    crew'.Stands u sort ↔ (u = x.thread ∧ sort x.target) ∨ (u ≠ x.thread ∧ crew.Stands u sort) := by
  by_cases hu : u = x.thread
  · subst hu
    simp [h.stands_target_iff]
  · simp [h.stands_other_iff hu, hu]

/-- A step that neither takes up nor gives up a sort of position leaves it as it was. -/
theorem Step.stands_congr (h : Step plan crew x crew') {sort : Position τ → Prop}
    (hs : sort x.target ↔ crew.Stands x.thread sort) (u : ThreadId) :
    crew'.Stands u sort ↔ crew.Stands u sort := by
  by_cases hu : u = x.thread
  · rw [hu, h.stands_target_iff, hs]
  · exact h.stands_other_iff hu

end Crew

end EphemeralDatabase
