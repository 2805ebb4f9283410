import EphemeralDatabase.Proofs.Lifecycle.Step

/-!
# Coherence

What the threads share says where the threads stand.  `Crew.Coherent` ties the two together: the
lock names the thread that holds it, the flight in progress is the one that some thread owns, the
flights without an outcome are those that some thread still flies, and so on.  It holds of a crew
without threads and every step of every thread keeps it (`Coherent.step`).

## What a step can do to the cell

A step touches three groups of fields, and for each group there is one lemma that lists what can
happen: `Step.lock_effect` for the lock, `Step.flights_effect` for the outcomes of flights, and
`Step.status_effect` for status, handle and flight in progress, which belong together.  The fields
of the invariant follow from these lists alone.

The invariant holds inside the sections that the lock guards as well, because a move from one of
them changes everything it changes at once.
-/

namespace EphemeralDatabase

variable {τ : Type}

/-! ## Sorts of positions -/

namespace Position

/-- The thread holds the lock. -/
def HoldsLock : Position τ → Prop
  | .claim | .publish .. | .peek _ | .decide _ | .tearDown .. => True
  | _ => False

/-- The thread has claimed a flight and has not published what came of it. -/
def Owns (flight : Flight) : Position τ → Prop
  | .provision f _ | .land f _ | .publish f _ => f = flight
  | _ => False

/-- The thread has claimed a flight and has not completed it. -/
def Flies (flight : Flight) : Position τ → Prop
  | .provision f _ | .land f _ | .publish f _ | .complete f _ => f = flight
  | _ => False

/-- The thread waits for a flight to be completed. -/
def Awaits (flight : Flight) : Position τ → Prop
  | .join f | .await _ f => f = flight
  | _ => False

/-- The thread is tearing down. -/
def Deletes : Position τ → Prop
  | .tearDown .. => True
  | _ => False

theorem Owns.flies {flight : Flight} {p : Position τ} (h : p.Owns flight) : p.Flies flight := by
  cases p <;> first | exact h | exact h.elim

theorem Deletes.holdsLock {p : Position τ} (h : p.Deletes) : p.HoldsLock := by
  cases p <;> first | exact h | exact h.elim

theorem Begins.idle {p : Position τ} (h : p.Begins) :
    ¬ p.HoldsLock ∧ (∀ f, ¬ p.Flies f) ∧ (∀ f, ¬ p.Owns f) ∧ (∀ f, ¬ p.Awaits f) ∧ ¬ p.Deletes := by
  cases p <;> simp_all [Begins, HoldsLock, Owns, Flies, Awaits, Deletes]

theorem Ended.idle {p : Position τ} (h : p.Ended) :
    ¬ p.HoldsLock ∧ (∀ f, ¬ p.Flies f) ∧ (∀ f, ¬ p.Owns f) := by
  cases p <;> simp_all [Ended, HoldsLock, Owns, Flies]

/-- No lock is held, and no flight flown, on either side of a door except the flight of the one
who goes through. -/
theorem door_idle {p q : Position τ} (h : p.door? = some q) :
    ¬ p.HoldsLock ∧ q.HoldsLock ∧ (∀ f, q.Flies f ↔ p.Flies f) ∧ (∀ f, q.Owns f ↔ p.Owns f) ∧
      (∀ f, ¬ q.Awaits f) ∧ ¬ q.Deletes := by
  cases p <;> simp only [door?, reduceCtorEq, Option.some.injEq] at h <;> subst h <;>
    simp [HoldsLock, Owns, Flies, Awaits, Deletes]

end Position

namespace Crew

open Position

variable {crew : Crew τ}

/-! ## The invariant -/

/-- What the cell says is true of the threads. -/
structure Coherent (crew : Crew τ) : Prop where
  /-- the lock names the thread that holds it -/
  lock : ∀ t, crew.cell.lock = some t ↔ crew.Stands t HoldsLock
  /-- there is a handle exactly while the fixture is ready -/
  handle : crew.cell.status = .ready ↔ crew.cell.handle.isSome
  /-- there is a flight in progress exactly while the fixture is provisioning -/
  status : crew.cell.status = .provisioning ↔ crew.cell.inflight.isSome
  /-- the flight in progress is the one that some thread owns -/
  owner : ∀ f, crew.cell.inflight = some f ↔ ∃ t, crew.Stands t (Owns f)
  /-- the flights without an outcome are those that some thread flies -/
  pending : ∀ f, crew.cell.flights[f]? = some none ↔ ∃ t, crew.Stands t (Flies f)
  /-- no two threads fly the same flight -/
  alone : ∀ t u f, crew.Stands t (Flies f) → crew.Stands u (Flies f) → t = u
  /-- only a database that is ready is torn down -/
  ready : ∀ t, crew.Stands t Deletes → crew.cell.status = .ready
  /-- only a flight that was claimed is waited for -/
  awaited : ∀ t f, crew.Stands t (Awaits f) → f < crew.cell.flights.length

namespace Coherent

theorem start : Coherent (⟨{}, []⟩ : Crew τ) := by
  have hno : ∀ t (sort : Position τ → Prop), ¬ (⟨{}, []⟩ : Crew τ).Stands t sort := by
    rintro t sort ⟨p, hp, -⟩
    simp [At] at hp
  constructor <;> simp [hno]

theorem lt_of_flies (hc : Coherent crew) {t : ThreadId} {f : Flight}
    (h : crew.Stands t (Flies f)) : f < crew.cell.flights.length :=
  (List.getElem?_eq_some_iff.1 ((hc.pending f).2 ⟨t, h⟩)).1

theorem flies_of_owns {t : ThreadId} {f : Flight} (h : crew.Stands t (Owns f)) :
    crew.Stands t (Flies f) := by
  obtain ⟨p, hp, ho⟩ := h
  exact ⟨p, hp, ho.flies⟩

/-- The flight in progress was claimed. -/
theorem lt_of_inflight (hc : Coherent crew) {f : Flight} (h : crew.cell.inflight = some f) :
    f < crew.cell.flights.length := by
  obtain ⟨t, ht⟩ := (hc.owner f).1 h
  exact hc.lt_of_flies (flies_of_owns ht)

/-- **No two threads own a flight**, of whatever number. -/
theorem owner_unique (hc : Coherent crew) {t u : ThreadId} {f g : Flight}
    (ht : crew.Stands t (Owns f)) (hu : crew.Stands u (Owns g)) : t = u := by
  have hf := (hc.owner f).2 ⟨t, ht⟩
  have hg := (hc.owner g).2 ⟨u, hu⟩
  obtain rfl := Option.some.inj (hf.symm.trans hg)
  exact hc.alone t u f (flies_of_owns ht) (flies_of_owns hu)

/-- No two threads hold the lock. -/
theorem holder_unique (hc : Coherent crew) {t u : ThreadId} (ht : crew.Stands t HoldsLock)
    (hu : crew.Stands u HoldsLock) : t = u := by
  have h := ((hc.lock t).2 ht).symm.trans ((hc.lock u).2 hu)
  exact Option.some.inj h

/-- A flight that is about to be published is in progress, and the fixture has no handle. -/
theorem unready_of_publish (hc : Coherent crew) {t : ThreadId} {f : Flight} {o : Acquired τ}
    (hp : crew.At t (.publish f o)) :
    crew.cell.inflight = some f ∧ crew.cell.status = .provisioning ∧ crew.cell.handle = none := by
  have hin : crew.cell.inflight = some f := (hc.owner f).2 ⟨t, _, hp, rfl⟩
  have hst : crew.cell.status = .provisioning := hc.status.2 (by rw [hin]; rfl)
  refine ⟨hin, hst, ?_⟩
  have hno : ¬ crew.cell.handle.isSome := fun hh => by simp [hc.handle.2 hh] at hst
  simpa using hno

end Coherent

variable [Clock τ] {plan : Plan τ} {crew' : Crew τ} {x : Stride τ}

/-! ## Effects of a step -/

/-- **What a step can do to the lock**: take it, give it back, or leave it. -/
theorem Step.lock_effect (h : Step plan crew x crew') :
    (crew.cell.lock = none ∧ crew'.cell.lock = some x.thread ∧ x.target.HoldsLock) ∨
      (crew.Stands x.thread HoldsLock ∧ crew'.cell.lock = none ∧ ¬ x.target.HoldsLock) ∨
      (crew'.cell.lock = crew.cell.lock ∧
        (x.target.HoldsLock ↔ crew.Stands x.thread HoldsLock)) := by
  rcases h.begins_or_goes with ⟨hq, hp, -, hc⟩ | ⟨p, hp, -, hg⟩
  · refine Or.inr (Or.inr ⟨by rw [hc], ?_⟩)
    have hno : ¬ crew.Stands x.thread HoldsLock := fun ⟨p, hat, hl⟩ => (hp p hat).idle.1 hl
    exact iff_of_false hq.idle.1 hno
  · rw [hp.stands_iff]
    generalize hc' : crew'.cell = c' at hg ⊢
    generalize x.target = q at hg ⊢
    generalize x.exchange = e at hg
    cases hg with
    | enter door free => exact Or.inl ⟨free, rfl, (door_idle door).2.1⟩
    | reuse | join | claim | publish | await | pass | decline | clear =>
      exact Or.inr (Or.inl ⟨trivial, rfl, id⟩)
    | wake | provision | land | complete | rise | tearDown | delete =>
      exact Or.inr (Or.inr ⟨rfl, Iff.rfl⟩)

/-- **What a step can do to the outcomes of flights**: leave them, claim a new flight, or complete
the flight that the thread flies. -/
theorem Step.flights_effect (h : Step plan crew x crew') :
    (crew'.cell.flights = crew.cell.flights ∧
        ∀ f, x.target.Flies f ↔ crew.Stands x.thread (Flies f)) ∨
      (crew'.cell.flights = crew.cell.flights ++ [none] ∧ crew.At x.thread .claim ∧
        x = ⟨x.thread, some .claim, .provision crew.cell.flights.length Provision.start, none⟩) ∨
      ∃ f o, crew'.cell.flights = crew.cell.flights.set f (some o) ∧
        crew.At x.thread (.complete f o) ∧
        x = ⟨x.thread, some (.complete f o), .acquired f o, none⟩ := by
  rcases h.begins_or_goes with ⟨hq, hp, -, hc⟩ | ⟨p, hp, hsource, hg⟩
  · refine Or.inl ⟨by rw [hc], fun f => ?_⟩
    have hno : ¬ crew.Stands x.thread (Flies f) := fun ⟨p, hat, hl⟩ => (hp p hat).idle.2.1 f hl
    exact iff_of_false (hq.idle.2.1 f) hno
  · simp only [hp.stands_iff]
    obtain ⟨t, source, q, e⟩ := x
    subst hsource
    generalize crew'.cell = c' at hg ⊢
    cases hg with
    | enter door free => exact Or.inl ⟨rfl, (door_idle door).2.2.1⟩
    | claim unready idle => exact Or.inr (Or.inl ⟨rfl, hp, rfl⟩)
    | complete => exact Or.inr (Or.inr ⟨_, _, rfl, hp, rfl⟩)
    | @publish f o => exact Or.inl ⟨by cases o <;> rfl, fun f => Iff.rfl⟩
    | reuse | join | wake | provision | land | await | pass | rise | tearDown | decline | delete
    | clear => exact Or.inl ⟨rfl, fun f => Iff.rfl⟩

/-- **What a step can do to status, handle and flight in progress**: leave them, claim a flight on
a fixture that is not ready, publish the flight that the thread owns, or forget the handle of a
database that was torn down. -/
theorem Step.status_effect (h : Step plan crew x crew') :
    (crew'.cell.status = crew.cell.status ∧ crew'.cell.handle = crew.cell.handle ∧
        crew'.cell.inflight = crew.cell.inflight ∧
        ∀ f, x.target.Owns f ↔ crew.Stands x.thread (Owns f)) ∨
      (¬ (crew.cell.status = .ready ∧ crew.cell.handle.isSome) ∧ crew.cell.inflight = none ∧
        crew'.cell = crew.cell.claimed.freed ∧ crew.At x.thread .claim ∧
        x = ⟨x.thread, some .claim, .provision crew.cell.flights.length Provision.start, none⟩) ∨
      (∃ f o, crew'.cell = (crew.cell.published f o).freed ∧ crew.At x.thread (.publish f o) ∧
        x = ⟨x.thread, some (.publish f o), .complete f o, none⟩) ∨
      ∃ strict stage result, crew'.cell = crew.cell.cleared.freed ∧
        crew.At x.thread (.tearDown strict stage) ∧
        x = ⟨x.thread, some (.tearDown strict stage), .released result, none⟩ := by
  rcases h.begins_or_goes with ⟨hq, hp, -, hc⟩ | ⟨p, hp, hsource, hg⟩
  · refine Or.inl ⟨by rw [hc], by rw [hc], by rw [hc], fun f => ?_⟩
    have hno : ¬ crew.Stands x.thread (Owns f) := fun ⟨p, hat, hl⟩ => (hp p hat).idle.2.2 f hl
    exact iff_of_false (hq.idle.2.2.1 f) hno
  · simp only [hp.stands_iff]
    obtain ⟨t, source, q, e⟩ := x
    subst hsource
    generalize crew'.cell = c' at hg ⊢
    cases hg with
    | enter door free => exact Or.inl ⟨rfl, rfl, rfl, (door_idle door).2.2.2.1⟩
    | claim unready idle => exact Or.inr (Or.inl ⟨unready, idle, rfl, hp, rfl⟩)
    | publish => exact Or.inr (Or.inr (Or.inl ⟨_, _, rfl, hp, rfl⟩))
    | clear => exact Or.inr (Or.inr (Or.inr ⟨_, _, _, rfl, hp, rfl⟩))
    | reuse | join | wake | provision | land | complete | await | pass | rise | tearDown | decline
    | delete => exact Or.inl ⟨rfl, rfl, rfl, fun f => Iff.rfl⟩

/-- A thread begins to tear down only on a fixture that is ready, and changes nothing then. -/
theorem Step.deletes_effect (h : Step plan crew x crew') (hq : x.target.Deletes) :
    crew'.cell = crew.cell ∧ (crew.Stands x.thread Deletes ∨ crew.cell.status = .ready) := by
  rcases h.begins_or_goes with ⟨hb, -, -, -⟩ | ⟨p, hp, -, hg⟩
  · exact absurd hq hb.idle.2.2.2.2
  · rw [hp.stands_iff]
    generalize crew'.cell = c' at hg ⊢
    generalize x.target = q at hg hq
    generalize x.exchange = e at hg
    cases hg with
    | enter door free => exact absurd hq (door_idle door).2.2.2.2.2
    | tearDown ready => exact ⟨rfl, Or.inr ready⟩
    | delete reply asks => exact ⟨rfl, Or.inl trivial⟩
    | _ => exact hq.elim

/-- A thread begins to wait only for the flight in progress. -/
theorem Step.awaits_effect (h : Step plan crew x crew') {f : Flight} (hq : x.target.Awaits f) :
    crew.cell.inflight = some f := by
  rcases h.begins_or_goes with ⟨hb, -, -, -⟩ | ⟨p, -, -, hg⟩
  · exact absurd hq (hb.idle.2.2.2.1 f)
  · generalize crew'.cell = c' at hg
    generalize x.target = q at hg hq
    generalize x.exchange = e at hg
    cases hg with
    | enter door free => exact absurd hq ((door_idle door).2.2.2.2.1 f)
    | join unready inflight => exact (show _ = f from hq) ▸ inflight
    | await inflight => exact (show _ = f from hq) ▸ inflight
    | _ => exact hq.elim

/-- **What a step can exchange with the outside**: what provisioning asks for, or what tearing down
asks for.  Neither changes the cell. -/
theorem Step.exchange_effect (h : Step plan crew x crew') {e : Exchange τ}
    (he : x.exchange = some e) :
    crew'.cell = crew.cell ∧
      ((∃ f s, Provision.ask plan s = some e.request ∧ crew.At x.thread (.provision f s) ∧
          x = ⟨x.thread, some (.provision f s),
            .provision f (Provision.resume plan s e.reply).1, some e⟩) ∨
        ∃ strict s, Teardown.ask s = some e.request ∧ crew.At x.thread (.tearDown strict s) ∧
          x = ⟨x.thread, some (.tearDown strict s),
            .tearDown strict (Teardown.resume s e.reply).1, some e⟩) := by
  rcases h.begins_or_goes with ⟨-, -, hno, -⟩ | ⟨p, hp, hsource, hg⟩
  · exact absurd (he.symm.trans hno) (by simp)
  · obtain ⟨t, source, q, e'⟩ := x
    subst hsource he
    generalize crew'.cell = c' at hg ⊢
    cases hg with
    | provision reply asks => exact ⟨rfl, Or.inl ⟨_, _, asks, hp, rfl⟩⟩
    | delete reply asks => exact ⟨rfl, Or.inr ⟨_, _, asks, hp, rfl⟩⟩

/-- Flights are never forgotten. -/
theorem Step.flights_length_le (h : Step plan crew x crew') :
    crew.cell.flights.length ≤ crew'.cell.flights.length := by
  rcases h.flights_effect with ⟨hf, -⟩ | ⟨hf, -⟩ | ⟨g, o, hf, -⟩ <;> simp [hf]

/-! ## Every step keeps the invariant

One lemma for each field, named after it. -/

namespace Coherent

variable (hc : Coherent crew) (h : Step plan crew x crew')

include hc h

theorem lock_step (t : ThreadId) : crew'.cell.lock = some t ↔ crew'.Stands t HoldsLock := by
  rcases h.lock_effect with ⟨free, taken, hq⟩ | ⟨hp, freed, hq⟩ | ⟨same, hq⟩
  · rw [taken, h.stands_iff]
    constructor
    · intro ht
      exact Or.inl ⟨(Option.some.inj ht).symm, hq⟩
    · rintro (⟨rfl, -⟩ | ⟨-, hl⟩)
      · rfl
      · exact absurd ((hc.lock t).2 hl) (by simp [free])
  · rw [freed, h.stands_iff]
    constructor
    · intro ht
      exact absurd ht (by simp)
    · rintro (⟨-, hl⟩ | ⟨hne, hl⟩)
      · exact absurd hl hq
      · exact absurd (hc.holder_unique hl hp) hne
  · rw [same, hc.lock, h.stands_congr hq]

theorem handle_step : crew'.cell.status = .ready ↔ crew'.cell.handle.isSome := by
  rcases h.status_effect with ⟨hs, hh, -, -⟩ | ⟨unready, -, hcell, -, -⟩ | ⟨f, o, hcell, hp, -⟩ |
    ⟨strict, stage, result, hcell, -, -⟩
  · rw [hs, hh, hc.handle]
  · rw [hcell]
    exact iff_of_false (by simp [Cell.claimed, Cell.freed])
      fun hsome => unready ⟨hc.handle.2 hsome, hsome⟩
  · rw [hcell]
    cases o with
    | ok handle => simp [Cell.published, Cell.freed]
    | error e => simp [Cell.published, Cell.freed, (hc.unready_of_publish hp).2.2]
  · rw [hcell]
    simp [Cell.cleared, Cell.freed]

theorem status_step : crew'.cell.status = .provisioning ↔ crew'.cell.inflight.isSome := by
  rcases h.status_effect with ⟨hs, -, hi, -⟩ | ⟨-, -, hcell, -, -⟩ | ⟨f, o, hcell, -, -⟩ |
    ⟨strict, stage, result, hcell, hp, -⟩
  · rw [hs, hi, hc.status]
  · simp [hcell, Cell.claimed, Cell.freed]
  · rw [hcell]
    cases o <;> simp [Cell.published, Cell.freed]
  · have hst : crew.cell.status = .ready := hc.ready x.thread ⟨_, hp, trivial⟩
    have hin : ¬ crew.cell.inflight.isSome := fun hi => by simp [hc.status.2 hi] at hst
    simpa [hcell, Cell.cleared, Cell.freed] using hin

theorem owner_step (f : Flight) :
    crew'.cell.inflight = some f ↔ ∃ t, crew'.Stands t (Owns f) := by
  rcases h.status_effect with ⟨-, -, hi, hq⟩ | ⟨-, idle, hcell, -, hx⟩ | ⟨g, o, hcell, hp, hx⟩ |
    ⟨strict, stage, result, hcell, hp, hx⟩
  · rw [hi, hc.owner]
    exact exists_congr fun t => (h.stands_congr (hq f) t).symm
  · -- nobody owned a flight before, so the one who claimed is the only owner now
    have hno : ∀ t, ¬ crew.Stands t (Owns f) := fun t ht => by
      simpa [idle] using (hc.owner f).2 ⟨t, ht⟩
    have hq : x.target = .provision crew.cell.flights.length Provision.start := by rw [hx]
    simp [hcell, Cell.claimed, Cell.freed, h.stands_iff, hno, hq, Owns]
  · -- the only owner publishes, and nobody is left
    have hin := (hc.unready_of_publish hp).1
    have hnone : crew'.cell.inflight = none := by
      rw [hcell]
      cases o <;> rfl
    refine iff_of_false (by simp [hnone]) ?_
    rintro ⟨t, ht⟩
    rcases h.stands_iff.1 ht with ⟨-, ht⟩ | ⟨hne, ht⟩
    · rw [hx] at ht
      exact ht
    · exact hne (hc.owner_unique ht ⟨_, hp, rfl⟩)
  · have hsame : x.target.Owns f ↔ crew.Stands x.thread (Owns f) := by
      rw [hp.stands_iff, hx]
      rfl
    rw [hcell]
    refine (hc.owner f).trans ?_
    exact exists_congr fun t => (h.stands_congr hsame t).symm

theorem pending_step (f : Flight) :
    crew'.cell.flights[f]? = some none ↔ ∃ t, crew'.Stands t (Flies f) := by
  rcases h.flights_effect with ⟨hf, hq⟩ | ⟨hf, hp, hx⟩ | ⟨g, o, hf, hp, hx⟩
  · rw [hf, hc.pending]
    exact exists_congr fun t => (h.stands_congr (hq f) t).symm
  · have hq : x.target = .provision crew.cell.flights.length Provision.start := by rw [hx]
    rw [hf]
    rcases Nat.lt_trichotomy f crew.cell.flights.length with hlt | heq | hgt
    · rw [List.getElem?_append_left hlt, hc.pending]
      have hsame : x.target.Flies f ↔ crew.Stands x.thread (Flies f) := by
        rw [hp.stands_iff, hq]
        simp [Flies, Nat.ne_of_gt hlt]
      exact exists_congr fun t => (h.stands_congr hsame t).symm
    · subst heq
      refine iff_of_true (by simp) ⟨x.thread, h.stands_target_iff.2 ?_⟩
      rw [hq]
      rfl
    · have hout : (crew.cell.flights ++ [none])[f]? = none := by simp; omega
      refine iff_of_false (by simp [hout]) ?_
      rintro ⟨t, ht⟩
      rcases h.stands_iff.1 ht with ⟨-, ht⟩ | ⟨-, ht⟩
      · rw [hq] at ht
        exact Nat.ne_of_lt hgt ht
      · exact Nat.lt_asymm hgt (hc.lt_of_flies ht)
  · have hq : x.target = .acquired g o := by rw [hx]
    rw [hf, List.getElem?_set]
    have hg : crew.Stands x.thread (Flies g) := ⟨_, hp, rfl⟩
    by_cases hfg : g = f
    · subst hfg
      refine iff_of_false (by simp [hc.lt_of_flies hg]) ?_
      rintro ⟨t, ht⟩
      rcases h.stands_iff.1 ht with ⟨-, ht⟩ | ⟨hne, ht⟩
      · rw [hq] at ht
        exact ht
      · exact hne (hc.alone _ _ _ ht hg)
    · rw [if_neg hfg, hc.pending]
      have hsame : x.target.Flies f ↔ crew.Stands x.thread (Flies f) := by
        rw [hp.stands_iff, hq]
        simp [Flies, hfg]
      exact exists_congr fun t => (h.stands_congr hsame t).symm

theorem alone_step (t u : ThreadId) (f : Flight) (ht : crew'.Stands t (Flies f))
    (hu : crew'.Stands u (Flies f)) : t = u := by
  -- a thread that stayed flies an old flight, so a new one is the stride's own
  have hold : x.target.Flies f → ∀ v, v ≠ x.thread → ¬ crew.Stands v (Flies f) := by
    intro hx v hv hsv
    rcases h.flights_effect with ⟨-, hq⟩ | ⟨-, -, hq⟩ | ⟨g, o, -, -, hq⟩
    · exact hv (hc.alone _ _ _ hsv ((hq f).1 hx))
    · rw [hq] at hx
      exact Nat.ne_of_gt (hc.lt_of_flies hsv) hx
    · rw [hq] at hx
      exact hx
  rcases h.stands_iff.1 ht with ⟨htx, ht'⟩ | ⟨htx, ht'⟩ <;>
    rcases h.stands_iff.1 hu with ⟨hux, hu'⟩ | ⟨hux, hu'⟩
  · exact htx.trans hux.symm
  · exact absurd hu' (hold ht' u hux)
  · exact absurd ht' (hold hu' t htx)
  · exact hc.alone t u f ht' hu'

theorem ready_step (t : ThreadId) (ht : crew'.Stands t Deletes) : crew'.cell.status = .ready := by
  rcases h.stands_iff.1 ht with ⟨-, ht'⟩ | ⟨hne, ht'⟩
  · obtain ⟨hcell, hs | hs⟩ := h.deletes_effect ht'
    · rw [hcell]
      exact hc.ready _ hs
    · rw [hcell, hs]
  · -- whoever changes the status holds the lock, which is in the hands of the one who deletes
    have hready := hc.ready t ht'
    have halone : ¬ crew.Stands x.thread HoldsLock := fun hx => by
      obtain ⟨p, hp, hd⟩ := ht'
      exact hne (hc.holder_unique ⟨p, hp, hd.holdsLock⟩ hx)
    rcases h.status_effect with ⟨hs, -⟩ | ⟨-, -, -, hp, -⟩ | ⟨g, o, -, hp, -⟩ |
      ⟨_, _, _, -, hp, -⟩
    · rw [hs, hready]
    · exact absurd ⟨_, hp, trivial⟩ halone
    · exact absurd ⟨_, hp, trivial⟩ halone
    · exact absurd ⟨_, hp, trivial⟩ halone

theorem awaited_step (t : ThreadId) (f : Flight) (ht : crew'.Stands t (Awaits f)) :
    f < crew'.cell.flights.length := by
  refine Nat.lt_of_lt_of_le ?_ h.flights_length_le
  rcases h.stands_iff.1 ht with ⟨-, ht'⟩ | ⟨-, ht'⟩
  · exact hc.lt_of_inflight (h.awaits_effect ht')
  · exact hc.awaited t f ht'

/-- **Every step of every thread keeps the invariant.** -/
theorem step : Coherent crew' where
  lock := hc.lock_step h
  handle := hc.handle_step h
  status := hc.status_step h
  owner := hc.owner_step h
  pending := hc.pending_step h
  alone := hc.alone_step h
  ready := hc.ready_step h
  awaited := hc.awaited_step h

end Coherent

end Crew

end EphemeralDatabase
