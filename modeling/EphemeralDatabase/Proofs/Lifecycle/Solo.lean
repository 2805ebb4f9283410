import EphemeralDatabase.Fixture.Basic
import EphemeralDatabase.Proofs.Lifecycle.Step
import EphemeralDatabase.Proofs.Provision.Course
import EphemeralDatabase.Proofs.Teardown.Course

/-!
# Calls that nobody disturbs

`Plan.Solo` says how a call goes that has the fixture to itself: from a cell and a position, by
these exchanges with the outside, to the cell and the position in which the thread has returned.
It follows the moves of `Plan.move` one by one, and replies are arbitrary.

A move without an exchange is fixed by cell and position, so it can be taken off the front of a
call, and for each of the two operations little is left in the end (`solo_acquire_of_ready`,
`solo_acquire_of_unready`, `solo_release_of_ready`, `solo_release_of_unready`): an acquisition is a
whole run of provisioning, or finds a handle; a release is a course of tearing down, or finds
nothing to tear down.

`Fixture.acquire` and `Fixture.release` run a crew of one, and when they have a result they went the
way of such a call (`Fixture.acquire_solo`, `Fixture.release_solo`).
-/

namespace EphemeralDatabase

variable {τ : Type}

/-! ## Cells nobody has locked -/

namespace Cell

variable {c : Cell τ} {self : ThreadId}

theorem taken_freed (h : c.lock = none) : (c.taken self).freed = c := by
  obtain ⟨status, handle, inflight, flights, lock⟩ := c
  subst h
  rfl

theorem taken_claimed_freed (h : c.lock = none) : (c.taken self).claimed.freed = c.claimed :=
  taken_freed (c := c.claimed) h

theorem taken_published_freed (h : c.lock = none) (flight : Flight) (o : Acquired τ) :
    ((c.taken self).published flight o).freed = c.published flight o := by
  cases o with
  | ok handle => exact taken_freed (c := c.published flight (.ok handle)) h
  | error e => exact taken_freed (c := c.published flight (.error e)) h

theorem taken_cleared_freed (h : c.lock = none) : (c.taken self).cleared.freed = c.cleared :=
  taken_freed (c := c.cleared) h

/-- What is left when a flight was claimed, published and completed. -/
def landed (c : Cell τ) (o : Acquired τ) : Cell τ :=
  (c.claimed.published c.flights.length o).completed c.flights.length o

end Cell

variable [Clock τ]

/-! ## Calls -/

/-- A thread that nobody disturbs comes to the end of its call: from a cell and a position, by
these exchanges, to a cell and a position. -/
inductive Plan.Solo (plan : Plan τ) (self : ThreadId) :
    Cell τ → Position τ → List (Exchange τ) → Cell τ → Position τ → Prop
  | ended {c : Cell τ} {p : Position τ} (ended : p.Ended) : plan.Solo self c p [] c p
  | silent {c c₁ c₂ : Cell τ} {p q r : Position τ} {events : List (Event τ)}
      {es : List (Exchange τ)} (move : plan.move self c p = .silent c₁ q events)
      (rest : plan.Solo self c₁ q es c₂ r) : plan.Solo self c p es c₂ r
  | ask {c c₂ : Cell τ} {p r : Position τ} {request : Request τ}
      {resume : Reply τ → Position τ × List (Event τ)} {es : List (Exchange τ)}
      (reply : Reply τ) (move : plan.move self c p = .ask request resume)
      (rest : plan.Solo self c (resume reply).1 es c₂ r) :
      plan.Solo self c p (⟨request, reply⟩ :: es) c₂ r

namespace Plan

variable {plan : Plan τ} {self : ThreadId} {c c' : Cell τ} {p q r : Position τ}
  {es : List (Exchange τ)}

theorem move_of_ended (hp : p.Ended) : plan.move self c p = .finished := by
  cases p <;> first | rfl | exact hp.elim

theorem solo_of_ended (hp : p.Ended) : plan.Solo self c p es c' r ↔ es = [] ∧ c' = c ∧ r = p := by
  constructor
  · intro h
    cases h with
    | ended => exact ⟨rfl, rfl, rfl⟩
    | silent move => exact absurd (move.symm.trans (move_of_ended hp)) (by simp)
    | ask reply move => exact absurd (move.symm.trans (move_of_ended hp)) (by simp)
  · rintro ⟨rfl, rfl, rfl⟩
    exact .ended hp

/-- A move without an exchange can be taken off the front. -/
theorem solo_of_silent {c₁ : Cell τ} {events : List (Event τ)}
    (move : plan.move self c p = .silent c₁ q events) :
    plan.Solo self c p es c' r ↔ plan.Solo self c₁ q es c' r := by
  constructor
  · intro h
    cases h with
    | ended hp => exact absurd (move.symm.trans (move_of_ended hp)) (by simp)
    | silent move' rest =>
      obtain ⟨rfl, rfl, -⟩ : _ = c₁ ∧ _ = q ∧ _ = events := by simpa using move'.symm.trans move
      exact rest
    | ask reply move' => exact absurd (move'.symm.trans move) (by simp)
  · exact .silent move

theorem move_enter (door : p.door? = some q) (free : c.lock = none) :
    plan.move self c p = .silent (c.taken self) q [] := by
  cases p <;> simp_all [Position.door?, Plan.move, Cell.enter]

theorem solo_of_door (door : p.door? = some q) (free : c.lock = none) :
    plan.Solo self c p es c' r ↔ plan.Solo self (c.taken self) q es c' r :=
  solo_of_silent (move_enter door free)

/-! ### Provisioning -/

theorem move_provision {flight : Flight} {s : Provision.Stage τ} {request : Request τ}
    (asks : Provision.ask plan s = some request) :
    plan.move self c (.provision flight s) = .ask request fun reply =>
      (.provision flight (Provision.resume plan s reply).1, (Provision.resume plan s reply).2) := by
  cases s with
  | done o => simp [Provision.ask] at asks
  | service s => simp [Plan.move, asks]
  | pod endpoint s => simp [Plan.move, asks]

/-- After provisioning the thread publishes and returns. -/
theorem solo_land {flight : Flight} {o : Acquired τ} (free : c.lock = none) :
    plan.Solo self c (.land flight o) es c' r ↔
      es = [] ∧ c' = (c.published flight o).completed flight o ∧ r = .acquired flight o := by
  rw [solo_of_door rfl free, solo_of_silent rfl, Cell.taken_published_freed free,
    solo_of_silent rfl]
  exact solo_of_ended trivial

theorem solo_provision {flight : Flight} {s : Provision.Stage τ} (free : c.lock = none) :
    plan.Solo self c (.provision flight s) es c' r ↔
      ∃ o, (Provision.machine plan).Trace s es (.done o) ∧
        c' = (c.published flight o).completed flight o ∧ r = .acquired flight o := by
  constructor
  · intro h
    -- the thread provisions until it lands, and the cell stays as it is
    generalize hp : Position.provision flight s = p at h
    induction h generalizing s with
    | ended ended =>
      subst hp
      exact ended.elim
    | @silent c c₁ c₂ p q r events es move rest ih =>
      subst hp
      cases Goes.of_silent move with
      | enter door => simp [Position.door?] at door
      | @land _ o =>
        obtain ⟨rfl, hcell, hr⟩ := (solo_land free).1 rest
        exact ⟨o, .nil _, hcell, hr⟩
    | @ask c c₂ p r request resume es reply move rest ih =>
      subst hp
      have goes := Goes.of_ask move reply
      generalize (resume reply).1 = q at goes rest ih
      cases goes with
      | provision _ asks =>
        obtain ⟨o, trace, hcell, hr⟩ := ih free rfl
        exact ⟨o, .cons asks trace, hcell, hr⟩
  · rintro ⟨o, trace, rfl, rfl⟩
    generalize ht : (Provision.Stage.done o : Provision.Stage τ) = t at trace
    induction trace with
    | nil s =>
      subst ht
      exact .silent rfl ((solo_land free).2 ⟨rfl, rfl, rfl⟩)
    | @cons s t request reply es asks rest ih => exact .ask reply (move_provision asks) (ih ht)

/-! ### Tearing down -/

theorem move_tearDown {strict : Bool} {s : Teardown.Stage} {request : Request τ}
    (asks : Teardown.ask s = some request) :
    plan.move self c (.tearDown strict s) = .ask request fun reply =>
      (.tearDown strict (Teardown.resume s reply).1, (Teardown.resume s reply).2) := by
  simp [Plan.move, asks]

theorem move_clear {strict : Bool} {s : Teardown.Stage}
    (done : Teardown.ask s = (none : Option (Request τ))) :
    plan.move self c (.tearDown strict s) = .silent c.cleared.freed
      (.released (releaseResult strict (Teardown.result s))) [] := by
  simp [Plan.move, done]

theorem solo_tearDown {strict : Bool} {s : Teardown.Stage} :
    plan.Solo self c (.tearDown strict s) es c' r ↔
      ∃ t, Teardown.machine.Trace s es t ∧ Teardown.ask t = (none : Option (Request τ)) ∧
        c' = c.cleared.freed ∧ r = .released (releaseResult strict (Teardown.result t)) := by
  constructor
  · intro h
    generalize hp : Position.tearDown strict s = p at h
    induction h generalizing s with
    | ended ended =>
      subst hp
      exact ended.elim
    | @silent c c₁ c₂ p q r events es move rest ih =>
      subst hp
      cases Goes.of_silent move with
      | enter door => simp [Position.door?] at door
      | clear done =>
        obtain ⟨rfl, hcell, hr⟩ := (solo_of_ended (p := .released _) trivial).1 rest
        exact ⟨s, .nil _, done, hcell, hr⟩
    | @ask c c₂ p r request resume es reply move rest ih =>
      subst hp
      have goes := Goes.of_ask move reply
      generalize (resume reply).1 = q at goes rest ih
      cases goes with
      | delete _ asks =>
        obtain ⟨t, trace, ht, hcell, hr⟩ := ih rfl
        exact ⟨t, .cons asks trace, ht, hcell, hr⟩
  · rintro ⟨t, trace, ht, rfl, rfl⟩
    induction trace with
    | nil s => exact .silent (move_clear ht) (.ended trivial)
    | @cons s t request reply es asks rest ih => exact .ask reply (move_tearDown asks) (ih ht)

/-! ## The two operations -/

section Operations

variable (free : c.lock = none)

include free

/-- **On a fixture that is ready an acquisition finds the handle.** -/
theorem solo_acquire_of_ready {flight : Flight} {handle : Handle} (ready : c.status = .ready)
    (found : c.handle = some (flight, handle)) :
    plan.Solo self c .acquire es c' r ↔
      es = [] ∧ c' = c ∧ r = .acquired flight (.ok handle) := by
  have claim : plan.move self (c.taken self) .claim =
      .silent (c.taken self).freed (.acquired flight (.ok handle)) [] := by
    simp [Plan.move, Cell.claim, Cell.taken, ready, found]
  rw [solo_of_door rfl free, solo_of_silent claim, Cell.taken_freed free]
  exact solo_of_ended trivial

/-- **On a fixture that is not ready an acquisition is a whole run of provisioning**, and what comes
of it is published. -/
theorem solo_acquire_of_unready (unready : c.status ≠ .ready) (idle : c.inflight = none) :
    plan.Solo self c .acquire es c' r ↔
      ∃ o, (Provision.machine plan).Trace Provision.start es (.done o) ∧ c' = c.landed o ∧
        r = .acquired c.flights.length o := by
  have claim : plan.move self (c.taken self) .claim = .silent (c.taken self).claimed.freed
      (.provision c.flights.length Provision.start) [] := by
    simp [Plan.move, Cell.claim, Cell.taken, unready, idle]
  rw [solo_of_door rfl free, solo_of_silent claim, Cell.taken_claimed_freed free,
    solo_provision (show c.claimed.lock = none from free)]
  rfl

omit free in
/-- A fresh fixture is not ready. -/
theorem solo_acquire_of_trace {o : Acquired τ}
    (h : (Provision.machine plan).Trace Provision.start es (.done o)) :
    plan.Solo self {} .acquire es (({} : Cell τ).landed o) (.acquired 0 o) :=
  (solo_acquire_of_unready rfl (by simp) rfl).2 ⟨o, h, rfl, rfl⟩

variable (idle : c.inflight = none)

include idle

/-- A release comes to the decision with the lock. -/
theorem solo_release_iff {strict : Bool} : plan.Solo self c (.release strict) es c' r ↔
    plan.Solo self (c.taken self) (.decide strict) es c' r := by
  have peek : plan.move self (c.taken self) (.peek strict) =
      .silent (c.taken self).freed (.descend strict) [] := by
    simp [Plan.move, Cell.taken, idle]
  rw [solo_of_door rfl free, solo_of_silent peek, Cell.taken_freed free, solo_of_door rfl free]

/-- **On a fixture that is not ready a release does nothing.** -/
theorem solo_release_of_unready {strict : Bool} (unready : c.status ≠ .ready) :
    plan.Solo self c (.release strict) es c' r ↔
      es = [] ∧ c' = c ∧ r = .released (.ok {}) := by
  have decline : plan.move self (c.taken self) (.decide strict) =
      .silent (c.taken self).freed (.released (.ok {})) [.nothingToRelease c.status] := by
    simp [Plan.move, Cell.taken, unready]
  rw [solo_release_iff free idle, solo_of_silent decline, Cell.taken_freed free]
  exact solo_of_ended trivial

/-- **On a fixture that is ready a release is a course of tearing down**, and clears the fixture
whatever comes of it. -/
theorem solo_release_of_ready {strict : Bool} (ready : c.status = .ready) :
    plan.Solo self c (.release strict) es c' r ↔
      ∃ result, Teardown.Course plan.teardownOrder {} es result ∧ c' = c.cleared ∧
        r = .released (releaseResult strict result) := by
  have tearDown : plan.move self (c.taken self) (.decide strict) =
      .silent (c.taken self) (.tearDown strict (Teardown.start plan.teardownOrder)) [] := by
    simp [Plan.move, Cell.taken, ready]
  rw [solo_release_iff free idle, solo_of_silent tearDown, solo_tearDown,
    Cell.taken_cleared_freed free]
  constructor
  · rintro ⟨t, trace, ht, hcell, hr⟩
    exact ⟨_, .of_trace trace ht, hcell, hr⟩
  · rintro ⟨result, course, hcell, rfl⟩
    obtain ⟨t, trace, ht, rfl⟩ := course.exists_trace
    exact ⟨t, trace, ht, hcell, rfl⟩

end Operations

/-- **Whatever state the fixture is in, an acquisition is a whole run of provisioning or exchanges
nothing** with the outside. -/
theorem Solo.provisions (h : plan.Solo self c .acquire es c' r) :
    es = [] ∨ ∃ o, (Provision.machine plan).Trace Provision.start es (.done o) := by
  have free : c.lock = none := by
    cases h with
    | ended ended => exact ended.elim
    | ask reply move => cases Goes.of_ask move reply
    | silent move rest =>
      cases Goes.of_silent move with
      | enter door free => exact free
  rw [solo_of_door rfl free] at h
  cases h with
  | ended ended => exact ended.elim
  | ask reply move => cases Goes.of_ask move reply
  | silent move rest =>
    cases Goes.of_silent move with
    | enter door => simp [Position.door?] at door
    | reuse => exact Or.inl ((solo_of_ended (p := .acquired _ _) trivial).1 rest).1
    | join =>
      cases rest with
      | ended ended => exact ended.elim
      | ask reply move => cases Goes.of_ask move reply
      | silent move rest =>
        cases Goes.of_silent move with
        | enter door => simp [Position.door?] at door
        | wake => exact Or.inl ((solo_of_ended (p := .acquired _ _) trivial).1 rest).1
    | claim =>
      obtain ⟨o, trace, -⟩ := (solo_provision rfl).1 rest
      exact Or.inr ⟨o, trace⟩

end Plan

/-! ## The functions that run -/

namespace Journal

omit [Clock τ]

@[simp]
theorem exchanges_append (j k : Journal τ) : exchanges (j ++ k) = exchanges j ++ exchanges k :=
  List.filterMap_append

@[simp]
theorem exchanges_events (events : List (Event τ)) : exchanges (events.map .event) = [] := by
  simp [exchanges]

@[simp]
theorem exchanges_cons (e : Exchange τ) (j : Journal τ) :
    exchanges (.exchange e :: j) = e :: exchanges j := rfl

end Journal

variable {ω : Type}

section Advance

variable {plan : Plan τ} {world : World τ ω} {fuel : ℕ} {c c₁ : Cell τ} {p q : Position τ}

theorem Crew.advance_of_silent {events : List (Event τ)}
    (move : plan.move 0 c p = .silent c₁ q events) :
    advance plan world false 0 (fuel + 1) ⟨c, [p]⟩ =
      Act.report events >>= fun _ => advance plan world false 0 fuel ⟨c₁, [q]⟩ := by
  simp [advance, Crew.move, move, place]

theorem Crew.advance_of_ask {request : Request τ}
    {resume : Reply τ → Position τ × List (Event τ)}
    (move : plan.move 0 c p = .ask request resume) :
    advance plan world false 0 (fuel + 1) ⟨c, [p]⟩ =
      Act.request world request >>= fun reply => Act.report (resume reply).2 >>= fun _ =>
        advance plan world false 0 fuel ⟨c, [(resume reply).1]⟩ := by
  simp [advance, Crew.move, move, place]

/-- A thread that makes no move stays where it is. -/
theorem Crew.advance_of_still
    (still : plan.move 0 c p = .blocked ∨ plan.move 0 c p = .finished) :
    advance plan world false 0 fuel ⟨c, [p]⟩ = pure ⟨c, [p]⟩ := by
  cases fuel with
  | zero => rfl
  | succ fuel => rcases still with still | still <;> simp [advance, Crew.move, still]

end Advance

/-- **A crew of one goes the way of a call**: once the thread has returned, what was exchanged
meanwhile are the exchanges of a call that nobody disturbs. -/
theorem Crew.advance_solo (plan : Plan τ) (world : World τ ω) (fuel : ℕ) (c : Cell τ)
    (p : Position τ) (w : ω) :
    ∃ c' q, (advance plan world false 0 fuel ⟨c, [p]⟩ w).result = ⟨c', [q]⟩ ∧ (q.Ended →
      plan.Solo 0 c p (advance plan world false 0 fuel ⟨c, [p]⟩ w).journal.exchanges c' q) := by
  induction fuel generalizing c p w with
  | zero => exact ⟨c, p, rfl, .ended⟩
  | succ fuel ih =>
    cases move : plan.move 0 c p with
    | blocked | finished =>
      rw [advance_of_still (by simp [move])]
      exact ⟨c, p, rfl, .ended⟩
    | silent c₁ q₁ events =>
      obtain ⟨c', q, hresult, hsolo⟩ := ih c₁ q₁ w
      rw [advance_of_silent move]
      refine ⟨c', q, hresult, fun hq => .silent move ?_⟩
      simpa [bind, Act.report, Act.note] using hsolo hq
    | ask request resume =>
      obtain ⟨c', q, hresult, hsolo⟩ :=
        ih c (resume (world.ask request w).1).1 (world.ask request w).2
      rw [advance_of_ask move]
      refine ⟨c', q, hresult, fun hq => ?_⟩
      simpa [bind, Act.report, Act.note, Act.request] using
        Plan.Solo.ask (world.ask request w).1 move (hsolo hq)

namespace Fixture

variable {f : Fixture τ} {world : World τ ω} {w : ω}

theorem call_solo {position q : Position τ}
    (h : (f.call world position w).result.2 = some q) (hq : q.Ended) :
    f.plan.Solo 0 f.cell position (f.call world position w).journal.exchanges
      (f.call world position w).result.1.cell q := by
  obtain ⟨c', q', hresult, hsolo⟩ := Crew.advance_solo f.plan world patience f.cell position w
  have hcell : (f.call world position w).result = ({ f with cell := c' }, some q') := by
    simp [call, bind, pure, hresult]
  have hjournal : (f.call world position w).journal =
      (Crew.advance f.plan world false 0 patience ⟨f.cell, [position]⟩ w).journal := by
    simp [call, bind, pure]
  obtain rfl : q' = q := by simpa [hcell] using h
  rw [hcell, hjournal]
  exact hsolo hq

omit [Clock τ] in
theorem acquiredAt?_eq_some_iff {position? : Option (Position τ)} {flight : Flight}
    {o : Acquired τ} :
    acquiredAt? position? = some (flight, o) ↔ position? = some (.acquired flight o) := by
  rcases position? with _ | position
  · simp [acquiredAt?]
  · cases position <;> simp [acquiredAt?]

omit [Clock τ] in
theorem releasedAt?_eq_some_iff {position? : Option (Position τ)} {q : Released} :
    releasedAt? position? = some q ↔ position? = some (.released q) := by
  rcases position? with _ | position
  · simp [releasedAt?]
  · cases position <;> simp [releasedAt?]

/-- What `acquire` does is a call. -/
theorem acquire_solo {o : Acquired τ} (h : (f.acquire world w).result.2 = some o) :
    ∃ flight, f.plan.Solo 0 f.cell .acquire (f.acquire world w).journal.exchanges
      (f.acquire world w).result.1.cell (.acquired flight o) := by
  obtain ⟨⟨flight, o'⟩, hat, rfl⟩ := Option.map_eq_some_iff.1 h
  have hjournal : (f.acquire world w).journal = (f.call world .acquire w).journal :=
    List.append_nil _
  rw [hjournal]
  exact ⟨flight, call_solo (acquiredAt?_eq_some_iff.1 hat) trivial⟩

/-- What `release` does is a call. -/
theorem release_solo {strict : Bool} {q : Released}
    (h : (f.release world strict w).result.2 = some q) :
    f.plan.Solo 0 f.cell (.release strict) (f.release world strict w).journal.exchanges
      (f.release world strict w).result.1.cell (.released q) := by
  have hjournal : (f.release world strict w).journal =
      (f.call world (.release strict) w).journal := List.append_nil _
  rw [hjournal]
  exact call_solo (releasedAt?_eq_some_iff.1 h) trivial

end Fixture

end EphemeralDatabase
