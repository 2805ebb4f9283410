import EphemeralDatabase.Fixture.Cell

/-!
# The life of a fixture

Several threads may share a fixture and call `acquire` and `release` on it as they like.  They
meet in one `Cell`, whose status, handle and flight in progress change under its lock only.

The first `acquire` on a fixture that is not ready claims a *flight*: it provisions outside the
lock, then publishes what came of it, then completes the flight.  Every `acquire` that finds a
flight in progress joins it and ends as the flight does.  A `release` waits for a flight in
progress, and then, if the fixture is ready, deletes the Pod and the Service while it holds the
lock, so that no flight can begin meanwhile.

`Plan.move` says for one thread what its next step is.  It is the only definition of what the
calls do: a single call is the run of one thread (`Fixture.acquire`, `Fixture.release`), and a
concurrent execution is any interleaving of such steps.
-/

namespace EphemeralDatabase

/-- Where a thread stands in its call. -/
inductive Position (τ : Type) where
  /-- `acquire` wants the lock -/
  | acquire
  /-- `acquire` holds the lock, and decides what to do -/
  | claim
  /-- waits for a flight of another thread -/
  | join (flight : Flight)
  /-- provisions -/
  | provision (flight : Flight) (stage : Provision.Stage τ)
  /-- wants the lock to publish -/
  | land (flight : Flight) (outcome : Acquired τ)
  /-- holds the lock to publish -/
  | publish (flight : Flight) (outcome : Acquired τ)
  /-- has published, and completes the flight -/
  | complete (flight : Flight) (outcome : Acquired τ)
  /-- `acquire` has returned what came of a flight -/
  | acquired (flight : Flight) (outcome : Acquired τ)
  /-- `release` wants the lock -/
  | release (strict : Bool)
  /-- `release` holds the lock, and looks for a flight in progress -/
  | peek (strict : Bool)
  /-- waits for a flight in progress -/
  | await (strict : Bool) (flight : Flight)
  /-- wants the lock to tear down -/
  | descend (strict : Bool)
  /-- holds the lock, and decides whether there is anything to tear down -/
  | decide (strict : Bool)
  /-- holds the lock and deletes -/
  | tearDown (strict : Bool) (stage : Teardown.Stage)
  /-- `release` has returned -/
  | released (result : Released)

/-- The next step of a thread. -/
inductive Move (τ : Type) where
  /-- has to wait for another thread -/
  | blocked
  /-- has returned -/
  | finished
  /-- changes the cell, moves on and reports events -/
  | silent (cell : Cell τ) (next : Position τ) (events : List (Event τ))
  /-- makes a request -/
  | ask (request : Request τ) (resume : Reply τ → Position τ × List (Event τ))

/-- What a release returns, given the report. -/
def releaseResult (strict : Bool) : Except Fault Report → Released
  | .ok report => if strict && !report.ok then .error (.incomplete report) else .ok report
  | .error fault => .error (.raised fault)

/-- What an `acquire` that made a database reports. -/
def landingEvents {τ : Type} : Acquired τ → List (Event τ)
  | .ok h => [.databaseReady h.host h.port]
  | .error _ => []

/-- The objects of a plan in the order in which they are deleted. -/
def Plan.teardownOrder {τ : Type} (plan : Plan τ) : List Address :=
  [plan.pod.address, plan.service.address]

/-- Takes the lock if it is free. -/
def Cell.enter {τ : Type} (c : Cell τ) (self : ThreadId) (next : Position τ) : Move τ :=
  if c.lock.isNone then .silent (c.taken self) next [] else .blocked

/-- What `acquire` does under the lock: hand out the handle, join a flight, or claim one. -/
def Cell.claim {τ : Type} (c : Cell τ) : Move τ :=
  match c.status, c.handle with
  | .ready, some (flight, handle) => .silent c.freed (.acquired flight (.ok handle)) []
  | _, _ =>
      match c.inflight with
      | some flight => .silent c.freed (.join flight) [.joined]
      | none => .silent c.claimed.freed (.provision c.flights.length Provision.start) []

/-- The next step of a thread at a position. -/
def Plan.move {τ : Type} [Clock τ] (plan : Plan τ) (self : ThreadId) (c : Cell τ) :
    Position τ → Move τ
  | .acquire => c.enter self .claim
  | .claim => c.claim
  | .join flight =>
      match c.outcome? flight with
      | some outcome => .silent c (.acquired flight outcome) []
      | none => .blocked
  | .provision flight stage =>
      match stage with
      | .done outcome => .silent c (.land flight outcome) []
      | _ =>
          match Provision.ask plan stage with
          | some request => .ask request fun reply =>
              let (stage, events) := Provision.resume plan stage reply
              (.provision flight stage, events)
          | none => .blocked
  | .land flight outcome => c.enter self (.publish flight outcome)
  | .publish flight outcome =>
      .silent (c.published flight outcome).freed (.complete flight outcome) []
  | .complete flight outcome =>
      .silent (c.completed flight outcome) (.acquired flight outcome) (landingEvents outcome)
  | .acquired _ _ => .finished
  | .release strict => c.enter self (.peek strict)
  | .peek strict =>
      match c.inflight with
      | some flight => .silent c.freed (.await strict flight) []
      | none => .silent c.freed (.descend strict) []
  | .await strict flight =>
      match c.outcome? flight with
      | some _ => .silent c (.descend strict) []
      | none => .blocked
  | .descend strict => c.enter self (.decide strict)
  | .decide strict =>
      if c.status = .ready then .silent c (.tearDown strict (Teardown.start plan.teardownOrder)) []
      else .silent c.freed (.released (.ok {})) [.nothingToRelease c.status]
  | .tearDown strict stage =>
      match Teardown.ask stage with
      | some request => .ask request fun reply =>
          let (stage, events) := Teardown.resume stage reply
          (.tearDown strict stage, events)
      | none =>
          .silent c.cleared.freed (.released (releaseResult strict (Teardown.result stage))) []
  | .released _ => .finished

/-! ## Running threads -/

/-- The cell and the positions of the threads. -/
structure Crew (τ : Type) where
  cell : Cell τ
  threads : List (Position τ)

namespace Crew

variable {τ ω : Type} [Clock τ]

/-- The next step of a thread. -/
def move (plan : Plan τ) (crew : Crew τ) (self : ThreadId) : Move τ :=
  match crew.threads[self]? with
  | some position => plan.move self crew.cell position
  | none => .finished

/-- The crew with one thread moved on. -/
def place (crew : Crew τ) (self : ThreadId) (cell : Cell τ) (position : Position τ) : Crew τ :=
  ⟨cell, crew.threads.set self position⟩

/-- Lets one thread go on until it is blocked or has returned; with `shy`, also until it is about
to make a request. -/
def advance (plan : Plan τ) (world : World τ ω) (shy : Bool) (self : ThreadId) :
    Nat → Crew τ → Act τ ω (Crew τ)
  | 0, crew => pure crew
  | fuel + 1, crew =>
      match crew.move plan self with
      | .blocked => pure crew
      | .finished => pure crew
      | .silent cell next events => do
          Act.report events
          advance plan world shy self fuel (crew.place self cell next)
      | .ask request resume =>
          if shy then pure crew
          else do
            let reply ← Act.request world request
            let (next, events) := resume reply
            Act.report events
            advance plan world shy self fuel (crew.place self crew.cell next)

end Crew

end EphemeralDatabase
