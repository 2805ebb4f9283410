import EphemeralDatabase.Fixture.Lifecycle

/-!
# Fixtures

A fixture is a plan with a cell.  The calls of a single thread are runs of a crew of one; calls
of several threads at once are runs of a larger crew under a schedule that is given here.
-/

namespace EphemeralDatabase

/-- A plan and what its threads share. -/
structure Fixture (τ : Type) where
  plan : Plan τ
  cell : Cell τ := {}

namespace Fixture

variable {τ ω : Type} [Clock τ]

/-- Runs one thread from a position until it can go no further. -/
def call (f : Fixture τ) (world : World τ ω) (position : Position τ) :
    Act τ ω (Fixture τ × Option (Position τ)) := do
  let crew ← Crew.advance f.plan world false 0 patience ⟨f.cell, [position]⟩
  return ({ f with cell := crew.cell }, crew.threads[0]?)

/-- What a thread that called `acquire` got, and from which flight. -/
def acquiredAt? : Option (Position τ) → Option (Flight × Acquired τ)
  | some (.acquired flight outcome) => some (flight, outcome)
  | _ => none

/-- What a thread that called `release` got. -/
def releasedAt? : Option (Position τ) → Option Released
  | some (.released result) => some result
  | _ => none

/-- Gets a database, provisioning it if need be.  There is no result if waiting was cut off. -/
def acquire (f : Fixture τ) (world : World τ ω) : Act τ ω (Fixture τ × Option (Acquired τ)) := do
  let (f, position) ← f.call world .acquire
  return (f, (acquiredAt? position).map Prod.snd)

/-- Tears the database down. -/
def release (f : Fixture τ) (world : World τ ω) (strict : Bool := false) :
    Act τ ω (Fixture τ × Option Released) := do
  let (f, position) ← f.call world (.release strict)
  return (f, releasedAt? position)

/-- The handle, while the fixture is ready. -/
def handle? (f : Fixture τ) : Option Handle := f.cell.handle.map Prod.snd

/-! ## Several threads -/

/-- Lets the given threads go on in turn, each as far as it can. -/
def advanceAll (plan : Plan τ) (world : World τ ω) : List ThreadId → Crew τ → Act τ ω (Crew τ)
  | [], crew => pure crew
  | self :: rest, crew => do
      let crew ← Crew.advance plan world false self patience crew
      advanceAll plan world rest crew

/-- Whether a thread is about to make a request. -/
def isAsking (plan : Plan τ) (crew : Crew τ) (self : ThreadId) : Bool :=
  match crew.move plan self with
  | .ask .. => true
  | _ => false

/-- Starts the calls of several threads.  The first is held before its first request until all
others can go no further; if it makes none, it returns before the others begin.  The result tells
whether the first was held, and where each thread ended. -/
def race (f : Fixture τ) (world : World τ ω) (positions : List (Position τ)) :
    Act τ ω (Fixture τ × Bool × List (Position τ)) := do
  let others := (List.range positions.length).drop 1
  let crew ← Crew.advance f.plan world true 0 patience ⟨f.cell, positions⟩
  let held := isAsking f.plan crew 0
  let crew ← advanceAll f.plan world (others ++ [0] ++ others) crew
  return ({ f with cell := crew.cell }, held, crew.threads)

/-- What `workers` threads got that acquired at the same time. -/
structure SharedAcquire (τ : Type) where
  /-- all of them got what came of one flight -/
  agreed : Bool
  /-- the first was held before its first request -/
  waited : Bool
  outcome : Acquired τ

/-- Lets several threads acquire at the same time. -/
def acquireTogether (f : Fixture τ) (world : World τ ω) (workers : Nat) :
    Act τ ω (Fixture τ × Option (SharedAcquire τ)) := do
  let (f, held, positions) ← f.race world (List.replicate workers .acquire)
  let results := positions.map fun p => acquiredAt? (some p)
  match results with
  | some (flight, outcome) :: _ =>
      let agreed := results.all fun r => (r.map Prod.fst) == some flight
      return (f, some ⟨agreed, held, outcome⟩)
  | _ => return (f, none)

/-- What came of a release that was called while another thread acquired. -/
structure ContendedRelease (τ : Type) where
  acquired : Acquired τ
  released : Released
  /-- the release had to wait for the acquisition -/
  waited : Bool

/-- Lets one thread release while another acquires. -/
def releaseDuringAcquire (f : Fixture τ) (world : World τ ω) (strict : Bool) :
    Act τ ω (Fixture τ × Option (ContendedRelease τ)) := do
  let (f, held, positions) ← f.race world [.acquire, .release strict]
  match acquiredAt? positions[0]?, releasedAt? positions[1]? with
  | some (_, acquired), some released => return (f, some ⟨acquired, released, held⟩)
  | _, _ => return (f, none)

end Fixture

end EphemeralDatabase
