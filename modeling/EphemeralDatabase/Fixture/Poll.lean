import EphemeralDatabase.Cluster.Adapter
import EphemeralDatabase.Fixture.Machine

/-!
# Waiting for an object

Waiting reads the object again and again, with a pause between one read and the next.  It ends
with the first read that shows the condition to hold, however late, and otherwise with the first
that ends after the deadline.  Nothing is read at all if the condition held of an earlier
observation already.

Elapsed time is always the difference between the clock and the start, never a sum of pauses.
-/

namespace EphemeralDatabase

/-- What to wait for, and how. -/
structure Watch (τ : Type) where
  address : Address
  nodeHost : String
  pace : Pace τ
  /-- when waiting began -/
  started : τ

namespace Poll

/-- Where waiting stands, and how often the object was read so far. -/
inductive Stage (condition : Condition) (τ : Type) where
  | reading (attempts : Nat)
  | sleeping (attempts : Nat)
  | done (result : Except Fault (Waited condition τ))

variable {condition : Condition} {τ : Type}

/-- What is asked of the outside. -/
def ask (w : Watch τ) : Stage condition τ → Option (Request τ)
  | .reading _ => some (.read w.address)
  | .sleeping _ => some (.sleep w.pace.interval)
  | .done _ => none

/-- A read that found out nothing is reported. -/
def readEvents : ReadOutcome → List (Event τ)
  | .failed f => [.readFailed f]
  | _ => []

variable [Clock τ]

/-- Starts to wait, unless an earlier observation will do. -/
def start (w : Watch τ) (observed : Option ResourceState) :
    Stage condition τ × List (Event τ) :=
  match observed with
  | some s =>
      if h : condition s = true then
        (.done (.ok (.ready ⟨s, 0, Clock.zero, h⟩)), [.ready w.address])
      else (.reading 0, [])
  | none => (.reading 0, [])

/-- What follows from a read that did not show the condition to hold. -/
def again (w : Watch τ) (attempts : Nat) (elapsed : τ) (seen : ReadOutcome) :
    Stage condition τ × List (Event τ) :=
  if w.pace.deadline < elapsed then
    let timeout : TimedOut τ := ⟨w.address, w.pace.deadline, attempts, elapsed, some seen⟩
    (.done (.ok (.timedOut timeout)), readEvents seen ++ [.timedOut timeout])
  else
    (.sleeping attempts, readEvents seen ++ [.notReady w.address attempts w.pace.interval])

/-- What follows from a read, when it is the `attempts`-th and ended after `elapsed`. -/
def afterRead (w : Watch τ) (attempts : Nat) (elapsed : τ) (seen : ReadOutcome) :
    Stage condition τ × List (Event τ) :=
  match seen with
  | .found s =>
      if h : condition s = true then
        (.done (.ok (.ready ⟨s, attempts, elapsed, h⟩)), [.readyAfter w.address elapsed attempts])
      else again w attempts elapsed seen
  | _ => again w attempts elapsed seen

/-- Goes on with a reply. -/
def resume (w : Watch τ) : Stage condition τ → Reply τ → Stage condition τ × List (Event τ)
  | .reading n, reply =>
      match readOutcome w.nodeHost w.address reply.answer with
      | .ok seen => afterRead w (n + 1) (reply.time - w.started) seen
      | .error fault => (.done (.error fault), [])
  | .sleeping n, reply =>
      match reply.answer with
      | .ok _ => (.reading n, [])
      | .error fault => (.done (.error fault), [])
  | .done r, _ => (.done r, [])

/-- Waiting for an object, as a machine. -/
def machine (w : Watch τ) : Machine τ (Stage condition τ) := ⟨ask w, resume w⟩

end Poll

end EphemeralDatabase
