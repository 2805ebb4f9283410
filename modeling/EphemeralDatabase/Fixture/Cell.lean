import EphemeralDatabase.Fixture.Provision
import EphemeralDatabase.Fixture.Teardown

/-!
# What the threads of a fixture share

A `Cell` holds the status of a fixture, its handle, the flight in progress and a lock.  A *flight*
is one run of provisioning.  Flights are numbered, and a handle is kept with the number of the
flight that made it, so that two handles can be told apart even if they say the same.
-/

namespace EphemeralDatabase

/-- A thread, by number. -/
abbrev ThreadId := Nat

/-- A flight, by number. -/
abbrev Flight := Nat

/-- Why a release fails. -/
inductive ReleaseError where
  /-- a strict release could not delete everything -/
  | incomplete (report : Report)
  | raised (fault : Fault)

/-- An error of releasing in words. -/
def ReleaseError.message : ReleaseError → String
  | incomplete report =>
      "Teardown incomplete: " ++ "; ".intercalate (report.failures.map Failure.text)
  | raised f => f.text

/-- What came of a release. -/
abbrev Released := Except ReleaseError Report

/-- What the threads share. -/
structure Cell (τ : Type) where
  status : Status := .absent
  /-- the handle, and the flight that made it -/
  handle : Option (Flight × Handle) := none
  /-- the flight in progress -/
  inflight : Option Flight := none
  /-- for every flight so far what came of it; nothing while it is not completed -/
  flights : List (Option (Acquired τ)) := []
  /-- the thread that holds the lock -/
  lock : Option ThreadId := none

namespace Cell

variable {τ : Type}

/-- What came of a flight, if it is completed. -/
def outcome? (c : Cell τ) (flight : Flight) : Option (Acquired τ) := c.flights[flight]?.join

/-- Takes the lock. -/
def taken (c : Cell τ) (self : ThreadId) : Cell τ := { c with lock := some self }

/-- Gives the lock back. -/
def freed (c : Cell τ) : Cell τ := { c with lock := none }

/-- Claims a new flight. -/
def claimed (c : Cell τ) : Cell τ :=
  { c with
    status := .provisioning
    inflight := some c.flights.length
    flights := c.flights ++ [none] }

/-- Publishes what came of a flight. -/
def published (c : Cell τ) (flight : Flight) : Acquired τ → Cell τ
  | .ok handle => { c with status := .ready, handle := some (flight, handle), inflight := none }
  | .error _ => { c with status := .absent, inflight := none }

/-- Completes a flight. -/
def completed (c : Cell τ) (flight : Flight) (outcome : Acquired τ) : Cell τ :=
  { c with flights := c.flights.set flight (some outcome) }

/-- Forgets the handle of a database that was torn down. -/
def cleared (c : Cell τ) : Cell τ := { c with status := .tornDown, handle := none }

end Cell

end EphemeralDatabase
