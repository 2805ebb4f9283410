import EphemeralDatabase.Cluster.Adapter
import EphemeralDatabase.Fixture.Machine

/-!
# Tearing down

Objects are deleted in a given order, one attempt each.  An object that is not there any more is
as good as deleted, and a failure never keeps the others from being deleted: everything is put
into a report.
-/

namespace EphemeralDatabase

/-- What came of deleting objects. -/
structure Report where
  deleted : List Address := []
  alreadyGone : List Address := []
  failures : List Failure := []
  deriving DecidableEq, Repr

/-- Whether nothing failed. -/
def Report.ok (r : Report) : Bool := r.failures.isEmpty

namespace Teardown

/-- Where tearing down stands: what is left to delete, and the report so far. -/
inductive Stage where
  | deleting (rest : List Address) (report : Report)
  | broken (fault : Fault)

variable {τ : Type}

/-- How tearing down begins. -/
def start (addresses : List Address) : Stage := .deleting addresses {}

/-- What is asked of the cluster. -/
def ask : Stage → Option (Request τ)
  | .deleting (a :: _) _ => some (.delete a)
  | .deleting [] _ => none
  | .broken _ => none

/-- Enters an outcome into the report. -/
def enter (a : Address) (report : Report) : DeleteOutcome → Report × Event τ
  | .deleted _ => ({ report with deleted := report.deleted ++ [a] }, .deleted a)
  | .notFound _ => ({ report with alreadyGone := report.alreadyGone ++ [a] }, .alreadyGone a)
  | .failed f => ({ report with failures := report.failures ++ [f] }, .notDeleted a f)

/-- Goes on with a reply. -/
def resume : Stage → Reply τ → Stage × List (Event τ)
  | .deleting (a :: rest) report, reply =>
      match deleteOutcome a reply.answer with
      | .ok outcome =>
          let (report, event) := enter a report outcome
          (.deleting rest report, [event])
      | .error fault => (.broken fault, [])
  | s, _ => (s, [])

/-- The report, once nothing is left to delete. -/
def result : Stage → Except Fault Report
  | .deleting _ report => .ok report
  | .broken fault => .error fault

/-- Tearing down, as a machine. -/
def machine : Machine τ Stage := ⟨ask, resume⟩

/-- Deletes objects in the given order. -/
def deleteAll {ω : Type} (world : World τ ω) (addresses : List Address) :
    Act τ ω (Except Fault Report) := do
  return result (← machine.run world addresses.length (start addresses))

end Teardown

end EphemeralDatabase
