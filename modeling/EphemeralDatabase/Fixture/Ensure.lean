import EphemeralDatabase.Cluster.Adapter
import EphemeralDatabase.Fixture.Machine

/-!
# Ensuring that an object exists

The object is read, and only if the cluster says that it is not there is it created.  An object
that is there is trusted as it is, and one of which nothing can be learnt is left alone.
-/

namespace EphemeralDatabase

/-- What came of ensuring that an object exists. -/
inductive Ensured where
  | existed (state : ResourceState)
  | created (state : ResourceState)
  /-- what it should have been, and why that cannot be had -/
  | failed (descriptor : Descriptor) (cause : Failure)
  deriving DecidableEq, Repr

namespace Ensure

/-- Where ensuring stands. -/
inductive Stage where
  | reading
  | creating
  | done (result : Except Fault Ensured)

variable {τ : Type}

/-- What is asked of the cluster. -/
def ask (d : Descriptor) : Stage → Option (Request τ)
  | .reading => some (.read d.address)
  | .creating => some (.create d.address d.manifest)
  | .done _ => none

/-- What follows from reading. -/
def afterRead (d : Descriptor) : Except Fault ReadOutcome → Stage × List (Event τ)
  | .ok (.found s) => (.done (.ok (.existed s)), [.exists d.address])
  | .ok (.failed f) => (.done (.ok (.failed d f)), [.undetermined d.address f])
  | .ok (.notFound _) => (.creating, [])
  | .error fault => (.done (.error fault), [])

/-- What follows from creating. -/
def afterCreate (d : Descriptor) : Except Fault CreateOutcome → Stage × List (Event τ)
  | .ok (.made s) => (.done (.ok (.created s)), [.created d.address])
  | .ok (.failed f) => (.done (.ok (.failed d f)), [.notCreated d.address f])
  | .error fault => (.done (.error fault), [])

/-- Goes on with a reply. -/
def resume (nodeHost : String) (d : Descriptor) : Stage → Reply τ → Stage × List (Event τ)
  | .reading, reply => afterRead d (readOutcome nodeHost d.address reply.answer)
  | .creating, reply => afterCreate d (createOutcome nodeHost d.address reply.answer)
  | .done r, _ => (.done r, [])

/-- Ensuring that an object exists, as a machine. -/
def machine (nodeHost : String) (d : Descriptor) : Machine τ Stage :=
  ⟨ask d, resume nodeHost d⟩

end Ensure

end EphemeralDatabase
