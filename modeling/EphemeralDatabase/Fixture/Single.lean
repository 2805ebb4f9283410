import EphemeralDatabase.Cluster.Adapter
import EphemeralDatabase.Fixture.Machine

/-!
# Single calls

Reading, creating or deleting one object makes one request, and its answer becomes an outcome.
Nothing is asked twice.
-/

namespace EphemeralDatabase.Act

variable {τ ω : Type}

/-- Reads an object. -/
def read (world : World τ ω) (nodeHost : String) (a : Address) :
    Act τ ω (Except Fault ReadOutcome) := do
  return readOutcome nodeHost a (← request world (.read a)).answer

/-- Creates an object from its document. -/
def create (world : World τ ω) (nodeHost : String) (d : Descriptor) :
    Act τ ω (Except Fault CreateOutcome) := do
  return createOutcome nodeHost d.address (← request world (.create d.address d.manifest)).answer

/-- Deletes an object. -/
def delete (world : World τ ω) (a : Address) : Act τ ω (Except Fault DeleteOutcome) := do
  return deleteOutcome a (← request world (.delete a)).answer

end EphemeralDatabase.Act
