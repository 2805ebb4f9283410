import EphemeralDatabase.Cluster.Fault
import EphemeralDatabase.Cluster.View
import EphemeralDatabase.Resource.Descriptor

/-!
# The world outside

Whatever the fixture does to the outside is one of four requests: read, create or delete an
object, or sleep.  A `World` is anything that answers requests and has a clock; its states are
its own business.  Everything the fixture does is written once, for every world, so a statement
about the fixture can say "for every cluster behaviour" by quantifying over worlds.

An `Exchange` is a request with the answer it got and the time at which the answer came.  What a
run did to the outside is the list of its exchanges.

Times are of any type with a `Clock`, so that the same definitions run on doubles and can be
reasoned about with exact numbers.
-/

namespace EphemeralDatabase

/-- What times can do: start at zero, be added and subtracted, and be compared. -/
class Clock (τ : Type) extends Add τ, Sub τ, LT τ where
  zero : τ
  decidableLT : DecidableLT τ

instance Clock.instDecidableLT (τ : Type) [c : Clock τ] : DecidableLT τ := c.decidableLT

instance : Clock Float where
  zero := 0
  decidableLT := inferInstance

/-- What the fixture asks of the outside. -/
inductive Request (τ : Type) where
  | read (address : Address)
  | create (address : Address) (body : Manifest)
  | delete (address : Address)
  | sleep (seconds : τ)

/-- What comes back: a view, or a fault.  Deleting and sleeping have nothing to show. -/
abbrev Answer := Except Fault View

/-- An answer, and when it came. -/
structure Reply (τ : Type) where
  answer : Answer
  time : τ

/-- A request and its reply. -/
structure Exchange (τ : Type) where
  request : Request τ
  reply : Reply τ

/-- Anything that answers requests and has a clock. -/
structure World (τ ω : Type) where
  answer : Request τ → ω → Answer × ω
  now : ω → τ

namespace World

variable {τ ω : Type}

/-- Makes a request and looks at the clock afterwards. -/
def ask (world : World τ ω) (request : Request τ) (w : ω) : Reply τ × ω :=
  let (answer, w) := world.answer request w
  (⟨answer, world.now w⟩, w)

end World

end EphemeralDatabase
