/-!
# Kinds and addresses

The fixture manages two kinds of cluster object, a Service and a Pod.  An object is addressed by
its kind, its namespace and its name, and `Address.ref` is how an address reads in messages.
-/

namespace EphemeralDatabase

/-- The kinds of object that a fixture manages. -/
inductive Kind where
  | service
  | pod
  deriving DecidableEq, Repr

namespace Kind

/-- The name of the kind in manifests and messages. -/
def name : Kind → String
  | service => "Service"
  | pod => "Pod"

/-- The kind of a name. -/
def ofName? (name : String) : Option Kind :=
  if name = "Service" then some service
  else if name = "Pod" then some pod
  else none

@[simp] theorem ofName?_name (k : Kind) : ofName? k.name = some k := by cases k <;> rfl

end Kind

/-- Where an object is in the cluster. -/
structure Address where
  kind : Kind
  /-- the namespace that holds the object -/
  space : String
  name : String
  deriving DecidableEq, Repr

/-- The kind and the qualified name, as messages show them. -/
def Address.ref (a : Address) : String := a.kind.name ++ " " ++ a.space ++ "/" ++ a.name

end EphemeralDatabase
