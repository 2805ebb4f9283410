import EphemeralDatabase.Value.Mapping

/-!
# Manifests

A manifest is the document in which a cluster is told what to create: nested mappings and lists
of texts and whole numbers.  The order of the fields is kept, because a manifest is also printed.
-/

namespace EphemeralDatabase

/-- A document of nested mappings and lists. -/
inductive Manifest where
  | text (s : String)
  | number (n : Int)
  | items (ms : List Manifest)
  | fields (fs : List (String × Manifest))
  deriving Inhabited

namespace Manifest

/-- The value of a field. -/
def get? (m : Manifest) (key : String) : Option Manifest :=
  match m with
  | fields fs => Mapping.get? fs key
  | _ => none

/-- The text, if it is one. -/
def text? : Manifest → Option String
  | text s => some s
  | _ => none

/-- The number, if it is one. -/
def number? : Manifest → Option Int
  | number n => some n
  | _ => none

/-- The entries of a list; none for anything else. -/
def entries : Manifest → List Manifest
  | items ms => ms
  | _ => []

/-- A mapping of texts.  Of pairs with one key the last gives the value. -/
def ofPairs (pairs : List (String × String)) : Manifest :=
  fields ((Mapping.ofPairs pairs).map fun (key, value) => (key, text value))

end Manifest

end EphemeralDatabase
