import EphemeralDatabase.Resource.Manifest
import EphemeralDatabase.Resource.Yaml.Scalar

/-!
# Manifests as YAML

Manifests are printed in block style, two spaces per level, a list inside a mapping at the
level of its key, and documents after the first introduced by `---`.
-/

namespace EphemeralDatabase.Yaml

mutual

/-- What follows a key and its colon, for a mapping at `level` of which the key ends at
`column`. -/
def afterKey (level column : Nat) : Manifest → List Char
  | .text s => ' ' :: scalar false (level + 2) (column + 1) s ++ ['\n']
  | .number n => ' ' :: (toString n).toList ++ ['\n']
  | .items [] => [' ', '[', ']', '\n']
  | .items (m :: ms) => '\n' :: entries level (m :: ms)
  | .fields [] => [' ', '\x7b', '\x7d', '\n']
  | .fields (f :: fs) => '\n' :: row (level + 2) ' ' ++ pairs (level + 2) (f :: fs)

/-- The entries of a list, each on lines of its own at `level`. -/
def entries (level : Nat) : List Manifest → List Char
  | [] => []
  | m :: ms => row level ' ' ++ '-' :: afterDash level m ++ entries level ms

/-- What follows the dash of a list entry. -/
def afterDash (level : Nat) : Manifest → List Char
  | .text s => ' ' :: scalar false (level + 2) (level + 2) s ++ ['\n']
  | .number n => ' ' :: (toString n).toList ++ ['\n']
  | .items [] => [' ', '[', ']', '\n']
  | .items (m :: ms) => ' ' :: '-' :: afterDash (level + 2) m ++ entries (level + 2) ms
  | .fields [] => [' ', '\x7b', '\x7d', '\n']
  | .fields (f :: fs) => ' ' :: pairs (level + 2) (f :: fs)

/-- The fields of a mapping.  The indentation of the first one is already written. -/
def pairs (level : Nat) : List (String × Manifest) → List Char
  | [] => []
  | (key, m) :: fs =>
      let name := scalar true (level + 2) level key
      name ++ ':' :: afterKey level (level + name.length + 1) m
        ++ (if fs.isEmpty then [] else row level ' ' ++ pairs level fs)

end

/-- One document. -/
def document : Manifest → List Char
  | .fields (f :: fs) => pairs 0 (f :: fs)
  | .items (m :: ms) => entries 0 (m :: ms)
  | .fields [] => ['\x7b', '\x7d', '\n']
  | .items [] => ['[', ']', '\n']
  | .text s => scalar false 2 0 s ++ ['\n']
  | .number n => (toString n).toList ++ ['\n']

/-- Documents one after the other. -/
def documents (ms : List Manifest) : String :=
  String.ofList (['-', '-', '-', '\n'].intercalate (ms.map document))

end EphemeralDatabase.Yaml
