/-!
# Paths

A path is kept in normal form: one slash between parts, no part `.`, no slash at the end.  Parts
`..` and `~` stay, since what they mean is for the file system to say.  A path begins at the root
with one slash, or with exactly two, which POSIX leaves to the system and which are therefore not
the same; three or more are one.  The empty path is `.`.
-/

namespace EphemeralDatabase.Path

/-- The slashes at the beginning of a path in normal form. -/
def root (path : String) : String :=
  match path.toList.takeWhile (· == '/') with
  | [] => ""
  | [_, _] => "//"
  | _ => "/"

/-- The parts of a path. -/
def parts (path : String) : List String :=
  ((path.toList.splitOn '/').map String.ofList).filter fun part => part != "" && part != "."

/-- The normal form of a path. -/
def normal (path : String) : String :=
  let text := root path ++ "/".intercalate (parts path)
  if text = "" then "." else text

end EphemeralDatabase.Path
