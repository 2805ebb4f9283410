/-!
# Blank characters and trimming

Two notions of blank are in use.  Numerals in settings are trimmed of what Unicode calls white
space, and prose that comes from the cluster of that and of the four ASCII separators.
-/

namespace EphemeralDatabase

/-- The white space of Unicode. -/
def isWhiteSpace (c : Char) : Bool :=
  let n := c.toNat
  (0x09 ≤ n && n ≤ 0x0D) || n == 0x20 || n == 0x85 || n == 0xA0 || n == 0x1680
    || (0x2000 ≤ n && n ≤ 0x200A) || n == 0x2028 || n == 0x2029 || n == 0x202F || n == 0x205F
    || n == 0x3000

/-- The white space of prose: Unicode's white space and the ASCII file, group, record and unit
separators. -/
def isBlank (c : Char) : Bool := isWhiteSpace c || (0x1C ≤ c.toNat && c.toNat ≤ 0x1F)

/-- A word without the characters at its two ends that pass the test. -/
def trimBoth (blank : Char → Bool) (word : List Char) : List Char :=
  ((word.dropWhile blank).reverse.dropWhile blank).reverse

/-- Prose without white space at its ends. -/
def trimmed (text : String) : String := String.ofList (trimBoth isBlank text.toList)

/-- The words of a text, without the blanks between them. -/
def blankWords (text : String) : List String :=
  let step := fun (c : Char) (words : List (List Char)) =>
    match words with
    | [] => if isBlank c then [] else [[c]]
    | word :: rest => if isBlank c then (if word.isEmpty then words else [] :: words)
        else (c :: word) :: rest
  ((text.toList.foldr step []).filter fun w => !w.isEmpty).map String.ofList

end EphemeralDatabase
