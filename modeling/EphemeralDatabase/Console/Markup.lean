import EphemeralDatabase.Console.Pictograph
import EphemeralDatabase.Console.Style

/-!
# Marked-up text

The console prints text with markup.  A tag is a bracket, one of `a` to `z`, `#`, `/` and `@`,
anything but another opening bracket, and the first closing bracket; whatever else stands in
brackets is text.  Tags are not printed.  `[/name]` closes the last open tag of that name and
`[/]` the last open tag; to close what is not open is an error, reported with the position of the
tag.  An odd number of backslashes before a tag makes text of it, and each pair of them is one
backslash.

`text` is what is left for the console to print: the text without its tags, with pictographs for
their names, and without the control characters that would move the cursor.  How it is laid out in
lines is the console's affair, and so are styles with parameters and tags that begin with `@`, whose
parameters are expressions that the console evaluates.  In a text without those, which is called
`Ordinary`, `problem?` is the one thing that can be wrong with the markup.
-/

namespace EphemeralDatabase.Markup

/-- A piece of marked-up text. -/
inductive Piece where
  | plain (text : List Char)
  | tag (position : Nat) (name : String) (parameters : Option String)

/-- Why marked-up text cannot be printed. -/
inductive PrintError where
  /-- the tag that would be closed is not open -/
  | notOpen (tag : String) (position : Nat)
  /-- no tag is open -/
  | nothingOpen (position : Nat)
  /-- one of the three numbers of a colour has no digit, or too many -/
  | number (digits : String)
  /-- what the console finds wrong with an expression or with the style of a passage -/
  | other (message : String)
  deriving DecidableEq, Repr

/-- Why a row of digits is no number. -/
def numberText (digits : String) : String :=
  if digits = "" then "invalid literal for int() with base 10: ''"
  else
    "Exceeds the limit (4300 digits) for integer string conversion: value has "
      ++ toString digits.length ++ " digits; use sys.set_int_max_str_digits() to increase the limit"

/-- The error in words. -/
def PrintError.message : PrintError → String
  | notOpen tag position =>
      "closing tag '[" ++ tag ++ "]' at position " ++ toString position
        ++ " doesn't match any open tag"
  | nothingOpen position =>
      "closing tag '[/]' at position " ++ toString position ++ " has nothing to close"
  | number digits => numberText digits
  | other message => message

/-! ## Taking text apart -/

/-- Whether a tag can begin with the character. -/
def opensTag (c : Char) : Bool :=
  decide ('a' ≤ c ∧ c ≤ 'z') || c == '#' || c == '/' || c == '@'

/-- What stands in a tag that the characters after an opening bracket begin with. -/
def tagText? (cs : List Char) : Option (List Char) :=
  match cs with
  | [] => none
  | c :: rest =>
      let inside := rest.takeWhile fun d => d != '[' && d != ']'
      if opensTag c ∧ (rest.drop inside.length).head? = some ']' then some (c :: inside) else none

/-- The backslashes before a tag and what stands in it, if the characters begin with that. -/
def escapedTag? (cs : List Char) : Option (Nat × List Char) :=
  let escapes := (cs.takeWhile (· == '\\')).length
  match cs.drop escapes with
  | '[' :: rest => (tagText? rest).map fun inside => (escapes, inside)
  | _ => none

/-- A tag as a piece: the part before the first `=` is its name. -/
def tagPiece (position : Nat) (inside : List Char) : Piece :=
  let name := inside.takeWhile (· != '=')
  let parameters := match inside.drop name.length with
    | [] => none
    | _ :: rest => some (String.ofList rest)
  .tag position (String.ofList name) parameters

/-- The pieces of a tag with backslashes before it. -/
def tagPieces (position escapes : Nat) (inside : List Char) : List Piece :=
  let kept := List.replicate (escapes / 2) '\\'
  if escapes % 2 = 1 then [.plain kept, .plain ('[' :: inside ++ [']'])]
  else [.plain kept, tagPiece (position + escapes) inside]

/-- The pieces of the characters from a position on; `plain` are the characters before it that
belong to no piece yet. -/
def pieces : Nat → Nat → List Char → List Char → List Piece
  | 0, _, plain, _ => [.plain plain]
  | _, _, plain, [] => [.plain plain]
  | fuel + 1, position, plain, c :: rest =>
      match escapedTag? (c :: rest) with
      | some (escapes, inside) =>
          let size := escapes + inside.length + 2
          .plain plain :: tagPieces position escapes inside
            ++ pieces fuel (position + size) [] ((c :: rest).drop size)
      | none => pieces fuel (position + 1) (plain ++ [c]) rest

/-- The pieces of a text. -/
def piecesOf (text : String) : List Piece := pieces (text.toList.length + 1) 0 [] text.toList

/-! ## Following the tags -/

/-- Removes the first of several open tags that has a name. -/
def close? (name : String) : List String → Option (List String)
  | [] => none
  | tag :: rest => if tag = name then some rest else (close? name rest).map (tag :: ·)

/-- A tag as it stands in the text. -/
def tagShown (name : String) (parameters : Option String) : String :=
  match parameters with
  | some p => name ++ "=" ++ p
  | none => name

/-- The open tags after one more tag, the last one opened first. -/
def follow (position : Nat) (name : String) (parameters : Option String)
    (opened : List String) : Except PrintError (List String) :=
  match name.toList with
  | '/' :: closing =>
      let closing := trimmed (String.ofList closing)
      if closing = "" then
        match opened with
        | _ :: rest => .ok rest
        | [] => .error (.nothingOpen position)
      else
        match Style.normal closing with
        | .error digits => .error (.number digits)
        | .ok closing =>
            match close? closing opened with
            | some rest => .ok rest
            | none => .error (.notOpen (tagShown name parameters) position)
  | _ =>
      match Style.normal name with
      | .error digits => .error (.number digits)
      | .ok style => .ok (style :: opened)

/-- The first tag among the pieces that cannot be followed. -/
def firstProblem? : List String → List Piece → Option PrintError
  | _, [] => none
  | opened, .plain _ :: rest => firstProblem? opened rest
  | opened, .tag position name parameters :: rest =>
      match follow position name parameters opened with
      | .ok opened => firstProblem? opened rest
      | .error e => some e

/-- What is wrong with the markup of a text. -/
def problem? (text : String) : Option PrintError := firstProblem? [] (piecesOf text)

/-- Whether the console has nothing to evaluate in a piece: it is no tag that begins with `@`, and
with its parameters it is a style or none, but not one in which a number is missing. -/
def Piece.isOrdinary : Piece → Bool
  | .plain _ => true
  | .tag _ name parameters =>
      match name.toList.head?, parameters with
      | some '/', _ => true
      | some '@', _ => false
      | _, none => true
      | _, some p =>
          match Style.normal name with
          | .ok style => (Style.normal (style ++ " " ++ p)).isOk
          | .error _ => true

/-- The console has nothing to evaluate in the text. -/
def Ordinary (text : String) : Prop := ∀ piece ∈ piecesOf text, piece.isOrdinary = true

instance (text : String) : Decidable (Ordinary text) := List.decidableBAll _ _

/-! ## What is printed -/

/-- Text in which `\[` is a bracket. -/
def unescaped : List Char → List Char
  | '\\' :: '[' :: rest => '[' :: unescaped rest
  | c :: rest => c :: unescaped rest
  | [] => []

/-- The text of the pieces. -/
def visible : List Piece → List Char
  | [] => []
  | .plain text :: rest => Pictograph.replaced (unescaped text) ++ visible rest
  | .tag .. :: rest => visible rest

/-- Whether a character would move the cursor: bell, backspace, vertical tab, form feed and
carriage return. -/
def isControl (c : Char) : Bool := [0x07, 0x08, 0x0B, 0x0C, 0x0D].contains c.toNat

/-- Text without the characters that would move the cursor. -/
def uncontrolled (cs : List Char) : List Char := cs.filter fun c => !isControl c

/-- What a console gets to print of a marked-up text. -/
def text (marked : String) : List Char := uncontrolled (visible (piecesOf marked))

end EphemeralDatabase.Markup
