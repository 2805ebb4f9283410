import EphemeralDatabase.Resource.Yaml.Implicit
import EphemeralDatabase.Text.Literal

/-!
# Texts as YAML

A text is written plainly when it would not read back as something else and has no character
that would end it.  Otherwise it is put in single quotes, and if it has characters beyond
printable ASCII, or a space beside a line break, in double quotes with escapes.

A line that has gone past column 80 is folded at the next single space; in double quotes a fold
is marked with a backslash.  Keys are never folded.
-/

namespace EphemeralDatabase.Yaml

/-! ## The shape of a text -/

/-- Characters after which a reader takes an indicator for one. -/
def endsToken (c : Char) : Bool :=
  c == '\x00' || c == ' ' || c == '\t' || c == '\r' || c == '\n' || c == '\u0085'
    || c == '\u2028' || c == '\u2029'

/-- Characters that cannot begin a plain text. -/
def opensOther (c : Char) : Bool :=
  ['#', ',', '[', ']', '\x7b', '\x7d', '&', '*', '!', '|', '>', '\x27', '\x22', '%', '@',
    '\x60'].contains c

/-- Whether the characters begin something other than a plain text. -/
def badStart : List Char → Bool
  | [] => false
  | c :: rest =>
      opensOther c
        || ((c == '?' || c == ':' || c == '-') && (rest.head?.map endsToken).getD true)
        || ['-', '-', '-'].isPrefixOf (c :: rest) || ['.', '.', '.'].isPrefixOf (c :: rest)

/-- Whether a plain text would end before its last character: at a colon before a blank or at
a number sign after one. -/
def endsEarly : List Char → Bool
  | [] => false
  | c :: rest =>
      (match rest with
        | [] => false
        | d :: after =>
            (d == ':' && (after.head?.map endsToken).getD true) || (d == '#' && endsToken c))
        || endsEarly rest

/-- Whether somewhere a first character of one class is followed by one of another. -/
def hasPair (first second : Char → Bool) : List Char → Bool
  | c :: d :: rest => (first c && second d) || hasPair first second (d :: rest)
  | _ => false

/-- What the writer has to know of a text. -/
structure Shape where
  /-- it has a line break -/
  multiline : Bool
  /-- nothing in it would end it or turn it into something else -/
  plain : Bool
  /-- single quotes can hold it -/
  single : Bool

/-- Whether a character is written as itself outside double quotes. -/
def isOrdinary (c : Char) : Bool := c == '\n' || decide (0x20 ≤ c.toNat ∧ c.toNat ≤ 0x7E)

/-- Looks at a text. -/
def Shape.of (s : List Char) : Shape :=
  let isSpace : Char → Bool := (· == ' ')
  let isBreak : Char → Bool := (· == '\n')
  let outer : Char → Bool := fun c => isSpace c || isBreak c
  let ordinary := s.all isOrdinary
  let besides := hasPair isBreak isSpace s || hasPair isSpace isBreak s
  { multiline := s.any isBreak
    plain := ordinary && !s.any isBreak && !(s.head?.map outer).getD false
      && !(s.getLast?.map outer).getD false && !badStart s && !endsEarly s
    single := ordinary && !besides }

/-! ## Writing a text -/

/-- The column past which a line is folded. -/
def width : Nat := 80

/-- A run of characters that are written alike. -/
inductive Segment where
  | word (cs : List Char)
  | spaces (count : Nat)
  | breaks (count : Nat)

/-- Puts one more character in front of the segments of the rest. -/
def Segment.push (c : Char) (rest : List Segment) : List Segment :=
  if c = ' ' then
    match rest with
    | .spaces n :: rest => .spaces (n + 1) :: rest
    | _ => .spaces 1 :: rest
  else if c = '\n' then
    match rest with
    | .breaks n :: rest => .breaks (n + 1) :: rest
    | _ => .breaks 1 :: rest
  else
    match rest with
    | .word cs :: rest => .word (c :: cs) :: rest
    | _ => .word [c] :: rest

/-- A text as words, spaces and line breaks. -/
def segments (s : List Char) : List Segment := s.foldr Segment.push []

/-- A row of one character. -/
def row (n : Nat) (c : Char) : List Char := List.replicate n c

/-- A new line at the given indentation. -/
def newLine (indent : Nat) : List Char := '\n' :: row indent ' '

/-- How segments are written: where a fold may fall and what a word looks like. -/
structure Style where
  indent : Nat
  /-- lines may be folded -/
  folds : Bool
  /-- a character of a word -/
  char : Char → List Char

/-- Writes segments from a column on.  A single space between two words is a fold if the line
is already too long; a run of line breaks is written with one break more, since a reader turns
the first into a space. -/
def Style.write (style : Style) : Nat → Bool → List Segment → List Char
  | _, _, [] => []
  | column, _, .word cs :: rest =>
      let text := cs.flatMap style.char
      text ++ style.write (column + text.length) false rest
  | column, first, .spaces n :: rest =>
      if n = 1 ∧ width < column ∧ style.folds ∧ first = false ∧ rest.isEmpty = false then
        newLine style.indent ++ style.write style.indent false rest
      else row n ' ' ++ style.write (column + n) false rest
  | _, _, .breaks n :: rest =>
      row n '\n' ++ newLine style.indent ++ style.write style.indent false rest

/-- A plain text. -/
def plainText (indent column : Nat) (folds : Bool) (s : List Char) : List Char :=
  Style.write ⟨indent, folds, fun c => [c]⟩ column true (segments s)

/-- A text in single quotes; a quote inside is written twice. -/
def singleText (indent column : Nat) (folds : Bool) (s : List Char) : List Char :=
  let quote := '\x27'
  quote :: Style.write ⟨indent, folds, fun c => if c = quote then [quote, quote] else [c]⟩
    (column + 1) true (segments s) ++ [quote]

/-- The escapes of one letter. -/
def shortEscapes : List (Char × Char) :=
  [('\x00', '0'), ('\x07', 'a'), ('\x08', 'b'), ('\t', 't'), ('\n', 'n'), ('\x0B', 'v'),
    ('\x0C', 'f'), ('\r', 'r'), ('\x1B', 'e'), ('\x22', '\x22'), ('\\', '\\'),
    ('\u0085', 'N'), ('\u00A0', '_'), ('\u2028', 'L'), ('\u2029', 'P')]

/-- A number in upper-case hexadecimal digits. -/
def upperHexadecimal (digits n : Nat) : List Char :=
  (hexadecimal digits n).toList.map Char.toUpper

/-- The escape of a character that double quotes cannot hold as it is. -/
def escape? (c : Char) : Option (List Char) :=
  match shortEscapes.find? fun e => e.1 == c with
  | some e => some ['\\', e.2]
  | none =>
      let n := c.toNat
      if 0x20 ≤ n ∧ n ≤ 0x7E then none
      else if n ≤ 0xFF then some ('\\' :: 'x' :: upperHexadecimal 2 n)
      else if n ≤ 0xFFFF then some ('\\' :: 'u' :: upperHexadecimal 4 n)
      else some ('\\' :: 'U' :: upperHexadecimal 8 n)

/-- The inside of double quotes.  `pending` are the characters since the last escape or fold,
which have not been counted into `column` yet, and `first` holds before the first character.
After a fold a leading space is escaped, lest a reader drop it. -/
def escapedText (indent : Nat) (folds : Bool) :
    List Char → Nat → List Char → Bool → List Char
  | [], _, pending, _ => pending
  | c :: rest, column, pending, first =>
      let inside := !first && !rest.isEmpty
      match escape? c with
      | some text =>
          let written := pending ++ text
          let column := column + written.length
          if inside ∧ width < column - 1 ∧ folds then
            let lead := if rest.head? = some ' ' then ['\\'] else []
            written ++ ['\\'] ++ newLine indent ++ lead
              ++ escapedText indent folds rest (indent + lead.length) [] false
          else written ++ escapedText indent folds rest column [] false
      | none =>
          if inside ∧ (c = ' ' ∨ pending.isEmpty) ∧ width < column + pending.length ∧ folds then
            let lead := if c = ' ' then ['\\'] else []
            pending ++ ['\\'] ++ newLine indent ++ lead
              ++ escapedText indent folds rest (indent + lead.length) [c] false
          else escapedText indent folds rest column (pending ++ [c]) false

/-- A text in double quotes. -/
def doubleText (indent column : Nat) (folds : Bool) (s : List Char) : List Char :=
  '\x22' :: escapedText indent folds s (column + 1) [] true ++ ['\x22']

/-- A text as a key or as a value, from a column on.  A key is never folded and never broken. -/
def scalar (isKey : Bool) (indent column : Nat) (text : String) : List Char :=
  let s := text.toList
  let shape := Shape.of s
  let broken := isKey && shape.multiline
  if !readsAsOther s && shape.plain then plainText indent column (!isKey) s
  else if shape.single && !broken then singleText indent column (!isKey) s
  else doubleText indent column (!isKey) s

end EphemeralDatabase.Yaml
