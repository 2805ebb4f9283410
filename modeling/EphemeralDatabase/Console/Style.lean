import EphemeralDatabase.Text.Blank
import EphemeralDatabase.Text.Lower
import EphemeralDatabase.Value.Mapping
import EphemeralDatabase.Value.Reader

/-!
# Styles

What stands in a tag of marked-up text is a style: attributes, a colour, a background colour
after `on`, and a link, in any order.  Only one thing about styles matters here, namely when two
of them are the same, for a closing tag has to name the style that was opened.  `normal` writes a
style in one order and with full names, and anything that is no style in lower case.  There is one
exception: a colour `rgb(1,,2)` is neither, because a number is missing in it, and it breaks what
asked for the style.
-/

namespace EphemeralDatabase.Style

/-- The attributes in the order in which they are written, with the ways to name each. -/
def attributes : List (String × List String) :=
  [("bold", ["bold", "b"]), ("dim", ["dim", "d"]), ("italic", ["italic", "i"]),
    ("underline", ["underline", "u"]), ("blink", ["blink"]), ("blink2", ["blink2"]),
    ("reverse", ["reverse", "r"]), ("conceal", ["conceal", "c"]), ("strike", ["strike", "s"]),
    ("underline2", ["underline2", "uu"]), ("frame", ["frame"]), ("encircle", ["encircle"]),
    ("overline", ["overline", "o"])]

/-- The attribute that a word names. -/
def attribute? (word : String) : Option String :=
  (Style.attributes.find? fun a => a.2.contains word).map Prod.fst

/-- The names of colours. -/
def colourNames : List String :=
  ["default",
    "black", "red", "green", "yellow", "blue", "magenta", "cyan", "white", "bright_black",
    "bright_red", "bright_green", "bright_yellow", "bright_blue", "bright_magenta", "bright_cyan",
    "bright_white", "navy_blue", "dark_blue", "blue3", "blue1", "dark_green", "deep_sky_blue4",
    "dodger_blue3", "dodger_blue2", "green4", "spring_green4", "turquoise4", "deep_sky_blue3",
    "dodger_blue1", "green3", "spring_green3", "dark_cyan", "light_sea_green", "deep_sky_blue2",
    "deep_sky_blue1", "spring_green2", "cyan3", "dark_turquoise", "turquoise2", "green1",
    "spring_green1", "medium_spring_green", "cyan2", "cyan1", "dark_red", "deep_pink4", "purple4",
    "purple3", "blue_violet", "orange4", "medium_purple4", "slate_blue3", "royal_blue1",
    "chartreuse4", "dark_sea_green4", "pale_turquoise4", "steel_blue", "steel_blue3",
    "cornflower_blue", "chartreuse3", "cadet_blue", "sky_blue3", "steel_blue1", "pale_green3",
    "sea_green3", "aquamarine3", "medium_turquoise", "chartreuse2", "sea_green2", "sea_green1",
    "aquamarine1", "dark_slate_gray2", "dark_magenta", "dark_violet", "purple", "light_pink4",
    "plum4", "medium_purple3", "slate_blue1", "yellow4", "wheat4", "light_slate_grey",
    "light_slate_gray", "medium_purple", "light_slate_blue", "dark_olive_green3", "dark_sea_green",
    "light_sky_blue3", "sky_blue2", "dark_sea_green3", "dark_slate_gray3", "sky_blue1",
    "chartreuse1", "light_green", "pale_green1", "dark_slate_gray1", "red3", "medium_violet_red",
    "magenta3", "dark_orange3", "indian_red", "hot_pink3", "medium_orchid3", "medium_orchid",
    "medium_purple2", "dark_goldenrod", "light_salmon3", "rosy_brown", "medium_purple1", "gold3",
    "dark_khaki", "navajo_white3", "light_steel_blue3", "light_steel_blue", "yellow3",
    "dark_sea_green2", "light_cyan3", "light_sky_blue1", "green_yellow", "dark_olive_green2",
    "dark_sea_green1", "pale_turquoise1", "deep_pink3", "magenta2", "hot_pink2", "orchid",
    "medium_orchid1", "orange3", "light_pink3", "pink3", "plum3", "violet", "light_goldenrod3",
    "tan", "misty_rose3", "thistle3", "plum2", "khaki3", "light_goldenrod2", "light_yellow3",
    "light_steel_blue1", "yellow2", "dark_olive_green1", "honeydew2", "light_cyan1", "red1",
    "deep_pink2", "deep_pink1", "magenta1", "orange_red1", "indian_red1", "hot_pink",
    "dark_orange", "salmon1", "light_coral", "pale_violet_red1", "orchid2", "orchid1", "orange1",
    "sandy_brown", "light_salmon1", "light_pink1", "pink1", "plum1", "gold1", "navajo_white1",
    "misty_rose1", "thistle1", "yellow1", "light_goldenrod1", "khaki1", "wheat1", "cornsilk1",
    "grey0", "gray0", "grey3", "gray3", "grey7", "gray7", "grey11", "gray11", "grey15", "gray15",
    "grey19", "gray19", "grey23", "gray23", "grey27", "gray27", "grey30", "gray30", "grey35",
    "gray35", "grey37", "gray37", "grey39", "gray39", "grey42", "gray42", "grey46", "gray46",
    "grey50", "gray50", "grey53", "gray53", "grey54", "gray54", "grey58", "gray58", "grey62",
    "gray62", "grey63", "gray63", "grey66", "gray66", "grey69", "gray69", "grey70", "gray70",
    "grey74", "gray74", "grey78", "gray78", "grey82", "gray82", "grey84", "gray84", "grey85",
    "gray85", "grey89", "gray89", "grey93", "gray93", "grey100", "gray100"]

/-- Whether a character is a digit in base sixteen, in lower case. -/
def isHexDigit (c : Char) : Bool := c.isDigit || decide ('a' ≤ c ∧ c ≤ 'f')

/-- The zeros of all scripts (Unicode 14); the other digits of a script come after its zero. -/
def zeros : List Nat :=
  [0x30, 0x660, 0x6F0, 0x7C0, 0x966, 0x9E6, 0xA66, 0xAE6, 0xB66, 0xBE6, 0xC66, 0xCE6, 0xD66, 0xDE6,
    0xE50, 0xED0, 0xF20, 0x1040, 0x1090, 0x17E0, 0x1810, 0x1946, 0x19D0, 0x1A80, 0x1A90, 0x1B50,
    0x1BB0, 0x1C40, 0x1C50, 0xA620, 0xA8D0, 0xA900, 0xA9D0, 0xA9F0, 0xAA50, 0xABF0, 0xFF10,
    0x104A0, 0x10D30, 0x11066, 0x110F0, 0x11136, 0x111D0, 0x112F0, 0x11450, 0x114D0, 0x11650,
    0x116C0, 0x11730, 0x118E0, 0x11950, 0x11C50, 0x11D50, 0x11DA0, 0x16A60, 0x16AC0, 0x16B50,
    0x1D7CE, 0x1D7D8, 0x1D7E2, 0x1D7EC, 0x1D7F6, 0x1E140, 0x1E2F0, 0x1E950, 0x1FBF0]

/-- The value of a decimal digit of any script. -/
def digit? (c : Char) : Option Nat :=
  (zeros.find? fun n => decide (n ≤ c.toNat ∧ c.toNat < n + 10)).map (c.toNat - ·)

/-- Why a word is no colour, or a text no style. -/
inductive Flaw where
  /-- it says nothing that is known -/
  | unknown
  /-- one of the three numbers of a colour has no digit at all, or too many -/
  | number (digits : String)
  deriving DecidableEq, Repr

/-- The number of a row of digits. -/
def component (digits : String) : Except Flaw Nat :=
  if digits = "" ∨ Value.wholeDigitLimit < digits.length then .error (.number digits)
  else .ok (digits.toList.foldl (fun n c => 10 * n + (digit? c).getD 0) 0)

/-- Judges a colour that is given by three numbers.  The numbers are read one after the other, and
only then compared with the largest that they may be. -/
def judgeNumbers (inside : String) : Except Flaw Unit :=
  if inside = "" ∨ ¬ inside.toList.all fun c => (digit? c).isSome || c == ',' then .error .unknown
  else
    match inside.splitOn "," with
    | [red, green, blue] => do
        let red ← component red
        let green ← component green
        let blue ← component blue
        if red < 256 ∧ green < 256 ∧ blue < 256 then .ok () else .error .unknown
    | _ => .error .unknown

/-- The text between a word with an opening bracket and the closing bracket. -/
def inBrackets? (name word : String) : Option String :=
  let start := (name ++ "(").toList
  let cs := word.toList
  if start.isPrefixOf cs ∧ cs.getLast? = some ')' ∧ start.length < cs.length then
    some (String.ofList ((cs.drop start.length).dropLast))
  else none

/-- Whether a text is a number of up to three digits below 256. -/
def isByte (text : String) : Bool :=
  let cs := text.toList
  !cs.isEmpty && cs.length ≤ 3 && cs.all Char.isDigit && (text.toNat?.getD 256) < 256

/-- Whether a word is a colour by its name, by six hexadecimal digits or by its number. -/
def isNamedColour (word : String) : Bool :=
  colourNames.contains word
    || (match word.toList with
        | '#' :: digits => digits.length == 6 && digits.all isHexDigit
        | _ => false)
    || ((inBrackets? "color" word).map isByte).getD false

/-- Judges a word that should be a colour. -/
def judgeColour (word : String) : Except Flaw Unit :=
  if isNamedColour word then .ok ()
  else
    match inBrackets? "rgb" word with
    | some inside => judgeNumbers inside
    | none => .error .unknown

/-- A style in its parts. -/
structure Parts where
  /-- the attributes that are switched on or off -/
  attributes : Mapping Bool := []
  colour : Option String := none
  background : Option String := none
  link : Option String := none

/-- Adds what one word says: an attribute or a colour. -/
def Parts.add (p : Parts) (word : String) : Except Flaw Parts :=
  match attribute? word with
  | some a => .ok { p with attributes := p.attributes.insert a true }
  | none => (judgeColour word).map fun _ => { p with colour := some word }

/-- Reads the words of a style up to the first flaw.  Words count in any case, but for an attribute
after `not` and for a link. -/
def Parts.read : Parts → List String → Except Flaw Parts
  | p, [] => .ok p
  | p, [word] => p.add (lower word)
  | p, word :: next :: rest =>
      match lower word with
      | "on" =>
          match judgeColour (lower next) with
          | .ok _ => Parts.read { p with background := some (lower next) } rest
          | .error e => .error e
      | "not" =>
          match attribute? next with
          | some a => Parts.read { p with attributes := p.attributes.insert a false } rest
          | none => .error .unknown
      | "link" => Parts.read { p with link := some next } rest
      | word =>
          match p.add word with
          | .ok p => Parts.read p (next :: rest)
          | .error e => .error e

/-- A style in one order and with full names. -/
def Parts.text (p : Parts) : String :=
  let shown := Style.attributes.filterMap fun a =>
    (p.attributes.get? a.1).map fun isOn => if isOn then a.1 else "not " ++ a.1
  let words := shown ++ p.colour.toList ++ (p.background.map ("on " ++ ·)).toList
    ++ (p.link.map ("link " ++ ·)).toList
  if words.isEmpty then "none" else " ".intercalate words

/-- The normal form of a style; the error are the digits that are no number. -/
def normal (style : String) : Except String String :=
  if trimmed style = "none" ∨ trimmed style = "" then .ok "none"
  else
    match Parts.read {} (blankWords style) with
    | .ok p => .ok p.text
    | .error .unknown => .ok (lower (trimmed style))
    | .error (.number digits) => .error digits

end EphemeralDatabase.Style
