import EphemeralDatabase.Text.Hexadecimal
import EphemeralDatabase.Text.Printable

/-!
# Quoted literals

Messages show a text that came from outside in quotes, so that its ends and its odd characters
can be seen.  The quotes are single, unless the text has a single quote and no double one.  A
backslash and the quote in use are escaped with a backslash, the three common controls have
names, and every other character that cannot be printed is given by its code point.
-/

namespace EphemeralDatabase

/-- The quote around a text. -/
def literalQuote (text : String) : Char :=
  if text.toList.contains '\x27' && !text.toList.contains '\x22' then '\x22' else '\x27'

/-- One character inside quotes. -/
def literalChar (quote : Char) (c : Char) : String :=
  if c = quote ∨ c = '\\' then String.ofList ['\\', c]
  else if c = '\n' then "\\n"
  else if c = '\r' then "\\r"
  else if c = '\t' then "\\t"
  else if isPrintable c then String.singleton c
  else if c.toNat < 0x100 then "\\x" ++ hexadecimal 2 c.toNat
  else if c.toNat < 0x10000 then "\\u" ++ hexadecimal 4 c.toNat
  else "\\U" ++ hexadecimal 8 c.toNat

/-- A text in quotes. -/
def literal (text : String) : String :=
  let quote := literalQuote text
  String.singleton quote ++ String.join (text.toList.map (literalChar quote))
    ++ String.singleton quote

end EphemeralDatabase
