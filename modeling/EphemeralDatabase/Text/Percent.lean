import EphemeralDatabase.Text.Hexadecimal

/-!
# Percent encoding

A text inside a URL is written byte by byte in UTF-8.  The bytes of unreserved characters ---
ASCII letters and digits and `_ . - ~` --- stand for themselves and every other byte is `%` and
two upper-case hexadecimal digits, so that no separator of a URL can appear in the result.
-/

namespace EphemeralDatabase.Percent

/-- Whether a byte is written as itself. -/
def isUnreserved (b : UInt8) : Bool :=
  let n := b.toNat
  (0x30 ≤ n && n ≤ 0x39) || (0x41 ≤ n && n ≤ 0x5A) || (0x61 ≤ n && n ≤ 0x7A)
    || n == 0x5F || n == 0x2E || n == 0x2D || n == 0x7E

/-- One byte as it is written. -/
def encodeByte (b : UInt8) : List Char :=
  if isUnreserved b then [Char.ofNat b.toNat]
  else ['%', hexDigit (b.toNat / 16), hexDigit (b.toNat % 16)]

/-- The bytes of a text in UTF-8. -/
def bytes (text : String) : List UInt8 := text.toList.flatMap String.utf8EncodeChar

/-- A text with every reserved byte escaped. -/
def encode (text : String) : String := String.ofList ((bytes text).flatMap encodeByte)

end EphemeralDatabase.Percent
