import EphemeralDatabase.Decimal.Shortest

/-!
# The texts of a double

Three texts are in use.  `exact` is the text of settings and clocks: the fewest digits that read
back, a whole number keeping its `.0`.  `general` is the text of intervals and deadlines in
sentences: six significant digits, trailing zeros dropped.  `fixed` is the text of elapsed
times: a given number of places.  All three round the exact binary value, half to even.

`exact` and `general` share one layout, `Layout.text`, and differ in where it changes from
positional notation to a power of ten, which is what a `Layout` records.
-/

namespace EphemeralDatabase.Decimal

/-- Where a numeral changes its notation, and whether a whole number shows a fraction. -/
structure Layout where
  /-- the least decimal exponent that is still written positionally -/
  least : Int
  /-- the first decimal exponent that is written as a power of ten -/
  limit : Int
  /-- a whole number in positional notation ends in `.0` -/
  pointZero : Bool

/-- Settings and clocks are positional from `0.0001` up to sixteen digits, and whole numbers
show that they are not counts. -/
def Layout.exact : Layout := ⟨-4, 16, true⟩

/-- Sentences are positional from `0.0001` up to six digits. -/
def Layout.general : Layout := ⟨-4, 6, false⟩

/-- A row of zeros. -/
def zeros (n : Nat) : String := String.ofList (List.replicate n '0')

/-- A numeral without the zeros at its end. -/
def Numeral.normal (d : Numeral) : Numeral :=
  let stripped := ((toString d.digits).toList.reverse.dropWhile (· == '0')).reverse
  let dropped := (toString d.digits).length - stripped.length
  ⟨(String.ofList stripped).toNat?.getD 0, d.exponent + dropped⟩

/-- The power of ten after a mantissa: a sign always, two digits at least. -/
def exponentText (e : Int) : String :=
  let digits := toString e.natAbs
  "e" ++ (if e < 0 then "-" else "+") ++ zeros (2 - digits.length) ++ digits

/-- A positive numeral in a layout. -/
def Layout.text (layout : Layout) (numeral : Numeral) : String :=
  let d := numeral.normal
  let digits := toString d.digits
  let size : Int := digits.length
  let top := d.exponent + size - 1
  if top < layout.least ∨ layout.limit ≤ top then
    let rest := digits.toList.drop 1
    String.ofList (digits.toList.take 1)
      ++ (if rest.isEmpty then "" else "." ++ String.ofList rest) ++ exponentText top
  else if 0 ≤ d.exponent then
    digits ++ zeros d.exponent.toNat ++ (if layout.pointZero then ".0" else "")
  else if 0 ≤ top then
    let whole := (top + 1).toNat
    String.ofList (digits.toList.take whole) ++ "." ++ String.ofList (digits.toList.drop whole)
  else "0." ++ zeros (-top - 1).toNat ++ digits

/-- The text of zero in a layout. -/
def Layout.zero (layout : Layout) : String := if layout.pointZero then "0.0" else "0"

/-- Puts the sign before a text, and names what is no number. -/
def signed (x : Float) (positive : Nat → Int → String) : String :=
  match Binary.ofFloat x with
  | .nan => "nan"
  | .infinite negative => if negative then "-inf" else "inf"
  | .finite negative mantissa exponent =>
      (if negative then "-" else "") ++ positive mantissa exponent

/-- The fewest digits that read back. -/
def exactText (x : Float) : String :=
  signed x fun mantissa exponent =>
    if mantissa = 0 then Layout.exact.zero
    else Layout.exact.text (shortest mantissa exponent)

/-- The numeral of `count` significant digits nearest to a positive fraction. -/
def significant (count : Nat) (num den : Nat) : Numeral :=
  let k := decimalExponent num den - (count - 1 : Nat)
  if 0 ≤ k then ⟨roundHalfEven num (den * Nat.pow 10 k.toNat), k⟩
  else ⟨roundHalfEven (num * Nat.pow 10 (-k).toNat) den, k⟩

/-- Six significant digits at most. -/
def generalText (x : Float) : String :=
  signed x fun mantissa exponent =>
    if mantissa = 0 then Layout.general.zero
    else
      let (num, den) := scaled mantissa exponent
      Layout.general.text (significant 6 num den)

/-- A fixed number of places after the point. -/
def fixedText (places : Nat) (x : Float) : String :=
  signed x fun mantissa exponent =>
    let (num, den) := scaled mantissa exponent
    let units := toString (roundHalfEven (num * Nat.pow 10 places) den)
    let padded := zeros (places + 1 - units.length) ++ units
    let whole := padded.length - places
    String.ofList (padded.toList.take whole)
      ++ (if places = 0 then "" else "." ++ String.ofList (padded.toList.drop whole))

end EphemeralDatabase.Decimal
