/-!
# Doubles as exact numbers

A finite double is `± mantissa * 2 ^ exponent` with natural `mantissa`, and every other module
that looks inside a double looks at that.  `Binary.ofBits` takes a word apart;
`nearestBits num den` goes the other way and gives the word of the double nearest to the
fraction `num / den`, a tie going to the even mantissa and everything too large to infinity.
Nothing here computes with doubles: all of it is arithmetic on natural numbers, so it can be
reasoned about.
-/

namespace EphemeralDatabase.Decimal

/-- What a double stands for. -/
inductive Binary where
  | nan
  | infinite (negative : Bool)
  /-- `± mantissa * 2 ^ exponent` -/
  | finite (negative : Bool) (mantissa : Nat) (exponent : Int)
  deriving DecidableEq, Repr

/-- Takes apart a word of one sign bit, eleven exponent bits and fifty-two mantissa bits. -/
def Binary.ofBits (bits : UInt64) : Binary :=
  let word := bits.toNat
  let negative := decide (word / Nat.pow 2 63 % 2 = 1)
  let field : Nat := word / Nat.pow 2 52 % Nat.pow 2 11
  let fraction := word % Nat.pow 2 52
  if field = 2047 then
    if fraction = 0 then .infinite negative else .nan
  else if field = 0 then .finite negative fraction (-1074)
  else .finite negative (fraction + Nat.pow 2 52) ((field : Int) - 1075)

/-- The exact value of a double. -/
def Binary.ofFloat (x : Float) : Binary := .ofBits x.toBits

/-- `mantissa * 2 ^ exponent` as a fraction of natural numbers. -/
def scaled (mantissa : Nat) (exponent : Int) : Nat × Nat :=
  if 0 ≤ exponent then (mantissa * Nat.pow 2 exponent.toNat, 1)
  else (mantissa, Nat.pow 2 (-exponent).toNat)

/-- The whole number nearest to `num / den`; of two that are equally near, the even one. -/
def roundHalfEven (num den : Nat) : Nat :=
  let q := num / den
  let twice := 2 * (num % den)
  if twice < den then q
  else if den < twice then q + 1
  else if q % 2 = 0 then q
  else q + 1

/-- The largest `e` with `2 ^ e ≤ num / den`, for a positive fraction. -/
def binaryExponent (num den : Nat) : Int :=
  let guess : Int := (Nat.log2 num : Int) - (Nat.log2 den : Int)
  let reached :=
    if 0 ≤ guess then den * Nat.pow 2 guess.toNat ≤ num
    else den ≤ num * Nat.pow 2 (-guess).toNat
  if reached then guess else guess - 1

/-- The word of the double nearest to the non-negative fraction `num / den`.

A double with exponent field `f + 1` and mantissa `q` has the word `f * 2 ^ 52 + q`, for a
subnormal (where `f = 0`) too, and a mantissa that is rounded up to `2 ^ 53` carries into the
exponent by itself. -/
def nearestBits (num den : Nat) : UInt64 :=
  if num = 0 then 0
  else
    let exponent := max (binaryExponent num den - 52) (-1074)
    let mantissa :=
      if 0 ≤ exponent then roundHalfEven num (den * Nat.pow 2 exponent.toNat)
      else roundHalfEven (num * Nat.pow 2 (-exponent).toNat) den
    let word := (exponent + 1074).toNat * Nat.pow 2 52 + mantissa
    UInt64.ofNat (min word (2047 * Nat.pow 2 52))

/-- The double nearest to `± num / den`. -/
def nearest (negative : Bool) (num den : Nat) : Float :=
  let bits := nearestBits num den
  Float.ofBits (if negative then bits + 0x8000000000000000 else bits)

/-- The double nearest to `± digits * 10 ^ exponent`.

A numeral of which the first digit lies beyond the range of doubles is settled by that alone,
so that a long exponent never costs a long power of ten. -/
def nearestDecimal (negative : Bool) (digits : Nat) (exponent : Int) : Float :=
  let size : Int := (toString digits).length + exponent
  if digits = 0 ∨ size < -400 then nearest negative 0 1
  else if 400 < size then nearest negative (Nat.pow 2 1024) 1
  else if 0 ≤ exponent then nearest negative (digits * Nat.pow 10 exponent.toNat) 1
  else nearest negative digits (Nat.pow 10 (-exponent).toNat)

/-- The double nearest to a whole number, if there is a finite one. -/
def ofInt? (n : Int) : Option Float :=
  let x := nearest (decide (n < 0)) n.natAbs 1
  if x.isInf then none else some x

end EphemeralDatabase.Decimal
