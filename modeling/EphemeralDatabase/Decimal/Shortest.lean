import EphemeralDatabase.Decimal.Binary

/-!
# The fewest digits that read back

A double stands for every real number that rounds to it: an interval around its exact value,
closed when the mantissa is even (a tie goes to it) and open when it is odd.  `shortest` gives
the numeral with the fewest digits that lies in this interval, and of several with that many
digits the one nearest to the exact value.

The search goes by grids.  The grid of `n` digits is the multiples of `10 ^ k` for the one `k`
that gives the value `n` digits before that power.  If any point of a grid lies in the interval,
then so does one of the two neighbours of the value on that grid, so only those are tried, for
one digit, two, and so on; seventeen always suffice.
-/

namespace EphemeralDatabase.Decimal

/-- A numeral `digits * 10 ^ exponent`. -/
structure Numeral where
  digits : Nat
  exponent : Int
  deriving DecidableEq, Repr

/-- How many decimal digits a natural number has. -/
def digitCount (n : Nat) : Nat := (Nat.toDigits 10 n).length

/-- The largest `e` with `10 ^ e ≤ num / den`, for a positive fraction. -/
def decimalExponent (num den : Nat) : Int :=
  if den ≤ num then digitCount (num / den) - 1
  else
    let d := digitCount (den / num)
    if den ≤ num * Nat.pow 10 (d - 1) then -((d : Int) - 1) else -(d : Int)

/-- The numbers that round to a double, as multiples of a common unit `num / den`. -/
structure Interval where
  /-- numerator and denominator of the unit -/
  unit : Nat × Nat
  low : Nat
  value : Nat
  high : Nat
  /-- whether the two ends belong to it -/
  closed : Bool

/-- The interval of `mantissa * 2 ^ exponent`, in quarters of its last place.  Below a power of
two the neighbour is only half as far. -/
def Interval.around (mantissa : Nat) (exponent : Int) : Interval where
  unit := scaled 1 (exponent - 2)
  low := if mantissa = Nat.pow 2 52 ∧ -1074 < exponent then 4 * mantissa - 1 else 4 * mantissa - 2
  value := 4 * mantissa
  high := 4 * mantissa + 2
  closed := decide (mantissa % 2 = 0)

/-- `digits * 10 ^ exponent` as a fraction. -/
def Numeral.fraction (d : Numeral) : Nat × Nat :=
  if 0 ≤ d.exponent then (d.digits * Nat.pow 10 d.exponent.toNat, 1)
  else (d.digits, Nat.pow 10 (-d.exponent).toNat)

/-- Whether a numeral lies in the interval. -/
def Interval.contains (i : Interval) (d : Numeral) : Bool :=
  let (num, den) := d.fraction
  let middle := num * i.unit.2
  let low := i.low * i.unit.1 * den
  let high := i.high * i.unit.1 * den
  if i.closed then decide (low ≤ middle ∧ middle ≤ high)
  else decide (low < middle ∧ middle < high)

/-- The neighbours of the value on the grid of multiples of `10 ^ k`, the nearer one first; of
two that are equally near, the even one first. -/
def Interval.neighbours (i : Interval) (k : Int) : List Numeral :=
  let num := i.value * i.unit.1
  let den := i.unit.2
  let (num, den) :=
    if 0 ≤ k then (num, den * Nat.pow 10 k.toNat) else (num * Nat.pow 10 (-k).toNat, den)
  let below := num / den
  let near := roundHalfEven num den
  if near = below then [⟨below, k⟩, ⟨below + 1, k⟩] else [⟨below + 1, k⟩, ⟨below, k⟩]

/-- The numeral with the fewest digits among those that round to `mantissa * 2 ^ exponent`, for
a positive mantissa. -/
def shortest (mantissa : Nat) (exponent : Int) : Numeral :=
  let i := Interval.around mantissa exponent
  let top := decimalExponent (i.value * i.unit.1) i.unit.2
  let hits := (List.range 18).flatMap fun n : Nat =>
    (i.neighbours (top - (n : Int))).filter i.contains
  hits.headD ⟨0, 0⟩

end EphemeralDatabase.Decimal
