import EphemeralDatabase.Decimal.Binary
import Mathlib

/-!
# Doubles as extended real numbers

`Decimal.Binary.ofFloat` takes a double apart by dividing its word, and doubles are compared by
what IEEE 754 makes of the same word.  Both agree on what a double is (`Binary.ofFloat_eq`), so a
double that compares as greater than zero is a positive number, or positive infinity
(`exactValue_pos`).

`exactValue` is the number itself.  Infinity is a number here, because it is one that settings can
have.
-/

namespace EphemeralDatabase.Decimal

open Float.Model (UnpackedFloat)
open Float.Model.UnpackedFloat (Sign unpackSign unpackExponent unpackMantissa)

/-! ## Taking a word apart -/

section Word

variable (b : BitVec 64)

theorem toNat_unpackSign :
    (@unpackSign .binary64 b).toNat = b.toNat / 2 ^ 63 % 2 := by
  simp [unpackSign, BitVec.extractLsb_toNat, Nat.shiftRight_eq_div_pow]

theorem toNat_unpackExponent :
    (@unpackExponent .binary64 b).toNat = b.toNat / 2 ^ 52 % 2 ^ 11 := by
  simp [unpackExponent, BitVec.extractLsb_toNat, Nat.shiftRight_eq_div_pow]

theorem toNat_unpackMantissa :
    (@unpackMantissa .binary64 b).toNat = b.toNat % 2 ^ 52 := by
  simp [unpackMantissa, BitVec.extractLsb_toNat]

end Word

/-- Whether a sign is the negative one. -/
def isNegative : Sign → Bool
  | .negative => true
  | .positive => false

/-- A double in the terms of IEEE 754.  Zero is the least mantissa with the least exponent. -/
def Binary.ofUnpacked : UnpackedFloat → Binary
  | .notANumber => .nan
  | .infinity sign => .infinite (isNegative sign)
  | .zero sign => .finite (isNegative sign) 0 (-1074)
  | .finite sign mantissa exponent _ => .finite (isNegative sign) mantissa exponent

theorem isNegative_ofBitVec (b : BitVec 1) :
    isNegative (Sign.ofBitVec b) = decide (b.toNat = 1) := by
  have hall : ∀ b : BitVec 1, isNegative (Sign.ofBitVec b) = decide (b.toNat = 1) := by decide
  exact hall b

/-- The leading digit that a mantissa has although it is not written. -/
theorem toNat_leading (m : BitVec 52) : (1#1 ++ m).toNat = m.toNat + 2 ^ 52 := by
  have happend : (1#1 ++ m).toNat = 1 <<< 52 + m.toNat := by
    rw [BitVec.toNat_append, Nat.shiftLeft_add_eq_or_of_lt m.isLt]
    rfl
  rw [happend, Nat.add_comm]
  rfl

/-- **A double is taken apart as IEEE 754 has it.** -/
theorem Binary.ofFloat_eq (x : Float) : ofFloat x = ofUnpacked x.toModel.unpack := by
  have hword : x.toBits.toNat = x.toModel.toBits.toBitVec.toNat := rfl
  simp only [ofFloat, ofBits, hword, Float.Model.unpack, UnpackedFloat.unpack, Nat.pow_eq,
    ← toNat_unpackExponent, ← toNat_unpackMantissa, ← toNat_unpackSign, ← isNegative_ofBitVec]
  generalize x.toModel.toBits.toBitVec = b
  have hlast : (@unpackExponent .binary64 b).toNat = 2047 ↔
      @unpackExponent .binary64 b = -1#11 := by
    rw [← BitVec.toNat_inj]
    rfl
  have hfirst : (@unpackExponent .binary64 b).toNat = 0 ↔
      @unpackExponent .binary64 b = 0#11 := by
    rw [← BitVec.toNat_inj]
    rfl
  have hnone : (@unpackMantissa .binary64 b).toNat = 0 ↔
      @unpackMantissa .binary64 b = 0#52 := by
    rw [← BitVec.toNat_inj]
    rfl
  simp only [hlast, hfirst, hnone]
  by_cases last : @unpackExponent .binary64 b = -1#11
  · by_cases none : @unpackMantissa .binary64 b = 0#52
    · simp only [if_pos last, if_pos none, ofUnpacked]
    · simp only [if_pos last, if_neg none, ofUnpacked]
  · by_cases first : @unpackExponent .binary64 b = 0#11
    · by_cases none : @unpackMantissa .binary64 b = 0#52
      · simp only [if_neg last, if_pos first, dif_pos none, ofUnpacked, hnone.2 none]
      · simp only [if_neg last, if_pos first, dif_neg none, ofUnpacked, hfirst.2 first]
        rfl
    · simp only [if_neg last, if_neg first, ofUnpacked, toNat_leading]
      rfl

/-! ## Exact values -/

/-- The number that a double stands for.  What is no number stands for none, and counts as zero. -/
noncomputable def Binary.value : Binary → EReal
  | .nan => 0
  | .infinite negative => if negative then ⊥ else ⊤
  | .finite negative mantissa exponent =>
      (((if negative then -1 else 1) * mantissa * (2 : ℝ) ^ exponent : ℝ) : EReal)

/-- The number that a double is. -/
noncomputable def exactValue (x : Float) : EReal := (Binary.ofFloat x).value

theorem exactValue_eq (x : Float) : exactValue x = (Binary.ofUnpacked x.toModel.unpack).value := by
  rw [exactValue, Binary.ofFloat_eq]

/-- What compares as greater than zero. -/
theorem zero_lt_iff {x : Float} : 0 < x ↔ x.toModel.unpack = .infinity .positive ∨
    ∃ mantissa exponent hmantissa,
      x.toModel.unpack = .finite .positive mantissa exponent hmantissa := by
  have hzero : (0 : Float).toModel.unpack = .zero .positive := rfl
  have hlt : 0 < x ↔ UnpackedFloat.lt (.zero .positive) x.toModel.unpack = true := by
    rw [← hzero]
    change decide ((0 : Float).toModel < x.toModel) = true ↔ _
    rw [decide_eq_true_iff]
    rfl
  rw [hlt]
  cases x.toModel.unpack with
  | notANumber => simp [UnpackedFloat.lt, UnpackedFloat.compare]
  | infinity sign => cases sign <;> simp [UnpackedFloat.lt, UnpackedFloat.compare]
  | zero sign => simp [UnpackedFloat.lt, UnpackedFloat.compare]
  | finite sign mantissa exponent hmantissa =>
    cases sign <;> simp [UnpackedFloat.lt, UnpackedFloat.compare, hmantissa]

/-- **A double that compares as greater than zero is a positive number**, or infinity. -/
theorem exactValue_pos {x : Float} (h : 0 < x) : 0 < exactValue x := by
  rw [exactValue_eq]
  rcases zero_lt_iff.1 h with hinfinite | ⟨mantissa, exponent, hmantissa, hfinite⟩
  · rw [hinfinite]
    exact EReal.zero_lt_top
  · rw [hfinite]
    have hpos : 0 < (1 : ℝ) * mantissa * 2 ^ exponent := by positivity
    exact EReal.coe_pos.2 hpos

end EphemeralDatabase.Decimal
