import EphemeralDatabase.Cluster.Outcome
import EphemeralDatabase.Decimal.Text
import Mathlib.Data.Nat.Basic
import Mathlib.Tactic.Common

/-!
# What is in a numeral

A number is written in digits, with a sign before it when it is negative, and a port may also be
the word for no port.  So a character that separates one text from the next is never part of a
number.

The text of a double has a point and an exponent beside that, or is one of two words
(`Decimal.numeric_exactText`).
-/

namespace EphemeralDatabase

theorem notMem_toString_nat {c : Char} (h : c.isDigit = false) (n : ℕ) :
    c ∉ (toString n).toList := by
  intro hmem
  rw [Nat.toString_eq_ofList_toDigits, String.toList_ofList] at hmem
  rw [Nat.isDigit_of_mem_toDigits (by decide) (by decide) hmem] at h
  cases h

theorem notMem_toString_int {c : Char} (h : c.isDigit = false) (hsign : c ≠ '-') (n : ℤ) :
    c ∉ (toString n).toList := by
  cases n with
  | ofNat n => exact notMem_toString_nat h n
  | negSucc n =>
    have htext : (toString (Int.negSucc n)).toList = '-' :: (toString (n + 1)).toList :=
      String.toList_append
    rw [htext, List.mem_cons, not_or]
    exact ⟨hsign, notMem_toString_nat h (n + 1)⟩

theorem notMem_portText {c : Char} (h : c.isDigit = false) (hsign : c ≠ '-')
    (hnone : c ∉ "None".toList) (port : Option ℤ) : c ∉ (portText port).toList := by
  cases port with
  | none => exact hnone
  | some n => exact notMem_toString_int h hsign n

/-! ## Doubles -/

/-- In the text stand only characters of numerals. -/
def Numeric (text : String) : Prop :=
  ∀ c ∈ text.toList, c.isDigit = true ∨ c ∈ "+-.aefin".toList

-- By name, since otherwise it may be decided by going through all characters.
instance (text : String) : Decidable (Numeric text) := List.decidableBAll _ _

namespace Numeric

variable {s t : String} {cs : List Char}

theorem append (hs : Numeric s) (ht : Numeric t) : Numeric (s ++ t) := by
  unfold Numeric
  rw [String.toList_append]
  exact List.forall_mem_append.2 ⟨hs, ht⟩

theorem of_subset (hs : Numeric s) (h : cs ⊆ s.toList) : Numeric (String.ofList cs) := by
  unfold Numeric
  rw [String.toList_ofList]
  exact fun c hc => hs c (h hc)

theorem toString_nat (n : ℕ) : Numeric (toString n) := fun c hc => by
  by_cases hdigit : c.isDigit = true
  · exact .inl hdigit
  · exact absurd hc (notMem_toString_nat (by simpa using hdigit) n)

theorem toString_int (n : ℤ) : Numeric (toString n) := fun c hc => by
  by_cases hdigit : c.isDigit = true
  · exact .inl hdigit
  · by_cases hsign : c = '-'
    · exact .inr (by simp [hsign])
    · exact absurd hc (notMem_toString_int (by simpa using hdigit) hsign n)

end Numeric

namespace Decimal

theorem numeric_zeros (n : ℕ) : Numeric (zeros n) := fun c hc => by
  rw [zeros, String.toList_ofList] at hc
  rw [List.eq_of_mem_replicate hc]
  decide

theorem numeric_exponentText (e : ℤ) : Numeric (exponentText e) := by
  refine .append (.append (.append (by decide) ?_) (numeric_zeros _)) (.toString_nat _)
  split <;> decide

theorem Layout.numeric_text (layout : Layout) (numeral : Numeral) :
    Numeric (layout.text numeral) := by
  have hdigits := Numeric.toString_nat numeral.normal.digits
  have htake (n : ℕ) := hdigits.of_subset (List.take_subset n _)
  have hdrop (n : ℕ) := hdigits.of_subset (List.drop_subset n _)
  simp only [text]
  split
  · refine .append (.append (htake 1) ?_) (numeric_exponentText _)
    split
    · decide
    · exact .append (by decide) (hdrop 1)
  · split
    · refine .append (.append hdigits (numeric_zeros _)) ?_
      split <;> decide
    · split
      · exact .append (.append (htake _) (by decide)) (hdrop _)
      · exact .append (.append (by decide) (numeric_zeros _)) hdigits

/-- **Nothing but the characters of numerals stands in the text of a double.** -/
theorem numeric_exactText (x : Float) : Numeric (exactText x) := by
  unfold exactText signed
  split
  · decide
  · split <;> decide
  · refine .append (by split <;> decide) ?_
    dsimp only
    split
    · decide
    · exact Layout.numeric_text _ _

end Decimal

end EphemeralDatabase
