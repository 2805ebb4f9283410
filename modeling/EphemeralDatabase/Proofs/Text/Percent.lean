import EphemeralDatabase.Text.Percent
import Mathlib

/-!
# Percent encoding and back

`Percent.decode?` takes the escapes of a text for bytes and the bytes for UTF-8.  Encoding writes
byte after byte, so decoding is followed one byte at a time (`bytes?_encodeByte`); that the bytes
of a text are that text again is the round trip of UTF-8 itself.

`Percent.IsEscaped` is what encoded text looks like: unreserved characters and escapes, so no
character that separates the parts of a URL (`IsEscaped.notMem`).

Text that was never encoded is decoded to itself only if it has no percent sign in it
(`decode?_eq_self_iff`), because an escape is longer than the byte that it stands for.
-/

namespace EphemeralDatabase.Percent

variable {cs : List Char}

/-! ## Decoding -/

/-- The bytes that percent-encoded text stands for.  A percent sign without two digits after it
stands for nothing. -/
def bytes? : List Char → Option (List UInt8)
  | [] => some []
  | '%' :: high :: low :: cs => do
    let byte := UInt8.ofNat ((← hexValue? high) * 16 + (← hexValue? low))
    return byte :: (← bytes? cs)
  | c :: cs => if c = '%' then none else (bytes? cs).map (String.utf8EncodeChar c ++ ·)

/-- The text that percent-encoded text stands for. -/
def decode? (cs : List Char) : Option String := do
  let chars ← (← bytes? cs).toByteArray.utf8Decode?
  return String.ofList chars.toList

/-- An unreserved byte is an ASCII character, which UTF-8 writes as that byte. -/
theorem utf8EncodeChar_of_isUnreserved {b : UInt8} (h : isUnreserved b = true) :
    Char.ofNat b.toNat ≠ '%' ∧ String.utf8EncodeChar (Char.ofNat b.toNat) = [b] := by
  have hall : ∀ b : UInt8, isUnreserved b = true →
      Char.ofNat b.toNat ≠ '%' ∧ String.utf8EncodeChar (Char.ofNat b.toNat) = [b] := by
    decide +kernel
  exact hall b h

/-- One written byte is read as that byte. -/
theorem bytes?_encodeByte (b : UInt8) :
    bytes? (encodeByte b ++ cs) = (bytes? cs).map (b :: ·) := by
  have hlt : b.toNat < 256 := b.toNat_lt
  unfold encodeByte
  split
  · rename_i hplain
    obtain ⟨hne, hencoded⟩ := utf8EncodeChar_of_isUnreserved hplain
    rw [List.singleton_append, bytes?.eq_3 _ _ fun _ _ _ h => absurd h hne, if_neg hne, hencoded]
    rfl
  · have hbyte : UInt8.ofNat (b.toNat / 16 * 16 + b.toNat % 16) = b := by
      rw [Nat.div_add_mod', UInt8.ofNat_toNat]
    have hhigh : hexValue? (hexDigit (b.toNat / 16)) = some (b.toNat / 16) :=
      hexValue?_hexDigit (by omega)
    have hlow : hexValue? (hexDigit (b.toNat % 16)) = some (b.toNat % 16) :=
      hexValue?_hexDigit (by omega)
    simp only [List.cons_append, List.nil_append, bytes?, hhigh, hlow, Option.bind_eq_bind,
      Option.bind_some, hbyte]
    cases bytes? cs <;> rfl

theorem bytes?_encodeBytes (bs : List UInt8) : bytes? (bs.flatMap encodeByte) = some bs := by
  induction bs with
  | nil => rfl
  | cons b bs ih => rw [List.flatMap_cons, bytes?_encodeByte, ih]; rfl

/-- **Encoded text is decoded to the text it was made of.** -/
theorem decode?_encode (text : String) : decode? (encode text).toList = some text := by
  have hutf8 : (bytes text).toByteArray.utf8Decode? = some text.toList.toArray :=
    List.utf8Decode?_utf8Encode
  unfold decode? encode
  rw [String.toList_ofList, bytes?_encodeBytes]
  simp [hutf8]

/-! ## Encoded text -/

/-- Whether a character is written as itself. -/
def IsPlain (c : Char) : Prop := c.isAlphanum = true ∨ c ∈ ['_', '.', '-', '~']

instance (c : Char) : Decidable (IsPlain c) := inferInstanceAs (Decidable (_ ∨ _))

/-- Unreserved characters and escapes of two hexadecimal digits. -/
inductive IsEscaped : List Char → Prop
  | nil : IsEscaped []
  | plain (c : Char) (cs : List Char) : IsPlain c → IsEscaped cs → IsEscaped (c :: cs)
  | escape (high low : Char) (cs : List Char) : (hexValue? high).isSome → (hexValue? low).isSome →
      IsEscaped cs → IsEscaped ('%' :: high :: low :: cs)

theorem isPlain_of_isUnreserved {b : UInt8} (h : isUnreserved b = true) :
    IsPlain (Char.ofNat b.toNat) := by
  have hall : ∀ b : UInt8, isUnreserved b = true → IsPlain (Char.ofNat b.toNat) := by
    decide +kernel
  exact hall b h

theorem isEscaped_encodeBytes (bs : List UInt8) : IsEscaped (bs.flatMap encodeByte) := by
  induction bs with
  | nil => exact .nil
  | cons b bs ih =>
    have hlt : b.toNat < 256 := b.toNat_lt
    rw [List.flatMap_cons, encodeByte]
    split
    · rename_i hplain
      exact .plain _ _ (isPlain_of_isUnreserved hplain) ih
    · exact .escape _ _ _ (by rw [hexValue?_hexDigit (by omega)]; rfl)
        (by rw [hexValue?_hexDigit (by omega)]; rfl) ih

theorem isEscaped_encode (text : String) : IsEscaped (encode text).toList := by
  rw [encode, String.toList_ofList]
  exact isEscaped_encodeBytes _

/-- A character that is neither unreserved nor part of an escape is not in encoded text. -/
theorem IsEscaped.notMem {c : Char} (h : IsEscaped cs) (hplain : ¬ IsPlain c)
    (hdigit : hexValue? c = none) (hpercent : c ≠ '%') : c ∉ cs := by
  induction h with
  | nil => exact List.not_mem_nil
  | plain d cs hd _ ih =>
    have hne : c ≠ d := fun h => hplain (h ▸ hd)
    exact List.not_mem_cons_of_ne_of_not_mem hne ih
  | escape high low cs hhigh hlow _ ih =>
    have hne (d : Char) (hd : (hexValue? d).isSome) : c ≠ d := by
      rintro rfl
      simp [hdigit] at hd
    exact List.not_mem_cons_of_ne_of_not_mem hpercent
      (List.not_mem_cons_of_ne_of_not_mem (hne high hhigh)
        (List.not_mem_cons_of_ne_of_not_mem (hne low hlow) ih))

theorem notMem_encode {c : Char} (hplain : ¬ IsPlain c) (hdigit : hexValue? c = none)
    (hpercent : c ≠ '%') (text : String) : c ∉ (encode text).toList :=
  (isEscaped_encode text).notMem hplain hdigit hpercent

/-! ## Text that stands for itself -/

/-- Without a percent sign every character stands for itself. -/
theorem bytes?_of_notMem (h : '%' ∉ cs) : bytes? cs = some (cs.flatMap String.utf8EncodeChar) := by
  induction cs with
  | nil => rfl
  | cons c cs ih =>
    obtain ⟨hc, hcs⟩ := not_or.1 (mt List.mem_cons.2 h)
    rw [bytes?.eq_3 _ _ fun _ _ _ h => absurd h.symm hc, if_neg (Ne.symm hc), ih hcs]
    rfl

/-- Percent-encoded text is longer than what it stands for, if anything in it is encoded. -/
theorem length_le_of_bytes? {bs : List UInt8} (h : bytes? cs = some bs) :
    bs.length ≤ (cs.flatMap String.utf8EncodeChar).length ∧
      ('%' ∈ cs → bs.length < (cs.flatMap String.utf8EncodeChar).length) := by
  fun_induction bytes? cs generalizing bs with
  | case1 =>
    obtain rfl : [] = bs := by simpa using h
    simp
  | case2 high low cs ih =>
    obtain ⟨-, -, -, -, rest, hrest, rfl⟩ : ∃ m, hexValue? high = some m ∧ ∃ n,
        hexValue? low = some n ∧ ∃ rest, bytes? cs = some rest ∧
          UInt8.ofNat (m * 16 + n) :: rest = bs := by
      simpa [Option.bind_eq_some_iff] using h
    have hpos (c : Char) : 1 ≤ (String.utf8EncodeChar c).length := by
      rw [String.length_utf8EncodeChar]
      exact c.utf8Size_pos
    have hlength := (ih hrest).1
    have hpercent := hpos '%'
    have hhigh := hpos high
    have hlow := hpos low
    simp only [List.flatMap_cons, List.length_append, List.length_cons]
    omega
  | case3 => cases h
  | case4 c cs hshort hc ih =>
    obtain ⟨rest, hrest, rfl⟩ := Option.map_eq_some_iff.1 h
    obtain ⟨hle, hlt⟩ := ih hrest
    simp only [List.flatMap_cons, List.length_append, List.mem_cons]
    refine ⟨by omega, fun hmem => ?_⟩
    have := hlt (hmem.resolve_left (Ne.symm hc))
    omega

/-- **Text stands for itself if and only if nothing in it is encoded.** -/
theorem decode?_eq_self_iff : decode? cs = some (String.ofList cs) ↔ '%' ∉ cs := by
  constructor
  · intro h hmem
    obtain ⟨bs, hbs, chars, hchars, htext⟩ : ∃ bs, bytes? cs = some bs ∧ ∃ chars,
        bs.toByteArray.utf8Decode? = some chars ∧ String.ofList chars.toList = String.ofList cs := by
      simpa [decode?, Option.bind_eq_some_iff] using h
    obtain rfl : chars.toList = cs := by simpa using congrArg String.toList htext
    have hsome : bs.toByteArray.utf8Decode?.isSome = true := by simp [hchars]
    have hbytes : chars.toList.utf8Encode = bs.toByteArray := by
      have hencode := ByteArray.utf8Encode_get_utf8Decode? (h := hsome)
      simpa only [hchars, Option.get_some] using hencode
    rw [List.utf8Encode, List.toByteArray_inj] at hbytes
    have hlt := (length_le_of_bytes? hbs).2 hmem
    rw [hbytes] at hlt
    exact lt_irrefl _ hlt
  · intro h
    have hutf8 : (cs.flatMap String.utf8EncodeChar).toByteArray.utf8Decode? = some cs.toArray :=
      List.utf8Decode?_utf8Encode
    simp [decode?, bytes?_of_notMem h, hutf8]

end EphemeralDatabase.Percent
