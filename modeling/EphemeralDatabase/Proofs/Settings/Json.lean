import EphemeralDatabase.Proofs.Settings.Precedence

/-!
# Mappings of texts as JSON

`Value.json` writes a mapping of texts as a JSON object, member by member and without white space.
What is written is read as that mapping again (`Value.ofJson_json`), whatever its keys and values
are: quotes, backslashes and control characters are escaped by their numbers, and so the text itself
has no control character in it (`Value.le_toNat_of_mem_json`).

The readers are followed in the order in which they call each other: one character of a text
(`Value.readChar_quotedChar`), a text (`Value.readString_quoted`), and one member after the other
(`Value.readFields_members`).
-/

namespace EphemeralDatabase.Value

open Mapping (keys)

variable {c : Char} {rest : List Char} {fuel room : ℕ}

/-! ## Writing -/

/-- A character inside quotes. -/
def quotedChar (c : Char) : List Char :=
  if c = '\x22' ∨ c = '\\' ∨ c.toNat < 0x20 then
    ['\\', 'u', '0', '0', hexDigit (c.toNat / 16), hexDigit (c.toNat % 16)]
  else [c]

/-- The characters of a text inside quotes, with the closing quote. -/
def closed (cs : List Char) : List Char := cs.flatMap quotedChar ++ ['\x22']

/-- A text in quotes. -/
def quoted (s : String) : List Char := '\x22' :: closed s.toList

/-- A member of an object. -/
def member (pair : String × String) : List Char := quoted pair.1 ++ ':' :: quoted pair.2

/-- The rest of an object after its first member. -/
def laterMembers : Mapping String → List Char
  | [] => ['\x7d']
  | pair :: m => ',' :: (member pair ++ laterMembers m)

/-- A mapping of texts as a JSON object. -/
def json (m : Mapping String) : String :=
  match m with
  | [] => String.ofList ['\x7b', '\x7d']
  | pair :: m => String.ofList ('\x7b' :: (member pair ++ laterMembers m))

/-! ## Reading what was written -/

/-- A character that is escaped has a number of two hexadecimal digits. -/
theorem toNat_lt_of_escaped (h : c = '\x22' ∨ c = '\\' ∨ c.toNat < 0x20) : c.toNat < 0x80 := by
  rcases h with rfl | rfl | h
  · decide
  · decide
  · omega

theorem readChar_quotedChar (c : Char) (rest : List Char) :
    readChar (quotedChar c ++ rest) = some (c, rest) := by
  unfold quotedChar
  split
  next hescaped =>
    have hlt := toNat_lt_of_escaped hescaped
    have hunit : codeUnit? '0' '0' (hexDigit (c.toNat / 16)) (hexDigit (c.toNat % 16)) =
        some c.toNat := by
      have hzero : hexValue? '0' = some 0 := rfl
      simp only [codeUnit?, hzero, hexValue?_hexDigit (show c.toNat / 16 < 16 by omega),
        hexValue?_hexDigit (show c.toNat % 16 < 16 by omega), Option.bind_eq_bind,
        Option.bind_some, Option.pure_def, Option.some.injEq]
      omega
    have hhigh : isHighSurrogate c.toNat = false := decide_eq_false (by omega)
    have hlow : isLowSurrogate c.toNat = false := decide_eq_false (by omega)
    simp [readChar, hunit, unitChar, hhigh, hlow]
  next hplain =>
    obtain ⟨-, hbackslash, hcontrol⟩ : c ≠ '\x22' ∧ c ≠ '\\' ∧ ¬ c.toNat < 0x20 := by
      simpa only [not_or] using hplain
    rw [List.singleton_append, readChar.eq_3 _ _ (by simp [hbackslash]) (by simp [hbackslash])]
    simp [hbackslash, hcontrol]

theorem quotedChar_ne_nil (c : Char) : quotedChar c ≠ [] := by
  unfold quotedChar
  split <;> exact List.cons_ne_nil _ _

/-- No quote begins a character inside quotes. -/
theorem head?_quotedChar_ne (c : Char) : (quotedChar c).head? ≠ some '\x22' := by
  unfold quotedChar
  split
  · simp
  next hplain => simpa using (not_or.1 hplain).1

theorem readString_closed (cs seen : List Char) (h : cs.length < fuel) :
    readString fuel (closed cs ++ rest) seen = some (String.ofList (seen.reverse ++ cs), rest) := by
  induction cs generalizing seen fuel with
  | nil =>
    obtain ⟨fuel, rfl⟩ := Nat.exists_eq_add_one.2 h
    simp [closed, readString]
  | cons c cs ih =>
    obtain ⟨fuel, rfl⟩ := Nat.exists_eq_add_one.2 (Nat.zero_lt_of_lt h)
    obtain ⟨d, ds, hquoted⟩ := List.exists_cons_of_ne_nil (quotedChar_ne_nil c)
    have hquote : d ≠ '\x22' := fun hd => head?_quotedChar_ne c (by simp [hquoted, hd])
    have hclosed : closed (c :: cs) ++ rest = d :: (ds ++ (closed cs ++ rest)) := by
      simp [closed, hquoted]
    have hread : readChar (d :: (ds ++ (closed cs ++ rest))) = some (c, closed cs ++ rest) := by
      rw [← List.cons_append, ← hquoted]
      exact readChar_quotedChar c _
    rw [hclosed, readString, if_neg hquote, hread]
    simp only
    rw [ih (c :: seen) (Nat.lt_of_succ_lt_succ h)]
    simp

/-- No character inside quotes is written without a character. -/
theorem length_lt_length_closed (cs : List Char) : cs.length < (closed cs).length := by
  induction cs with
  | nil => exact Nat.zero_lt_one
  | cons c cs ih =>
    have hpos := List.length_pos_iff.2 (quotedChar_ne_nil c)
    simp only [closed, List.flatMap_cons, List.length_append, List.length_cons] at ih ⊢
    omega

/-- A text in quotes is read whole with the fuel that the readers of names and values have. -/
theorem readString_quoted (s : String) (rest : List Char) :
    readString ((closed s.toList ++ rest).length + 1) (closed s.toList ++ rest) [] =
      some (s, rest) := by
  have hlength := length_lt_length_closed s.toList
  rw [readString_closed _ _ (by rw [List.length_append]; omega)]
  simp

theorem readValue_quoted (s : String) (rest : List Char) :
    readValue (fuel + 1) room (quoted s ++ rest) = .ok (.text s, rest) := by
  rw [quoted, List.cons_append, readValue, readString_quoted]

theorem member_append (pair : String × String) (cs : List Char) :
    member pair ++ cs = '\x22' :: (closed pair.1.toList ++ ':' :: (quoted pair.2 ++ cs)) := by
  simp [member, quoted]

/-- Before the colon of a member and before its value there is no white space to skip. -/
theorem afterBlank_colon (cs : List Char) : afterBlank (':' :: cs) = ':' :: cs := rfl

theorem afterBlank_quoted (s : String) (cs : List Char) :
    afterBlank (quoted s ++ cs) = quoted s ++ cs := rfl

theorem readFields_last (fuel : ℕ) (pair : String × String) (rest : List Char) :
    readFields (fuel + 2) room (member pair ++ '\x7d' :: rest) =
      .ok ([(pair.1, .text pair.2)], rest) := by
  rw [member_append, readFields]
  simp only [readString_quoted, afterBlank_colon, afterBlank_quoted, readValue_quoted]
  rfl

theorem readFields_next (fuel : ℕ) (pair next : String × String) (cs : List Char) :
    readFields (fuel + 2) room (member pair ++ ',' :: (member next ++ cs)) =
      (readFields (fuel + 1) room (member next ++ cs)).map fun (fs, rest) =>
        ((pair.1, .text pair.2) :: fs, rest) := by
  rw [member_append pair, readFields]
  simp only [readString_quoted, afterBlank_colon, afterBlank_quoted, readValue_quoted]
  rfl

/-- **An object is read member by member** up to its end. -/
theorem readFields_members (fuel : ℕ) (pair : String × String) (m : Mapping String)
    (rest : List Char) :
    readFields (fuel + m.length + 2) room (member pair ++ (laterMembers m ++ rest)) =
      .ok (texts (pair :: m), rest) := by
  induction m generalizing pair with
  | nil => exact readFields_last fuel pair rest
  | cons next m ih =>
    have hlater : laterMembers (next :: m) ++ rest =
        ',' :: (member next ++ (laterMembers m ++ rest)) := by
      simp [laterMembers]
    rw [hlater, List.length_cons, ← Nat.add_assoc, readFields_next, ih next]
    rfl

/-- A mapping takes at least as many characters as it has members. -/
theorem length_lt_length_laterMembers (m : Mapping String) :
    m.length < (laterMembers m).length := by
  induction m with
  | nil => exact Nat.zero_lt_one
  | cons pair m ih =>
    simp only [laterMembers, List.length_cons, List.length_append]
    omega

theorem readValue_object {pair : String × String} {m : Mapping String}
    (once : (keys (pair :: m)).Nodup) :
    readValue (fuel + m.length + 3) (room + 1) ('\x7b' :: (member pair ++ laterMembers m)) =
      .ok (.record (texts (pair :: m)), []) := by
  have hopen : readValue (fuel + m.length + 3) (room + 1)
        ('\x7b' :: (member pair ++ laterMembers m)) =
      (readFields (fuel + m.length + 2) room (member pair ++ laterMembers m)).map fun (fs, rest) =>
        (.record (Mapping.ofPairs fs), rest) := rfl
  have hfields : readFields (fuel + m.length + 2) room (member pair ++ laterMembers m) =
      .ok (texts (pair :: m), []) := by
    simpa using readFields_members fuel pair m []
  have honce : (keys (texts (pair :: m))).Nodup := by rwa [keys_texts]
  simp only [hopen, hfields, Except.map, Mapping.ofPairs_of_nodup honce]

/-- **What is written as JSON is read as the mapping that was written**, by every interpreter. -/
theorem ofJson_json [Interpreter] {m : Mapping String} (once : (keys m).Nodup) :
    ofJson Interpreter.room (json m) = .ok (.record (texts m)) := by
  obtain ⟨room, hroom⟩ := Nat.exists_eq_add_one.2 Interpreter.room_pos
  rw [hroom]
  cases m with
  | nil => rfl
  | cons pair m =>
    have hlength := length_lt_length_laterMembers m
    obtain ⟨fuel, hfuel⟩ : ∃ fuel, 2 * ('\x7b' :: (member pair ++ laterMembers m)).length + 2 =
        fuel + m.length + 3 := by
      simp only [List.length_cons, List.length_append]
      exact ⟨2 * (member pair).length + 2 * (laterMembers m).length - m.length + 1, by omega⟩
    have hstart : afterBlank ('\x7b' :: (member pair ++ laterMembers m)) =
        '\x7b' :: (member pair ++ laterMembers m) := rfl
    simp only [ofJson, json, String.toList_ofList]
    rw [hstart, hfuel, readValue_object once]
    rfl

/-! ## What is in a written mapping -/

theorem le_toNat_hexDigit {n : ℕ} (h : n < 16) : 0x20 ≤ (hexDigit n).toNat := by
  have hall : ∀ n < 16, 0x20 ≤ (hexDigit n).toNat := by decide
  exact hall n h

theorem le_toNat_of_mem_quotedChar {d : Char} (h : d ∈ quotedChar c) : 0x20 ≤ d.toNat := by
  unfold quotedChar at h
  split at h
  next hescaped =>
    have hlt := toNat_lt_of_escaped hescaped
    simp only [List.mem_cons, List.not_mem_nil, or_false] at h
    rcases h with rfl | rfl | rfl | rfl | rfl | rfl
    · decide
    · decide
    · decide
    · decide
    · exact le_toNat_hexDigit (by omega)
    · exact le_toNat_hexDigit (by omega)
  next hplain =>
    obtain rfl := List.mem_singleton.1 h
    omega

theorem le_toNat_of_mem_quoted {s : String} (h : c ∈ quoted s) : 0x20 ≤ c.toNat := by
  simp only [quoted, closed, List.mem_cons, List.mem_append, List.mem_flatMap, List.not_mem_nil,
    or_false] at h
  rcases h with rfl | ⟨d, -, hd⟩ | rfl
  · decide
  · exact le_toNat_of_mem_quotedChar hd
  · decide

theorem le_toNat_of_mem_member {pair : String × String} (h : c ∈ member pair) : 0x20 ≤ c.toNat := by
  simp only [member, List.mem_append, List.mem_cons] at h
  rcases h with h | rfl | h
  · exact le_toNat_of_mem_quoted h
  · decide
  · exact le_toNat_of_mem_quoted h

theorem le_toNat_of_mem_laterMembers {m : Mapping String} (h : c ∈ laterMembers m) :
    0x20 ≤ c.toNat := by
  induction m with
  | nil =>
    obtain rfl := List.mem_singleton.1 h
    decide
  | cons pair m ih =>
    simp only [laterMembers, List.mem_cons, List.mem_append] at h
    rcases h with rfl | h | h
    · decide
    · exact le_toNat_of_mem_member h
    · exact ih h

/-- **No control character stands in a written mapping**, whatever stands in its keys and values. -/
theorem le_toNat_of_mem_json {m : Mapping String} (h : c ∈ (json m).toList) : 0x20 ≤ c.toNat := by
  cases m with
  | nil =>
    simp only [json, String.toList_ofList, List.mem_cons, List.not_mem_nil, or_false] at h
    rcases h with rfl | rfl
    · decide
    · decide
  | cons pair m =>
    rw [json, String.toList_ofList, List.mem_cons, List.mem_append] at h
    rcases h with rfl | h | h
    · decide
    · exact le_toNat_of_mem_member h
    · exact le_toNat_of_mem_laterMembers h

end EphemeralDatabase.Value
