/-!
# Terminal sequences

A terminal takes an escape character, an opening bracket, any number of parameters and a letter
as a command to itself.  Output that does not go to a terminal is written without such sequences.
-/

namespace EphemeralDatabase.Sequence

/-- Whether a character can be a parameter of a sequence. -/
def isParameter (c : Char) : Bool := c.isDigit || c == ';' || c == '?'

/-- The characters after a sequence, if they begin with one. -/
def skip? : List Char → Option (List Char)
  | '\x1b' :: '[' :: rest =>
      match rest.dropWhile isParameter with
      | c :: rest => if c.isAlpha then some rest else none
      | [] => none
  | _ => none

/-- What is left after a sequence is shorter than what begins with it. -/
theorem length_lt_of_skip? {cs rest : List Char} (h : skip? cs = some rest) :
    rest.length < cs.length := by
  unfold skip? at h
  split at h
  · rename_i tail
    have hd : (tail.dropWhile isParameter).length ≤ tail.length :=
      (List.dropWhile_suffix isParameter).length_le
    split at h
    · rename_i c more hcons
      split at h
      · simp only [Option.some.injEq] at h
        subst h
        simp only [hcons, List.length_cons] at hd ⊢
        omega
      · simp at h
    · simp at h
  · simp at h

/-- Text without sequences. -/
def removed : List Char → List Char
  | [] => []
  | c :: rest =>
      match _h : skip? (c :: rest) with
      | some after => removed after
      | none => c :: removed rest
  termination_by cs => cs.length
  decreasing_by
    · exact length_lt_of_skip? (by assumption)
    · simp

end EphemeralDatabase.Sequence
