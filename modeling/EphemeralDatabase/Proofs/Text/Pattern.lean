import EphemeralDatabase.Text.Pattern
import Mathlib.Tactic.Common

/-!
# The words of a pattern

`Pattern.Matches` says what a regular expression means, and `Pattern.accepts_iff` that the decision
by what may follow each character agrees with it.

The proof goes character by character.  A pattern matches the empty word if and only if it is
nullable, and it matches `c :: w` if and only if what may follow `c` matches `w`
(`matches_cons_iff`).  Dropping dead branches on the way changes nothing, because `both` and
`either` match what `chain` and `choice` match.

Which characters stand in the words of a pattern can be read off it (`Pattern.admits`).
-/

namespace EphemeralDatabase.Pattern

/-- The word belongs to the pattern. -/
inductive Matches : Pattern → List Char → Prop
  | empty : Matches .empty []
  | one {test : Char → Bool} {c : Char} (passes : test c = true) : Matches (.one test) [c]
  | chain {p q : Pattern} {v w : List Char} (first : Matches p v) (second : Matches q w) :
      Matches (.chain p q) (v ++ w)
  | left {p q : Pattern} {w : List Char} (left : Matches p w) : Matches (.choice p q) w
  | right {p q : Pattern} {w : List Char} (right : Matches q w) : Matches (.choice p q) w
  | stop {p : Pattern} : Matches (.many p) []
  | more {p : Pattern} {v w : List Char} (first : Matches p v) (rest : Matches (.many p) w) :
      Matches (.many p) (v ++ w)

variable {p q : Pattern} {c : Char} {v w : List Char}

/-! ## One constructor at a time -/

@[simp] theorem not_matches_nothing : ¬ Matches nothing w := nofun

@[simp] theorem matches_empty_iff : Matches empty w ↔ w = [] := by
  constructor
  · rintro ⟨⟩
    rfl
  · rintro rfl
    exact .empty

@[simp] theorem matches_one_iff {test : Char → Bool} :
    Matches (one test) w ↔ ∃ c, w = [c] ∧ test c = true := by
  constructor
  · rintro ⟨⟩
    exact ⟨_, rfl, ‹_›⟩
  · rintro ⟨c, rfl, passes⟩
    exact .one passes

theorem matches_chain_iff :
    Matches (chain p q) w ↔ ∃ u v, w = u ++ v ∧ Matches p u ∧ Matches q v := by
  constructor
  · rintro ⟨⟩
    exact ⟨_, _, rfl, ‹_›, ‹_›⟩
  · rintro ⟨u, v, rfl, first, second⟩
    exact .chain first second

@[simp] theorem matches_choice_iff : Matches (choice p q) w ↔ Matches p w ∨ Matches q w := by
  constructor
  · rintro ⟨⟩
    · exact Or.inl ‹_›
    · exact Or.inr ‹_›
  · rintro (left | right)
    · exact .left left
    · exact .right right

/-- A word that is not empty and is made of words of a pattern begins with one that is not empty. -/
theorem matches_many_cons_iff :
    Matches (many p) (c :: w) ↔
      ∃ u v, w = u ++ v ∧ Matches p (c :: u) ∧ Matches (many p) v := by
  constructor
  · intro h
    -- words that are empty can come first, and are passed over
    generalize hr : many p = r, hw : c :: w = x at h
    induction h with
    | empty | one | chain | left | right => cases hr
    | stop => cases hw
    | @more p' u v first rest _ ih =>
      obtain rfl : p = p' := by simpa using hr
      cases u with
      | nil => exact ih rfl hw
      | cons d u =>
        obtain ⟨rfl, rfl⟩ := List.cons.inj hw
        exact ⟨u, v, rfl, first, rest⟩
  · rintro ⟨u, v, rfl, first, rest⟩
    exact .more first rest

/-! ## Dead branches -/

@[simp] theorem matches_either_iff : Matches (either p q) w ↔ Matches p w ∨ Matches q w := by
  unfold either
  split <;> simp

theorem matches_both_iff : Matches (both p q) w ↔ Matches (chain p q) w := by
  unfold both
  split <;> simp [matches_chain_iff]

/-! ## The decision -/

theorem matches_nil_iff : Matches p [] ↔ p.nullable = true := by
  induction p with
  | nothing | empty | one test => simp [nullable]
  | chain p q hp hq => simp [nullable, matches_chain_iff, hp, hq]
  | choice p q hp hq => simp [nullable, hp, hq]
  | many p => simp [nullable, Matches.stop]

/-- **A pattern matches a word if what may follow its first character matches the rest.** -/
theorem matches_cons_iff : Matches p (c :: w) ↔ Matches (p.after c) w := by
  induction p generalizing w with
  | nothing | empty => simp [after]
  | one test =>
    by_cases hc : test c = true
    · simp [after, hc]
    · simp [after, hc]
  | choice p q hp hq => simp [after, hp, hq]
  | many p hp =>
    rw [after, matches_both_iff, matches_many_cons_iff, matches_chain_iff]
    simp only [hp]
  | chain p q hp hq =>
    have begins : Matches (chain p q) (c :: w) ↔
        Matches (both (p.after c) q) w ∨ (p.nullable = true ∧ Matches (q.after c) w) := by
      rw [matches_both_iff, matches_chain_iff, matches_chain_iff]
      constructor
      · rintro ⟨u, v, heq, first, second⟩
        cases u with
        | nil =>
          obtain rfl : c :: w = v := heq
          exact Or.inr ⟨matches_nil_iff.1 first, hq.1 second⟩
        | cons d u =>
          obtain ⟨rfl, rfl⟩ := List.cons.inj heq
          exact Or.inl ⟨u, v, rfl, hp.1 first, second⟩
      · rintro (⟨u, v, rfl, first, second⟩ | ⟨hnull, second⟩)
        · exact ⟨c :: u, v, rfl, hp.2 first, second⟩
        · exact ⟨[], c :: w, rfl, matches_nil_iff.2 hnull, hq.2 second⟩
    rw [begins, after]
    by_cases hnull : p.nullable = true
    · simp [hnull]
    · simp [hnull]

/-- **A word is accepted if and only if it belongs to the pattern.** -/
theorem accepts_iff : p.accepts w = true ↔ Matches p w := by
  induction w generalizing p with
  | nil => exact matches_nil_iff.symm
  | cons c w ih => rw [accepts_cons, ih, matches_cons_iff]

/-! ## Words -/

@[simp] theorem matches_word_iff : Matches (word v) w ↔ w = v := by
  induction v generalizing w with
  | nil => exact matches_empty_iff
  | cons c v ih =>
    have first : ∀ u, Matches (char c) u ↔ u = [c] := by simp [char, and_comm]
    change Matches (chain (char c) (word v)) w ↔ _
    simp [matches_chain_iff, first, ih]

/-- Of a list of words exactly those in the list belong. -/
@[simp] theorem matches_words_iff {ws : List String} :
    Matches (words ws) w ↔ ∃ s ∈ ws, w = s.toList := by
  induction ws with
  | nil => simp [words]
  | cons s ws ih =>
    change Matches (choice (word s.toList) (words ws)) w ↔ _
    simp [ih]

/-! ## Characters -/

/-- Whether the character can stand in a word of the pattern. -/
def admits (c : Char) : Pattern → Bool
  | nothing | empty => false
  | one test => test c
  | chain p q | choice p q => p.admits c || q.admits c
  | many p => p.admits c

/-- **In the words of a pattern stand only characters that it admits.** -/
theorem Matches.admits (h : Matches p w) (hc : c ∈ w) : p.admits c = true := by
  induction h with
  | empty | stop => cases hc
  | one passes =>
    obtain rfl := List.mem_singleton.1 hc
    exact passes
  | chain first second ihp ihq =>
    rcases List.mem_append.1 hc with hc | hc
    · simp [Pattern.admits, ihp hc]
    · simp [Pattern.admits, ihq hc]
  | left left ih => simp [Pattern.admits, ih hc]
  | right right ih => simp [Pattern.admits, ih hc]
  | more first rest ihp ihq => exact (List.mem_append.1 hc).elim ihp ihq

end EphemeralDatabase.Pattern
