import EphemeralDatabase.Text.Blank
import Mathlib.Data.List.TakeWhile

/-!
# What is left of trimmed text

A word is bare when it neither begins nor ends with a blank.  Trimming takes the blanks at both
ends away: what is left is bare, and nothing but blanks stood around it (`trimBoth_eq_iff`).  Every
word has one such bare part and no other.
-/

namespace EphemeralDatabase

variable {blank : Char → Bool} {word said : List Char}

/-- Neither the first nor the last character is blank. -/
structure Bare (blank : Char → Bool) (word : List Char) : Prop where
  first : ∀ c ∈ word.head?, blank c = false
  last : ∀ c ∈ word.getLast?, blank c = false

/-- Nothing but blanks stands around a part of a word. -/
def Surrounds (blank : Char → Bool) (word said : List Char) : Prop :=
  ∃ before after, word = before ++ said ++ after ∧ (∀ c ∈ before, blank c) ∧ ∀ c ∈ after, blank c

theorem head?_dropWhile (blank : Char → Bool) (word : List Char) :
    ∀ c ∈ (word.dropWhile blank).head?, blank c = false := fun c hc => by
  have h := List.head?_dropWhile_not blank word
  rw [Option.mem_def.1 hc] at h
  simpa using h

theorem dropWhile_of_bare (h : ∀ c ∈ word.head?, blank c = false) :
    word.dropWhile blank = word := by
  cases word with
  | nil => rfl
  | cons c cs => exact List.dropWhile_cons_of_neg (by simp [h c rfl])

theorem bare_trimBoth (blank : Char → Bool) (word : List Char) :
    Bare blank (trimBoth blank word) where
  first c hc := by
    -- what the second pass takes away stands behind the first character
    obtain ⟨after, hafter⟩ := List.dropWhile_suffix blank (l := (word.dropWhile blank).reverse)
    have happend : trimBoth blank word ++ after.reverse = word.dropWhile blank := by
      rw [trimBoth, ← List.reverse_append, hafter, List.reverse_reverse]
    refine head?_dropWhile blank word c ?_
    rw [← happend, List.head?_append, Option.mem_def.1 hc]
    rfl
  last c hc := by
    rw [trimBoth, List.getLast?_reverse] at hc
    exact head?_dropWhile blank _ c hc

theorem surrounds_trimBoth (blank : Char → Bool) (word : List Char) :
    Surrounds blank word (trimBoth blank word) := by
  refine ⟨word.takeWhile blank, ((word.dropWhile blank).reverse.takeWhile blank).reverse, ?_,
    fun c hc => List.mem_takeWhile_imp hc, fun c hc => ?_⟩
  · rw [List.append_assoc, trimBoth, ← List.reverse_append, List.takeWhile_append_dropWhile,
      List.reverse_reverse, List.takeWhile_append_dropWhile]
  · exact List.mem_takeWhile_imp (List.mem_reverse.1 hc)

/-- **Trimming leaves the bare part that only blanks surround.** -/
theorem trimBoth_eq_iff :
    trimBoth blank word = said ↔ Bare blank said ∧ Surrounds blank word said := by
  constructor
  · rintro rfl
    exact ⟨bare_trimBoth blank word, surrounds_trimBoth blank word⟩
  · rintro ⟨bare, before, after, rfl, hbefore, hafter⟩
    have hend : ∀ c ∈ after.reverse, blank c := fun c hc => hafter c (List.mem_reverse.1 hc)
    rw [trimBoth, List.append_assoc, List.dropWhile_append_of_pos hbefore]
    cases said with
    | nil =>
      have hnone : after.dropWhile blank = [] := List.dropWhile_eq_nil_iff.2 hafter
      rw [List.nil_append, hnone]
      rfl
    | cons c cs =>
      have hlast : ∀ c' ∈ (c :: cs).reverse.head?, blank c' = false := fun c' hc' =>
        bare.last c' (by rwa [List.head?_reverse] at hc')
      have hfirst : ((c :: cs) ++ after).dropWhile blank = (c :: cs) ++ after :=
        dropWhile_of_bare bare.first
      rw [hfirst, List.reverse_append, List.dropWhile_append_of_pos hend, dropWhile_of_bare hlast,
        List.reverse_reverse]

/-- Nothing is left of blanks, and only of them. -/
theorem trimBoth_eq_nil_iff : trimBoth blank word = [] ↔ ∀ c ∈ word, blank c := by
  rw [trimBoth, List.reverse_eq_nil_iff, List.dropWhile_eq_nil_iff]
  constructor
  · intro h
    have hword : word.dropWhile blank = [] := by
      by_contra hne
      obtain ⟨c, cs, hcs⟩ := List.exists_cons_of_ne_nil hne
      have hfirst := head?_dropWhile blank word c (by rw [hcs]; rfl)
      have hblank := h c (by simp [hcs])
      simp [hfirst] at hblank
    exact List.dropWhile_eq_nil_iff.1 hword
  · exact fun h c hc => h c ((List.dropWhile_suffix blank).mem (List.mem_reverse.1 hc))

end EphemeralDatabase
