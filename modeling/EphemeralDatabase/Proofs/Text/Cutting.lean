import Mathlib.Data.List.Basic
import Mathlib.Tactic.Common

/-!
# Cutting texts

A text is cut at the first place where a mark stands.  What is cut can be put together again
(`eq_of_cutAt?`), and a text is cut where a mark is put into it if the mark's first character does
not stand before (`cutAt?_of_notMem`).

A mark of one character may be missing, and then all of the text stands before it (`cut`).  The cut
of a text is the one way to part it at the character without leaving one in the first part
(`cut_eq_iff`).
-/

namespace EphemeralDatabase

variable {c : Char} {mark before after cs : List Char}

/-! ## Cutting at a mark -/

/-- The text before the first place where the mark stands, and the text after the mark. -/
def cutAt? (mark : List Char) (cs : List Char) : Option (List Char × List Char) :=
  if mark.isPrefixOf cs then some ([], cs.drop mark.length)
  else match cs with
    | [] => none
    | c :: cs => (cutAt? mark cs).map fun (before, after) => (c :: before, after)

/-- The two parts of a text with the mark between them are the text. -/
theorem eq_of_cutAt? (h : cutAt? mark cs = some (before, after)) :
    before ++ mark ++ after = cs := by
  induction cs generalizing before with
  | nil =>
    rw [cutAt?.eq_def] at h
    split at h
    · rename_i hhere
      obtain ⟨rfl, rfl⟩ : [] = before ∧ [] = after := by simpa using h
      simpa using hhere
    · cases h
  | cons c cs ih =>
    rw [cutAt?.eq_def] at h
    split at h
    · rename_i hhere
      obtain ⟨rfl, rfl⟩ : [] = before ∧ (c :: cs).drop mark.length = after := by simpa using h
      exact List.prefix_iff_eq_append.1 (List.isPrefixOf_iff_prefix.1 hhere)
    · obtain ⟨⟨before', after'⟩, hrest, hpair⟩ := Option.map_eq_some_iff.1 h
      obtain ⟨rfl, rfl⟩ : c :: before' = before ∧ after' = after := by simpa using hpair
      rw [List.cons_append, List.cons_append, ih hrest]

/-- A mark is not found before its first character stands somewhere. -/
theorem cutAt?_of_notMem (h : c ∉ before) :
    cutAt? (c :: mark) (before ++ (c :: mark) ++ after) = some (before, after) := by
  induction before with
  | nil =>
    have hhere : (c :: mark).isPrefixOf ((c :: mark) ++ after) = true := by simp
    rw [cutAt?.eq_def, List.nil_append, if_pos hhere, List.drop_left]
  | cons d before ih =>
    obtain ⟨hne, hrest⟩ := not_or.1 (mt List.mem_cons.2 h)
    have hthere : ¬ (c :: mark).isPrefixOf (d :: (before ++ (c :: mark) ++ after)) = true := by
      simp [hne]
    rw [List.cons_append, List.cons_append, cutAt?.eq_def, if_neg hthere]
    simp only [ih hrest, Option.map_some]

/-- Where the first character of a mark does not stand the mark is not found. -/
theorem cutAt?_eq_none (h : c ∉ cs) : cutAt? (c :: mark) cs = none := by
  cases hcut : cutAt? (c :: mark) cs with
  | none => rfl
  | some parts =>
    rw [← eq_of_cutAt? hcut] at h
    simp at h

/-! ## Cutting at a character -/

/-- The text before the first place of a character, and the text after it if it is there. -/
def cut (c : Char) (cs : List Char) : List Char × Option (List Char) :=
  match cutAt? [c] cs with
  | some (before, after) => (before, some after)
  | none => (cs, none)

/-- The text before and after a character that stands in the text exactly once. -/
def cutOnly? (c : Char) (cs : List Char) : Option (List Char × List Char) :=
  (cutAt? [c] cs).filter fun (_, after) => c ∉ after

/-- A part of a text with the character before it that tells it apart, if the part is there. -/
def marked (c : Char) : Option (List Char) → List Char
  | none => []
  | some cs => c :: cs

theorem cutOnly?_of_notMem (hbefore : c ∉ before) (hafter : c ∉ after) :
    cutOnly? c (before ++ c :: after) = some (before, after) := by
  have hcut : cutAt? [c] (before ++ [c] ++ after) = some (before, after) :=
    cutAt?_of_notMem hbefore
  rw [List.append_assoc, List.singleton_append] at hcut
  rw [cutOnly?, hcut, Option.filter_some, if_pos (by simpa using hafter)]

variable {part : Option (List Char)}

theorem cut_marked (h : c ∉ before) : cut c (before ++ marked c part) = (before, part) := by
  cases part with
  | none => rw [marked, List.append_nil, cut, cutAt?_eq_none h]
  | some after =>
    have hcut : cutAt? [c] (before ++ [c] ++ after) = some (before, after) := cutAt?_of_notMem h
    rw [List.append_assoc, List.singleton_append] at hcut
    rw [marked, cut, hcut]

/-- A text is its beginning up to the first place of a character, and what stands from there on. -/
theorem exists_marked (c : Char) (cs : List Char) :
    ∃ before part, c ∉ before ∧ before ++ marked c part = cs := by
  by_cases h : c ∈ cs
  · obtain ⟨before, after, rfl, hbefore⟩ := List.eq_append_cons_of_mem h
    exact ⟨before, some after, hbefore, rfl⟩
  · exact ⟨cs, none, h, List.append_nil cs⟩

/-- **A text is cut at a character in the one way that leaves none in the first part.** -/
theorem cut_eq_iff : cut c cs = (before, part) ↔ c ∉ before ∧ before ++ marked c part = cs := by
  constructor
  · intro h
    obtain ⟨before', part', hbefore, rfl⟩ := exists_marked c cs
    obtain ⟨rfl, rfl⟩ := Prod.mk.inj ((cut_marked hbefore).symm.trans h)
    exact ⟨hbefore, rfl⟩
  · rintro ⟨hbefore, rfl⟩
    exact cut_marked hbefore

theorem marked_cut (c : Char) (cs : List Char) : (cut c cs).1 ++ marked c (cut c cs).2 = cs :=
  (cut_eq_iff.1 rfl).2

/-- Where the character is already found, nothing is changed by what follows. -/
theorem cut_append (h : c ∈ cs) (more : List Char) :
    ∃ rest, cut c (cs ++ more) = ((cut c cs).1, some (rest ++ more)) := by
  obtain ⟨before, after, rfl, hbefore⟩ := List.eq_append_cons_of_mem h
  have hcut : cut c (before ++ c :: after) = (before, some after) :=
    cut_eq_iff.2 ⟨hbefore, rfl⟩
  refine ⟨after, cut_eq_iff.2 ⟨by rwa [hcut], ?_⟩⟩
  rw [hcut, marked, List.append_assoc, List.cons_append]

theorem notMem_marked {d : Char} (hd : d ≠ c) (h : ∀ cs ∈ part, d ∉ cs) : d ∉ marked c part := by
  cases part with
  | none => exact List.not_mem_nil
  | some cs => exact List.not_mem_cons_of_ne_of_not_mem hd (h cs rfl)

end EphemeralDatabase
