import EphemeralDatabase.Console.Markup
import Mathlib.Data.List.Basic
import Mathlib.Tactic.Common

/-!
# Pictographs and markup

Names of pictographs are replaced in text whose markup has been dealt with.  What comes in their
place could still be taken for markup or for a name, or be dropped as a control character.  It is
not: the rows of the table have no such character (`Pictograph.table_inert`), and so no pictograph
has one (`Pictograph.inert_of_shown?`).
-/

namespace EphemeralDatabase

/-- The words of a text are made of its characters. -/
theorem mem_of_mem_blankWords {text word : String} (h : word ∈ blankWords text) {c : Char}
    (hc : c ∈ word.toList) : c ∈ text.toList := by
  unfold blankWords at h
  obtain ⟨w, hw, rfl⟩ := List.mem_map.1 h
  rw [String.toList_ofList] at hc
  refine List.foldrRecOn (motive := fun words => ∀ w ∈ words, ∀ c ∈ w, c ∈ text.toList)
    text.toList _ nofun ?_ w (List.mem_of_mem_filter hw) c hc
  -- One more character begins a word, or is added to the first one.
  intro words ih d hd
  cases words with
  | nil =>
    dsimp only
    split <;> simp [hd]
  | cons word rest =>
    obtain ⟨hword, hrest⟩ := List.forall_mem_cons.1 ih
    dsimp only
    split
    · split
      · exact ih
      · exact List.forall_mem_cons.2 ⟨nofun, ih⟩
    · exact List.forall_mem_cons.2 ⟨List.forall_mem_cons.2 ⟨hd, hword⟩, hrest⟩

namespace Pictograph

/-- Whether a character is printed as itself, unless it is in a tag or in the name of a pictograph,
and begins neither. -/
def isInert (c : Char) : Bool :=
  c != '[' && c != '\\' && c != ':' && c != '\t' && !Markup.isControl c

/-- The rows of the table are inert throughout. -/
theorem table_inert : ∀ row ∈ table, row.toList.all isInert = true := by
  unfold table
  repeat refine List.forall_mem_cons.2 ⟨by rw [String.toList_ofList]; rfl, ?_⟩
  exact fun _ h => nomatch h

variable {c : Char} {cs : List Char}

theorem mem_of_lookUp {name picture : String} :
    ∀ {words : List String}, lookUp name words = some picture → picture ∈ words
  | known :: other :: rest, h => by
    unfold lookUp at h
    split at h
    · obtain rfl : other = picture := Option.some.inj h
      simp
    · exact List.mem_cons_of_mem _ (List.mem_cons_of_mem _ (mem_of_lookUp h))

/-- The pictograph of a name is inert. -/
theorem inert_of_ofName? {name picture : String} (h : ofName? name = some picture) :
    ∀ c ∈ picture.toList, isInert c = true := by
  obtain ⟨row, hrow, hword⟩ := List.mem_flatMap.1 (mem_of_lookUp h)
  intro c hc
  exact List.all_eq_true.1 (table_inert row hrow) c (mem_of_mem_blankWords hword hc)

theorem inert_of_shown? {inside picture : List Char} (h : shown? inside = some picture) :
    ∀ c ∈ picture, isInert c = true := by
  unfold shown? at h
  split at h
  · rename_i suffix mark hfind
    obtain ⟨found, hfound, rfl⟩ := Option.map_eq_some_iff.1 h
    have hmark : isInert mark = true := by
      have hmem := List.mem_of_find?_eq_some hfind
      simp only [presentations, List.mem_cons, Prod.mk.injEq, List.not_mem_nil, or_false] at hmem
      rcases hmem with ⟨-, rfl⟩ | ⟨-, rfl⟩ <;> decide
    intro c hc
    rcases List.mem_append.1 hc with hc | hc
    · exact inert_of_ofName? hfound c hc
    · rw [List.mem_singleton.1 hc]
      exact hmark
  · obtain ⟨found, hfound, rfl⟩ := Option.map_eq_some_iff.1 h
    exact inert_of_ofName? hfound

/-- The characters between two colons, and what comes after them. -/
theorem eq_of_name {rest : List Char} (h : (rest.drop (nameOf rest).length).head? = some ':') :
    rest = nameOf rest ++ ':' :: rest.drop ((nameOf rest).length + 1) := by
  obtain ⟨more, hmore⟩ := List.head?_eq_some_iff.1 h
  have hafter : rest.drop ((nameOf rest).length + 1) = more := by
    rw [← List.drop_drop, hmore]
    rfl
  have htake : rest.take (nameOf rest).length = nameOf rest :=
    (List.prefix_iff_eq_take.1 (List.takeWhile_prefix _)).symm
  calc rest
      = rest.take (nameOf rest).length ++ rest.drop (nameOf rest).length :=
        (List.take_append_drop _ rest).symm
    _ = nameOf rest ++ ':' :: rest.drop ((nameOf rest).length + 1) := by
        rw [htake, hmore, hafter]

theorem replaced_append {before rest : List Char} (h : ':' ∉ before) :
    replaced (before ++ rest) = before ++ replaced rest := by
  induction before with
  | nil => rfl
  | cons c before ih =>
    have hc : c ≠ ':' := fun e => h (e ▸ List.mem_cons_self)
    rw [List.cons_append, replaced, if_neg (by simp [hc]), ih (List.not_mem_of_not_mem_cons h)]
    rfl

/-- No name begins at a colon with a space after it. -/
theorem replaced_of_space (rest : List Char) :
    replaced (':' :: ' ' :: rest) = ':' :: replaced (' ' :: rest) := by
  have hname : nameOf (' ' :: rest) = [] := by simp [nameOf, isBlank, isWhiteSpace]
  rw [replaced, if_neg (by simp [hname])]

/-- No name begins at the last colon. -/
theorem replaced_of_last {rest : List Char} (h : ':' ∉ rest) :
    replaced (':' :: rest) = ':' :: rest := by
  have hend : (rest.drop (nameOf rest).length).head? ≠ some ':' := fun hcolon =>
    h (List.mem_of_mem_drop (List.mem_of_mem_head? hcolon))
  rw [replaced, if_neg fun hname => hend hname.2, replaced_of_notMem h]

end Pictograph

end EphemeralDatabase
