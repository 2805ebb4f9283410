import EphemeralDatabase.Resource.Manifest
import Mathlib.Data.List.Forall2
import Mathlib.Data.List.Nodup
import Mathlib.Tactic.Common

/-!
# Manifests that say the same

Two manifests say the same if they are equal as nested mappings and lists (`Manifest.Same`): lists
are compared entry by entry, and mappings key by key, in whatever order the keys stand.  A key that
is missing is not a key with an empty value.

A field is looked up by its name, so what is found in manifests that say the same says the same
again (`Same.get?`), and texts, numbers and lists in them are equal (`Same.textAt?`,
`Same.numberAt?`, `Same.entriesAt`).  Only a mapping of texts can be told apart when it is written
down as a list of pairs, and then by nothing but the order of the pairs (`Same.perm_pairs`).
-/

namespace EphemeralDatabase

open Mapping (keys)

namespace Manifest

/-- **Equal as nested mappings and lists.** -/
inductive Same : Manifest → Manifest → Prop
  | text (s : String) : Same (.text s) (.text s)
  | number (n : Int) : Same (.number n) (.number n)
  | items {ms ms' : List Manifest} (entries : List.Forall₂ Same ms ms') :
      Same (.items ms) (.items ms')
  | fields {fs fs' : List (String × Manifest)} (known : ∀ key, key ∈ keys fs ↔ key ∈ keys fs')
      (value : ∀ key m m', Mapping.get? fs key = some m → Mapping.get? fs' key = some m' →
        Same m m') : Same (.fields fs) (.fields fs')

/-- The text of a field. -/
def textAt? (m : Manifest) (key : String) : Option String := (m.get? key).bind text?

/-- The number of a field. -/
def numberAt? (m : Manifest) (key : String) : Option Int := (m.get? key).bind number?

/-- The entries of the list in a field; none if there is no such field. -/
def entriesAt (m : Manifest) (key : String) : List Manifest := ((m.get? key).map entries).getD []

/-- The fields of a mapping of texts. -/
def ofTexts (pairs : List (String × String)) : Manifest :=
  fields (pairs.map fun pair => (pair.1, text pair.2))

/-- The pairs that fields with texts are made of. -/
def textFields? : List (String × Manifest) → Option (List (String × String))
  | [] => some []
  | (key, text s) :: fs => (textFields? fs).map ((key, s) :: ·)
  | _ => none

/-- The pairs of a mapping of texts. -/
def pairs? : Manifest → Option (List (String × String))
  | fields fs => textFields? fs
  | _ => none

theorem get?_ofTexts (pairs : List (String × String)) (key : String) :
    (ofTexts pairs).get? key = (Mapping.get? pairs key).map text := by
  induction pairs with
  | nil => rfl
  | cons pair pairs ih =>
    by_cases hkey : pair.1 = key
    · simp [ofTexts, Manifest.get?, Mapping.get?, hkey]
    · simpa [ofTexts, Manifest.get?, Mapping.get?, hkey] using ih

/-- A mapping of texts is written down as it is if it repeats no key. -/
theorem ofPairs_of_nodup {pairs : List (String × String)} (once : (keys pairs).Nodup) :
    ofPairs pairs = ofTexts pairs := by
  rw [ofPairs, Mapping.ofPairs_of_nodup once, ofTexts]

theorem textFields?_eq_some_iff {fs : List (String × Manifest)} {pairs : List (String × String)} :
    textFields? fs = some pairs ↔ fs = pairs.map fun pair => (pair.1, text pair.2) := by
  induction fs generalizing pairs with
  | nil => cases pairs <;> simp [textFields?]
  | cons field fs ih =>
    obtain ⟨key, m⟩ := field
    cases m with
    | text s =>
      cases pairs with
      | nil => simp [textFields?]
      | cons pair pairs =>
        obtain ⟨key', s'⟩ := pair
        simp [textFields?, Option.map_eq_some_iff, ih, and_comm]
    | number | items | fields => cases pairs <;> simp [textFields?]

/-- The pairs of a mapping of texts are those that it was made of. -/
theorem pairs?_eq_some_iff {m : Manifest} {pairs : List (String × String)} :
    m.pairs? = some pairs ↔ m = ofTexts pairs := by
  cases m with
  | fields fs => simp [pairs?, ofTexts, textFields?_eq_some_iff]
  | text | number | items => simp [pairs?, ofTexts]

namespace Same

variable {m m' : Manifest}

/-! ## What is found in manifests that say the same -/

theorem text? (h : Same m m') : m.text? = m'.text? := by
  cases h <;> rfl

theorem number? (h : Same m m') : m.number? = m'.number? := by
  cases h <;> rfl

theorem entries (h : Same m m') : List.Forall₂ Same m.entries m'.entries := by
  cases h with
  | items h => exact h
  | text | number | fields => exact .nil

/-- **A field is missing in both, or says the same in both.** -/
theorem get? (h : Same m m') (key : String) :
    (m.get? key = none ∧ m'.get? key = none) ∨
      ∃ x x', m.get? key = some x ∧ m'.get? key = some x' ∧ Same x x' := by
  cases h with
  | text | number | items => exact Or.inl ⟨rfl, rfl⟩
  | @fields fs fs' known value =>
    have hknown := known key
    cases hx : Mapping.get? fs key with
    | none =>
      rw [Mapping.get?_eq_none_iff, hknown, ← Mapping.get?_eq_none_iff] at hx
      exact Or.inl ⟨Mapping.get?_eq_none_iff.2 fun hmem =>
        Mapping.get?_eq_none_iff.1 hx (hknown.1 hmem), hx⟩
    | some x =>
      cases hx' : Mapping.get? fs' key with
      | none =>
        rw [Mapping.get?_eq_none_iff, ← hknown, ← Mapping.get?_eq_none_iff, hx] at hx'
        cases hx'
      | some x' => exact Or.inr ⟨x, x', hx, hx', value key x x' hx hx'⟩

/-- What a field holds in both says the same. -/
theorem of_get? {key : String} {x x' : Manifest} (h : Same m m') (hx : m.get? key = some x)
    (hx' : m'.get? key = some x') : Same x x' := by
  rcases h.get? key with ⟨hnone, -⟩ | ⟨y, y', hy, hy', same⟩
  · rw [hnone] at hx
    cases hx
  · obtain rfl : y = x := Option.some.inj (hy.symm.trans hx)
    obtain rfl : y' = x' := Option.some.inj (hy'.symm.trans hx')
    exact same

/-- Whatever is equal in manifests that say the same is equal in their fields. -/
theorem bind_get? {α : Type} {f : Manifest → Option α} (hf : ∀ x x', Same x x' → f x = f x')
    (h : Same m m') (key : String) : (m.get? key).bind f = (m'.get? key).bind f := by
  rcases h.get? key with ⟨hx, hx'⟩ | ⟨x, x', hx, hx', same⟩
  · rw [hx, hx']
  · rw [hx, hx']
    exact hf x x' same

theorem textAt? (h : Same m m') (key : String) : m.textAt? key = m'.textAt? key :=
  h.bind_get? (fun _ _ => text?) key

theorem numberAt? (h : Same m m') (key : String) : m.numberAt? key = m'.numberAt? key :=
  h.bind_get? (fun _ _ => number?) key

theorem entriesAt (h : Same m m') (key : String) :
    List.Forall₂ Same (m.entriesAt key) (m'.entriesAt key) := by
  unfold Manifest.entriesAt
  rcases h.get? key with ⟨hx, hx'⟩ | ⟨x, x', hx, hx', same⟩
  · rw [hx, hx']
    exact .nil
  · rw [hx, hx']
    exact same.entries

/-- **Pairs that say the same differ in their order only.** -/
theorem perm_pairs {pairs pairs' : List (String × String)} (once : (keys pairs).Nodup)
    (once' : (keys pairs').Nodup) (h : Same (ofTexts pairs) (ofTexts pairs')) :
    pairs.Perm pairs' := by
  have hnodup : pairs.Nodup := .of_map _ once
  have hnodup' : pairs'.Nodup := .of_map _ once'
  refine (List.perm_ext_iff_of_nodup hnodup hnodup').2 fun pair => ?_
  rw [← Mapping.get?_eq_some_iff once, ← Mapping.get?_eq_some_iff once']
  have hfield := h.get? pair.1
  simp only [get?_ofTexts, Option.map_eq_none_iff, Option.map_eq_some_iff] at hfield
  rcases hfield with ⟨hx, hx'⟩ | ⟨_, _, ⟨s, hs, rfl⟩, ⟨s', hs', rfl⟩, same⟩
  · rw [hx, hx']
  · obtain rfl : s = s' := Option.some.inj same.text?
    rw [hs, hs']

/-- What is read for a mapping of texts differs in its order only. -/
theorem perm_of_pairs? {pairs pairs' : List (String × String)} (h : Same m m')
    (hm : m.pairs? = some pairs) (hm' : m'.pairs? = some pairs') (once : (keys pairs).Nodup)
    (once' : (keys pairs').Nodup) : pairs.Perm pairs' := by
  rw [pairs?_eq_some_iff] at hm hm'
  exact perm_pairs once once' (hm ▸ hm' ▸ h)

/-- Lists that say the same are read the same if their entries are. -/
theorem mapM_eq {α : Type} {read : Manifest → Option α}
    (hread : ∀ m m', Same m m' → read m = read m') {ms ms' : List Manifest}
    (h : List.Forall₂ Same ms ms') : ms.mapM read = ms'.mapM read := by
  induction h with
  | nil => rfl
  | cons first _ ih => simp only [List.mapM_cons, hread _ _ first, ih]

/-! ## Manifests that say the same as others -/

/-- Every manifest says the same as itself. -/
theorem refl : ∀ m : Manifest, Same m m
  | .text s => .text s
  | .number n => .number n
  | .items ms => .items (List.forall₂_same.2 fun m _ => refl m)
  | .fields fs => .fields (fun _ => Iff.rfl) fun key m m' h h' => by
      have hmem := Mapping.mem_of_get? h
      obtain rfl : m = m' := Option.some.inj (h.symm.trans h')
      exact refl m
termination_by m => sizeOf m
decreasing_by
  · have := List.sizeOf_lt_of_mem ‹m ∈ ms›
    simp only [Manifest.items.sizeOf_spec]
    omega
  · have := List.sizeOf_lt_of_mem hmem
    simp only [Manifest.fields.sizeOf_spec, Prod.mk.sizeOf_spec] at this ⊢
    omega

/-- The same pairs in another order say the same. -/
theorem of_perm {pairs pairs' : List (String × String)} (once : (keys pairs).Nodup)
    (h : pairs.Perm pairs') : Same (ofTexts pairs) (ofTexts pairs') := by
  have hkeys : (keys pairs).Perm (keys pairs') := h.map Prod.fst
  refine .fields (fun key => by simpa [keys] using hkeys.mem_iff) fun key m m' hm hm' => ?_
  have hget : Mapping.get? pairs key = Mapping.get? pairs' key := by
    refine Option.ext fun s => ?_
    rw [Mapping.get?_eq_some_iff once, Mapping.get?_eq_some_iff (hkeys.nodup_iff.1 once),
      h.mem_iff]
  have hfields : (ofTexts pairs).get? key = (ofTexts pairs').get? key := by
    rw [get?_ofTexts, get?_ofTexts, hget]
  obtain rfl : m = m' := Option.some.inj (hm.symm.trans (hfields.trans hm'))
  exact refl m

/-- Pairs in another order make mappings that say the same. -/
theorem ofPairs {pairs pairs' : List (String × String)} (once : (keys pairs).Nodup)
    (h : pairs.Perm pairs') : Same (.ofPairs pairs) (.ofPairs pairs') := by
  have hkeys : (keys pairs).Perm (keys pairs') := h.map Prod.fst
  rw [ofPairs_of_nodup once, ofPairs_of_nodup (hkeys.nodup_iff.1 once)]
  exact of_perm once h

/-- Fields that say the same one by one. -/
theorem of_forall₂ {fs fs' : List (String × Manifest)}
    (h : List.Forall₂ (fun f f' => f.1 = f'.1 ∧ Same f.2 f'.2) fs fs') :
    Same (Manifest.fields fs) (Manifest.fields fs') := by
  have hkeys : keys fs = keys fs' := by
    induction h with
    | nil => rfl
    | cons hfirst _ ih => simpa [keys] using ⟨hfirst.1, ih⟩
  refine .fields (fun key => by rw [hkeys]) fun key m m' hm hm' => ?_
  clear hkeys
  induction h with
  | nil => simp [Mapping.get?] at hm
  | @cons f f' fs fs' hfirst _ ih =>
    by_cases hkey : f.1 = key
    · have hkey' : f'.1 = key := hfirst.1.symm.trans hkey
      obtain rfl : f.2 = m := by simpa [Mapping.get?, hkey] using hm
      obtain rfl : f'.2 = m' := by simpa [Mapping.get?, hkey'] using hm'
      exact hfirst.2
    · have hkey' : ¬ f'.1 = key := fun h => hkey (hfirst.1.trans h)
      exact ih (by simpa [Mapping.get?, hkey] using hm) (by simpa [Mapping.get?, hkey'] using hm')

end Same

end Manifest

end EphemeralDatabase
