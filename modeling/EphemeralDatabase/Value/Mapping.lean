/-!
# Ordered mappings

Environments, labels and container variables are mappings whose order is visible, so a mapping
is a list of pairs.  Inserting a key that is already there replaces the value and keeps the
position; a new key goes to the end.
-/

namespace EphemeralDatabase

/-- Pairs in the order of first insertion. -/
abbrev Mapping (α : Type) := List (String × α)

namespace Mapping

variable {α : Type}

/-- The value of a key. -/
def get? (m : Mapping α) (key : String) : Option α :=
  (m.find? fun pair => pair.1 == key).map Prod.snd

/-- Gives a key its value; a key that is there keeps its position. -/
def insert : Mapping α → String → α → Mapping α
  | [], key, value => [(key, value)]
  | (k, v) :: rest, key, value =>
      if k = key then (k, value) :: rest else (k, v) :: insert rest key value

/-- Inserts the pairs of the second mapping into the first, in order. -/
def update (m : Mapping α) (pairs : List (String × α)) : Mapping α :=
  pairs.foldl (fun m pair => m.insert pair.1 pair.2) m

/-- The mapping of a list of pairs that may repeat a key. -/
def ofPairs (pairs : List (String × α)) : Mapping α := update [] pairs

/-- The keys in order. -/
def keys (m : Mapping α) : List String := m.map Prod.fst

@[simp] theorem update_nil (m : Mapping α) : m.update [] = m := rfl

@[simp] theorem update_cons (m : Mapping α) (pair : String × α) (pairs : List (String × α)) :
    m.update (pair :: pairs) = (m.insert pair.1 pair.2).update pairs := rfl

/-- A key that is there keeps its place among the keys, and a new one is last. -/
theorem keys_insert (m : Mapping α) (key : String) (value : α) :
    (m.insert key value).keys = if key ∈ m.keys then m.keys else m.keys ++ [key] := by
  induction m with
  | nil => rfl
  | cons pair rest ih =>
    obtain ⟨k, v⟩ := pair
    simp only [keys, List.map_cons, insert, List.mem_cons] at ih ⊢
    by_cases h : k = key
    · simp [h]
    · have h' : ¬ key = k := fun e => h e.symm
      by_cases hr : key ∈ List.map Prod.fst rest <;> simp_all

/-- The key that was inserted has the new value. -/
theorem get?_insert_self (m : Mapping α) (key : String) (value : α) :
    (m.insert key value).get? key = some value := by
  induction m with
  | nil => simp [insert, get?]
  | cons pair rest ih =>
    obtain ⟨k, v⟩ := pair
    by_cases h : k = key
    · simp [insert, get?, h]
    · simpa [insert, get?, h] using ih

/-- Every other key has the value it had. -/
theorem get?_insert_of_ne (m : Mapping α) {key other : String} (value : α) (h : other ≠ key) :
    (m.insert key value).get? other = m.get? other := by
  induction m with
  | nil => simp [insert, get?, Ne.symm h]
  | cons pair rest ih =>
    obtain ⟨k, v⟩ := pair
    by_cases hk : k = key
    · subst hk
      simp [insert, get?, Ne.symm h]
    · by_cases ho : k = other
      · subst ho
        simp [insert, get?, hk]
      · simpa [insert, get?, hk, ho] using ih

/-- A pair that was put in gives the value, the last one with the key; without one the value is what
it was. -/
theorem get?_update (m : Mapping α) (pairs : List (String × α)) (key : String) :
    (m.update pairs).get? key = ((ofPairs pairs).get? key).or (m.get? key) := by
  induction pairs generalizing m with
  | nil => rfl
  | cons pair pairs ih =>
    have single : (m.insert pair.1 pair.2).get? key =
        ((insert [] pair.1 pair.2).get? key).or (m.get? key) := by
      by_cases h : key = pair.1
      · subst h
        rw [get?_insert_self, get?_insert_self, Option.some_or]
      · rw [get?_insert_of_ne _ _ h, get?_insert_of_ne _ _ h]
        rfl
    rw [update_cons, ih, single, ← Option.or_assoc, ← ih]
    rfl

/-- Taking away other keys does not change what a key has. -/
theorem get?_filter {m : Mapping α} {key : String} {p : String × α → Bool}
    (h : ∀ pair ∈ m, pair.1 = key → p pair = true) : get? (m.filter p) key = m.get? key := by
  induction m with
  | nil => rfl
  | cons pair rest ih =>
    have hrest := ih fun q hq => h q (List.mem_cons_of_mem _ hq)
    by_cases hkey : pair.1 = key
    · rw [List.filter_cons_of_pos (h pair List.mem_cons_self hkey)]
      simp [get?, hkey]
    · have hskip : get? (pair :: rest) key = get? rest key := by simp [get?, hkey]
      by_cases hp : p pair = true
      · rw [List.filter_cons_of_pos hp, hskip, ← hrest]
        simp [get?, hkey]
      · rw [List.filter_cons_of_neg hp, hskip, hrest]

/-! ### Keys that occur once -/

/-- A key that is not there goes to the end. -/
theorem insert_of_notMem {m : Mapping α} {key : String} (value : α) (h : key ∉ m.keys) :
    m.insert key value = m ++ [(key, value)] := by
  induction m with
  | nil => rfl
  | cons pair rest ih =>
    obtain ⟨k, v⟩ := pair
    simp only [keys, List.map_cons, List.mem_cons, not_or] at h ih
    simp [insert, Ne.symm h.1, ih h.2]

/-- A key that has the value already leaves everything as it is. -/
theorem insert_of_get? {m : Mapping α} {key : String} {value : α}
    (h : m.get? key = some value) : m.insert key value = m := by
  induction m with
  | nil => simp [get?] at h
  | cons pair rest ih =>
    obtain ⟨k, v⟩ := pair
    by_cases hk : k = key
    · obtain rfl : v = value := by simpa [get?, hk] using h
      simp [insert, hk]
    · have hrest : get? rest key = some value := by simpa [get?, hk] using h
      simp [insert, hk, ih hrest]

/-- A key has the value that stands beside it, if it occurs once. -/
theorem get?_of_mem {m : Mapping α} (once : m.keys.Nodup) {key : String} {value : α}
    (h : (key, value) ∈ m) : m.get? key = some value := by
  induction m with
  | nil => cases h
  | cons pair rest ih =>
    obtain ⟨k, v⟩ := pair
    obtain ⟨hfirst, hrest⟩ := List.nodup_cons.1 once
    rcases List.mem_cons.1 h with heq | h
    · cases heq
      simp [get?]
    · have hne : k ≠ key := by
        rintro rfl
        exact hfirst (List.mem_map.2 ⟨_, h, rfl⟩)
      simpa [get?, hne] using ih hrest h

/-- A value of a key stands beside it. -/
theorem mem_of_get? {m : Mapping α} {key : String} {value : α} (h : m.get? key = some value) :
    (key, value) ∈ m := by
  obtain ⟨pair, hfind, rfl⟩ := Option.map_eq_some_iff.1 h
  have hkey : pair.1 = key := by simpa using List.find?_some hfind
  exact hkey ▸ List.mem_of_find?_eq_some hfind

/-- If keys occur once, what a key has is what stands beside it. -/
theorem get?_eq_some_iff {m : Mapping α} (once : m.keys.Nodup) {key : String} {value : α} :
    m.get? key = some value ↔ (key, value) ∈ m :=
  ⟨mem_of_get?, get?_of_mem once⟩

theorem get?_eq_none_iff {m : Mapping α} {key : String} : m.get? key = none ↔ key ∉ m.keys := by
  simp only [get?, keys, Option.map_eq_none_iff, List.find?_eq_none, List.mem_map, beq_iff_eq]
  exact ⟨fun h ⟨pair, hmem, hkey⟩ => h pair hmem hkey, fun h pair hmem hkey => h ⟨pair, hmem, hkey⟩⟩

/-- Inserting keeps every key to one occurrence. -/
theorem keys_nodup_insert {m : Mapping α} (once : m.keys.Nodup) (key : String) (value : α) :
    (m.insert key value).keys.Nodup := by
  rw [keys_insert]
  split
  · exact once
  · rename_i hkey
    refine List.nodup_append.2 ⟨once, by simp, fun k hk j hj hkj => hkey ?_⟩
    obtain rfl : j = key := by simpa using hj
    exact hkj ▸ hk

theorem keys_nodup_update {m : Mapping α} (once : m.keys.Nodup) (pairs : List (String × α)) :
    (m.update pairs).keys.Nodup := by
  induction pairs generalizing m with
  | nil => exact once
  | cons pair pairs ih => exact ih (keys_nodup_insert once pair.1 pair.2)

/-- The keys of both, those of the first in their places and new ones behind them. -/
theorem keys_update (m : Mapping α) {pairs : List (String × α)} (once : (keys pairs).Nodup) :
    (m.update pairs).keys = m.keys ++ (keys pairs).filter fun key => key ∉ m.keys := by
  induction pairs generalizing m with
  | nil => simp [keys]
  | cons pair pairs ih =>
    obtain ⟨hfirst, hrest⟩ := List.nodup_cons.1 once
    have hkeys : keys (pair :: pairs) = pair.1 :: keys pairs := rfl
    rw [update_cons, ih _ hrest, keys_insert, hkeys]
    by_cases hkey : pair.1 ∈ m.keys
    · simp [hkey]
    · have hothers : ((keys pairs).filter fun key => key ∉ m.keys ++ [pair.1]) =
          (keys pairs).filter fun key => key ∉ m.keys := by
        refine List.filter_congr fun key hmem => ?_
        have hne : key ≠ pair.1 := by
          rintro rfl
          exact hfirst hmem
        simp [hne]
      rw [if_neg hkey, hothers]
      simp [hkey]

/-- Pairs with keys of their own go behind the others as they are. -/
theorem update_of_nodup {m : Mapping α} {pairs : List (String × α)}
    (once : (m ++ pairs).keys.Nodup) : m.update pairs = m ++ pairs := by
  induction pairs generalizing m with
  | nil => simp
  | cons pair pairs ih =>
    have hsplit : m ++ pair :: pairs = (m ++ [pair]) ++ pairs := by simp
    have hkey : pair.1 ∉ m.keys := by
      simp only [keys, List.map_append, List.map_cons] at once
      exact fun hmem => (List.nodup_append.1 once).2.2 _ hmem _ List.mem_cons_self rfl
    rw [update_cons, insert_of_notMem pair.2 hkey, ih (hsplit ▸ once), hsplit]

/-- Pairs that repeat no key are a mapping already. -/
theorem ofPairs_of_nodup {pairs : List (String × α)} (once : (keys pairs).Nodup) :
    ofPairs pairs = pairs :=
  update_of_nodup (m := []) once

/-- Pairs that say what is known already change nothing. -/
theorem update_of_forall_get? {m : Mapping α} {pairs : List (String × α)}
    (h : ∀ pair ∈ pairs, m.get? pair.1 = some pair.2) : m.update pairs = m := by
  induction pairs with
  | nil => rfl
  | cons pair pairs ih =>
    rw [update_cons, insert_of_get? (h pair List.mem_cons_self)]
    exact ih fun q hq => h q (List.mem_cons_of_mem _ hq)

end Mapping

end EphemeralDatabase
