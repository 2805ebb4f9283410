import EphemeralDatabase.Proofs.Settings.Table

/-!
# Settings that are read once more

Overrides are applied to a group by building it a second time, with all of its present values as
keywords and the overrides in their place.  Every setting is stable, so in the second reading an
override counts as it would have in the first and every other setting keeps its value
(`Setting.read_again`).  The container variables are merged with those of the environment once
more, which changes nothing because the first reading put them in (`Source.readVariables_again`).
So a group with overrides is what can be built from the overrides at once
(`ClusterSettings.rebuild_eq`, `DatabaseSettings.rebuild_eq`, `PollSettings.rebuild_eq`).
-/

namespace EphemeralDatabase

open Mapping (keys)

variable {α σ : Type}

/-! ## Names -/

/-- Names in lower case are looked up as they are. -/
theorem Keywords.find?_eq_get? {keywords : Keywords} (h : ∀ pair ∈ keywords, lower pair.1 = pair.1)
    (field : String) : keywords.find? field = Mapping.get? keywords field := by
  cases hget : Mapping.get? keywords field with
  | some v => simp [find?, hget]
  | none =>
    have hnone : (keywords.reverse.find? fun pair => lower pair.1 == field) = none := by
      refine List.find?_eq_none.2 fun pair hmem hpair => ?_
      have hmem : pair ∈ keywords := List.mem_reverse.1 hmem
      have hname : pair.1 = field := (h pair hmem).symm.trans (by simpa using hpair)
      exact Mapping.get?_eq_none_iff.1 hget (List.mem_map.2 ⟨pair, hmem, hname⟩)
    simp [find?, hget, hnone]

/-- The names of settings are in lower case. -/
theorem lower_of_mem_settingNames {name : String} (h : name ∈ settingNames) :
    lower name = name := by
  have hall : ∀ name ∈ settingNames, lower name = name := by decide
  exact hall name h

namespace Group

variable {overrides : Keywords} {group : Group} {field : String}

theorem fields_subset (group : Group) : group.fields ⊆ settingNames := by
  cases group <;> decide

theorem mem_overridesOf {pair : String × Value} :
    pair ∈ group.overridesOf overrides ↔ pair ∈ overrides ∧ pair.1 ∈ group.fields := by
  simp [overridesOf]

/-- The overrides of a group say of its settings what all overrides say of them. -/
theorem get?_overridesOf (h : field ∈ group.fields) :
    Mapping.get? (group.overridesOf overrides) field = Mapping.get? overrides field := by
  refine Mapping.get?_filter fun pair _ hname => ?_
  simpa [hname] using h

/-- Keywords that name settings of a group are looked up as they are. -/
theorem find?_of_known {given : Keywords} (known : ∀ pair ∈ given, pair.1 ∈ group.fields)
    (field : String) : given.find? field = Mapping.get? given field :=
  Keywords.find?_eq_get? (fun pair hmem =>
    lower_of_mem_settingNames (group.fields_subset (known pair hmem))) field

/-- A setting has the same override among those of its group as among all. -/
theorem find?_overridesOf (h : field ∈ group.fields) :
    (group.overridesOf overrides).find? field = Mapping.get? overrides field :=
  (find?_of_known (fun _ hmem => (mem_overridesOf.1 hmem).2) field).trans (get?_overridesOf h)

end Group

/-! ## The present values and the overrides -/

/-- Each of the keywords names a setting of the group, and no two name the same. -/
structure Group.Owns (group : Group) (given : Keywords) : Prop where
  once : (keys given).Nodup
  known : ∀ pair ∈ given, pair.1 ∈ group.fields

namespace Group.Owns

variable {group : Group} {given : Keywords}

/-- **In the place of present values they count, and the other present values stay.** -/
theorem find?_update {present : Keywords} (h : group.Owns given)
    (hpresent : group.Owns present) (field : String) :
    Keywords.find? (Mapping.update present given) field =
      (Keywords.find? given field).or (Mapping.get? present field) := by
  have hkeys : keys (Mapping.update present given) =
      keys present ++ (keys given).filter fun key => key ∉ keys present :=
    Mapping.keys_update present h.once
  have hlower : ∀ pair ∈ Mapping.update present given, lower pair.1 = pair.1 := by
    intro pair hmem
    have hkey : pair.1 ∈ keys (Mapping.update present given) := List.mem_map_of_mem hmem
    rw [hkeys, List.mem_append, List.mem_filter] at hkey
    refine lower_of_mem_settingNames (group.fields_subset ?_)
    rcases hkey with hkey | ⟨hkey, -⟩ <;> obtain ⟨q, hq, hname⟩ := List.mem_map.1 hkey
    · exact hname ▸ hpresent.known q hq
    · exact hname ▸ h.known q hq
  rw [Keywords.find?_eq_get? hlower, Group.find?_of_known h.known, Mapping.get?_update,
    Mapping.ofPairs_of_nodup h.once]

end Group.Owns

theorem Group.owns_overridesOf (group : Group) {overrides : Keywords}
    (once : (keys overrides).Nodup) : group.Owns (group.overridesOf overrides) where
  once := once.sublist (List.filter_sublist.map Prod.fst)
  known _ hmem := (mem_overridesOf.1 hmem).2

theorem ClusterSettings.owns_keywords (c : ClusterSettings) : Group.cluster.Owns (keywords c) where
  once := (by decide : Group.cluster.fields.Nodup)
  known _ hmem := (List.mem_map_of_mem hmem : _ ∈ keys (keywords c))

theorem DatabaseSettings.owns_keywords (d : DatabaseSettings) :
    Group.database.Owns (keywords d) where
  once := (by decide : Group.database.fields.Nodup)
  known _ hmem := (List.mem_map_of_mem hmem : _ ∈ keys (keywords d))

theorem PollSettings.owns_keywords (p : PollSettings Float) : Group.poll.Owns (keywords p) where
  once := (by decide : Group.poll.fields.Nodup)
  known _ hmem := (List.mem_map_of_mem hmem : _ ∈ keys (keywords p))

/-- **A setting that was read from the environment is read the same from the overrides alone and
from the overrides in the place of the present values.** -/
theorem Setting.read_again {f : Setting σ} (stable : f.Stable) {present : σ}
    {again given : Keywords} {env : Environment} {container : Option Value}
    (hpresent : f.read ⟨[], env, container⟩ = .ok (f.value present))
    (hagain : again.find? f.field = (given.find? f.field).or (some (f.shown (f.value present)))) :
    f.read ⟨again, env, container⟩ = f.read ⟨given, env, container⟩ := by
  cases hgiven : given.find? f.field with
  | some v => simp [read, Source.read, Source.value?, hagain, hgiven]
  | none =>
    have hdirect : f.read ⟨given, env, container⟩ = f.read ⟨[], env, container⟩ := by
      have hnone : Keywords.find? [] f.field = none := rfl
      simp [read, Source.read, Source.value?, hgiven, hnone]
    have hshown :
        f.read ⟨again, env, container⟩ = f.reader [f.field] (f.shown (f.value present)) := by
      simp [read, Source.read, Source.value?, hagain, hgiven]
    rw [hdirect, hpresent, hshown, stable.reader_shown hpresent]

/-! ## The container variables -/

/-- What comes of a result comes of what was computed. -/
theorem Except.map_eq_ok_iff {ε α β : Type} {x : Except ε α} {f : α → β} {b : β} :
    x.map f = .ok b ↔ ∃ a, x = .ok a ∧ f a = b := by
  cases x <;> simp [Except.map]

namespace Value

/-- A magnitude is a number. -/
theorem readMagnitude_ne_record {negative : Bool} {cs rest : List Char}
    {fields : List (String × Value)} : readMagnitude negative cs ≠ some (.record fields, rest) := by
  simp only [readMagnitude]
  repeat' split
  all_goals simp

theorem readScalar_ne_record {cs rest : List Char} {fields : List (String × Value)} :
    readScalar cs ≠ some (.record fields, rest) := by
  intro h
  unfold readScalar at h
  split at h
  · rename_i found hfound
    obtain ⟨⟨word, v⟩, hmem, hword⟩ := List.exists_of_findSome?_eq_some hfound
    obtain ⟨rest', -, rfl⟩ := Option.map_eq_some_iff.1 hword
    obtain ⟨rfl, -⟩ : v = .record fields ∧ _ := by simpa using h
    simp [namedValues] at hmem
  · split at h
    · exact readMagnitude_ne_record h
    · exact readMagnitude_ne_record h

/-- **A record that was read from JSON has every field once.** -/
theorem keys_nodup_of_readValue {fuel room : Nat} {cs rest : List Char}
    {fields : List (String × Value)} (h : readValue fuel room cs = .ok (.record fields, rest)) :
    (keys fields).Nodup := by
  have hempty : (keys ([] : List (String × Value))).Nodup := List.nodup_nil
  cases fuel with
  | zero => simp [readValue] at h
  | succ fuel =>
    simp only [readValue] at h
    split at h
    · split at h <;> simp at h
    · split at h
      · cases h
      · split at h
        · simp at h
        · obtain ⟨found, -, hitems⟩ := Except.map_eq_ok_iff.1 h
          cases hitems
    · split at h
      · cases h
      · split at h
        · obtain ⟨rfl, -⟩ : [] = fields ∧ _ := by simpa using h
          exact hempty
        · obtain ⟨⟨fs, rest'⟩, -, hrecord⟩ := Except.map_eq_ok_iff.1 h
          obtain ⟨rfl, -⟩ : Mapping.ofPairs fs = fields ∧ _ := by simpa using hrecord
          exact Mapping.keys_nodup_update hempty fs
    · split at h
      · rename_i found hscalar
        obtain rfl : found = (.record fields, rest) := by simpa using h
        exact absurd hscalar readScalar_ne_record
      · cases h

theorem keys_nodup_of_ofJson {room : Nat} {json : String} {fields : List (String × Value)}
    (h : ofJson room json = .ok (.record fields)) : (keys fields).Nodup := by
  simp only [ofJson] at h
  split at h
  · rename_i v rest hread
    split at h
    · obtain rfl : v = .record fields := by simpa using h
      exact keys_nodup_of_readValue hread
    · cases h
  · cases h

end Value

namespace Source

variable {given again : Keywords} {env : Environment} {container : Option Value}
  {m : Mapping String}

/-- A record whose fields occur once is what it is when it is put over itself. -/
theorem update_self {fields : List (String × Value)} (once : (keys fields).Nodup) :
    Mapping.update fields fields = fields :=
  Mapping.update_of_forall_get? fun _ hmem => Mapping.get?_of_mem once hmem

/-- **The container variables are read the same from the overrides alone and from the overrides in
the place of the present values.** -/
theorem readVariables_again
    (once : ∀ fields, container = some (.record fields) → (keys fields).Nodup)
    (hpresent : readVariables ⟨[], env, container⟩ = .ok m)
    (hagain : again.find? "env" = (given.find? "env").or
      (some (.record (Value.texts m)))) :
    readVariables ⟨again, env, container⟩ = readVariables ⟨given, env, container⟩ := by
  have hnone : Keywords.find? [] "env" = none := rfl
  cases hgiven : given.find? "env" with
  | some v => simp [readVariables, container?, hagain, hgiven]
  | none =>
    have hdirect : readVariables ⟨given, env, container⟩ = .ok m := by
      rw [← hpresent]
      simp [readVariables, container?, hgiven, hnone]
    rw [hdirect]
    rw [hgiven, Option.none_or] at hagain
    cases container with
    | none =>
      obtain rfl : [] = m := by simpa [readVariables, container?, hnone] using hpresent
      simp [readVariables, container?, hagain, Reader.mapping, Reader.pairs, Value.texts]
    | some v =>
      have hv : Reader.mapping ["env"] v = .ok m := by
        simpa [readVariables, container?, hnone] using hpresent
      cases v with
      | record base =>
        obtain rfl : base = Value.texts m := Reader.pairs_eq_ok.1 hv
        simpa [readVariables, container?, hagain, update_self (once _ rfl)] using hv
      | null | truth | whole | real | text | items => simp [Reader.mapping, Reader.refuse] at hv

end Source

/-- The container variables of an environment occur once. -/
theorem Environment.keys_nodup_of_containerValue [Interpreter] {env : Environment}
    {fields : List (String × Value)} (h : env.containerValue = .ok (some (.record fields))) :
    (keys fields).Nodup := by
  unfold containerValue at h
  split at h
  · simp at h
  · split at h
    · cases h
    · cases h
    · simp at h
    · rename_i v _ hjson
      obtain rfl : v = .record fields := by simpa using h
      exact Value.keys_nodup_of_ofJson hjson

/-! ## Groups that are built once more -/

/-- What comes of two steps comes of the second, from what came of the first. -/
theorem Except.exists_of_bind {ε α β : Type} {x : Except ε α} {f : α → Except ε β} {b : β}
    (h : x >>= f = .ok b) : ∃ a, x = .ok a ∧ f a = .ok b := by
  cases x with
  | error e => cases h
  | ok a => exact ⟨a, rfl, h⟩

/-- Naming the group of an error keeps results. -/
@[simp] theorem Checked.mapError_eq_ok {ε : Type} {f : List Violation → ε} {x : Checked α} {a : α} :
    x.mapError f = .ok a ↔ x = .ok a := by
  cases x <;> simp [Except.mapError]

theorem ClusterSettings.build_eq_ok {given : Keywords} {env : Environment} {c : ClusterSettings} :
    build given env = .ok c ↔ read ⟨given, env, none⟩ = .ok c :=
  Checked.mapError_eq_ok

theorem DatabaseSettings.build_eq_ok [Interpreter] {given : Keywords} {env : Environment}
    {d : DatabaseSettings} :
    build given env = .ok d ↔
      ∃ container, env.containerValue = .ok container ∧ read ⟨given, env, container⟩ = .ok d := by
  unfold build
  cases env.containerValue <;> simp [bind, Except.bind]

theorem PollSettings.build_eq_ok {given : Keywords} {env : Environment} {p : PollSettings Float} :
    build given env = .ok p ↔ read ⟨given, env, none⟩ = .ok p :=
  Checked.mapError_eq_ok

/-- A group is what can be built from the overrides at once, if building it once more gives that. -/
theorem Group.rebuild_eq {group : Group} {build : Keywords → Environment → Except SettingsError α}
    {keywords : α → Keywords} {overrides : Keywords} {env : Environment} {present : α}
    (hpresent : build [] env = .ok present)
    (again : build (Mapping.update (keywords present) (group.overridesOf overrides)) env =
      build (group.overridesOf overrides) env) :
    group.rebuild build keywords overrides env present =
      build (group.overridesOf overrides) env := by
  unfold rebuild
  split
  · rename_i hnone
    rw [hnone, hpresent]
  · exact again

variable {overrides : Keywords} {env : Environment}

/-- **The settings of a table are read the same from the overrides alone and from the overrides in
the place of the present values.** -/
theorem Setting.read_update {group : Group} {table : List (Setting σ)} {present : σ}
    {given more : Keywords} {container : Option Value} (stable : ∀ f ∈ table, f.Stable)
    (hpresent : ∀ f ∈ table, f.read ⟨[], env, container⟩ = .ok (f.value present))
    (hgiven : given = Setting.keywords table present ++ more) (howns : group.Owns given)
    (once : (keys overrides).Nodup) : ∀ f ∈ table,
      f.read ⟨Mapping.update given (group.overridesOf overrides), env, container⟩ =
        f.read ⟨group.overridesOf overrides, env, container⟩ := by
  subst hgiven
  have hfields : (table.map Setting.field).Nodup := by
    have hkeys : keys (Setting.keywords table present) = table.map Setting.field := by
      simp [keys, Setting.keywords, Function.comp_def]
    exact hkeys ▸ howns.once.sublist ((List.sublist_append_left _ more).map Prod.fst)
  intro f hf
  refine Setting.read_again (stable f hf) (hpresent f hf) ?_
  rw [(group.owns_overridesOf once).find?_update howns,
    Setting.get?_keywords hfields present more f hf]

theorem ClusterSettings.rebuild_eq {c : ClusterSettings} (once : (keys overrides).Nodup)
    (h : build [] env = .ok c) :
    Group.cluster.rebuild build keywords overrides env c =
      build (Group.cluster.overridesOf overrides) env := by
  have hread := read_eq_ok.1 (build_eq_ok.1 h)
  refine Group.rebuild_eq h ?_
  rw [build, build, read_eq_supplyAll, read_eq_supplyAll,
    Setting.supplyAll_congr (Setting.read_update stable hread c.keywords_eq c.owns_keywords once)]

theorem PollSettings.rebuild_eq {p : PollSettings Float} (once : (keys overrides).Nodup)
    (h : build [] env = .ok p) :
    Group.poll.rebuild build keywords overrides env p =
      build (Group.poll.overridesOf overrides) env := by
  have hread := read_eq_ok.1 (build_eq_ok.1 h)
  refine Group.rebuild_eq h ?_
  rw [build, build, read_eq_supplyAll, read_eq_supplyAll,
    Setting.supplyAll_congr (Setting.read_update stable hread p.keywords_eq p.owns_keywords once)]

theorem DatabaseSettings.rebuild_eq [Interpreter] {d : DatabaseSettings}
    (once : (keys overrides).Nodup) (h : build [] env = .ok d) :
    Group.database.rebuild build keywords overrides env d =
      build (Group.database.overridesOf overrides) env := by
  refine Group.rebuild_eq h ?_
  obtain ⟨container, hcontainer, hread⟩ := build_eq_ok.1 h
  obtain ⟨hfields, hvariables⟩ := read_eq_table.1 hread
  have hagain := (Group.database.owns_overridesOf once).find?_update d.owns_keywords "env"
  have hvariables' := Source.readVariables_again (fun fields hrecord =>
    Environment.keys_nodup_of_containerValue (hrecord ▸ hcontainer)) hvariables hagain
  simp only [build, hcontainer, bind, Except.bind]
  rw [read_eq_supplyAll, read_eq_supplyAll, hvariables',
    Setting.supplyAll_congr (Setting.read_update stable hfields d.keywords_eq d.owns_keywords once)]

end EphemeralDatabase
