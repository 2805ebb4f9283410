import EphemeralDatabase.Proofs.Settings.Resolution
import Mathlib.Data.List.Permutation

/-!
# Which of the values given for a setting counts

For every setting but the container variables one value counts: the override, or else what the
environment gives under the last spelling of the name, or else none and the setting has its
default (`Governs`, `Setting.Follows`).  The container variables of the overrides are laid over
those of the environment (`Mapping.Overlays`).  Resolved settings are read from the overrides and
the environment at once (`Settings.read_of_resolve`), and from this both follow, together
with the independence of the settings from the overrides of others (`Settings.precedence`).
-/

namespace EphemeralDatabase

open Mapping (keys)

variable {α β σ : Type} {overrides : Keywords} {env : Environment}

/-! ## What the environment and the overrides give -/

namespace Environment

/-- The environment gives a text for a setting: it is the value of the last variable whose name is,
but for its case, the one of the setting. -/
def Spells (env : Environment) (field text : String) : Prop :=
  ∃ before name after, env = before ++ (name, text) :: after ∧
    lower name = leader ++ field ∧ ∀ pair ∈ after, lower pair.1 ≠ leader ++ field

theorem raw?_eq_some_iff {field text : String} :
    env.raw? field = some text ↔ env.Spells field text := by
  simp only [raw?, Option.map_eq_some_iff, List.find?_eq_some_iff_append]
  constructor
  · rintro ⟨⟨name, text⟩, ⟨hname, after, before, henv, hafter⟩, rfl⟩
    refine ⟨before.reverse, name, after.reverse, ?_, by simpa using hname, by simpa using hafter⟩
    simpa using congrArg List.reverse henv
  · rintro ⟨before, name, after, rfl, hname, hafter⟩
    refine ⟨(name, text), ⟨by simpa using hname, after.reverse, before.reverse, by simp, ?_⟩, rfl⟩
    simpa using hafter

theorem raw?_eq_none_iff {field : String} :
    env.raw? field = none ↔ ∀ text, ¬ env.Spells field text := by
  simp only [Option.eq_none_iff_forall_ne_some, ne_eq, raw?_eq_some_iff]

/-- The container variables that the environment gives. -/
inductive Variables [Interpreter] (env : Environment) : Mapping String → Prop where
  | unspelled (hidden : ∀ json, ¬ env.Spells "env" json) : Variables env []
  | null {json : String} (spelled : env.Spells "env" json)
      (read : Value.ofJson Interpreter.room json = .ok .null) : Variables env []
  | record {json : String} {m : Mapping String} (spelled : env.Spells "env" json)
      (read : Value.ofJson Interpreter.room json = .ok (.record (Value.texts m))) : Variables env m

end Environment

/-- The container variables that the overrides give. -/
inductive Keywords.Variables (overrides : Keywords) : Mapping String → Prop where
  | absent (null : ∀ v, ("env", v) ∈ overrides → v = .null) : Variables overrides []
  | record {m : Mapping String} (given : ("env", .record (Value.texts m)) ∈ overrides) :
      Variables overrides m

/-- Which of the values given for a setting counts; none if none was given. -/
inductive Governs (overrides : Keywords) (env : Environment) (field : String) :
    Option Value → Prop where
  | override {v : Value} (given : (field, v) ∈ overrides) (nonnull : v ≠ .null) :
      Governs overrides env field (some v)
  | environment {text : String} (absent : ∀ v, (field, v) ∈ overrides → v = .null)
      (spelled : env.Spells field text) : Governs overrides env field (some (.text text))
  | standard (absent : ∀ v, (field, v) ∈ overrides → v = .null)
      (unspelled : ∀ text, ¬ env.Spells field text) : Governs overrides env field none

/-- A setting is what its reader makes of the value that counts, or its default. -/
def Setting.Follows (f : Setting σ) (overrides : Keywords) (env : Environment) (x : f.Carrier) :
    Prop :=
  ∃ given, Governs overrides env f.field given ∧
    match given with
    | some v => f.reader [f.field] v = .ok x
    | none => x = f.default

namespace Keywords

theorem mem_given {pair : String × Value} :
    pair ∈ overrides.given ↔ pair ∈ overrides ∧ pair.2 ≠ .null := by
  rw [given, List.mem_filter]
  refine and_congr_right fun _ => ?_
  split <;> simp_all

theorem keys_nodup_given (once : (keys overrides).Nodup) : (keys overrides.given).Nodup :=
  once.sublist (List.filter_sublist.map Prod.fst)

@[simp] theorem given_given (overrides : Keywords) : overrides.given.given = overrides.given :=
  List.filter_filter .. |>.trans (by simp [given])

/-- A setting without an override has at most null among the overrides. -/
theorem null_of_get?_given {field : String} (h : Mapping.get? overrides.given field = none)
    (v : Value) (hmem : (field, v) ∈ overrides) : v = .null := by
  by_contra hnull
  have hkey : field ∈ keys overrides.given :=
    List.mem_map.2 ⟨(field, v), mem_given.2 ⟨hmem, hnull⟩, rfl⟩
  exact Mapping.get?_eq_none_iff.1 h hkey

/-- Another override does not change what a setting is given. -/
theorem get?_given_insert (once : (keys overrides).Nodup) {field name : String} (v : Value)
    (h : field ≠ name) :
    Mapping.get? (given (Mapping.insert overrides name v)) field =
      Mapping.get? overrides.given field := by
  have hinsert := keys_nodup_given (Mapping.keys_nodup_insert once name v)
  refine Option.ext fun u => ?_
  rw [Mapping.get?_eq_some_iff hinsert, Mapping.get?_eq_some_iff (keys_nodup_given once), mem_given,
    mem_given, ← Mapping.get?_eq_some_iff (Mapping.keys_nodup_insert once name v),
    ← Mapping.get?_eq_some_iff once, Mapping.get?_insert_of_ne _ _ h]

end Keywords

/-- Keywords that say the same of a setting give the same for it. -/
theorem Setting.read_congr {f : Setting σ} {given given' : Keywords}
    {container container' : Option Value} (h : given'.find? f.field = given.find? f.field) :
    f.read ⟨given', env, container'⟩ = f.read ⟨given, env, container⟩ := by
  simp only [read, Source.read, Source.value?, h]

theorem Source.readVariables_congr {given given' : Keywords} {container : Option Value}
    (h : given'.find? "env" = given.find? "env") :
    readVariables ⟨given', env, container⟩ = readVariables ⟨given, env, container⟩ := by
  simp only [readVariables, container?, h]

/-- What is read for a setting follows the overrides and the environment. -/
theorem Setting.follows_of_read {f : Setting σ} {container : Option Value} {given : Keywords}
    {x : f.Carrier} (hfind : given.find? f.field = Mapping.get? overrides.given f.field)
    (h : f.read ⟨given, env, container⟩ = .ok x) : f.Follows overrides env x := by
  unfold read Source.read Source.value? at h
  simp only [hfind] at h
  cases hgiven : Mapping.get? overrides.given f.field with
  | some v =>
    obtain ⟨hmem, hnull⟩ := Keywords.mem_given.1 (Mapping.mem_of_get? hgiven)
    exact ⟨some v, .override hmem hnull, by simpa [hgiven] using h⟩
  | none =>
    have absent := Keywords.null_of_get?_given hgiven
    cases hraw : env.raw? f.field with
    | some text =>
      refine ⟨some (.text text), .environment absent (Environment.raw?_eq_some_iff.1 hraw), ?_⟩
      simpa [hgiven, hraw] using h
    | none =>
      refine ⟨none, .standard absent (Environment.raw?_eq_none_iff.1 hraw), ?_⟩
      simpa [hgiven, hraw, eq_comm] using h

/-! ## Laying one mapping over another -/

namespace Mapping

/-- A mapping laid over another: the keys of the one below come first and in their places, those
that only the other has come behind them in their order, and the value of the one above counts. -/
structure Overlays (base upper result : Mapping α) : Prop where
  once : result.keys.Nodup
  keys : result.keys = base.keys ++ upper.keys.filter fun key => key ∉ base.keys
  get? : ∀ key, result.get? key = (upper.get? key).or (base.get? key)

theorem overlays_update {base upper : Mapping α} (hbase : base.keys.Nodup)
    (hupper : upper.keys.Nodup) : Overlays base upper (base.update upper) where
  once := keys_nodup_update hbase upper
  keys := keys_update base hupper
  get? key := by rw [get?_update, ofPairs_of_nodup hupper]

/-- Inserting is the same before the values are changed and after. -/
theorem insert_map (g : String → α → β) (m : Mapping α) (key : String) (value : α) :
    insert (m.map fun pair => (pair.1, g pair.1 pair.2)) key (g key value) =
      (m.insert key value).map fun pair => (pair.1, g pair.1 pair.2) := by
  induction m with
  | nil => rfl
  | cons pair rest ih =>
    by_cases hkey : pair.1 = key
    · simp [insert, hkey]
    · simp [insert, hkey, ih]

theorem update_map (g : String → α → β) (m pairs : Mapping α) :
    update (m.map fun pair => (pair.1, g pair.1 pair.2))
        (pairs.map fun pair => (pair.1, g pair.1 pair.2)) =
      (m.update pairs).map fun pair => (pair.1, g pair.1 pair.2) := by
  induction pairs generalizing m with
  | nil => rfl
  | cons pair pairs ih => rw [List.map_cons, update_cons, insert_map, ih, update_cons]

end Mapping

namespace Value

@[simp] theorem keys_texts (m : Mapping String) : keys (texts m) = keys m := by
  simp [keys, texts]

theorem texts_injective {m m' : Mapping String} (h : texts m = texts m') : m = m' := by
  refine (List.map_inj_right ?_).1 h
  rintro ⟨key, s⟩ ⟨key', s'⟩ heq
  simpa using heq

theorem update_texts (base upper : Mapping String) :
    Mapping.update (texts base) (texts upper) = texts (base.update upper) :=
  Mapping.update_map (fun _ => Value.text) base upper

/-- Fields that are all texts are those of a mapping of texts. -/
theorem exists_texts {fields : List (String × Value)}
    (h : ∀ pair ∈ fields, ∃ s, pair.2 = .text s) : ∃ m, fields = texts m := by
  induction fields with
  | nil => exact ⟨[], rfl⟩
  | cons pair fields ih =>
    obtain ⟨key, v⟩ := pair
    obtain ⟨s, rfl⟩ : ∃ s, v = .text s := h (key, v) List.mem_cons_self
    obtain ⟨m, rfl⟩ := ih fun q hq => h q (List.mem_cons_of_mem _ hq)
    exact ⟨(key, s) :: m, rfl⟩

/-- What is put in and comes out among texts is texts. -/
theorem exists_texts_of_update {base fields : List (String × Value)} {m : Mapping String}
    (once : (keys fields).Nodup) (h : Mapping.update base fields = texts m) :
    ∃ upper, fields = texts upper := by
  refine exists_texts fun pair hmem => ?_
  have hget : Mapping.get? (texts m) pair.1 = some pair.2 := by
    rw [← h, Mapping.get?_update, Mapping.ofPairs_of_nodup once, Mapping.get?_of_mem once hmem,
      Option.some_or]
  obtain ⟨q, -, hq⟩ := List.mem_map.1 (Mapping.mem_of_get? hget)
  exact ⟨q.2, by simpa using (congrArg Prod.snd hq).symm⟩

end Value

/-! ## The container variables -/

namespace Source

variable {container : Option Value}

/-- The container variables that are read from the environment alone are those that it gives. -/
theorem variables_of_read [Interpreter] {m : Mapping String}
    (hcontainer : env.containerValue = .ok container)
    (h : readVariables ⟨[], env, container⟩ = .ok m) :
    env.Variables m ∧ (keys m).Nodup ∧
      (container = none ∧ m = [] ∨ container = some (.record (Value.texts m))) := by
  have hnone : Keywords.find? [] "env" = none := rfl
  unfold Environment.containerValue at hcontainer
  split at hcontainer
  · rename_i hraw
    obtain rfl : none = container := Except.ok.inj hcontainer
    obtain rfl : [] = m := by simpa [readVariables, container?, hnone] using h
    exact ⟨.unspelled (Environment.raw?_eq_none_iff.1 hraw), List.nodup_nil, Or.inl ⟨rfl, rfl⟩⟩
  · rename_i json hraw
    have spelled := Environment.raw?_eq_some_iff.1 hraw
    split at hcontainer
    · cases hcontainer
    · cases hcontainer
    · rename_i hjson
      obtain rfl : none = container := Except.ok.inj hcontainer
      obtain rfl : [] = m := by simpa [readVariables, container?, hnone] using h
      exact ⟨.null spelled hjson, List.nodup_nil, Or.inl ⟨rfl, rfl⟩⟩
    · rename_i v _ hjson
      obtain rfl : some v = container := Except.ok.inj hcontainer
      have hv : Reader.mapping ["env"] v = .ok m := by
        simpa [readVariables, container?, hnone] using h
      cases v with
      | record fields =>
        obtain rfl : fields = Value.texts m := Reader.pairs_eq_ok.1 hv
        have hkeys := Value.keys_nodup_of_ofJson hjson
        exact ⟨.record spelled hjson, by simpa using hkeys, Or.inr rfl⟩
      | null | truth | whole | real | text | items => simp [Reader.mapping, Reader.refuse] at hv

/-- **The container variables of the overrides lie over those of the environment.** -/
theorem overlays_of_read {base m : Mapping String} {given : Keywords}
    (hfind : given.find? "env" = Mapping.get? overrides.given "env")
    (distinct : ∀ fields, ("env", .record fields) ∈ overrides → (keys fields).Nodup)
    (hbase : (keys base).Nodup)
    (hcontainer : container = none ∧ base = [] ∨ container = some (.record (Value.texts base)))
    (h : readVariables ⟨given, env, container⟩ = .ok m) :
    ∃ upper, overrides.Variables upper ∧ Mapping.Overlays base upper m := by
  cases hgiven : Mapping.get? overrides.given "env" with
  | none =>
    -- Without an override the variables of the environment are laid under none.
    have hread : base = m := by
      rcases hcontainer with ⟨rfl, rfl⟩ | rfl
      · simpa [readVariables, container?, hfind, hgiven] using h
      · have hv : Reader.mapping ["env"] (.record (Value.texts base)) = .ok m := by
          simpa [readVariables, container?, hfind, hgiven] using h
        exact Value.texts_injective (Reader.pairs_eq_ok.1 hv)
    exact ⟨[], .absent (Keywords.null_of_get?_given hgiven),
      hread ▸ Mapping.overlays_update hbase List.nodup_nil⟩
  | some v =>
    have hmem : ("env", v) ∈ overrides := (Keywords.mem_given.1 (Mapping.mem_of_get? hgiven)).1
    cases v with
    | record fields =>
      have hfields := distinct fields hmem
      have hupdate : Mapping.update (Value.texts base) fields = Value.texts m := by
        rcases hcontainer with ⟨rfl, rfl⟩ | rfl
        · have hv : Reader.mapping ["env"] (.record fields) = .ok m := by
            simpa [readVariables, container?, hfind, hgiven] using h
          exact (Mapping.ofPairs_of_nodup hfields).trans (Reader.pairs_eq_ok.1 hv)
        · have hv : Reader.mapping ["env"] (.record (Mapping.update (Value.texts base) fields)) =
              .ok m := by
            simpa [readVariables, container?, hfind, hgiven] using h
          exact Reader.pairs_eq_ok.1 hv
      obtain ⟨upper, rfl⟩ := Value.exists_texts_of_update hfields hupdate
      obtain rfl : base.update upper = m :=
        Value.texts_injective ((Value.update_texts base upper).symm.trans hupdate)
      exact ⟨upper, .record hmem, Mapping.overlays_update hbase (by simpa using hfields)⟩
    | null | truth | whole | real | text | items =>
      simp [readVariables, container?, hfind, hgiven, Reader.mapping, Reader.refuse] at h

end Source

/-! ## Resolved settings -/

namespace Settings

/-- **Resolved settings are read from the overrides and the environment at once**, and the
environment alone can be read too. -/
theorem read_of_resolve [Interpreter] {s : Settings} (once : (keys overrides).Nodup)
    (h : resolve overrides env = .ok s) :
    (∀ field, overrides.given.find? field = Mapping.get? overrides.given field) ∧
      (∀ f ∈ table, f.read ⟨overrides.given, env, none⟩ = .ok (f.value s)) ∧
      ∃ container base, env.containerValue = .ok container ∧
        Source.readVariables ⟨[], env, container⟩ = .ok base ∧
        Source.readVariables ⟨overrides.given, env, container⟩ = .ok s.database.env := by
  rw [resolve_eq once] at h
  obtain ⟨present, hpresent, h⟩ := Except.exists_of_bind h
  have hunknown : overrides.given.unknown = [] := by
    cases hunknown : overrides.given.unknown with
    | nil => rfl
    | cons name names => simp [hunknown] at h
  rw [hunknown] at h
  obtain ⟨hcluster, hdatabase, hpoll⟩ := build_eq_ok.1 h
  have hfind : ∀ field, overrides.given.find? field = Mapping.get? overrides.given field := by
    refine Keywords.find?_eq_get? fun pair hmem => lower_of_mem_settingNames ?_
    exact unknown_eq_nil_iff.1 hunknown _ (List.mem_map_of_mem hmem)
  -- A group looks at its own overrides, and they are what all overrides say of its settings.
  have hgroup : ∀ (group : Group) (field : String), field ∈ group.fields →
      overrides.given.find? field = (group.overridesOf overrides.given).find? field :=
    fun group field hfield => (hfind field).trans (Group.find?_overridesOf hfield).symm
  have hclusterRead := ClusterSettings.read_eq_ok.1 (ClusterSettings.build_eq_ok.1 hcluster)
  have hpollRead := PollSettings.read_eq_ok.1 (PollSettings.build_eq_ok.1 hpoll)
  obtain ⟨container, hcontainer, hread⟩ := DatabaseSettings.build_eq_ok.1 hdatabase
  obtain ⟨hdatabaseRead, hvariables⟩ := DatabaseSettings.read_eq_table.1 hread
  obtain ⟨container', hcontainer', hpresentRead⟩ :=
    DatabaseSettings.build_eq_ok.1 (build_eq_ok.1 hpresent).2.1
  obtain rfl : container = container' := Except.ok.inj (hcontainer.symm.trans hcontainer')
  refine ⟨hfind, forall_mem_table.2 ⟨fun f hf => ?_, fun f hf => ?_, fun f hf => ?_⟩,
    container, present.database.env, hcontainer,
    (DatabaseSettings.read_eq_table.1 hpresentRead).2, ?_⟩
  · exact (Setting.read_congr (hgroup _ _ (ClusterSettings.field_mem f hf))).trans
      (hclusterRead f hf)
  · exact (Setting.read_congr (hgroup _ _ (DatabaseSettings.field_mem f hf))).trans
      (hdatabaseRead f hf)
  · exact (Setting.read_congr (hgroup _ _ (PollSettings.field_mem f hf))).trans (hpollRead f hf)
  · rw [Source.readVariables_congr (hgroup .database "env" (by decide)), hvariables]

/-- A resolution without the overrides that are null is the same. -/
theorem resolve_given [Interpreter] (overrides : Keywords) (env : Environment) :
    resolve overrides.given env = resolve overrides env := by
  simp only [resolve, Keywords.given_given]

/-- **The precedence of what is given.**  Every setting but the container variables is what its
reader makes of the override, or else of what the environment gives, or else its default.  The
container variables of the overrides lie over those of the environment.  An override changes
nothing but its own setting, and overrides that are null change nothing. -/
theorem precedence [Interpreter] {s : Settings} (once : (keys overrides).Nodup)
    (distinct : ∀ fields, ("env", .record fields) ∈ overrides → (keys fields).Nodup)
    (h : resolve overrides env = .ok s) :
    (∀ f ∈ table, f.Follows overrides env (f.value s)) ∧
    (∃ base upper, env.Variables base ∧ overrides.Variables upper ∧
      Mapping.Overlays base upper s.database.env) ∧
    (∀ name v s', resolve (Mapping.insert overrides name v) env = .ok s' →
      (∀ f ∈ table, f.field ≠ name → f.value s' = f.value s) ∧
        (name ≠ "env" → s'.database.env = s.database.env)) ∧
    resolve overrides.given env = .ok s := by
  obtain ⟨hfind, hread, container, base, hcontainer, hbase, hvariables⟩ := read_of_resolve once h
  obtain ⟨hgives, hkeys, hplace⟩ := Source.variables_of_read hcontainer hbase
  refine ⟨fun f hf => Setting.follows_of_read (hfind f.field) (hread f hf), ?_, ?_,
    (resolve_given overrides env).trans h⟩
  · obtain ⟨upper, hupper, hlies⟩ :=
      Source.overlays_of_read (hfind "env") distinct hkeys hplace hvariables
    exact ⟨base, upper, hgives, hupper, hlies⟩
  · intro name v s' h'
    obtain ⟨hfind', hread', container', -, hcontainer', -, hvariables'⟩ :=
      read_of_resolve (Mapping.keys_nodup_insert once name v) h'
    obtain rfl : container = container' := Except.ok.inj (hcontainer.symm.trans hcontainer')
    have hsame : ∀ field, field ≠ name →
        Keywords.find? (Keywords.given (Mapping.insert overrides name v)) field =
          overrides.given.find? field := fun field hne => by
      rw [hfind', hfind, Keywords.get?_given_insert once v hne]
    refine ⟨fun f hf hne => ?_, fun hne => ?_⟩
    · have hvalue := hread' f hf
      rw [Setting.read_congr (hsame f.field hne), hread f hf] at hvalue
      exact (Except.ok.inj hvalue).symm
    · rw [Source.readVariables_congr (hsame "env" hne.symm), hvariables] at hvariables'
      exact (Except.ok.inj hvariables').symm

/-- The last spelling of the image counts, the null override does not, and container variables come
from both sides. -/
theorem precedence_of_image :
    let overrides : Keywords := [("node_port", .whole 30001), ("image", .null),
      ("env", .record [("C", .text "4"), ("B", .text "3")])]
    let env : Environment := [("PG_FIXTURE_IMAGE", "a"), ("Pg_Fixture_Image", "b"),
      ("PG_FIXTURE_ENV", "\x7b\x22A\x22: \x221\x22, \x22B\x22: \x222\x22\x7d")]
    ∃ s : Settings, s.database.image = "b" ∧ s.database.nodePort = some 30001 ∧
      s.database.env = [("A", "1"), ("B", "3"), ("C", "4")] ∧
      (∀ f ∈ table, f.Follows overrides env (f.value s)) ∧
      (∃ base upper, env.Variables base ∧ overrides.Variables upper ∧
        Mapping.Overlays base upper s.database.env) ∧
      resolve overrides.given env = .ok s := by
  intro overrides env
  have once : (keys overrides).Nodup := by decide
  have distinct : ∀ fields, ("env", .record fields) ∈ overrides → (keys fields).Nodup := by
    intro fields hmem
    obtain rfl : fields = [("C", .text "4"), ("B", .text "3")] := by simpa [overrides] using hmem
    decide
  have hunknown : overrides.given.unknown = [] := unknown_eq_nil_iff.2 (by decide)
  have hjson : Value.ofJson Interpreter.room
      "\x7b\x22A\x22: \x221\x22, \x22B\x22: \x222\x22\x7d" =
      .ok (.record [("A", .text "1"), ("B", .text "2")]) := by cbv
  have hraw : env.raw? "env" = some "\x7b\x22A\x22: \x221\x22, \x22B\x22: \x222\x22\x7d" := by
    decide
  have hcontainer : env.containerValue =
      .ok (some (.record [("A", .text "1"), ("B", .text "2")])) := by
    simp only [Environment.containerValue, hraw, hjson]
  have hpresent : build [] [] [] env =
      .ok ⟨{}, { image := "b", env := [("A", "1"), ("B", "2")] }, .standard⟩ :=
    build_eq_ok.2 ⟨rfl, DatabaseSettings.build_eq_ok.2 ⟨_, hcontainer, rfl⟩, rfl⟩
  have hbuild : build (Group.cluster.overridesOf overrides.given)
      (Group.database.overridesOf overrides.given) (Group.poll.overridesOf overrides.given) env =
      .ok ⟨{},
        { image := "b", nodePort := some 30001, env := [("A", "1"), ("B", "3"), ("C", "4")] },
        .standard⟩ :=
    build_eq_ok.2 ⟨rfl, DatabaseSettings.build_eq_ok.2 ⟨_, hcontainer, rfl⟩, rfl⟩
  have h := @resolve_eq overrides env _ once
  simp only [hpresent, hunknown, bind, Except.bind] at h
  obtain ⟨hfollows, hlies, -, hgiven⟩ := precedence once distinct (h.trans hbuild)
  exact ⟨_, rfl, rfl, rfl, hfollows, hlies, hgiven⟩

end Settings

end EphemeralDatabase
