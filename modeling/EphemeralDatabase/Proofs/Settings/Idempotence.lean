import EphemeralDatabase.Proofs.Settings.Precedence

/-!
# Resolving what has been resolved

Resolved settings are given once more, all of those that are not null as overrides in the same
environment.  They resolve to themselves (`Settings.resolve_idempotent`).

A setting that is given again is read as it was, because every setting is stable.  A setting that is
null is not given again.  It was not given the first time either, because only null is read as null
(`Setting.Candid`); so it was left to the environment both times.  And the container variables are
laid over those of the environment, which are among them already and in their places
(`Mapping.Overlays.update_eq`).
-/

namespace EphemeralDatabase

open Mapping (keys)

variable {α σ τ : Type} {overrides given again : Keywords} {env : Environment}

/-- All settings as keywords. -/
def Settings.keywords (s : Settings) : Keywords :=
  ClusterSettings.keywords s.cluster ++ DatabaseSettings.keywords s.database ++
    PollSettings.keywords s.poll

/-! ## Settings that are null -/

/-- Only null is read as something that is written as null. -/
def Setting.Candid (f : Setting σ) : Prop :=
  ∀ v x, f.reader [f.field] v = .ok x → f.shown x = .null → v = .null

theorem Reader.null_of_nullable {reader : Reader α} {shown : α → Value} {location : List String}
    {v : Value} {o : Option α} (full : ∀ x, shown x ≠ .null)
    (h : nullable reader location v = .ok o) (hnull : Value.optional shown o = .null) :
    v = .null := by
  cases o with
  | some x => exact absurd hnull (full x)
  | none =>
    unfold nullable at h
    split at h
    · rfl
    · cases hread : reader location v with
      | error vs => simp [hread, Except.map] at h
      | ok x => simp [hread, Except.map] at h

namespace Setting.Candid

/-- A setting that is never written as null is candid. -/
theorem of_full {f : Setting σ} (full : ∀ x, f.shown x ≠ .null) : f.Candid :=
  fun _ x _ hnull => absurd hnull (full x)

/-- Of a field that may be empty, only the empty one is written as null. -/
theorem of_nullable {field : String} {reader : Reader α} {shown : α → Value} {default : Option α}
    {value : σ → Option α} (full : ∀ x, shown x ≠ .null) :
    Candid ⟨field, Option α, .nullable reader, .optional shown, default, value⟩ :=
  fun _ _ h hnull => Reader.null_of_nullable full h hnull

end Setting.Candid

theorem ClusterSettings.candid : ∀ f ∈ table, f.Candid := by
  have htext : ∀ s : String, Value.text s ≠ .null := by simp
  simp only [table, List.forall_mem_cons]
  exact ⟨.of_full htext, .of_nullable htext, .of_nullable htext, .of_full htext,
    List.forall_mem_nil _⟩

theorem DatabaseSettings.candid : ∀ f ∈ table, f.Candid := by
  have htext : ∀ s : String, Value.text s ≠ .null := by simp
  have hwhole : ∀ n : ℤ, Value.whole n ≠ .null := by simp
  simp only [table, List.forall_mem_cons]
  exact ⟨.of_full htext, .of_full htext, .of_full htext, .of_full htext, .of_full hwhole,
    .of_full htext, .of_nullable hwhole, .of_full htext, .of_full htext, .of_full htext,
    List.forall_mem_nil _⟩

theorem PollSettings.candid : ∀ f ∈ table, f.Candid := by
  have hreal : ∀ x : Float, Value.real x ≠ .null := by simp
  simp only [table, List.forall_mem_cons]
  exact ⟨.of_full hreal, .of_full hreal, .of_full hreal, .of_full hreal, List.forall_mem_nil _⟩

namespace Settings

theorem candid : ∀ f ∈ table, f.Candid :=
  forall_mem_table.2 ⟨ClusterSettings.candid, DatabaseSettings.candid, PollSettings.candid⟩

theorem stable : ∀ f ∈ table, f.Stable :=
  forall_mem_table.2
    ⟨fun f hf => ⟨(ClusterSettings.stable f hf).standard, (ClusterSettings.stable f hf).again⟩,
      fun f hf => ⟨(DatabaseSettings.stable f hf).standard, (DatabaseSettings.stable f hf).again⟩,
      fun f hf => ⟨(PollSettings.stable f hf).standard, (PollSettings.stable f hf).again⟩⟩

/-! ## Settings as overrides -/

theorem keys_keywords (s : Settings) : keys s.keywords = settingNames := rfl

theorem mem_keywords (s : Settings) :
    ∀ f ∈ table, (f.field, f.shown (f.value s)) ∈ s.keywords := by
  refine forall_mem_table.2 ⟨fun f hf => ?_, fun f hf => ?_, fun f hf => ?_⟩
  · exact List.mem_append_left _ (List.mem_append_left _
      (s.cluster.keywords_eq ▸ List.mem_append_left _ (List.mem_map_of_mem hf)))
  · exact List.mem_append_left _ (List.mem_append_right _
      (s.database.keywords_eq ▸ List.mem_append_left _ (List.mem_map_of_mem hf)))
  · exact List.mem_append_right _
      (s.poll.keywords_eq ▸ List.mem_append_left _ (List.mem_map_of_mem hf))

end Settings

namespace Keywords

variable {field : String} {v : Value}

/-- A keyword that is not null is given. -/
theorem get?_given_of_mem (once : (keys overrides).Nodup) (hmem : (field, v) ∈ overrides)
    (hnull : v ≠ .null) : Mapping.get? overrides.given field = some v :=
  Mapping.get?_of_mem (keys_nodup_given once) (mem_given.2 ⟨hmem, hnull⟩)

/-- A keyword that is null is not given. -/
theorem get?_given_of_null (once : (keys overrides).Nodup) (hmem : (field, .null) ∈ overrides) :
    Mapping.get? overrides.given field = none := by
  cases hget : Mapping.get? overrides.given field with
  | none => rfl
  | some u =>
    obtain ⟨hu, hnull⟩ := mem_given.1 (Mapping.mem_of_get? hget)
    rw [← Mapping.get?_eq_some_iff once] at hu hmem
    exact absurd (Option.some.inj (hu.symm.trans hmem)) hnull

end Keywords

/-- **What was read for a setting is read once more** from it, or from the environment if it is
null. -/
theorem Setting.read_shown {f : Setting σ} (stable : f.Stable) (candid : f.Candid) {x : f.Carrier}
    {container container' : Option Value} (h : f.read ⟨given, env, container⟩ = .ok x)
    (hgiven : ∀ v, given.find? f.field = some v → v ≠ .null)
    (hshown : f.shown x ≠ .null → again.find? f.field = some (f.shown x))
    (hnull : f.shown x = .null → again.find? f.field = none) :
    f.read ⟨again, env, container'⟩ = .ok x := by
  by_cases hx : f.shown x = .null
  · have hnone : given.find? f.field = none := by
      cases hv : given.find? f.field with
      | none => rfl
      | some v =>
        have hread : f.reader [f.field] v = .ok x := by
          simpa [read, Source.read, Source.value?, hv] using h
        exact absurd (candid v x hread hx) (hgiven v hv)
    rw [← h]
    exact read_congr ((hnull hx).trans hnone.symm)
  · simpa [read, Source.read, Source.value?, hshown hx] using stable.reader_shown h

/-! ## The container variables -/

namespace Mapping

/-- Mappings with the same keys in the same places and the same values are equal. -/
theorem ext_get? {m m' : Mapping α} (once : m.keys.Nodup) (hkeys : m.keys = m'.keys)
    (hget : ∀ key, m.get? key = m'.get? key) : m = m' := by
  induction m generalizing m' with
  | nil =>
    cases m' with
    | nil => rfl
    | cons => cases hkeys
  | cons pair m ih =>
    cases m' with
    | nil => cases hkeys
    | cons pair' m' =>
      obtain ⟨k, v⟩ := pair
      obtain ⟨k', v'⟩ := pair'
      obtain ⟨hfirst, hrest⟩ := List.nodup_cons.1 once
      obtain ⟨rfl, hothers⟩ : k = k' ∧ keys m = keys m' := List.cons.inj hkeys
      obtain rfl : v = v' := by simpa [get?] using hget k
      congr 1
      refine ih hrest hothers fun key => ?_
      by_cases hkey : key = k
      · subst hkey
        have hfirst' : key ∉ keys m' := hothers ▸ hfirst
        rw [get?_eq_none_iff.2 hfirst, get?_eq_none_iff.2 hfirst']
      · simpa [get?, Ne.symm hkey] using hget key

/-- **What is laid over a mapping already is not changed by laying it over that mapping once
more.** -/
theorem Overlays.update_eq {base upper m : Mapping α} (h : Overlays base upper m) :
    base.update m = m := by
  have hbase : base.keys.Nodup := (List.nodup_append.1 (h.keys ▸ h.once)).1
  refine ext_get? (keys_nodup_update hbase m) ?_ fun key => ?_
  · have hnew : ∀ ks : List String, (ks.filter fun key => key ∉ base.keys).filter
        (fun key => key ∉ base.keys) = ks.filter fun key => key ∉ base.keys := by simp
    have hold : base.keys.filter (fun key => key ∉ base.keys) = [] := by simp
    rw [keys_update base h.once, h.keys, List.filter_append, hold, hnew, List.nil_append]
  · rw [get?_update, ofPairs_of_nodup h.once, h.get?, Option.or_assoc, Option.or_self]

end Mapping

/-- The container variables are read once more as they were. -/
theorem Source.readVariables_shown {container : Option Value} {base m : Mapping String}
    (hbase : container = none ∧ base = [] ∨ container = some (.record (Value.texts base)))
    (hlies : base.update m = m) (hagain : again.find? "env" = some (.record (Value.texts m))) :
    readVariables ⟨again, env, container⟩ = .ok m := by
  have hread : Reader.mapping ["env"] (.record (Value.texts m)) = .ok m := Reader.pairs_eq_ok.2 rfl
  rcases hbase with ⟨rfl, -⟩ | rfl
  · simpa [readVariables, container?, hagain] using hread
  · simpa [readVariables, container?, hagain, Value.update_texts, hlies] using hread

/-! ## Resolving once more -/

namespace Settings

theorem keys_nodup_keywords (s : Settings) : (keys s.keywords).Nodup := by
  rw [keys_keywords]
  decide

/-- Every setting but the container variables is read once more as it was, in the group that it
belongs to. -/
theorem read_overridesOf_keywords {s : Settings} {group : Group} {f : Setting Settings}
    (hf : f ∈ table) (hfield : f.field ∈ group.fields)
    (hfind : overrides.given.find? f.field = Mapping.get? overrides.given f.field)
    (hread : f.read ⟨overrides.given, env, none⟩ = .ok (f.value s)) (container : Option Value) :
    f.read ⟨group.overridesOf s.keywords.given, env, container⟩ = .ok (f.value s) := by
  have hmem := mem_keywords s f hf
  refine Setting.read_shown (stable f hf) (candid f hf) hread (fun v hv => ?_) (fun hnull => ?_)
    fun hnull => ?_
  · rw [hfind] at hv
    exact (Keywords.mem_given.1 (Mapping.mem_of_get? hv)).2
  · rw [Group.find?_overridesOf hfield,
      Keywords.get?_given_of_mem (keys_nodup_keywords s) hmem hnull]
  · rw [hnull] at hmem
    rw [Group.find?_overridesOf hfield, Keywords.get?_given_of_null (keys_nodup_keywords s) hmem]

/-- The container variables of settings are among their keywords. -/
theorem find?_env_keywords (s : Settings) :
    (Group.database.overridesOf s.keywords.given).find? "env" =
      some (.record (Value.texts s.database.env)) := by
  have hmem : ("env", .record (Value.texts s.database.env)) ∈ s.keywords := by
    simp [keywords, DatabaseSettings.keywords, Value.texts]
  have hnull : Value.record (Value.texts s.database.env) ≠ .null := by simp
  rw [Group.find?_overridesOf (by decide),
    Keywords.get?_given_of_mem (keys_nodup_keywords s) hmem hnull]

/-- **Resolved settings resolve to themselves.**  Whatever settings came of an environment and
overrides come of the same environment when all of them that are not null are the overrides, the
container variables in the same order. -/
theorem resolve_idempotent [Interpreter] {s : Settings} (once : (keys overrides).Nodup)
    (distinct : ∀ fields, ("env", .record fields) ∈ overrides → (keys fields).Nodup)
    (h : resolve overrides env = .ok s) : resolve s.keywords.given env = .ok s := by
  obtain ⟨hfind, hread, container, base, hcontainer, hbase, hvariables⟩ := read_of_resolve once h
  have hpresent : ∃ present, build [] [] [] env = .ok present := by
    rw [resolve_eq once] at h
    obtain ⟨present, hpresent, -⟩ := Except.exists_of_bind h
    exact ⟨present, hpresent⟩
  have hnonnull : ∀ pair ∈ s.keywords.given, pair.2 ≠ .null :=
    fun pair hmem => (Keywords.mem_given.1 hmem).2
  have hknown : ∀ name ∈ keys s.keywords.given, name ∈ settingNames := fun name hname =>
    keys_keywords s ▸ (List.filter_sublist.map Prod.fst).subset hname
  have hagain : ∀ f ∈ table, ∀ group : Group, f.field ∈ group.fields → ∀ container,
      f.read ⟨group.overridesOf s.keywords.given, env, container⟩ = .ok (f.value s) :=
    fun f hf _ hfield => read_overridesOf_keywords hf hfield (hfind f.field) (hread f hf)
  obtain ⟨hcluster, hdatabase, hpoll⟩ := forall_mem_table.1 hagain
  have henv : Source.readVariables ⟨Group.database.overridesOf s.keywords.given, env, container⟩ =
      .ok s.database.env := by
    obtain ⟨-, hkeys, hplace⟩ := Source.variables_of_read hcontainer hbase
    obtain ⟨upper, -, hlies⟩ :=
      Source.overlays_of_read (hfind "env") distinct hkeys hplace hvariables
    exact Source.readVariables_shown hplace hlies.update_eq (find?_env_keywords s)
  obtain ⟨hiff, -, -⟩ :=
    resolve_eq_ok_iff (Keywords.keys_nodup_given (keys_nodup_keywords s)) hnonnull hknown
  refine (hiff s).2 ⟨hpresent, build_eq_ok.2 ⟨?_, ?_, ?_⟩⟩
  · exact ClusterSettings.build_eq_ok.2 (ClusterSettings.read_eq_ok.2 fun f hf =>
      hcluster f hf .cluster (ClusterSettings.field_mem f hf) none)
  · exact DatabaseSettings.build_eq_ok.2 ⟨container, hcontainer,
      DatabaseSettings.read_eq_table.2 ⟨fun f hf =>
        hdatabase f hf .database (DatabaseSettings.field_mem f hf) container, henv⟩⟩
  · exact PollSettings.build_eq_ok.2 (PollSettings.read_eq_ok.2 fun f hf =>
      hpoll f hf .poll (PollSettings.field_mem f hf) none)

/-- A path in normal form, a whole number for an interval and container variables from both sides
are what they are when they are given once more. -/
theorem resolve_resolved_path :
    let overrides : Keywords := [("kubeconfig", .text "//etc/./kube//"), ("node_host", .null),
      ("env", .record [("C", .text "4"), ("B", .text "3")]), ("pod_interval", .whole 2)]
    let env : Environment := [("PG_FIXTURE_KUBE_CONTEXT", "ci"),
      ("PG_FIXTURE_ENV", "\x7b\x22A\x22: \x221\x22, \x22B\x22: \x222\x22\x7d")]
    ∃ s : Settings, resolve overrides env = .ok s ∧ s.cluster.kubeconfig = some "//etc/kube" ∧
      s.cluster.context = some "ci" ∧ s.database.env = [("A", "1"), ("B", "3"), ("C", "4")] ∧
      resolve s.keywords.given env = .ok s := by
  intro overrides env
  have once : (keys overrides).Nodup := by decide
  have distinct : ∀ fields, ("env", .record fields) ∈ overrides → (keys fields).Nodup := by
    intro fields hmem
    obtain rfl : fields = [("C", .text "4"), ("B", .text "3")] := by simpa [overrides] using hmem
    decide
  have hunknown : overrides.given.unknown = [] := unknown_eq_nil_iff.2 (by decide)
  have hjson : Value.ofJson Interpreter.room
      "\x7b\x22A\x22: \x221\x22, \x22B\x22: \x222\x22\x7d" =
      .ok (.record [("A", .text "1"), ("B", .text "2")]) := by cbv
  have hraw : env.raw? "env" = some "\x7b\x22A\x22: \x221\x22, \x22B\x22: \x222\x22\x7d" := by
    decide
  have hcontainer : env.containerValue =
      .ok (some (.record [("A", .text "1"), ("B", .text "2")])) := by
    simp only [Environment.containerValue, hraw, hjson]
  have hpresent : build [] [] [] env =
      .ok ⟨{ context := some "ci" }, { env := [("A", "1"), ("B", "2")] }, .standard⟩ :=
    build_eq_ok.2 ⟨rfl, DatabaseSettings.build_eq_ok.2 ⟨_, hcontainer, rfl⟩, rfl⟩
  have hbuild : build (Group.cluster.overridesOf overrides.given)
      (Group.database.overridesOf overrides.given) (Group.poll.overridesOf overrides.given) env =
      .ok ⟨{ context := some "ci", kubeconfig := some "//etc/kube" },
        { env := [("A", "1"), ("B", "3"), ("C", "4")] }, ⟨⟨1, 30⟩, ⟨2, 300⟩⟩⟩ :=
    build_eq_ok.2 ⟨rfl, DatabaseSettings.build_eq_ok.2 ⟨_, hcontainer, rfl⟩, rfl⟩
  have h := @resolve_eq overrides env _ once
  simp only [hpresent, hunknown, bind, Except.bind] at h
  have hresolve := h.trans hbuild
  exact ⟨_, hresolve, rfl, rfl, rfl, resolve_idempotent once distinct hresolve⟩

end Settings

end EphemeralDatabase
