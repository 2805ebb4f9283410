import EphemeralDatabase.Proofs.Settings.Rereading

/-!
# Resolving is checking the environment and building at once

`Settings.resolve` builds every group from the environment alone and builds those with overrides
once more.  The second building gives what can be built from the overrides at once, so only the
check of the environment remains of the first (`Settings.resolve_eq`).  The check sees what the
overrides hide: the settings do not depend on a value in the environment that an override hides
(`Settings.build_congr_environment`), but without a valid one there are no settings
(`Settings.exists_hidden_value_refused`).
-/

namespace EphemeralDatabase

open Mapping (keys)

variable {σ : Type} {overrides given : Keywords} {env env' : Environment}

/-! ## What is looked at in the environment -/

/-- A setting that a keyword gives is not looked up in the environment. -/
theorem Setting.read_congr_environment {f : Setting σ} {container container' : Option Value}
    (h : given.find? f.field = none → env'.raw? f.field = env.raw? f.field) :
    f.read ⟨given, env', container'⟩ = f.read ⟨given, env, container⟩ := by
  cases hgiven : given.find? f.field with
  | some v => simp [read, Source.read, Source.value?, hgiven]
  | none => simp [read, Source.read, Source.value?, hgiven, h hgiven]

/-- Neither is a table of them, where keywords give them. -/
theorem Setting.supplyAll_congr_environment {β : Type} {table : List (Setting σ)}
    {container container' : Option Value}
    (h : ∀ f ∈ table, given.find? f.field = none → env'.raw? f.field = env.raw? f.field)
    (make : Checked (Setting.Maker table β)) :
    supplyAll ⟨given, env', container'⟩ table make = supplyAll ⟨given, env, container⟩ table make :=
  supplyAll_congr (fun f hf => read_congr_environment (h f hf)) make

theorem ClusterSettings.field_mem : ∀ f ∈ table, f.field ∈ Group.cluster.fields :=
  fun _ hf => (List.mem_map_of_mem hf : _ ∈ table.map Setting.field)

theorem DatabaseSettings.field_mem : ∀ f ∈ table, f.field ∈ Group.database.fields :=
  fun _ hf => List.mem_append_left ["env"] (List.mem_map_of_mem hf : _ ∈ table.map Setting.field)

theorem PollSettings.field_mem : ∀ f ∈ table, f.field ∈ Group.poll.fields :=
  fun _ hf => (List.mem_map_of_mem hf : _ ∈ table.map Setting.field)

theorem ClusterSettings.build_congr_environment (h : ∀ field ∈ Group.cluster.fields,
    given.find? field = none → env'.raw? field = env.raw? field) :
    build given env' = build given env := by
  rw [build, build, read_eq_supplyAll, read_eq_supplyAll,
    Setting.supplyAll_congr_environment fun f hf => h _ (field_mem f hf)]

theorem PollSettings.build_congr_environment (h : ∀ field ∈ Group.poll.fields,
    given.find? field = none → env'.raw? field = env.raw? field) :
    build given env' = build given env := by
  rw [build, build, read_eq_supplyAll, read_eq_supplyAll,
    Setting.supplyAll_congr_environment fun f hf => h _ (field_mem f hf)]

namespace Settings

/-- **Values in the environment that overrides hide do not count**, except for the container
variables. -/
theorem build_congr_environment [Interpreter]
    (h : ∀ name ∈ settingNames, name ∉ keys overrides ∨ name = "env" →
      env'.raw? name = env.raw? name) :
    build (Group.cluster.overridesOf overrides) (Group.database.overridesOf overrides)
        (Group.poll.overridesOf overrides) env' =
      build (Group.cluster.overridesOf overrides) (Group.database.overridesOf overrides)
        (Group.poll.overridesOf overrides) env := by
  have agree : ∀ (group : Group) (field : String), field ∈ group.fields →
      (group.overridesOf overrides).find? field = none → env'.raw? field = env.raw? field := by
    intro group field hfield hnone
    rw [Group.find?_overridesOf hfield, Mapping.get?_eq_none_iff] at hnone
    exact h field (group.fields_subset hfield) (Or.inl hnone)
  have hcontainer : env'.containerValue = env.containerValue := by
    simp only [Environment.containerValue, h "env" (by decide) (Or.inr rfl)]
  have hcluster := ClusterSettings.build_congr_environment (agree .cluster)
  have hdatabase : DatabaseSettings.build (Group.database.overridesOf overrides) env' =
      DatabaseSettings.build (Group.database.overridesOf overrides) env := by
    unfold DatabaseSettings.build
    rw [hcontainer]
    refine bind_congr fun container => ?_
    rw [DatabaseSettings.read_eq_supplyAll, DatabaseSettings.read_eq_supplyAll,
      Setting.supplyAll_congr_environment fun f hf =>
        agree .database _ (DatabaseSettings.field_mem f hf)]
    rfl
  have hpoll := PollSettings.build_congr_environment (agree .poll)
  simp only [build, hcluster, hdatabase, hpoll]

/-- The settings are built group by group. -/
theorem build_eq_ok [Interpreter] {cluster database poll : Keywords} {s : Settings} :
    build cluster database poll env = .ok s ↔
      ClusterSettings.build cluster env = .ok s.cluster ∧
      DatabaseSettings.build database env = .ok s.database ∧
      PollSettings.build poll env = .ok s.poll := by
  obtain ⟨c, d, p⟩ := s
  unfold build
  cases ClusterSettings.build cluster env <;> cases DatabaseSettings.build database env <;>
    cases PollSettings.build poll env <;> simp [bind, Except.bind, pure, Except.pure]

/-! ## Resolving -/

/-- **Resolving checks the environment, then the names of the overrides, and builds at once.** -/
theorem resolve_eq [Interpreter] (once : (keys overrides).Nodup) :
    resolve overrides env = build [] [] [] env >>= fun _ =>
      match overrides.given.unknown with
      | [] =>
          build (Group.cluster.overridesOf overrides.given)
            (Group.database.overridesOf overrides.given)
            (Group.poll.overridesOf overrides.given) env
      | names => .error (.unknown names) := by
  have hgiven : (keys overrides.given).Nodup := once.sublist (List.filter_sublist.map Prod.fst)
  unfold resolve
  cases hpresent : build [] [] [] env with
  | error e => rfl
  | ok present =>
    obtain ⟨hcluster, hdatabase, hpoll⟩ := build_eq_ok.1 hpresent
    simp only [bind, Except.bind]
    cases overrides.given.unknown with
    | nil =>
      simp only [ClusterSettings.rebuild_eq hgiven hcluster,
        DatabaseSettings.rebuild_eq hgiven hdatabase, PollSettings.rebuild_eq hgiven hpoll]
      rfl
    | cons name names => rfl

/-- There is nothing to leave out of overrides that are not null. -/
theorem given_eq_self (h : ∀ pair ∈ overrides, pair.2 ≠ .null) : overrides.given = overrides := by
  refine List.filter_eq_self.2 fun pair hmem => ?_
  have := h pair hmem
  split <;> simp_all

/-- No override is unknown if all have the names of settings. -/
theorem unknown_eq_nil_iff :
    overrides.unknown = [] ↔ ∀ name ∈ keys overrides, name ∈ settingNames := by
  have hperm := List.mergeSort_perm ((overrides.map Prod.fst).filter fun name =>
    !settingNames.contains name) fun a b => decide (a ≤ b)
  have hnil : overrides.unknown = [] ↔
      ((overrides.map Prod.fst).filter fun name => !settingNames.contains name) = [] :=
    ⟨fun h => List.nil_perm.1 (h ▸ hperm), fun h => List.perm_nil.1 (h ▸ hperm)⟩
  rw [hnil, List.filter_eq_nil_iff]
  simp [keys]

/-- **With the names of settings and without null, the settings are those that are built at once,
if there are settings from the environment alone.**  The environment's values that overrides hide
do not change them, and an environment that is not in order is an error all the same. -/
theorem resolve_eq_ok_iff [Interpreter] (once : (keys overrides).Nodup)
    (nonnull : ∀ pair ∈ overrides, pair.2 ≠ .null)
    (known : ∀ name ∈ keys overrides, name ∈ settingNames) :
    (∀ s, resolve overrides env = .ok s ↔
      (∃ present, build [] [] [] env = .ok present) ∧
        build (Group.cluster.overridesOf overrides) (Group.database.overridesOf overrides)
          (Group.poll.overridesOf overrides) env = .ok s) ∧
    (∀ e, build [] [] [] env = .error e → resolve overrides env = .error e) ∧
    ∀ env' s s', (∀ name ∈ settingNames, name ∉ keys overrides ∨ name = "env" →
        env'.raw? name = env.raw? name) →
      resolve overrides env = .ok s → resolve overrides env' = .ok s' → s' = s := by
  have heq : ∀ env, resolve overrides env = build [] [] [] env >>= fun _ =>
      build (Group.cluster.overridesOf overrides) (Group.database.overridesOf overrides)
        (Group.poll.overridesOf overrides) env := by
    intro env
    rw [resolve_eq once, given_eq_self nonnull, unknown_eq_nil_iff.2 known]
  have hiff : ∀ env s, resolve overrides env = .ok s ↔
      (∃ present, build [] [] [] env = .ok present) ∧
        build (Group.cluster.overridesOf overrides) (Group.database.overridesOf overrides)
          (Group.poll.overridesOf overrides) env = .ok s := by
    intro env s
    rw [heq]
    cases build [] [] [] env <;> simp [bind, Except.bind]
  refine ⟨hiff env, fun e he => ?_, fun env' s s' agree h h' => ?_⟩
  · rw [heq, he]
    rfl
  · have hbuild := ((hiff env s).1 h).2
    have hbuild' := ((hiff env' s').1 h').2
    rw [build_congr_environment agree, hbuild] at hbuild'
    exact (Except.ok.inj hbuild').symm

/-- An override hides the environment's node port, and another environment gives the same
settings. -/
theorem resolve_hidden_node_port :
    let overrides : Keywords := [("node_port", .whole 30001)]
    let env : Environment := [("PG_FIXTURE_NODE_PORT", "30002"), ("PG_FIXTURE_ENV", "null")]
    let env' : Environment := [("PG_FIXTURE_ENV", "null"), ("pg_fixture_node_port", "30003")]
    ∃ s, resolve overrides env = .ok s ∧ ∀ s', resolve overrides env' = .ok s' → s' = s := by
  intro overrides env env'
  have once : (keys overrides).Nodup := by decide
  have nonnull : ∀ pair ∈ overrides, pair.2 ≠ .null := by simp [overrides]
  have known : ∀ name ∈ keys overrides, name ∈ settingNames := by decide
  obtain ⟨hiff, -, hidden⟩ := @resolve_eq_ok_iff overrides env _ once nonnull known
  have h := (hiff _).2 ⟨⟨_, rfl⟩, rfl⟩
  refine ⟨_, h, fun s' h' => hidden env' _ s' ?_ h h'⟩
  decide

/-- **An invalid value in the environment is refused although an override hides it.** -/
theorem exists_hidden_value_refused :
    ¬ ∀ (overrides : Keywords) (env : Environment), (keys overrides).Nodup →
      (∀ pair ∈ overrides, pair.2 ≠ .null) → (∀ name ∈ keys overrides, name ∈ settingNames) →
      ∀ s, resolve overrides env = .ok s ↔
        build (Group.cluster.overridesOf overrides) (Group.database.overridesOf overrides)
          (Group.poll.overridesOf overrides) env = .ok s := by
  intro agree
  have hiff := agree [("node_port", .whole 30000)] [("PG_FIXTURE_NODE_PORT", "x")] (by decide)
    (by simp) (by decide)
  have hresolve := (hiff _).2 rfl
  cases hresolve

end Settings

end EphemeralDatabase
