import EphemeralDatabase.Proofs.Settings.Resolution

/-!
# Settings that differ in the password only

To mask settings is to put a fixed text in place of the password, and settings are masked to the
same if and only if they differ in nothing else (`Settings.masked_eq_iff`).

Whatever the environment gives for the password is taken as it is, so it can neither make the
settings invalid nor change another one: environments that agree on all other settings give the
same settings but for the password, or the same error (`Settings.resolve_masked`).
-/

namespace EphemeralDatabase

open Mapping (keys)

/-- What is put in place of a password. -/
def mask : String := "********"

/-- The settings with the password masked. -/
def DatabaseSettings.masked (d : DatabaseSettings) : DatabaseSettings := { d with password := mask }

/-- The settings with the password masked. -/
def Settings.masked (s : Settings) : Settings := { s with database := s.database.masked }

theorem DatabaseSettings.masked_eq_iff {d d' : DatabaseSettings} :
    d.masked = d'.masked ↔ ∃ password, d' = { d with password := password } := by
  constructor
  · intro h
    obtain ⟨serviceName, podName, appLabel, image, containerPort, serviceType, nodePort, database,
      user, password, env⟩ := d'
    refine ⟨password, ?_⟩
    simp only [masked, mk.injEq] at h ⊢
    simp [h]
  · rintro ⟨password, rfl⟩
    rfl

/-- **Settings are masked to the same if and only if they differ in the password only.** -/
theorem Settings.masked_eq_iff {s s' : Settings} :
    s.masked = s'.masked ↔
      ∃ password, s' = { s with database := { s.database with password := password } } := by
  obtain ⟨c, d, p⟩ := s
  obtain ⟨c', d', p'⟩ := s'
  simp only [masked, mk.injEq, DatabaseSettings.masked_eq_iff]
  constructor
  · rintro ⟨rfl, ⟨password, rfl⟩, rfl⟩
    exact ⟨password, rfl, rfl, rfl⟩
  · rintro ⟨password, rfl, rfl, rfl⟩
    exact ⟨rfl, ⟨password, rfl⟩, rfl⟩

/-! ## Reading -/

/-- Two results that are mapped to the same are the same error, or two values mapped to the same. -/
theorem Except.cases_of_map_eq {ε α γ : Type} {x x' : Except ε α} {m : α → γ}
    (h : x.map m = x'.map m) :
    (∃ e, x = .error e ∧ x' = .error e) ∨ ∃ a a', x = .ok a ∧ x' = .ok a' ∧ m a = m a' := by
  cases x with
  | error e =>
    cases x' with
    | error e' =>
      obtain rfl : e = e' := Except.error.inj h
      exact Or.inl ⟨e, rfl, rfl⟩
    | ok a' => cases h
  | ok a =>
    cases x' with
    | error e' => cases h
    | ok a' => exact Or.inr ⟨a, a', rfl, rfl, Except.ok.inj h⟩

namespace Checked

variable {α β γ δ : Type} {f : Checked (α → β)}

/-- What holds of everything that a value makes, holds of what is built with it. -/
theorem supply_spec {P : β → Prop} {x : Checked α} (h : ∀ g, f = .ok g → ∀ a, P (g a)) (b : β)
    (hb : f.supply x = .ok b) : P b := by
  obtain ⟨g, a, hg, -, rfl⟩ := supply_eq_ok.1 hb
  exact h g hg a

/-- Values whose difference does not show in the results can be supplied for one another. -/
theorem map_supply_congr {f : Checked (α → β → γ)} {m : γ → δ} {a a' : α} (x : Checked β)
    (h : ∀ g, f = .ok g → ∀ b, m (g a b) = m (g a' b)) :
    ((f.supply (.ok a)).supply x).map m = ((f.supply (.ok a')).supply x).map m := by
  rcases f with vs | g
  · cases x <;> rfl
  · cases x with
    | error ws => rfl
    | ok b => exact congrArg Except.ok (h g rfl b)

end Checked

namespace DatabaseSettings

variable (given : Keywords) {env env' : Environment}

/-- The password is read the same from two environments, or it is read from both. -/
theorem read_password (env env' : Environment) (container : Option Value) (default : String) :
    Source.read ⟨given, env', container⟩ "password" default .text =
        Source.read ⟨given, env, container⟩ "password" default .text ∨
      ∃ p p', Source.read ⟨given, env', container⟩ "password" default .text = .ok p' ∧
        Source.read ⟨given, env, container⟩ "password" default .text = .ok p := by
  have hread : ∀ env : Environment, given.find? "password" = none →
      ∃ p, Source.read ⟨given, env, container⟩ "password" default .text = .ok p := by
    intro env hgiven
    cases hraw : env.raw? "password" with
    | none => exact ⟨default, by simp [Source.read, Source.value?, hgiven, hraw]⟩
    | some p => exact ⟨p, by simp [Source.read, Source.value?, hgiven, hraw, Reader.text]⟩
  cases hgiven : given.find? "password" with
  | some v => exact Or.inl (by simp [Source.read, Source.value?, hgiven])
  | none =>
    obtain ⟨p, hp⟩ := hread env hgiven
    obtain ⟨p', hp'⟩ := hread env' hgiven
    exact Or.inr ⟨p, p', hp', hp⟩

/-- **Only the password that is read depends on the one in the environment.** -/
theorem read_masked (container : Option Value)
    (h : ∀ name ∈ Group.database.fields, name ≠ "password" → env'.raw? name = env.raw? name) :
    (read ⟨given, env', container⟩).map masked = (read ⟨given, env, container⟩).map masked := by
  have hfields : ∀ f ∈ table, f.field ≠ "password" →
      f.read ⟨given, env', container⟩ = f.read ⟨given, env, container⟩ :=
    fun f hf hne => Setting.read_congr_environment fun _ => h f.field (field_mem f hf) hne
  simp only [table, List.forall_mem_cons, Setting.read, ne_eq, String.reduceEq, not_false_eq_true,
    forall_const] at hfields
  have hvariables : Source.readVariables ⟨given, env', container⟩ =
      Source.readVariables ⟨given, env, container⟩ := rfl
  simp only [read, hfields, hvariables]
  rcases read_password given env env' container "password" with hp | ⟨p, p', hp', hp⟩
  · rw [hp]
  · rw [hp, hp']
    refine Checked.map_supply_congr _ ?_
    -- one setting after another, until only the constructor is left
    iterate 9 refine Checked.supply_spec ?_
    rintro g ⟨⟩
    intros
    rfl

theorem build_masked [Interpreter]
    (h : ∀ name ∈ Group.database.fields, name ≠ "password" → env'.raw? name = env.raw? name) :
    (build given env').map masked = (build given env).map masked := by
  have hcontainer : env'.containerValue = env.containerValue := by
    simp only [Environment.containerValue, h "env" (by decide) (by decide)]
  unfold build
  rw [hcontainer]
  cases env.containerValue with
  | error e => rfl
  | ok container =>
    rcases Except.cases_of_map_eq (read_masked given container h) with
      ⟨vs, hs', hs⟩ | ⟨d', d, hs', hs, hmasked⟩
    · simp only [bind, Except.bind, hs', hs]
    · simp only [bind, Except.bind, hs', hs]
      exact congrArg Except.ok hmasked

end DatabaseSettings

/-! ## Resolving -/

/-- A variable for the password says nothing of another setting. -/
theorem Environment.raw?_password {spelling name : String}
    (hspelling : lower spelling = leader ++ "password") (hname : name ≠ "password")
    (before after : Environment) (password password' : String) :
    raw? (before ++ (spelling, password) :: after) name =
      raw? (before ++ (spelling, password') :: after) name := by
  have hother : ¬ leader ++ "password" = leader ++ name := by
    intro h
    rw [← String.toList_inj, String.toList_append, String.toList_append,
      List.append_right_inj, String.toList_inj] at h
    exact hname h.symm
  simp [raw?, List.find?_append, hspelling, hother]

namespace Settings

variable {overrides : Keywords} {env env' : Environment}

theorem build_masked [Interpreter] (cluster database poll : Keywords)
    (h : ∀ name ∈ settingNames, name ≠ "password" → env'.raw? name = env.raw? name) :
    (build cluster database poll env').map masked =
      (build cluster database poll env).map masked := by
  have agree : ∀ (group : Group), ∀ name ∈ group.fields, name ≠ "password" →
      env'.raw? name = env.raw? name :=
    fun group name hname => h name (group.fields_subset hname)
  have hnames : ∀ group, group ≠ Group.database → ∀ name ∈ group.fields, name ≠ "password" := by
    intro group
    cases group <;> decide
  have hcluster : ClusterSettings.build cluster env' = ClusterSettings.build cluster env :=
    ClusterSettings.build_congr_environment fun field hfield _ =>
      agree .cluster field hfield (hnames .cluster (by decide) field hfield)
  have hpoll : PollSettings.build poll env' = PollSettings.build poll env :=
    PollSettings.build_congr_environment fun field hfield _ =>
      agree .poll field hfield (hnames .poll (by decide) field hfield)
  have hdatabase := DatabaseSettings.build_masked database (agree .database)
  unfold build
  rw [hcluster, hpoll]
  cases ClusterSettings.build cluster env with
  | error e => rfl
  | ok c =>
    rcases Except.cases_of_map_eq hdatabase with ⟨e, hd', hd⟩ | ⟨d', d, hd', hd, hmasked⟩
    · simp only [bind, Except.bind, hd', hd]
    · simp only [bind, Except.bind, hd', hd]
      cases PollSettings.build poll env with
      | error e => rfl
      | ok p => simp [pure, Except.pure, Except.map, masked, hmasked]

/-- **Only the password that is resolved depends on the one in the environment**: environments that
agree on everything else give settings that are masked to the same, or the same error. -/
theorem resolve_masked [Interpreter] (once : (keys overrides).Nodup)
    (h : ∀ name ∈ settingNames, name ≠ "password" → env'.raw? name = env.raw? name) :
    (resolve overrides env').map masked = (resolve overrides env).map masked := by
  rw [resolve_eq once, resolve_eq once]
  rcases Except.cases_of_map_eq (build_masked [] [] [] h) with
    ⟨e, hs', hs⟩ | ⟨s', s, hs', hs, -⟩
  · simp only [bind, Except.bind, hs', hs]
  · simp only [bind, Except.bind, hs', hs]
    cases overrides.given.unknown with
    | nil => exact build_masked _ _ _ h
    | cons name names => rfl

end Settings

end EphemeralDatabase
