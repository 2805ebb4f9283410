import EphemeralDatabase.Fixture.Plan
import EphemeralDatabase.Proofs.Resource.Sameness
import EphemeralDatabase.Proofs.Settings.Idempotence

/-!
# The variables of the container

The container gets the credentials as variables, and the further variables of the settings are laid
over them (`DatabaseSettings.overlays_workloadEnv`).  A further variable with the name of a
credential stands where the credential stood, with a value of its own; every other one stands behind
the credentials, in the order of the settings.  The manifest of the Pod has them all, entry by entry
(`DatabaseSettings.workloadEnv_merged`).

Two facts on laying one mapping over another carry this: which pairs come of it
(`Mapping.Overlays.mem_iff`), and that nothing else does (`Mapping.Overlays.unique`).

Further variables are a mapping, so no name occurs twice among them.  Settings can be written down
that repeat a name, but none are built unless what they are built from repeats it
(`DatabaseSettings.keys_nodup_of_build`).
-/

namespace EphemeralDatabase

open Mapping (keys)

/-! ## Laying one mapping over another -/

namespace Mapping.Overlays

variable {α : Type} {base upper m m' : Mapping α}

/-- A pair comes from above, or from below if its key has no value above. -/
theorem mem_iff (h : Overlays base upper m) (hbase : base.keys.Nodup) (hupper : upper.keys.Nodup)
    (key : String) (value : α) :
    (key, value) ∈ m ↔ (key, value) ∈ upper ∨ key ∉ upper.keys ∧ (key, value) ∈ base := by
  rw [← get?_eq_some_iff h.once, h.get?, Option.or_eq_some_iff, get?_eq_some_iff hupper,
    get?_eq_none_iff, get?_eq_some_iff hbase]

/-- One mapping is laid over another in one way only. -/
theorem unique (h : Overlays base upper m) (h' : Overlays base upper m') : m = m' :=
  ext_get? h.once (h.keys.trans h'.keys.symm) fun key => (h.get? key).trans (h'.get? key).symm

end Mapping.Overlays

/-! ## Further variables occur once -/

/-- What is given for the container variables repeats no name if neither side does. -/
theorem Source.keys_nodup_of_container? {s : Source} {fields : List (String × Value)}
    (hkeyword : ∀ given, s.keywords.find? "env" = some (.record given) → (keys given).Nodup)
    (hcontainer : ∀ base, s.container = some (.record base) → (keys base).Nodup)
    (h : s.container? = some (.record fields)) : (keys fields).Nodup := by
  unfold container? at h
  split at h
  · rename_i given base _ hbase
    obtain rfl : Mapping.update base given = fields := by simpa using h
    exact Mapping.keys_nodup_update (hcontainer base hbase) given
  · rename_i v hv _
    obtain rfl : v = .record fields := Option.some.inj h
    exact hkeyword fields hv
  · exact hcontainer fields h

/-- **The further variables of built settings repeat no name**, if those of the keywords do not. -/
theorem DatabaseSettings.keys_nodup_of_build [Interpreter] {given : Keywords}
    {env : Environment} {d : DatabaseSettings}
    (distinct : ∀ fields, given.find? "env" = some (.record fields) → (keys fields).Nodup)
    (h : build given env = .ok d) : (keys d.env).Nodup := by
  obtain ⟨container, hcontainer, hread⟩ := build_eq_ok.1 h
  have hbase : ∀ base, container = some (.record base) → (keys base).Nodup := by
    rintro base rfl
    exact Environment.keys_nodup_of_containerValue hcontainer
  have hvariables := (read_eq_table.1 hread).2
  unfold Source.readVariables at hvariables
  split at hvariables
  · rename_i v hv
    cases v with
    | record fields =>
      obtain rfl : fields = Value.texts d.env := Reader.pairs_eq_ok.1 hvariables
      have hfields := Source.keys_nodup_of_container? distinct hbase hv
      rwa [Value.keys_texts] at hfields
    | null | truth | whole | real | text | items =>
      simp [Reader.mapping, Reader.refuse] at hvariables
  · have hnone : [] = d.env := Except.ok.inj hvariables
    rw [← hnone]
    exact List.nodup_nil

/-! ## The environment in a manifest -/

/-- The entries of the environment, if the Pod has one container and that has an environment. -/
def Manifest.environment? (pod : Manifest) : Option (List Manifest) := do
  let spec ← pod.get? "spec"
  match spec.entriesAt "containers" with
  | [container] => (container.get? "env").map entries
  | _ => none

/-- The environment that is written is the one of the descriptor, and an empty one is left out. -/
theorem Descriptor.environment?_manifest {d : Descriptor} {w : WorkloadSpec}
    (h : d.spec = .workload w) :
    d.manifest.environment? = if w.env = [] then none else some (envEntries w.env) := by
  obtain ⟨space, name, spec, labels⟩ := d
  obtain ⟨image, containerName, containerPort, env⟩ := w
  obtain rfl : spec = _ := h
  cases env with
  | nil => rfl
  | cons pair env => rfl

/-! ## The variables -/

namespace DatabaseSettings

/-- The names of the credentials among the container variables. -/
def credentialNames : List String := ["POSTGRES_DB", "POSTGRES_USER", "POSTGRES_PASSWORD"]

/-- The credentials have different names. -/
theorem keys_nodup_credentials (d : DatabaseSettings) : (keys d.credentials).Nodup := by
  show credentialNames.Nodup
  decide

/-- The container has variables, whatever the settings are. -/
theorem workloadEnv_ne_nil (d : DatabaseSettings) : d.workloadEnv ≠ [] := by
  intro hnil
  have hvalue := Mapping.get?_update d.credentials d.env "POSTGRES_DB"
  have hdatabase : d.credentials.get? "POSTGRES_DB" = some d.database := rfl
  have hempty : d.credentials.update d.env = [] := hnil
  rw [hempty, hdatabase] at hvalue
  simp [Mapping.get?] at hvalue

/-- The manifest of the Pod always has an environment, with the variables of the container. -/
theorem environment?_podDescriptor (c : ClusterSettings) (d : DatabaseSettings) :
    (podDescriptor c d).manifest.environment? = some (Descriptor.envEntries d.workloadEnv) := by
  rw [Descriptor.environment?_manifest rfl, if_neg d.workloadEnv_ne_nil]

variable {d : DatabaseSettings}

/-- **The further variables are laid over the credentials.** -/
theorem overlays_workloadEnv (once : (keys d.env).Nodup) :
    Mapping.Overlays d.credentials d.env d.workloadEnv :=
  Mapping.overlays_update (keys_nodup_credentials d) once

/-- **The variables of the container are the credentials with the further variables merged into
them.**  No name occurs twice.  The names of the credentials come first, and those of the further
variables that are no credentials behind them, in their order.  A further variable gives the value
of its name, and a credential has its own value only where no further variable has its name.  No
other list is such a merge, and the container in the manifest has this list, entry by entry. -/
theorem workloadEnv_merged (c : ClusterSettings) (once : (keys d.env).Nodup) :
    (keys d.workloadEnv).Nodup ∧
    keys d.workloadEnv =
      ["POSTGRES_DB", "POSTGRES_USER", "POSTGRES_PASSWORD"] ++
        (keys d.env).filter (fun name => name ∉ credentialNames) ∧
    (∀ name value, (name, value) ∈ d.workloadEnv ↔
      (name, value) ∈ d.env ∨ name ∉ keys d.env ∧ (name, value) ∈ d.credentials) ∧
    (∀ merged, Mapping.Overlays d.credentials d.env merged → merged = d.workloadEnv) ∧
    ∃ entries, (podDescriptor c d).manifest.environment? = some entries ∧
      List.Forall₂ (fun entry pair => entry =
        .fields [("name", .text pair.1), ("value", .text pair.2)]) entries d.workloadEnv := by
  have h := overlays_workloadEnv once
  refine ⟨h.once, h.keys, h.mem_iff (keys_nodup_credentials d) once,
    fun merged hmerged => hmerged.unique h, _, environment?_podDescriptor c d, ?_⟩
  rw [Descriptor.envEntries, List.forall₂_map_left_iff, List.forall₂_same]
  intro pair _
  rfl

/-- Two of four further variables have the names of credentials.  Their values stand where those of
the credentials stood, and the other two variables follow. -/
theorem workloadEnv_of_clashes :
    let given : Keywords := [("env", .record [("PGDATA", .text "/tmp/pg"),
      ("POSTGRES_PASSWORD", .text "secret"), ("LANG", .text "C"), ("POSTGRES_DB", .text "other")])]
    ∃ d, build given [] = .ok d ∧ (keys d.env).Nodup ∧
      keys d.workloadEnv =
        ["POSTGRES_DB", "POSTGRES_USER", "POSTGRES_PASSWORD", "PGDATA", "LANG"] ∧
      ("POSTGRES_PASSWORD", "secret") ∈ d.workloadEnv ∧
      ("POSTGRES_PASSWORD", "password") ∉ d.workloadEnv ∧
      ("POSTGRES_USER", "postgres") ∈ d.workloadEnv ∧
      ∃ entries, (podDescriptor {} d).manifest.environment? = some entries ∧
        List.Forall₂ (fun entry pair => entry =
          .fields [("name", .text pair.1), ("value", .text pair.2)]) entries d.workloadEnv := by
  intro given
  let d : DatabaseSettings := { env := [("PGDATA", "/tmp/pg"), ("POSTGRES_PASSWORD", "secret"),
    ("LANG", "C"), ("POSTGRES_DB", "other")] }
  have hbuild : build given [] = .ok d := build_eq_ok.2 ⟨none, rfl, rfl⟩
  have distinct : ∀ fields, given.find? "env" = some (.record fields) → (keys fields).Nodup := by
    rintro _ ⟨⟩
    decide
  have once : (keys d.env).Nodup := keys_nodup_of_build distinct hbuild
  obtain ⟨-, hkeys, hmem, -, hentries⟩ := workloadEnv_merged {} once
  refine ⟨d, hbuild, once, hkeys.trans (by decide), (hmem _ _).2 ?_, fun hpassword => ?_,
    (hmem _ _).2 ?_, hentries⟩
  · exact Or.inl (by decide)
  · exact absurd ((hmem _ _).1 hpassword) (by decide)
  · exact Or.inr (by decide)

end DatabaseSettings

end EphemeralDatabase
