import EphemeralDatabase.Proofs.Text.Pattern
import EphemeralDatabase.Settings.Resolve

/-!
# What settings are like once they have been read

Settings are valid when they are what can be built from some keywords in some environment.  Whatever
a reader gives has the form that the reader demands, and a field that nothing is given for has its
default.  So whatever holds of the default and of everything that the reader gives holds of the
field (`Source.read_spec`), and of valid settings more is known than their types say:
`DatabaseSettings.Valid.serviceType_mem` and `DatabaseSettings.Valid.nodePort_range`.
-/

namespace EphemeralDatabase

variable {α β : Type}

/-! ## Readers -/

/-- Something was built if and only if each part of it was. -/
theorem Checked.supply_eq_ok {f : Checked (α → β)} {x : Checked α} {b : β} :
    f.supply x = .ok b ↔ ∃ g a, f = .ok g ∧ x = .ok a ∧ g a = b := by
  rcases f with vs | g <;> rcases x with ws | a <;> simp [supply]

namespace Reader

variable {location : List String} {v : Value}

theorem fits_of_formed {form : Form} {s : String} (h : formed form location v = .ok s) :
    form.fits s = true := by
  cases v with
  | text t =>
    by_cases fits : form.fits t = true
    · obtain rfl : t = s := by simpa [formed, fits] using h
      exact fits
    · simp [formed, fits, refuse] at h
  | null | truth | whole | real | items | record => simp [formed, refuse] at h

theorem of_nullable {reader : Reader α} {x : α} (h : nullable reader location v = .ok (some x)) :
    reader location v = .ok x := by
  unfold nullable at h
  split at h
  · cases h
  · cases hr : reader location v with
    | error vs => simp [hr, Except.map] at h
    | ok y => simpa [hr, Except.map] using h

theorem range_of_whole {low high n : Int} (h : whole low high location v = .ok n) :
    low ≤ n ∧ n ≤ high := by
  unfold whole at h
  split at h
  · cases h
  · split at h
    · cases h
    · split at h
      · cases h
      · cases h
        omega

end Reader

/-- **What holds of the default and of whatever the reader gives holds of the field.** -/
theorem Source.read_spec {P : α → Prop} {s : Source} {field : String} {default x : α}
    {reader : Reader α} (h : s.read field default reader = .ok x) (standard : P default)
    (given : ∀ v y, reader [field] v = .ok y → P y) : P x := by
  unfold read at h
  split at h
  · exact given _ x h
  · cases h
    exact standard

/-! ## Forms -/

/-- The words for the type of a Service. -/
theorem Form.fits_serviceType {s : String} :
    serviceType.fits s = true ↔ s = "NodePort" ∨ s = "LoadBalancer" ∨ s = "ClusterIP" := by
  simp [fits, Pattern.accepts_iff, serviceType, String.toList_inj]

/-! ## Database settings -/

namespace DatabaseSettings

/-- The settings can be built from some keywords in some environment, by some interpreter. -/
def Valid (d : DatabaseSettings) : Prop :=
  ∃ (_ : Interpreter) (keywords : Keywords) (env : Environment), build keywords env = .ok d

/-- The settings were read from a source. -/
theorem Valid.exists_read {d : DatabaseSettings} (h : d.Valid) : ∃ s, read s = .ok d := by
  obtain ⟨_, keywords, env, hbuild⟩ := h
  unfold build at hbuild
  cases hc : env.containerValue with
  | error e => simp [hc, bind, Except.bind] at hbuild
  | ok container =>
    refine ⟨⟨keywords, env, container⟩, ?_⟩
    cases hr : read ⟨keywords, env, container⟩ with
    | error vs => simp [hc, hr, bind, Except.bind, Except.mapError] at hbuild
    | ok d' => simpa [hc, hr, bind, Except.bind, Except.mapError] using hbuild

/-- **The settings are read field by field**, and independently of one another. -/
theorem read_eq_ok {s : Source} {d : DatabaseSettings} :
    read s = .ok d ↔
      s.read "service_name" "postgres-service" (.formed .label) = .ok d.serviceName ∧
      s.read "pod_name" "postgres" (.formed .label) = .ok d.podName ∧
      s.read "app_label" "postgres" .text = .ok d.appLabel ∧
      s.read "image" "postgres:latest" .text = .ok d.image ∧
      s.read "container_port" 5432 (.whole 1 65535) = .ok d.containerPort ∧
      s.read "service_type" "NodePort" (.formed .serviceType) = .ok d.serviceType ∧
      s.read "node_port" (some 32543) (.nullable (.whole 30000 32767)) = .ok d.nodePort ∧
      s.read "database" "eventstore_db" .text = .ok d.database ∧
      s.read "user" "postgres" .text = .ok d.user ∧
      s.read "password" "password" .text = .ok d.password ∧
      s.readVariables = .ok d.env := by
  obtain ⟨serviceName, podName, appLabel, image, containerPort, serviceType, nodePort, database,
    user, password, env⟩ := d
  simp only [read, Checked.supply_eq_ok, Checked.start, Except.ok.injEq, exists_and_left,
    exists_eq_left', exists_exists_and_eq_and, exists_exists_and_exists_and_eq_and, ↓existsAndEq,
    and_true, and_assoc, mk.injEq]

/-- The defaults are valid. -/
theorem valid_default : Valid {} := ⟨.standard, [], [], rfl⟩

namespace Valid

variable {d : DatabaseSettings}

/-- There are three types of Service. -/
theorem serviceType_mem (h : d.Valid) :
    d.serviceType = "NodePort" ∨ d.serviceType = "LoadBalancer" ∨ d.serviceType = "ClusterIP" := by
  obtain ⟨s, hread⟩ := h.exists_read
  obtain ⟨-, -, -, -, -, htype, -⟩ := read_eq_ok.1 hread
  have fits := Source.read_spec (P := fun t => Form.serviceType.fits t = true) htype
    (Form.fits_serviceType.2 (Or.inl rfl)) fun v t ht => Reader.fits_of_formed ht
  exact Form.fits_serviceType.1 fits

/-- A node port is in the range that clusters give them from. -/
theorem nodePort_range (h : d.Valid) {n : Int} (hn : d.nodePort = some n) :
    30000 ≤ n ∧ n ≤ 32767 := by
  obtain ⟨s, hread⟩ := h.exists_read
  obtain ⟨-, -, -, -, -, -, hport, -⟩ := read_eq_ok.1 hread
  refine Source.read_spec (P := fun p => ∀ n, p = some n → 30000 ≤ n ∧ n ≤ 32767) hport ?_ ?_ n hn
  · rintro _ ⟨⟩
    decide
  · rintro v _ hgiven n rfl
    exact Reader.range_of_whole (Reader.of_nullable hgiven)

end Valid

end DatabaseSettings

end EphemeralDatabase
