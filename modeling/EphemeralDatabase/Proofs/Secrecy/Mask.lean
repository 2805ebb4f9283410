import EphemeralDatabase.Fixture.Basic
import EphemeralDatabase.Proofs.Settings.Password
import EphemeralDatabase.Proofs.Settings.Precedence

/-!
# What the password can be seen in

The password stands in the settings, in the environment of the container that a Pod is created
with, in the handle, and in an error that says which Pod could not be provisioned.  To mask
something is to put a fixed text there in place of the password; things that are masked to the same
differ in nothing else.

A container variable of the settings may have the name of the password variable.  The value that
is masked is then not the password, and masking it too does no harm: the Pods of settings that
differ in the password only are masked to the same (`podDescriptor_masked`).

What is said of an error does not show what the error holds (`AcquireError.message_masked`).
-/

namespace EphemeralDatabase

/-- The container variable that holds the password. -/
def passwordVariable : String := "POSTGRES_PASSWORD"

/-! ## Container variables -/

/-- Container variables with the value of the password variable masked. -/
def Mapping.masked (m : Mapping String) : Mapping String :=
  m.map fun pair => (pair.1, if pair.1 = passwordVariable then mask else pair.2)

theorem Mapping.masked_update (m pairs : Mapping String) :
    (m.update pairs).masked = m.masked.update (Mapping.masked pairs) :=
  (update_map (fun key value => if key = passwordVariable then mask else value) m pairs).symm

@[simp] theorem Mapping.masked_masked (m : Mapping String) : masked (masked m) = masked m := by
  simp only [masked, List.map_map, List.map_inj_left]
  rintro ⟨key, value⟩ -
  by_cases h : key = passwordVariable <;> simp [h]

/-- The container variables do not show the password but in its variable. -/
theorem DatabaseSettings.workloadEnv_masked {d d' : DatabaseSettings} (h : d.masked = d'.masked) :
    d.workloadEnv.masked = d'.workloadEnv.masked := by
  obtain ⟨password, rfl⟩ := masked_eq_iff.1 h
  simp only [workloadEnv, Mapping.masked_update]
  rfl

/-! ## Manifests and requests -/

namespace Manifest

/-- Changes the value of a field. -/
def onField (key : String) (f : Manifest → Manifest) : Manifest → Manifest
  | fields fs => fields (fs.map fun (name, m) => (name, if name = key then f m else m))
  | m => m

/-- Changes every entry of a list. -/
def onItems (f : Manifest → Manifest) : Manifest → Manifest
  | items ms => items (ms.map f)
  | m => m

/-- Changes the environment of every container of a Pod. -/
def onVariables (f : Manifest → Manifest) : Manifest → Manifest :=
  onField "spec" (onField "containers" (onItems (onField "env" f)))

variable (key : String) (f g : Manifest → Manifest) (m : Manifest)

theorem onField_onField : (m.onField key f).onField key g = m.onField key (g ∘ f) := by
  cases m with
  | fields fs =>
    simp only [onField, List.map_map, fields.injEq, List.map_inj_left]
    intro field _
    by_cases h : field.1 = key <;> simp [h]
  | text | number | items => rfl

theorem onItems_comp_onItems : onItems g ∘ onItems f = onItems (g ∘ f) := by
  funext m
  cases m <;> simp [onItems]

theorem onField_comp_onField : onField key g ∘ onField key f = onField key (g ∘ f) :=
  funext fun m => onField_onField key f g m

theorem onVariables_onVariables : (m.onVariables f).onVariables g = m.onVariables (g ∘ f) := by
  simp only [onVariables, onField_onField, onField_comp_onField, onItems_comp_onItems]

/-- The entry of a variable, masked if the variable is that of the password. -/
def maskedEntry (entry : Manifest) : Manifest :=
  if (entry.get? "name").bind text? = some passwordVariable then
    entry.onField "value" fun _ => text mask
  else entry

/-- The body of a Pod with the value of the password variable masked. -/
def masked (body : Manifest) : Manifest := body.onVariables (onItems maskedEntry)

/-- The body of a Pod without its environment. -/
def withoutEnvironment (body : Manifest) : Manifest := body.onVariables fun _ => items []

/-- Nothing of the mask is left without the environment. -/
theorem withoutEnvironment_masked (body : Manifest) :
    body.masked.withoutEnvironment = body.withoutEnvironment :=
  onVariables_onVariables _ _ body

theorem masked_envEntries (m : Mapping String) :
    (Descriptor.envEntries m).map maskedEntry = Descriptor.envEntries m.masked := by
  simp only [Descriptor.envEntries, Mapping.masked, List.map_map, List.map_inj_left]
  rintro ⟨name, value⟩ _
  by_cases h : name = passwordVariable <;>
    simp [maskedEntry, get?, Mapping.get?, text?, onField, h]

end Manifest

/-! ## Descriptors -/

/-- The payload with the value of the password variable masked. -/
def Spec.masked : Spec → Spec
  | network s => network s
  | workload s => workload { s with env := Mapping.masked s.env }

namespace Descriptor

/-- The descriptor with the value of the password variable masked. -/
def masked (d : Descriptor) : Descriptor := { d with spec := d.spec.masked }

variable (d : Descriptor)

@[simp] theorem masked_address : d.masked.address = d.address := by
  cases hs : d.spec <;> simp [masked, Spec.masked, address, kind, Spec.kind, hs]

@[simp] theorem masked_ref : d.masked.ref = d.ref := congrArg Address.ref d.masked_address

@[simp] theorem masked_kind : d.masked.kind = d.kind := congrArg Address.kind d.masked_address

@[simp] theorem masked_masked : d.masked.masked = d.masked := by
  cases hs : d.spec <;> simp [masked, Spec.masked, hs]

/-- **The body that an object is created with is masked by masking its descriptor.** -/
theorem manifest_masked : d.manifest.masked = d.masked.manifest := by
  obtain ⟨space, name, spec, labels⟩ := d
  cases spec with
  | network s =>
    simp [manifest, masked, Spec.masked, specManifest, Manifest.masked, Manifest.onVariables,
      Manifest.onField, kind, Spec.kind]
  | workload s =>
    have hempty : (Mapping.masked s.env).isEmpty = s.env.isEmpty := by simp [Mapping.masked]
    cases h : s.env.isEmpty <;>
      simp [manifest, masked, Spec.masked, specManifest, Manifest.masked, Manifest.onVariables,
        Manifest.onField, Manifest.onItems, Manifest.masked_envEntries, hempty, h, kind, Spec.kind]

end Descriptor

/-- **The Pods of settings that differ in the password only are masked to the same.** -/
theorem podDescriptor_masked (c : ClusterSettings) {d d' : DatabaseSettings}
    (h : d.masked = d'.masked) : (podDescriptor c d).masked = (podDescriptor c d').masked := by
  have henv := DatabaseSettings.workloadEnv_masked h
  obtain ⟨password, rfl⟩ := DatabaseSettings.masked_eq_iff.1 h
  simp only [Descriptor.masked, podDescriptor, Spec.masked, henv]
  rfl

/-! ## Requests -/

namespace Request

variable {τ : Type}

/-- Changes the body that a Pod is created with. -/
def onPodBody (f : Manifest → Manifest) : Request τ → Request τ
  | create a body =>
      create a (match a.kind with
        | .pod => f body
        | .service => body)
  | r => r

/-- The request with the password masked. -/
def masked : Request τ → Request τ := onPodBody Manifest.masked

/-- The request without the environment of the container. -/
def withoutEnvironment : Request τ → Request τ := onPodBody Manifest.withoutEnvironment

theorem withoutEnvironment_masked (r : Request τ) :
    r.masked.withoutEnvironment = r.withoutEnvironment := by
  cases r with
  | create a body =>
    obtain ⟨kind, space, name⟩ := a
    cases kind <;>
      simp [masked, withoutEnvironment, onPodBody, Manifest.withoutEnvironment_masked]
  | read | delete | sleep => rfl

/-- Requests that are masked to the same differ in the environment at most. -/
theorem withoutEnvironment_congr {r r' : Request τ} (h : r.masked = r'.masked) :
    r.withoutEnvironment = r'.withoutEnvironment := by
  rw [← withoutEnvironment_masked, h, withoutEnvironment_masked]

end Request

/-! ## Handles, errors and journals -/

/-- The handle with the password masked. -/
def Handle.masked (h : Handle) : Handle := { h with password := mask }

section Errors

variable {τ : Type}

/-- Why a database cannot be had, with the password masked in what could not be provisioned. -/
def AcquireError.masked : AcquireError τ → AcquireError τ
  | provisioning d cause => provisioning d.masked cause
  | e => e

/-- What came of an acquisition, with the password masked. -/
def Acquired.masked : Acquired τ → Acquired τ
  | .ok handle => .ok handle.masked
  | .error e => .error e.masked

@[simp] theorem AcquireError.masked_masked (e : AcquireError τ) : e.masked.masked = e.masked := by
  cases e <;> simp [masked]

@[simp] theorem Acquired.masked_masked (o : Acquired τ) : masked (masked o) = masked o := by
  cases o <;> simp [masked, Handle.masked]

/-- **No message of an error depends on the password**, though an error may hold it. -/
@[simp] theorem AcquireError.message_masked (e : AcquireError Float) :
    e.masked.message = e.message := by
  cases e <;> simp [masked, message]

end Errors

/-- Something that happened, with the password masked. -/
def Entry.masked {τ : Type} : Entry τ → Entry τ
  | exchange e => exchange { e with request := e.request.masked }
  | e => e

/-- What happened, with the password masked. -/
def Journal.masked {τ : Type} (j : Journal τ) : Journal τ := j.map Entry.masked

@[simp] theorem Journal.masked_append {τ : Type} (j j' : Journal τ) :
    Journal.masked (j ++ j') = Journal.masked j ++ Journal.masked j' := List.map_append

/-- Events hold nothing that is masked. -/
theorem Journal.events_masked {τ : Type} (j : Journal τ) :
    events (Journal.masked j) = events j := by
  induction j with
  | nil => rfl
  | cons entry j ih =>
    cases entry <;> simp_all [events, masked, Entry.masked]

end EphemeralDatabase
