import EphemeralDatabase.Cluster.Simulator
import EphemeralDatabase.Proofs.Server.World
import Mathlib.Tactic.Simps.Basic

/-!
# A server that shows what it holds

`Serves` leaves open what a server without faults shows of its objects and when it answers.  Here is
one of which both are known.  It answers at once, and only pauses take time.  A Service looks as the
document says that it was created from, with an address inside the cluster and no load balancer; a
Pod is pending when it is created and soon runs.

The scripted cluster behaves like this server, if its script is empty (`Simulator.imitates`).
-/

namespace EphemeralDatabase

variable {τ : Type}

/-! ## What is shown -/

/-- What an object that was created from a document can look like.  Looks are counted from its
creation on, which shows it for the first time. -/
inductive Appears (ip : String) (body : Manifest) : Kind → ℕ → View → Prop
  | service {looks : ℕ} {view : View} (told : view.spec = (Simulator.serviceView ip body).spec)
      (unbalanced : view.ingress = []) : Appears ip body .service looks view
  | pending {looks : ℕ} {view : View} (early : looks ≤ 1)
      (phase : view.status.bind StatusView.phase = some "Pending") :
      Appears ip body .pod looks view
  | running {looks : ℕ} {view : View} (late : 1 ≤ looks)
      (phase : view.status.bind StatusView.phase = some "Running") :
      Appears ip body .pod looks view

/-- What a server holds, how often it has shown each object, and what time it is. -/
structure Scene (τ : Type) where
  objects : Objects
  looks : Address → ℕ
  time : τ

namespace Scene

/-- An object has been shown. -/
@[simps]
def looked (d : Scene τ) (a : Address) : Scene τ :=
  { d with looks := Function.update d.looks a (d.looks a + 1) }

/-- An object has been created and shown. -/
@[simps]
def made (d : Scene τ) (a : Address) (body : Manifest) : Scene τ :=
  { d with objects := d.objects.put a body, looks := Function.update d.looks a 1 }

/-- An object has been deleted. -/
@[simps]
def dropped (d : Scene τ) (a : Address) : Scene τ := { d with objects := d.objects.drop a }

/-- Time has passed. -/
@[simps]
def later [Clock τ] (d : Scene τ) (seconds : τ) : Scene τ :=
  { d with time := d.time + seconds }

end Scene

/-- How a server replies that has no faults, shows what it holds, and answers at once. -/
inductive Displays [Clock τ] (ip : String) : Scene τ → Exchange τ → Scene τ → Prop
  | found {d : Scene τ} {a : Address} {body : Manifest} {view : View}
      (there : d.objects a = some body) (appears : Appears ip body a.kind (d.looks a) view) :
      Displays ip d ⟨.read a, ⟨.ok view, d.time⟩⟩ (d.looked a)
  | made {d : Scene τ} {a : Address} {body : Manifest} {view : View}
      (absent : d.objects a = none) (appears : Appears ip body a.kind 0 view) :
      Displays ip d ⟨.create a body, ⟨.ok view, d.time⟩⟩ (d.made a body)
  | deleted {d : Scene τ} {a : Address} {view : View} (there : d.objects a ≠ none) :
      Displays ip d ⟨.delete a, ⟨.ok view, d.time⟩⟩ (d.dropped a)
  | refused {d : Scene τ} {request : Request τ} {fault : Fault}
      (serves : Serves d.objects ⟨request, ⟨.error fault, d.time⟩⟩ d.objects) :
      Displays ip d ⟨request, ⟨.error fault, d.time⟩⟩ d
  | slept {d : Scene τ} {seconds : τ} {view : View} :
      Displays ip d ⟨.sleep seconds, ⟨.ok view, d.time + seconds⟩⟩ (d.later seconds)

namespace Displays

variable [Clock τ] {ip : String} {d d' : Scene τ} {e : Exchange τ} {a : Address}

theorem serves (h : Displays ip d e d') : Serves d.objects e d'.objects := by
  cases h with
  | found there => exact .found (by simp [there])
  | made absent => exact .made absent
  | deleted there => exact .deleted there
  | refused serves => exact serves
  | slept => exact .slept

/-- A read of what is not there finds nothing, at once. -/
theorem of_read_absent (h : Displays ip d e d') (hr : e.request = .read a)
    (absent : d.objects a = none) :
    d' = d ∧ e.reply.time = d.time ∧
      ∃ reason, e.reply.answer = .error (.api (some 404) reason) := by
  cases h with
  | found there =>
    cases hr
    exact absurd absent (by simp [there])
  | refused serves =>
    obtain ⟨-, ⟨there, -⟩ | ⟨-, missing⟩⟩ := serves.of_read hr
    · exact absurd absent there
    · exact ⟨rfl, rfl, missing⟩
  | made | deleted | slept => cases hr

/-- A read of what is there shows it, at once. -/
theorem of_read_there (h : Displays ip d e d') (hr : e.request = .read a) {body : Manifest}
    (there : d.objects a = some body) : d' = d.looked a ∧ e.reply.time = d.time ∧
      ∃ view, e.reply.answer = .ok view ∧ Appears ip body a.kind (d.looks a) view := by
  cases h with
  | @found b body' view there' appears =>
    obtain rfl : b = a := by simpa using hr
    obtain rfl : body' = body := by simpa [there'] using there
    exact ⟨rfl, rfl, view, rfl, appears⟩
  | refused serves =>
    obtain ⟨-, ⟨-, view, hview⟩ | ⟨absent, -⟩⟩ := serves.of_read hr
    · cases hview
    · exact absurd absent (by simp [there])
  | made | deleted | slept => cases hr

/-- What is not there can be created, at once. -/
theorem of_create_absent (h : Displays ip d e d') {body : Manifest}
    (hr : e.request = .create a body) (absent : d.objects a = none) :
    d' = d.made a body ∧ e.reply.time = d.time ∧ ∃ view, e.reply.answer = .ok view := by
  cases h with
  | @made b body' view absent' appears =>
    obtain ⟨rfl, rfl⟩ : b = a ∧ body' = body := by simpa using hr
    exact ⟨rfl, rfl, view, rfl⟩
  | refused serves =>
    rcases serves.of_create hr with ⟨-, -, view, hview⟩ | ⟨there, -⟩
    · cases hview
    · exact absurd absent there
  | found | deleted | slept => cases hr

/-- Pauses come to their end. -/
theorem of_sleep (h : Displays ip d e d') {seconds : τ} (hr : e.request = .sleep seconds) :
    d' = d.later seconds ∧ ∃ view, e.reply.answer = .ok view := by
  cases h with
  | @slept s view =>
    obtain rfl : s = seconds := by simpa using hr
    exact ⟨rfl, view, rfl⟩
  | refused serves =>
    obtain ⟨-, view, hview⟩ := serves.of_sleep hr
    cases hview
  | found | made | deleted => cases hr

end Displays

end EphemeralDatabase
