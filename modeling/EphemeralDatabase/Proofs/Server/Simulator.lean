import EphemeralDatabase.Proofs.Poll.Exact
import EphemeralDatabase.Proofs.Server.Scene

/-!
# The scripted cluster without a script

With nothing in its script the scripted cluster is a server without faults that shows what it holds
(`Simulator.imitates`).  It keeps the views that an object has yet to show and no documents, so each
of its states stands for a scene whose objects have those views left.
-/

namespace EphemeralDatabase.Simulator

variable {τ : Type}

/-! ## Finding objects -/

section Objects

variable {s : Simulator τ} {a b : Address} {views : List View}

@[simp] theorem find?_put_self : (s.put a views).find? a = some ⟨a, views⟩ := by
  simp [find?, put]

theorem find?_put_of_ne (h : b ≠ a) : (s.put a views).find? b = s.find? b := by
  simp only [find?, put, List.find?_cons, List.find?_filter, h.symm, decide_false]
  congr 1
  funext o
  by_cases hb : o.address = b
  · simp [hb, h]
  · simp [hb]

@[simp] theorem find?_drop_self : (s.drop a).find? a = none := by
  simp [find?, drop]

theorem find?_drop_of_ne (h : b ≠ a) : (s.drop a).find? b = s.find? b := by
  simp only [find?, drop, List.find?_filter]
  congr 1
  funext o
  by_cases hb : o.address = b
  · simp [hb, h]
  · simp [hb]

end Objects

/-! ## Without a script -/

/-- Nothing is in the script. -/
structure Calm (s : Simulator τ) : Prop where
  script : s.script = []
  latency : s.latency = []
  onCreate : s.onCreate = []

namespace Calm

variable [AddCommGroup τ] [LinearOrder τ] {s : Simulator τ} {request : Request τ}

/-- A call on an object has its effect, and takes no time. -/
theorem answer_eq (h : s.Calm) {m : Method} (hm : method? request = some m) :
    s.answer request = s.effect request := by
  obtain ⟨clock, objects, ip, onCreate, script, latency⟩ := s
  obtain ⟨rfl, rfl, rfl⟩ := h
  have still : clock + (Clock.zero : τ) = clock := add_zero clock
  cases request with
  | sleep => cases hm
  | read | create | delete => simp [answer, method?, latencyOf, advance, takeFirst, still]

end Calm

/-- The views that are left of an object when it has been created. -/
def remaining (ip : String) (body : Manifest) : Kind → List View
  | .service => [serviceView ip body]
  | .pod => [podView "Running"]

/-- A scripted cluster without a script is in a state that stands for a scene. -/
structure StandsFor (ip : String) (s : Simulator τ) (d : Scene τ) : Prop extends s.Calm where
  clusterIP : s.clusterIP = ip
  clock : s.clock = d.time
  objects : ∀ a, s.find? a = (d.objects a).map fun body => ⟨a, remaining ip body a.kind⟩
  looks : ∀ a, d.objects a ≠ none → 1 ≤ d.looks a

namespace StandsFor

variable {ip : String} {s : Simulator τ} {d : Scene τ} {a : Address} {body : Manifest}

/-- What is left to show of an object is its only view, and stays. -/
theorem look_remaining (ip : String) (body : Manifest) (kind : Kind) :
    ∃ view, look (remaining ip body kind) = (view, remaining ip body kind) ∧
      ∀ looks, 1 ≤ looks → Appears ip body kind looks view := by
  cases kind with
  | service => exact ⟨_, rfl, fun _ _ => .service rfl rfl⟩
  | pod => exact ⟨_, rfl, fun _ late => .running late rfl⟩

/-- The first look is at the creation. -/
theorem look_viewsOf (h : s.StandsFor ip d) (body : Manifest) (kind : Kind) :
    ∃ view, look (s.viewsOf kind body) = (view, remaining ip body kind) ∧
      Appears ip body kind 0 view := by
  obtain ⟨⟨-, -, honCreate⟩, rfl, -⟩ := h
  have standard : s.viewsOf kind body = s.standardViews kind body := by
    simp [viewsOf, honCreate]
  rw [standard]
  cases kind with
  | service => exact ⟨_, rfl, .service rfl rfl⟩
  | pod => exact ⟨_, rfl, .pending (Nat.zero_le 1) rfl⟩

theorem find?_eq_none (h : s.StandsFor ip d) (absent : d.objects a = none) : s.find? a = none := by
  rw [h.objects, absent]
  rfl

theorem find?_eq_some (h : s.StandsFor ip d) (there : d.objects a = some body) :
    s.find? a = some ⟨a, remaining ip body a.kind⟩ := by
  rw [h.objects, there]
  rfl

/-- Putting an object where its like is, is not noticed. -/
theorem looked (h : s.StandsFor ip d) (there : d.objects a = some body) :
    (s.put a (remaining ip body a.kind)).StandsFor ip (d.looked a) where
  __ := h
  objects b := by
    by_cases hb : b = a
    · subst hb
      rw [find?_put_self, ← h.find?_eq_some there]
      exact h.objects b
    · rw [find?_put_of_ne hb]
      exact h.objects b
  looks b hthere := by
    by_cases hb : b = a
    · subst hb
      simp [Scene.looked]
    · simpa [Scene.looked, hb] using h.looks b hthere

theorem made (h : s.StandsFor ip d) :
    (s.put a (remaining ip body a.kind)).StandsFor ip (d.made a body) where
  __ := h
  objects b := by
    by_cases hb : b = a
    · subst hb
      rw [find?_put_self, Scene.made_objects, Objects.put_self]
      rfl
    · rw [find?_put_of_ne hb, Scene.made_objects, Objects.put_of_ne hb]
      exact h.objects b
  looks b hthere := by
    by_cases hb : b = a
    · subst hb
      simp [Scene.made]
    · have still : d.objects b ≠ none := by simpa [Scene.made, hb] using hthere
      simpa [Scene.made, hb] using h.looks b still

theorem dropped (h : s.StandsFor ip d) : (s.drop a).StandsFor ip (d.dropped a) where
  __ := h
  objects b := by
    by_cases hb : b = a
    · subst hb
      rw [find?_drop_self, Scene.dropped_objects, Objects.drop_self]
      rfl
    · rw [find?_drop_of_ne hb, Scene.dropped_objects, Objects.drop_of_ne hb]
      exact h.objects b
  looks b hthere := by
    by_cases hb : b = a
    · subst hb
      simp [Scene.dropped] at hthere
    · have still : d.objects b ≠ none := by simpa [Scene.dropped, hb] using hthere
      exact h.looks b still

theorem later [Clock τ] (h : s.StandsFor ip d) (seconds : τ) :
    (s.advance seconds).StandsFor ip (d.later seconds) where
  __ := h
  clock := congrArg (· + seconds) h.clock

/-! ### What it answers -/

section Answers

variable [AddCommGroup τ] [LinearOrder τ] (h : s.StandsFor ip d)

include h

theorem exists_read (a : Address) : ∃ d', Displays ip d ⟨.read a, (world.ask (.read a) s).1⟩ d' ∧
    StandsFor ip (world.ask (.read a) s).2 d' := by
  have answers : s.answer (.read a) = s.effect (.read a) := h.answer_eq rfl
  cases hd : d.objects a with
  | none =>
    have reply : world.ask (.read a) s = (⟨.error absent, d.time⟩, s) := by
      simp [World.ask, world, answers, effect, h.find?_eq_none hd, h.clock]
    rw [reply]
    exact ⟨d, .refused (.missing hd), h⟩
  | some body =>
    have there : d.objects a ≠ none := by simp [hd]
    have clock : (s.put a (remaining ip body a.kind)).clock = d.time := h.clock
    obtain ⟨view, hlook, appears⟩ := look_remaining ip body a.kind
    have reply : world.ask (.read a) s =
        (⟨.ok view, d.time⟩, s.put a (remaining ip body a.kind)) := by
      simp [World.ask, world, answers, effect, h.find?_eq_some hd, present, hlook, clock]
    rw [reply]
    exact ⟨_, .found hd (appears _ (h.looks a there)), h.looked hd⟩

theorem exists_create (a : Address) (body : Manifest) :
    ∃ d', Displays ip d ⟨.create a body, (world.ask (.create a body) s).1⟩ d' ∧
      StandsFor ip (world.ask (.create a body) s).2 d' := by
  have answers : s.answer (.create a body) = s.effect (.create a body) := h.answer_eq rfl
  cases hd : d.objects a with
  | none =>
    have clock : (s.put a (remaining ip body a.kind)).clock = d.time := h.clock
    obtain ⟨view, hlook, appears⟩ := h.look_viewsOf body a.kind
    have reply : world.ask (.create a body) s =
        (⟨.ok view, d.time⟩, s.put a (remaining ip body a.kind)) := by
      simp [World.ask, world, answers, effect, h.find?_eq_none hd, present, hlook, clock]
    rw [reply]
    exact ⟨_, .made hd appears, h.made⟩
  | some held =>
    have there : d.objects a ≠ none := by simp [hd]
    have reply : world.ask (.create a body) s = (⟨.error conflict, d.time⟩, s) := by
      simp [World.ask, world, answers, effect, h.find?_eq_some hd, h.clock]
    rw [reply]
    exact ⟨d, .refused (.conflict there), h⟩

theorem exists_delete (a : Address) :
    ∃ d', Displays ip d ⟨.delete a, (world.ask (.delete a) s).1⟩ d' ∧
      StandsFor ip (world.ask (.delete a) s).2 d' := by
  have answers : s.answer (.delete a) = s.effect (.delete a) := h.answer_eq rfl
  cases hd : d.objects a with
  | none =>
    have reply : world.ask (.delete a) s = (⟨.error absent, d.time⟩, s) := by
      simp [World.ask, world, answers, effect, h.find?_eq_none hd, h.clock]
    rw [reply]
    exact ⟨d, .refused (.gone hd), h⟩
  | some body =>
    have there : d.objects a ≠ none := by simp [hd]
    have clock : (s.drop a).clock = d.time := h.clock
    have reply : world.ask (.delete a) s = (⟨.ok {}, d.time⟩, s.drop a) := by
      simp [World.ask, world, answers, effect, h.find?_eq_some hd, clock]
    rw [reply]
    exact ⟨_, .deleted there, h.dropped⟩

end Answers

end StandsFor

/-- **Without a script the scripted cluster is a server that shows what it holds.** -/
theorem imitates [AddCommGroup τ] [LinearOrder τ] (ip : String) :
    (world : World τ (Simulator τ)).Imitates (Displays ip) (StandsFor ip) := by
  intro s d h request
  cases request with
  | read a => exact h.exists_read a
  | create a body => exact h.exists_create a body
  | delete a => exact h.exists_delete a
  | sleep seconds =>
    have reply : world.ask (.sleep seconds) s =
        (⟨.ok {}, d.time + seconds⟩, s.advance seconds) := by
      simp [World.ask, world, answer, advance, h.clock]
    rw [reply]
    exact ⟨_, .slept, h.later seconds⟩

end EphemeralDatabase.Simulator
