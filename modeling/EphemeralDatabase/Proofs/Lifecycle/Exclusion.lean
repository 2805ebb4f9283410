import EphemeralDatabase.Proofs.Lifecycle.History
import EphemeralDatabase.Proofs.Provision.Course

/-!
# Exclusion

What must never happen at the same time does not.  Two threads never provision together; whether
one does can be read off the shared fields whenever the lock is free; and no release deletes
anything while a database is being provisioned.

The last is not a matter of the lock, which provisioning does not hold.  Between its first and its
last exchange a flight is in progress, so that the fixture is provisioning and not ready, and a
release makes its attempts to delete only on a fixture that is ready.
-/

namespace EphemeralDatabase
namespace History

open Crew Position

variable {τ : Type} [Clock τ] {plan : Plan τ} {h : History plan}

/-- The fixture is ready when a release makes an attempt to delete. -/
theorem ready_of_attempts {n : ℕ} {t : ThreadId} {a : Address} (ha : h.Attempts n t a) :
    (h.crew n).cell.status = .ready := by
  obtain ⟨p, q, reply, hx⟩ := ha
  rcases ((h.step hx).exchange_effect rfl).2 with ⟨f, s, asks, -, -⟩ | ⟨strict, s, -, hp, -⟩
  · exact absurd asks (Provision.ask_ne_delete s a)
  · exact (h.coherent n).ready t ⟨_, hp, trivial⟩

/-- **No attempt to delete is made between two exchanges of a flight.** -/
theorem not_attempts_between {i j k : ℕ} {f : Flight} {d e : Exchange τ} (hij : i ≤ j)
    (hjk : j ≤ k) (hi : h.exchange? f i = some d) (hk : h.exchange? f k = some e) (t : ThreadId)
    (a : Address) : ¬ h.Attempts j t a := by
  intro ha
  have hin := inflight_between hij hjk (inflight_of_exchange hi) (inflight_of_exchange hk)
  have hst : (h.crew j).cell.status = .provisioning :=
    (h.coherent j).status.2 (by rw [hin]; rfl)
  exact absurd ((ready_of_attempts ha).symm.trans hst) (by simp)

end History

/-- Some thread owns a flight exactly while one is in progress, and it is the only one. -/
theorem Crew.Coherent.status_iff_existsUnique {τ : Type} {crew : Crew τ} (hc : crew.Coherent) :
    crew.cell.status = .provisioning ↔ ∃! t, ∃ f, crew.Stands t (Position.Owns f) := by
  rw [hc.status, Option.isSome_iff_exists]
  constructor
  · rintro ⟨f, hf⟩
    obtain ⟨t, ht⟩ := (hc.owner f).1 hf
    exact ⟨t, ⟨f, ht⟩, fun u ⟨g, hu⟩ => hc.owner_unique hu ht⟩
  · rintro ⟨t, ⟨f, ht⟩, -⟩
    exact ⟨f, (hc.owner f).2 ⟨t, ht⟩⟩

/-- **Mutual exclusion.**  In every history: no two threads own a flight at the same time; while
the lock is free, the fixture has a flight in progress exactly if it is provisioning, exactly if
there is one thread that owns a flight, and has a handle exactly if it is ready; and nothing is
deleted between the first and the last exchange of a flight. -/
theorem History.exclusive {τ : Type} [Clock τ] {plan : Plan τ} (h : History plan) :
    (∀ n t u f g, (h.crew n).Stands t (Position.Owns f) → (h.crew n).Stands u (Position.Owns g) →
      t = u) ∧
    (∀ n, (h.crew n).cell.lock = none →
      ((h.crew n).cell.inflight.isSome ↔ (h.crew n).cell.status = .provisioning) ∧
      ((h.crew n).cell.status = .provisioning ↔
        ∃! t, ∃ f, (h.crew n).Stands t (Position.Owns f)) ∧
      ((h.crew n).cell.handle.isSome ↔ (h.crew n).cell.status = .ready)) ∧
    (∀ i j k f, i ≤ j → j ≤ k → (h.exchange? f i).isSome → (h.exchange? f k).isSome →
      ∀ t a, ¬ h.Attempts j t a) := by
  refine ⟨?_, ?_, ?_⟩
  · intro n t u f g ht hu
    exact (h.coherent n).owner_unique ht hu
  · intro n _
    have hc := h.coherent n
    exact ⟨hc.status.symm, hc.status_iff_existsUnique, hc.handle.symm⟩
  · intro i j k f hij hjk hi hk t a
    obtain ⟨d, hd⟩ := Option.isSome_iff_exists.1 hi
    obtain ⟨e, he⟩ := Option.isSome_iff_exists.1 hk
    exact not_attempts_between hij hjk hd he t a

end EphemeralDatabase
