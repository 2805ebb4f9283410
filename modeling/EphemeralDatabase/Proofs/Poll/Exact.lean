import EphemeralDatabase.Fixture.Poll
import Mathlib.Algebra.Order.Archimedean.Basic
import Mathlib.Tactic.Abel

/-!
# Exact clocks

Times are exact when they are added, subtracted and compared as in an ordered group: nothing is
rounded, and nothing overflows.  If moreover time has no end, a pace that makes pauses gets past its
deadline (`Pace.exists_spent`).
-/

namespace EphemeralDatabase

variable {τ : Type}

/-- How long one has waited at a time. -/
def Watch.elapsed [Clock τ] (w : Watch τ) (time : τ) : τ := time - w.started

variable [AddCommGroup τ] [LinearOrder τ]

/-! ## Paces -/

/-- There is a pause between one look and the next, and time for more than one. -/
structure Pace.Positive (p : Pace τ) : Prop where
  interval : 0 < p.interval
  deadline : 0 < p.deadline

/-- Both paces are positive. -/
def PollSettings.Positive (s : PollSettings τ) : Prop := ∀ kind, (s.forKind kind).Positive

/-- After so many pauses more the deadline has passed. -/
def Pace.Spent (p : Pace τ) (elapsed : τ) (pauses : ℕ) : Prop :=
  p.deadline < elapsed + pauses • p.interval

namespace Pace

variable {p : Pace τ} {elapsed : τ} {pauses : ℕ}

@[simp] theorem spent_zero : p.Spent elapsed 0 ↔ p.deadline < elapsed := by
  simp [Spent]

theorem spent_succ : p.Spent elapsed (pauses + 1) ↔ p.Spent (elapsed + p.interval) pauses := by
  have pause : elapsed + (pauses + 1) • p.interval =
      elapsed + p.interval + pauses • p.interval := by
    rw [succ_nsmul]
    abel
  rw [Spent, Spent, pause]

/-- **Enough pauses get past every deadline.** -/
theorem exists_spent [IsOrderedAddMonoid τ] [Archimedean τ] (positive : p.Positive) (elapsed : τ) :
    ∃ pauses, p.Spent elapsed pauses := by
  obtain ⟨pauses, enough⟩ := exists_lt_nsmul positive.interval (p.deadline - elapsed)
  exact ⟨pauses, sub_lt_iff_lt_add'.1 enough⟩

end Pace

/-! ## Clocks -/

/-- Exact times are those of an ordered group. -/
instance Clock.exact (τ : Type) [AddCommGroup τ] [LinearOrder τ] : Clock τ where
  zero := 0
  decidableLT := inferInstance

end EphemeralDatabase
