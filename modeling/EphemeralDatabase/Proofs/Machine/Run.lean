import EphemeralDatabase.Proofs.Server.World

/-!
# Running machines

`Machine.run` runs a machine against a world for a number of requests, and `Machine.Trace` says by
which exchanges a machine can get from one state to another.  `Machine.Runs` is what a run has to
show: the state in which the machine is left, the world, and the exchanges between the two.

A run follows every trace of the machine in which the world takes part (`runs_of_trace`), and every
run is such a trace (`exists_runs`), which either came to the end of the machine or has used up its
requests.
-/

namespace EphemeralDatabase

variable {τ σ ω : Type}

namespace Machine

/-- With so many requests a machine is run from one state to another, and these are the exchanges
that lead the world along. -/
structure Runs (m : Machine τ σ) (world : World τ ω) (fuel : ℕ) (s : σ) (w : ω)
    (es : List (Exchange τ)) (t : σ) (w' : ω) : Prop where
  result : (m.run world fuel s w).result = t
  leaves : (m.run world fuel s w).world = w'
  exchanges : (m.run world fuel s w).journal.exchanges = es

variable {m : Machine τ σ} {world : World τ ω} {w w' : ω} {s t : σ} {es : List (Exchange τ)}
  {fuel : ℕ}

theorem run_of_quiet (quiet : m.ask s = none) : m.run world fuel s = pure s := by
  cases fuel <;> simp [run, quiet]

theorem run_of_ask {request : Request τ} (asks : m.ask s = some request) :
    m.run world (fuel + 1) s =
      Act.request world request >>= fun reply => Act.report (m.resume s reply).2 >>= fun _ =>
        m.run world fuel (m.resume s reply).1 := by
  simp [run, asks]

/-- A machine that has nothing to ask makes no exchange. -/
theorem runs_of_quiet (quiet : m.ask s = none) : m.Runs world fuel s w [] s w := by
  constructor <;> simp [run_of_quiet quiet, pure, Journal.exchanges]

/-- One exchange, and then the rest of the run. -/
theorem Runs.cons {request : Request τ} (asks : m.ask s = some request)
    (rest : m.Runs world fuel (m.resume s (world.ask request w).1).1 (world.ask request w).2 es t
      w') :
    m.Runs world (fuel + 1) s w (⟨request, (world.ask request w).1⟩ :: es) t w' := by
  obtain ⟨hresult, hleaves, hexchanges⟩ := rest
  constructor <;> rw [run_of_ask asks] <;> simpa [bind, Act.report, Act.note, Act.request]

/-- **A run follows every trace in which the world takes part**, to its end if the machine has come
to its own, and otherwise as far as the requests last. -/
theorem runs_of_trace (trace : m.Trace s es t) (carries : Carries world.Conducts w es w')
    (enough : es.length ≤ fuel) (stops : m.ask t = none ∨ fuel = es.length) :
    m.Runs world fuel s w es t w' := by
  induction trace generalizing w fuel with
  | nil s =>
    obtain rfl := carries_nil.1 carries
    rcases stops with quiet | rfl
    · exact runs_of_quiet quiet
    · exact ⟨rfl, rfl, rfl⟩
  | @cons s t request reply es asks rest ih =>
    obtain ⟨w₁, first, others⟩ := carries_cons.1 carries
    obtain ⟨fuel, rfl⟩ := Nat.exists_eq_add_of_le' (Nat.one_le_of_lt enough)
    have answer : world.ask request w = (reply, w₁) := first
    have left : m.Runs world fuel (m.resume s (world.ask request w).1).1
        (world.ask request w).2 es t w' := by
      rw [answer]
      exact ih others (Nat.le_of_succ_le_succ enough) (stops.imp_right Nat.succ.inj)
    have run := left.cons asks
    rwa [answer] at run

/-- **What every exchange keeps is kept by a whole trace**, also if it is about the number of calls.
-/
theorem Trace.lasting {ρ : Type} {conduct : ρ → Exchange τ → ρ → Prop} {P : ℕ → ρ → σ → Prop}
    (step : ∀ {k r s request reply r'}, P k r s → m.ask s = some request →
      conduct r ⟨request, reply⟩ r' →
      P (k + (Exchange.calls [⟨request, reply⟩]).length) r' (m.resume s reply).1)
    (trace : m.Trace s es t) {k : ℕ} {r r' : ρ} (first : P k r s)
    (carries : Carries conduct r es r') : P (k + (Exchange.calls es).length) r' t := by
  induction trace generalizing k r with
  | nil s =>
    obtain rfl := carries_nil.1 carries
    exact first
  | @cons s t request reply es asks rest ih =>
    obtain ⟨r₁, exchange, others⟩ := carries_cons.1 carries
    have calls : k + (Exchange.calls (⟨request, reply⟩ :: es)).length =
        k + (Exchange.calls [⟨request, reply⟩]).length + (Exchange.calls es).length := by
      rw [Nat.add_assoc, ← List.length_append, ← Exchange.calls_append, List.singleton_append]
    rw [calls]
    exact ih (step first asks exchange) others

/-- **Every run is a trace in which the world takes part.** -/
theorem exists_runs (m : Machine τ σ) (world : World τ ω) (fuel : ℕ) (s : σ) (w : ω) :
    ∃ es t w', m.Runs world fuel s w es t w' ∧ m.Trace s es t ∧
      Carries world.Conducts w es w' ∧ (m.ask t = none ∨ fuel = es.length) := by
  induction fuel generalizing s w with
  | zero => exact ⟨[], s, w, ⟨rfl, rfl, rfl⟩, .nil s, carries_nil.2 rfl, Or.inr rfl⟩
  | succ fuel ih =>
    cases hask : m.ask s with
    | none => exact ⟨[], s, w, runs_of_quiet hask, .nil s, carries_nil.2 rfl, Or.inl hask⟩
    | some request =>
      obtain ⟨es, t, w', runs, trace, carries, stops⟩ :=
        ih (m.resume s (world.ask request w).1).1 (world.ask request w).2
      exact ⟨_, t, w', .cons hask runs, .cons hask trace, carries_cons.2 ⟨_, rfl, carries⟩,
        stops.imp_right fun h => by rw [List.length_cons, h]⟩

end Machine

end EphemeralDatabase
