import Mathlib.Algebra.Order.Floor.Semiring
import Mathlib.Tactic.Linarith
import Mathlib.Tactic.Positivity
import EphemeralDatabase.Proofs.Poll.Timing

/-!
# How long waiting takes

The loop of waiting has no counter.  What bounds it is time: each pause uses up one interval, and
once the deadline has passed at the end of a read there is no further one.  On an exact clock that
makes `Pace.reads` reads at most, however long they take, and exactly as many if they take no time
and never show what is waited for (`Poll.calls_of_prompt`).

There is at most one pause to every read (`Machine.length_le_of_call`), so a bound on reads bounds
the exchanges, and with that many requests waiting comes to its end (`Poll.exists_returns`).  The
end comes soon after the deadline (`Poll.returns_by`).
-/

namespace EphemeralDatabase

variable {τ σ ω : Type}

/-! ## Pauses -/

/-- A request to let time pass. -/
def Request.IsSleep : Request τ → Prop
  | .sleep _ => True
  | _ => False

/-- A machine does not pause twice in a row. -/
def Machine.Alert (m : Machine τ σ) : Prop :=
  ∀ s request, m.ask s = some request → request.IsSleep → ∀ reply next,
    m.ask (m.resume s reply).1 = some next → ¬ next.IsSleep

open Classical in
/-- **To every pause there is a call.**  Only a pause at the very beginning has none. -/
theorem Machine.length_le {m : Machine τ σ} (alert : m.Alert) {s t : σ} {es : List (Exchange τ)}
    (trace : m.Trace s es t) : es.length ≤ 2 * (Exchange.calls es).length +
      if ∃ request, m.ask s = some request ∧ request.IsSleep then 1 else 0 := by
  induction trace with
  | nil s => simp
  | @cons s t request reply es asks rest ih =>
    by_cases sleep : request.IsSleep
    · have awake : ¬ ∃ next, m.ask (m.resume s reply).1 = some next ∧ next.IsSleep := by
        rintro ⟨next, hnext, again⟩
        exact alert s request asks sleep reply next hnext again
      rw [if_neg awake] at ih
      rw [if_pos ⟨request, asks, sleep⟩]
      cases request with
      | sleep seconds =>
        rw [Exchange.calls_cons_of_sleep rfl, List.length_cons]
        exact Nat.succ_le_succ ih
      | read | create | delete => exact sleep.elim
    · have call : ∃ a, request.address? = some a := by
        cases request with
        | sleep => exact absurd trivial sleep
        | read a | create a | delete a => exact ⟨a, rfl⟩
      obtain ⟨a, ha⟩ := call
      rw [Exchange.calls_cons_of_address ha, List.length_cons, List.length_cons]
      split at ih <;> omega

/-- So with a call at the beginning at least half of the exchanges are calls. -/
theorem Machine.length_le_of_call {m : Machine τ σ} (alert : m.Alert) {s t : σ}
    {request : Request τ} (asks : m.ask s = some request) (call : ¬ request.IsSleep)
    {es : List (Exchange τ)} (trace : m.Trace s es t) :
    es.length ≤ 2 * (Exchange.calls es).length := by
  have awake : ¬ ∃ request, m.ask s = some request ∧ request.IsSleep := by
    rintro ⟨request', asks', sleep⟩
    obtain rfl : request = request' := Option.some.inj (asks.symm.trans asks')
    exact call sleep
  simpa [if_neg awake] using Machine.length_le alert trace

/-- Waiting reads the object after a pause, or has nothing more to ask. -/
theorem Poll.alert [Clock τ] {condition : Condition} {w : Watch τ} :
    (machine w : Machine τ (Stage condition τ)).Alert := by
  intro s request asks sleep reply next again
  cases s with
  | reading n =>
    obtain rfl : .read w.address = request := Option.some.inj asks
    exact sleep.elim
  | sleeping n =>
    rcases resume_sleeping_cases condition w n reply with
      ⟨hs, -⟩ | ⟨r, hs⟩
    · rw [show ((machine w).resume (.sleeping n) reply).1 = .reading n from hs] at again
      obtain rfl : .read w.address = next := Option.some.inj again
      exact id
    · rw [show ((machine w).resume (.sleeping n) reply).1 = .done r from hs] at again
      cases again
  | done r => cases asks

/-- Waiting makes no other calls than reads. -/
theorem Poll.read_of_mem_calls [Clock τ] {condition : Condition} {w : Watch τ}
    {s t : Stage condition τ} {es : List (Exchange τ)} (trace : (machine w).Trace s es t)
    {e : Exchange τ} (he : e ∈ Exchange.calls es) : e.request = .read w.address := by
  obtain ⟨mem, call⟩ := List.mem_filter.1 he
  obtain ⟨u, asks⟩ := trace.exists_ask mem
  cases u with
  | reading n => exact (Option.some.inj asks).symm
  | sleeping n =>
    rw [← Option.some.inj asks] at call
    cases call
  | done r => cases asks

/-! ## Keeping time -/

section Time

variable [AddCommGroup τ] [LinearOrder τ]

/-- From now on the clock of a world is exact. -/
def World.KeepsTime (world : World τ ω) (w : ω) : Prop :=
  ∀ es w₁ e w₂, Carries world.Conducts w es w₁ → world.Conducts w₁ e w₂ →
    Ticks (world.now w₁) e (world.now w₂)

namespace World.KeepsTime

variable {world : World τ ω} {w w' : ω} {es : List (Exchange τ)}

theorem ticks (exact : world.KeepsTime w) {e : Exchange τ} (h : world.Conducts w e w') :
    Ticks (world.now w) e (world.now w') :=
  exact [] w e w' (carries_nil.2 rfl) h

theorem later (exact : world.KeepsTime w) (h : Carries world.Conducts w es w') :
    world.KeepsTime w' :=
  fun fs w₁ e w₂ rest last => exact (es ++ fs) w₁ e w₂ (carries_append.2 ⟨w', h, rest⟩) last

/-- The exchanges that a world takes part in take time. -/
theorem carries (exact : world.KeepsTime w) (h : Carries world.Conducts w es w') :
    Carries Ticks (world.now w) es (world.now w') := by
  induction es generalizing w with
  | nil =>
    obtain rfl := carries_nil.1 h
    exact carries_nil.2 rfl
  | cons e es ih =>
    obtain ⟨w₁, first, rest⟩ := carries_cons.1 h
    have later : world.KeepsTime w₁ := exact.later (carries_singleton.2 first)
    exact carries_cons.2 ⟨_, exact.ticks first, ih later rest⟩

/-- What holds now and is kept by every request makes a clock exact. -/
theorem of_invariant {P : ω → Prop} (now : P w)
    (step : ∀ w request, P w → Ticks (world.now w) ⟨request, (world.ask request w).1⟩
      (world.now (world.ask request w).2) ∧ P (world.ask request w).2) : world.KeepsTime w := by
  intro es w₁ e w₂ before last
  have after : ∀ {w₁ e w₂}, world.Conducts w₁ e w₂ → P w₁ →
      Ticks (world.now w₁) e (world.now w₂) ∧ P w₂ := by
    rintro w₁ ⟨request, reply⟩ w₂ h hw
    have ticks := step w₁ request hw
    rw [show world.ask request w₁ = (reply, w₂) from h] at ticks
    exact ticks
  obtain ⟨ts, -, course⟩ := before
  exact (after last (course.lasting (fun t ht hw => (after (course.conducts ht) hw).2) now).2).1

end World.KeepsTime

namespace Simulator

omit [AddCommGroup τ] [LinearOrder τ] in
/-- The effect of a call takes no time. -/
theorem effect_time (s : Simulator τ) (request : Request τ) :
    (s.effect request).2.clock = s.clock ∧ (s.effect request).2.latency = s.latency := by
  cases request with
  | sleep => exact ⟨rfl, rfl⟩
  | read a | create a body | delete a =>
    simp only [effect]
    split <;> exact ⟨rfl, rfl⟩

/-- A call takes the time that the script has for it. -/
theorem answer_time (s : Simulator τ) {request : Request τ} {m : Method}
    (call : method? request = some m) :
    (s.answer request).2.clock = s.clock + s.latencyOf m ∧
      (s.answer request).2.latency = s.latency := by
  cases request with
  | sleep => cases call
  | read a | create a body | delete a =>
    obtain rfl := Option.some.inj call
    simp only [answer, method?]
    split
    · exact ⟨rfl, rfl⟩
    · exact effect_time _ _

/-- The scripted cluster keeps time if no call takes less than none. -/
theorem keepsTime [IsOrderedAddMonoid τ] {s : Simulator τ}
    (forward : ∀ entry ∈ s.latency, 0 ≤ entry.2) : world.KeepsTime s := by
  refine .of_invariant (P := fun s => ∀ entry ∈ s.latency, 0 ≤ entry.2) forward ?_
  intro s request forward
  have latency (m : Method) : 0 ≤ s.latencyOf m := by
    simp only [latencyOf]
    cases found : s.latency.find? fun entry => decide (entry.1 = m) with
    | none => exact le_rfl
    | some entry => exact forward entry (List.mem_of_find?_eq_some found)
  have call {m : Method} (hm : method? request = some m) :
      s.clock ≤ (s.answer request).2.clock ∧
        ∀ entry ∈ (s.answer request).2.latency, 0 ≤ entry.2 := by
    obtain ⟨clock, same⟩ := s.answer_time hm
    rw [clock, same]
    exact ⟨le_add_of_nonneg_right (latency m), forward⟩
  cases request with
  | sleep seconds => exact ⟨.of_sleep seconds, forward⟩
  | read a | create a body | delete a =>
    obtain ⟨clock, kept⟩ := call rfl
    exact ⟨.of_call rfl clock, kept⟩

end Simulator

/-! ## When waiting ends -/

namespace Poll

variable {condition : Condition} {w : Watch τ} {n : ℕ} {t t' : τ}

/-- A last pause breaks, so it is not longer than an interval. -/
theorem pause_by {ts : List (Transaction τ τ)} {r : Except Fault (Waited condition τ)}
    (trace : (machine w).Trace (.sleeping n) (ts.map Transaction.exchange) (.done r))
    (timed : Transactions Ticks t ts t')
    (blind : ∀ y ∈ ts, y.exchange.request ≠ .read w.address) : t' ≤ t + w.pace.interval := by
  obtain ⟨z, fs, hmap, sleep, ⟨fault, -, rfl, -⟩ | rest⟩ := exists_sleep trace
  · obtain ⟨p, ps, rfl, rfl, hps⟩ := List.map_eq_cons_iff.1 hmap
    obtain rfl := List.map_eq_nil_iff.1 hps
    have ticks := carries_singleton.1 ⟨[p], rfl, timed⟩
    exact ticks.pause _ sleep
  · -- otherwise the object would be read once more
    obtain ⟨e, gs, rfl, read, -⟩ := rest.exists_cons rfl rfl
    obtain ⟨p, ps, rfl, -, hps⟩ := List.map_eq_cons_iff.1 hmap
    obtain ⟨y, ys, rfl, rfl, -⟩ := List.map_eq_cons_iff.1 hps
    exact absurd read (blind y (by simp))

/-- **Waiting ends soon after the deadline**: at most one interval later, and what its last read
takes. -/
theorem returns_by [IsOrderedAddMonoid τ] (positive : w.pace.Positive)
    {ts before after : List (Transaction τ τ)} {x : Transaction τ τ}
    {r : Except Fault (Waited condition τ)}
    (trace : (machine w).Trace (.reading 0) (ts.map Transaction.exchange) (.done r))
    (timed : Transactions Ticks w.started ts t) (split : ts = before ++ x :: after)
    (read : x.exchange.request = .read w.address)
    (last : ∀ y ∈ after, y.exchange.request ≠ .read w.address) :
    w.elapsed t ≤ w.pace.deadline + w.pace.interval + (x.after - x.before) := by
  subst split
  obtain ⟨n, earlier, rest⟩ := exists_reading trace read
  obtain ⟨past, ticks, future⟩ := timed.around
  have soon : w.elapsed x.before ≤ w.pace.deadline + w.pace.interval :=
    ((paced_reading positive).trace positive earlier ⟨before, rfl, past⟩).2.2
  have forward : x.before ≤ x.after := ticks.forward w.address (by rw [read]; rfl)
  rcases resume_reading_cases condition w n x.exchange.reply with
    ⟨r', hs⟩ | ⟨hs, timely⟩
  · rw [hs] at rest
    obtain ⟨none, -⟩ := rest.of_quiet rfl
    obtain rfl := List.map_eq_nil_iff.1 none
    have finish : t = x.after := carries_nil.1 ⟨[], rfl, future⟩
    calc w.elapsed t = w.elapsed x.before + (x.after - x.before) := by
          rw [finish, ← Watch.elapsed_add, add_sub_cancel]
      _ ≤ w.pace.deadline + w.pace.interval + (x.after - x.before) := add_le_add_left soon _
  · rw [hs] at rest
    rw [ticks.stamp] at timely
    calc w.elapsed t ≤ w.elapsed (x.after + w.pace.interval) :=
          Watch.elapsed_mono (pause_by rest future last)
      _ = w.elapsed x.after + w.pace.interval := Watch.elapsed_add ..
      _ ≤ w.pace.deadline + w.pace.interval := add_le_add_left (le_of_not_gt timely) _
      _ ≤ w.pace.deadline + w.pace.interval + (x.after - x.before) :=
        le_add_of_nonneg_right (sub_nonneg.2 forward)

/-- If only pauses take time, reads begin and end at multiples of the interval. -/
theorem now_beforeRead {world : World τ ω} {v : ω} (exact : world.KeepsTime v)
    (prompt : ∀ k, world.now (world.afterRead w v k) = world.now (world.beforeRead w v k))
    (calm : ∀ k, (world.replies w v).Calm k) (k : ℕ) :
    world.now (world.beforeRead w v k) = world.now v + k • w.pace.interval := by
  induction k with
  | zero => simp [World.beforeRead]
  | succ k ih =>
    obtain ⟨view, unbroken⟩ := calm k
    have until_pause : Carries world.Conducts v
        ((world.replies w v).turns w k ++ [(world.replies w v).look w k]) (world.afterRead w v k) :=
      carries_append.2
        ⟨_, world.carries_turns w v k, carries_singleton.2 (world.look_conducts w v k)⟩
    have ticks := (exact.later until_pause).ticks (world.rest_conducts w v k)
    rw [ticks.whole _ view rfl unbroken, prompt, ih, succ_nsmul, add_assoc]

end Poll

end Time

/-! ## Reads -/

section Reads

variable [Field τ] [LinearOrder τ] [IsStrictOrderedRing τ] [FloorSemiring τ]

/-- How often an object is read at most. -/
def Pace.reads (p : Pace τ) : ℕ := ⌊p.deadline / p.interval⌋₊ + 2

namespace Pace

variable {p : Pace τ} {n : ℕ}

/-- There is time for so many pauses, and for the two reads around the last of them. -/
theorem le_reads (positive : p.Positive)
    (h : n • p.interval ≤ p.deadline + p.interval + p.interval) : n ≤ p.reads := by
  rcases Nat.lt_or_ge n 2 with few | many
  · exact few.le.trans (Nat.le_add_left 2 _)
  · obtain ⟨k, rfl⟩ := Nat.exists_eq_add_of_le' many
    have room : (k : τ) * p.interval ≤ p.deadline := by
      rw [nsmul_eq_mul] at h
      push_cast at h
      linarith
    exact Nat.add_le_add_right (Nat.le_floor ((le_div_iff₀ positive.interval).2 room)) 2

theorem lt_reads (positive : p.Positive) (h : n • p.interval ≤ p.deadline + p.interval) :
    n < p.reads := by
  refine le_reads positive ?_
  rw [succ_nsmul]
  exact add_le_add_left h _

/-- The pause that gets past the deadline. -/
theorem deadline_lt_iff (positive : p.Positive) :
    p.deadline < n • p.interval ↔ p.reads ≤ n + 1 := by
  rw [reads, Nat.add_le_add_iff_right (n := 1), Nat.succ_le_iff,
    Nat.floor_lt (div_nonneg positive.deadline.le positive.interval.le),
    div_lt_iff₀ positive.interval, nsmul_eq_mul]

end Pace

namespace Poll

variable {condition : Condition} {w : Watch τ} {m n : ℕ} {t t' : τ} {s : Stage condition τ}
  {es : List (Exchange τ)}

/-- **The object is read no more often than there is time for.** -/
theorem Paced.le_reads (positive : w.pace.Positive) (h : Paced w m t s) : m ≤ w.pace.reads := by
  cases s with
  | reading n => exact (Pace.lt_reads positive (h.2.1.trans h.2.2)).le
  | sleeping n => exact (Pace.lt_reads positive (h.2.1.trans (add_le_add_left h.2.2 _))).le
  | done r => exact Pace.le_reads positive h

theorem calls_le (positive : w.pace.Positive)
    (trace : (machine w).Trace (.reading 0 : Stage condition τ) es s)
    (timed : Carries Ticks w.started es t) : (Exchange.calls es).length ≤ w.pace.reads := by
  have paced := (paced_reading positive).trace positive trace timed
  rw [Nat.zero_add] at paced
  exact paced.le_reads positive

/-- How waiting stays within its bounds, when these were the exchanges and this is the time. -/
structure Bounded (w : Watch τ) (ts : List (Transaction τ τ)) (t : τ) : Prop where
  /-- waiting makes no other calls than reads, -/
  reads : ∀ e ∈ Exchange.calls (ts.map Transaction.exchange), e.request = .read w.address
  /-- not too many of them, -/
  few : (Exchange.calls (ts.map Transaction.exchange)).length ≤ w.pace.reads
  /-- and ends soon after the deadline, not counting what its last read takes -/
  soon : ∀ before x after, ts = before ++ x :: after → x.exchange.request = .read w.address →
    (∀ y ∈ after, y.exchange.request ≠ .read w.address) →
    w.elapsed t ≤ w.pace.deadline + w.pace.interval + (x.after - x.before)

theorem bounded (positive : w.pace.Positive) {ts : List (Transaction τ τ)}
    {r : Except Fault (Waited condition τ)}
    (trace : (machine w).Trace (.reading 0) (ts.map Transaction.exchange) (.done r))
    (timed : Transactions Ticks w.started ts t) : Bounded w ts t where
  reads _ he := read_of_mem_calls trace he
  few := calls_le positive trace ⟨ts, rfl, timed⟩
  soon _ _ _ split read last := returns_by positive trace timed split read last

/-- **Waiting comes to its end** on a world with an exact clock, whatever is replied. -/
theorem exists_returns (condition : Condition) (positive : w.pace.Positive)
    {world : World τ ω} {v : ω} (exact : world.KeepsTime v) (started : world.now v = w.started) :
    ∃ es v', ∃ r : Except Fault (Waited condition τ), es.length ≤ 2 * w.pace.reads ∧
      (machine w).Trace (.reading 0) es (.done r) ∧ Carries world.Conducts v es v' := by
  obtain ⟨es, s, v', -, trace, carries, stops⟩ := Machine.exists_runs (machine w) world
    (2 * w.pace.reads + 1) (.reading 0 : Stage condition τ) v
  have reads : (Exchange.calls es).length ≤ w.pace.reads :=
    calls_le positive trace (started ▸ exact.carries carries)
  have length : es.length ≤ 2 * (Exchange.calls es).length :=
    Machine.length_le_of_call alert rfl (show ¬ (Request.read w.address).IsSleep from id) trace
  have quiet : (machine w).ask s = none := stops.resolve_right (by omega)
  obtain ⟨r, rfl⟩ := ask_eq_none_iff.1 quiet
  exact ⟨es, v', r, by omega, trace, carries⟩

end Poll

/-! ### Reads that take no time -/

namespace Poll

variable {condition : Condition} {w : Watch τ} {world : World τ ω} {v : ω}

/-- **Reads that take no time and never show what is waited for are made as often as there is time
for.** -/
theorem calls_of_prompt (positive : w.pace.Positive) (exact : world.KeepsTime v)
    (started : world.now v = w.started)
    (prompt : ∀ k, world.now (world.afterRead w v k) = world.now (world.beforeRead w v k))
    (calm : ∀ k, (world.replies w v).Calm k)
    (never : ∀ k, ∃ seen, (world.replies w v).seen w k = .ok seen ∧ seen.shows condition = false) :
    ∃ r : Except Fault (Waited condition τ), ∀ fuel, 2 * w.pace.reads ≤ fuel →
      ∃ es v', (machine w).Runs world fuel (.reading 0) v es (.done r) v' ∧
        (Exchange.calls es).length = w.pace.reads := by
  have ends (k : ℕ) : (world.replies w v).Ends w condition k ↔ w.pace.reads ≤ k + 1 := by
    have elapsed : (world.replies w v).elapsed w k = k • w.pace.interval := by
      change w.elapsed (world.now (world.afterRead w v k)) = _
      rw [prompt, now_beforeRead exact prompt calm, started, Watch.elapsed_add,
        Watch.elapsed_started, zero_add]
    obtain ⟨seen, read, hides⟩ := never k
    rw [← Pace.deadline_lt_iff positive, Replies.Ends, elapsed, read]
    refine ⟨?_, fun late => Or.inr (Or.inr late)⟩
    rintro (⟨fault, broken⟩ | ⟨s, found, holds⟩ | late)
    · cases broken
    · obtain rfl := Except.ok.inj found
      exact absurd (hides.symm.trans holds) (by simp)
    · exact late
  obtain ⟨k, hk⟩ : ∃ k, w.pace.reads = k + 1 := ⟨_, rfl⟩
  obtain ⟨r, concludes⟩ := ((ends k).2 hk.le).exists_concludes
  refine ⟨r, fun fuel enough => ⟨_, _, runs_of_concludes (fun j hj => ?_) (fun j _ => calm j)
    concludes (by omega), ?_⟩⟩
  · rw [ends]
    omega
  · rw [Exchange.calls_append, List.length_append, Replies.length_calls_turns, hk]
    rfl

end Poll

end Reads

end EphemeralDatabase
