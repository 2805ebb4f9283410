import Mathlib.Algebra.Order.Archimedean.Basic
import Mathlib.Order.Bounds.Defs
import EphemeralDatabase.Proofs.Machine.Run
import EphemeralDatabase.Proofs.Poll.Course
import EphemeralDatabase.Proofs.Server.Simulator

/-!
# What waiting amounts to

Waiting is a loop with three ways out, and which of them is taken depends on what was read before
and when.  Here it is said without the loop.  Reads and pauses take turns, so the replies are two
sequences (`Replies`), and each read by itself ends waiting or does not (`Replies.Ends`).  Waiting
comes to its end with the first read that ends it, and what comes of it is what that read concludes
(`Replies.Concludes`).

Reads are counted from zero, so the read `k` is the `k + 1`-th attempt.

A world makes both sequences as it is asked (`World.replies`): it is followed through reads and
pauses as if nothing ever ended waiting, and a run takes part in as much of that as it comes to
(`Poll.runs_reference`).
-/

namespace EphemeralDatabase

variable {τ ω : Type}

/-- What comes back of reads and pauses that take turns. -/
structure Replies (τ : Type) where
  read : ℕ → Reply τ
  pause : ℕ → Reply τ

/-! ## Reads and what they decide -/

namespace Replies

/-- The pause before the next read is not broken. -/
def Calm (rs : Replies τ) (k : ℕ) : Prop := ∃ view, (rs.pause k).answer = .ok view

variable (rs : Replies τ) (watch : Watch τ)

/-- A read. -/
def look (k : ℕ) : Exchange τ := ⟨.read watch.address, rs.read k⟩

/-- A pause. -/
def rest (k : ℕ) : Exchange τ := ⟨.sleep watch.pace.interval, rs.pause k⟩

/-- So many reads, each with the pause after it. -/
def turns (k : ℕ) : List (Exchange τ) :=
  (List.range k).flatMap fun j => [rs.look watch j, rs.rest watch j]

/-- What a read found out. -/
def seen (k : ℕ) : Except Fault ReadOutcome :=
  readOutcome watch.nodeHost watch.address (rs.read k).answer

@[simp] theorem turns_zero : rs.turns watch 0 = [] := rfl

theorem turns_succ (k : ℕ) :
    rs.turns watch (k + 1) = rs.turns watch k ++ [rs.look watch k, rs.rest watch k] := by
  simp [turns, List.range_succ]

@[simp] theorem length_turns (k : ℕ) : (rs.turns watch k).length = 2 * k := by
  induction k with
  | zero => rfl
  | succ k ih =>
    rw [turns_succ, List.length_append, ih]
    rfl

theorem length_calls_turns (k : ℕ) : (Exchange.calls (rs.turns watch k)).length = k := by
  induction k with
  | zero => rfl
  | succ k ih =>
    rw [turns_succ, Exchange.calls_append, List.length_append, ih]
    rfl

theorem look_reads (k : ℕ) :
    (rs.look watch k).Reads watch.nodeHost watch.address (rs.seen watch k) :=
  ⟨rfl, rfl⟩

variable [Clock τ] (condition : Condition)

/-- How long one has waited when a read ends. -/
def elapsed (k : ℕ) : τ := watch.elapsed (rs.read k).time

/-- A read ends waiting: it breaks, it shows the condition to hold, or it ends after the deadline.
-/
def Ends (k : ℕ) : Prop :=
  (∃ fault, rs.seen watch k = .error fault) ∨
    (∃ s, rs.seen watch k = .ok (.found s) ∧ condition s = true) ∨
      watch.pace.deadline < rs.elapsed watch k

variable {condition}

/-- What comes of waiting if a read ends it.  A read that shows the condition to hold is never too
late. -/
inductive Concludes (k : ℕ) : Except Fault (Waited condition τ) → Prop
  | ready {s : ResourceState} (read : rs.seen watch k = .ok (.found s))
      (holds : condition s = true) :
      Concludes k (.ok (.ready ⟨s, k + 1, rs.elapsed watch k, holds⟩))
  | timedOut {seen : ReadOutcome} (read : rs.seen watch k = .ok seen)
      (hides : seen.shows condition = false)
      (late : watch.pace.deadline < rs.elapsed watch k) :
      Concludes k (.ok (.timedOut
        ⟨watch.address, watch.pace.deadline, k + 1, rs.elapsed watch k, some seen⟩))
  | broken {fault : Fault} (read : rs.seen watch k = .error fault) : Concludes k (.error fault)

variable {rs watch} {k : ℕ}

/-- A read that ends waiting leaves no doubt what comes of it. -/
theorem Ends.exists_concludes (h : rs.Ends watch condition k) :
    ∃ r : Except Fault (Waited condition τ), rs.Concludes watch k r := by
  match read : rs.seen watch k with
  | .error fault => exact ⟨_, .broken read⟩
  | .ok seen =>
    by_cases hides : seen.shows condition = false
    · have late : watch.pace.deadline < rs.elapsed watch k := by
        rcases h with ⟨fault, broken⟩ | ⟨s, found, holds⟩ | late
        · exact absurd (read.symm.trans broken) (by simp)
        · obtain rfl : seen = .found s := Except.ok.inj (read.symm.trans found)
          exact absurd (hides.symm.trans holds) (by simp)
        · exact late
      exact ⟨_, .timedOut read hides late⟩
    · obtain ⟨s, rfl, holds⟩ := ReadOutcome.shows_iff.1 (eq_true_of_ne_false hides)
      exact ⟨_, .ready read holds⟩

/-- What is known of a read that does not end waiting. -/
theorem exists_hides (h : ¬ rs.Ends watch condition k) :
    ∃ seen, rs.seen watch k = .ok seen ∧ seen.shows condition = false ∧
      ¬ watch.pace.deadline < rs.elapsed watch k := by
  simp only [Ends, not_or] at h
  obtain ⟨whole, hidden, timely⟩ := h
  match read : rs.seen watch k with
  | .error fault => exact absurd ⟨fault, read⟩ whole
  | .ok seen =>
    refine ⟨seen, rfl, eq_false_of_ne_true fun shows => ?_, timely⟩
    obtain ⟨s, rfl, holds⟩ := ReadOutcome.shows_iff.1 shows
    exact hidden ⟨s, read, holds⟩

/-! ## Traces -/

/-- One turn: a read that does not end waiting, and a pause. -/
theorem trace_turn (idle : ¬ rs.Ends watch condition k) (calm : rs.Calm k) :
    (Poll.machine watch).Trace (.reading k : Poll.Stage condition τ)
      [rs.look watch k, rs.rest watch k] (.reading (k + 1)) := by
  obtain ⟨seen, read, hides, timely⟩ := exists_hides idle
  obtain ⟨view, calm⟩ := calm
  exact Poll.trace_again (read ▸ rs.look_reads watch k) hides timely rfl calm (.nil _)

/-- **As long as no read ends waiting, reads and pauses take turns.** -/
theorem trace_turns (idle : ∀ j < k, ¬ rs.Ends watch condition j) (calm : ∀ j < k, rs.Calm j) :
    (Poll.machine watch).Trace (.reading 0 : Poll.Stage condition τ) (rs.turns watch k)
      (.reading k) := by
  induction k with
  | zero => exact .nil _
  | succ k ih =>
    have before := ih (fun j hj => idle j (Nat.lt_succ_of_lt hj))
      fun j hj => calm j (Nat.lt_succ_of_lt hj)
    rw [turns_succ]
    exact before.append (trace_turn (idle k k.lt_succ_self) (calm k k.lt_succ_self))

/-- A pause that breaks ends waiting, too. -/
theorem trace_restless {fault : Fault} (idle : ¬ rs.Ends watch condition k)
    (broken : (rs.pause k).answer = .error fault) :
    (Poll.machine watch).Trace (.reading k : Poll.Stage condition τ)
      [rs.look watch k, rs.rest watch k] (.done (.error fault)) := by
  obtain ⟨seen, read, hides, timely⟩ := exists_hides idle
  have first : (Poll.machine watch).Trace (.reading k : Poll.Stage condition τ)
      [rs.look watch k] (.sleeping (k + 1)) :=
    Poll.trace_timely (read ▸ rs.look_reads watch k) hides timely
  exact first.append ((Poll.trace_pause rfl).2 fault broken)

/-- The read that ends waiting. -/
theorem Concludes.trace {r : Except Fault (Waited condition τ)} (h : rs.Concludes watch k r) :
    (Poll.machine watch).Trace (.reading k) [rs.look watch k] (.done r) := by
  cases h with
  | ready read holds => exact Poll.trace_ready (read ▸ rs.look_reads watch k) holds
  | timedOut read hides late => exact Poll.trace_late (read ▸ rs.look_reads watch k) hides late
  | broken read => exact Poll.trace_unread (read ▸ rs.look_reads watch k)

end Replies

/-! ## Worlds -/

namespace World

variable (world : World τ ω) (watch : Watch τ) (w : ω)

/-- The world before each read, when reads and pauses take turns. -/
def beforeRead : ℕ → ω
  | 0 => w
  | k + 1 =>
      let (_, afterRead) := world.ask (.read watch.address) (beforeRead k)
      (world.ask (.sleep watch.pace.interval) afterRead).2

/-- The world after each read. -/
def afterRead (k : ℕ) : ω := (world.ask (.read watch.address) (world.beforeRead watch w k)).2

/-- What a world replies when it is read and left alone by turns. -/
def replies : Replies τ where
  read k := (world.ask (.read watch.address) (world.beforeRead watch w k)).1
  pause k := (world.ask (.sleep watch.pace.interval) (world.afterRead watch w k)).1

theorem look_conducts (k : ℕ) : world.Conducts (world.beforeRead watch w k)
    ((world.replies watch w).look watch k) (world.afterRead watch w k) := rfl

theorem rest_conducts (k : ℕ) : world.Conducts (world.afterRead watch w k)
    ((world.replies watch w).rest watch k) (world.beforeRead watch w (k + 1)) := rfl

/-- The world takes part in every turn. -/
theorem carries_turn (k : ℕ) : Carries world.Conducts (world.beforeRead watch w k)
    [(world.replies watch w).look watch k, (world.replies watch w).rest watch k]
    (world.beforeRead watch w (k + 1)) :=
  carries_cons.2 ⟨_, world.look_conducts watch w k,
    carries_cons.2 ⟨_, world.rest_conducts watch w k, carries_nil.2 rfl⟩⟩

theorem carries_turns (k : ℕ) : Carries world.Conducts w ((world.replies watch w).turns watch k)
    (world.beforeRead watch w k) := by
  induction k with
  | zero => exact carries_nil.2 rfl
  | succ k ih =>
    rw [Replies.turns_succ]
    exact carries_append.2 ⟨_, ih, world.carries_turn watch w k⟩

end World

/-! ## Runs -/

namespace Poll

variable [Clock τ] {condition : Condition} {world : World τ ω} {watch : Watch τ} {w : ω}
  {k fuel : ℕ}

theorem start_of_holds {s : ResourceState} (holds : condition s = true) :
    start watch (some s) = (.done (.ok (.ready ⟨s, 0, Clock.zero, holds⟩)),
      [.ready watch.address]) := by
  simp only [start, dif_pos holds]

theorem start_of_hides {observed : Option ResourceState}
    (hides : ∀ s, observed = some s → condition s = false) :
    start watch observed = ((.reading 0, []) : Stage condition τ × List (Event τ)) := by
  cases observed with
  | none => rfl
  | some s => simp [start, hides s rfl]

/-- Nothing observed earlier shows the condition to hold, or something does. -/
theorem hides_or_holds (condition : Condition) (observed : Option ResourceState) :
    (∀ s, observed = some s → condition s = false) ∨
      ∃ s, observed = some s ∧ condition s = true := by
  cases observed with
  | none => exact Or.inl (by simp)
  | some s =>
    cases holds : condition s with
    | true => exact Or.inr ⟨s, rfl, holds⟩
    | false => exact Or.inl fun _ found => Option.some.inj found ▸ holds

/-- A run to the first read that ends waiting. -/
theorem runs_of_concludes {r : Except Fault (Waited condition τ)}
    (idle : ∀ j < k, ¬ (world.replies watch w).Ends watch condition j)
    (calm : ∀ j < k, (world.replies watch w).Calm j)
    (concludes : (world.replies watch w).Concludes watch k r) (enough : 2 * k + 1 ≤ fuel) :
    (machine watch).Runs world fuel (.reading 0) w
      ((world.replies watch w).turns watch k ++ [(world.replies watch w).look watch k]) (.done r)
      (world.afterRead watch w k) := by
  refine Machine.runs_of_trace ((Replies.trace_turns idle calm).append concludes.trace)
    (carries_append.2 ⟨_, world.carries_turns watch w k, ?_⟩) ?_ (Or.inl rfl)
  · exact carries_singleton.2 (world.look_conducts watch w k)
  · rwa [List.length_append, Replies.length_turns]

/-- A run to the first pause that breaks. -/
theorem runs_of_restless {fault : Fault}
    (idle : ∀ j ≤ k, ¬ (world.replies watch w).Ends watch condition j)
    (calm : ∀ j < k, (world.replies watch w).Calm j)
    (broken : ((world.replies watch w).pause k).answer = .error fault)
    (enough : 2 * (k + 1) ≤ fuel) :
    (machine watch).Runs world fuel (.reading 0 : Stage condition τ) w
      ((world.replies watch w).turns watch (k + 1)) (.done (.error fault))
      (world.beforeRead watch w (k + 1)) := by
  have before := Replies.trace_turns (fun j hj => idle j (Nat.le_of_lt hj)) calm
  refine Machine.runs_of_trace ?_ (world.carries_turns watch w (k + 1)) ?_ (Or.inl rfl)
  · rw [Replies.turns_succ]
    exact before.append (Replies.trace_restless (idle k k.le_refl) broken)
  · rwa [Replies.length_turns]

/-- **Waiting does what its reference says**, for every condition, every pace and every world.

If the condition held of an earlier observation, waiting is done with it after no attempt, and
exchanges nothing.  Otherwise:

* if `k` is the first read that ends waiting, and no pause before it broke, then what comes of
  waiting is what that read concludes, and exactly `k + 1` reads and `k` pauses were made;
* if a pause breaks before any read ends waiting, this is passed on;
* if nothing ends waiting, reads and pauses take turns for ever. -/
theorem runs_reference (condition : Condition) (world : World τ ω) (watch : Watch τ) (w : ω)
    (observed : Option ResourceState) :
    let rs := world.replies watch w
    let first : Stage condition τ := (start watch observed).1
    (∀ s, observed = some s → ∀ holds : condition s = true, ∀ fuel,
      (machine watch).Runs world fuel first w []
        (.done (.ok (.ready ⟨s, 0, Clock.zero, holds⟩))) w) ∧
    ((∀ s, observed = some s → condition s = false) →
      (∀ k, IsLeast {k | rs.Ends watch condition k} k → (∀ j < k, rs.Calm j) →
        ∃ r, rs.Concludes watch k r ∧ ∀ fuel, 2 * k + 1 ≤ fuel →
          (machine watch).Runs world fuel first w (rs.turns watch k ++ [rs.look watch k])
            (.done r) (world.afterRead watch w k)) ∧
      (∀ k fault, (∀ j ≤ k, ¬ rs.Ends watch condition j) → (∀ j < k, rs.Calm j) →
        (rs.pause k).answer = .error fault → ∀ fuel, 2 * (k + 1) ≤ fuel →
          (machine watch).Runs world fuel first w (rs.turns watch (k + 1)) (.done (.error fault))
            (world.beforeRead watch w (k + 1))) ∧
      ((∀ k, ¬ rs.Ends watch condition k) → (∀ k, rs.Calm k) → ∀ k,
        (machine watch).Runs world (2 * k) first w (rs.turns watch k) (.reading k)
          (world.beforeRead watch w k))) := by
  intro rs first
  constructor
  · rintro s rfl holds fuel
    have done : first = .done (.ok (.ready ⟨s, 0, Clock.zero, holds⟩)) :=
      congrArg Prod.fst (start_of_holds holds)
    rw [done]
    exact Machine.runs_of_quiet rfl
  · intro hides
    have reading : first = .reading 0 := congrArg Prod.fst (start_of_hides hides)
    rw [reading]
    refine ⟨fun k least calm => ?_, fun k fault idle calm broken fuel enough =>
      runs_of_restless idle calm broken enough, fun idle calm k => ?_⟩
    · obtain ⟨r, concludes⟩ := least.1.exists_concludes
      have idle : ∀ j < k, ¬ rs.Ends watch condition j :=
        fun j hj ends => absurd (least.2 ends) (Nat.not_le_of_lt hj)
      exact ⟨r, concludes, fun fuel enough => runs_of_concludes idle calm concludes enough⟩
    · refine Machine.runs_of_trace (Replies.trace_turns (fun j _ => idle j) fun j _ => calm j)
        (world.carries_turns watch w k) ?_ (Or.inr ?_) <;> simp

end Poll

/-! ### An object that never changes -/

section Still

variable [AddCommGroup τ] [LinearOrder τ] (watch : Watch τ) (view : View) (time : τ)

/-- A scripted cluster with one object, which always looks the same. -/
def Simulator.still (a : Address) (view : View) (time : τ) : Simulator τ :=
  { clock := time, objects := [⟨a, [view]⟩] }

namespace Simulator

theorem ask_read_still (a : Address) :
    world.ask (.read a) (still a view time) = (⟨.ok view, time⟩, still a view time) := by
  have calm : (still a view time).Calm := ⟨rfl, rfl, rfl⟩
  have answer : (still a view time).answer (.read a) = (.ok view, still a view time) := by
    rw [calm.answer_eq rfl]
    simp [effect, still, find?, present, look, put]
  simp only [World.ask, world, answer]
  rfl

/-- When each read finds the cluster. -/
theorem beforeRead_still (k : ℕ) :
    world.beforeRead watch (still watch.address view time) k =
      still watch.address view (time + k • watch.pace.interval) := by
  induction k with
  | zero => simp [World.beforeRead]
  | succ k ih =>
    rw [World.beforeRead, ih, ask_read_still, succ_nsmul, ← add_assoc]
    rfl

theorem read_still (k : ℕ) : (world.replies watch (still watch.address view time)).read k =
    ⟨.ok view, time + k • watch.pace.interval⟩ := by
  simp only [World.replies, beforeRead_still, ask_read_still]

/-- Reads take no time. -/
theorem now_afterRead_still (k : ℕ) :
    world.now (world.afterRead watch (still watch.address view time) k) =
      world.now (world.beforeRead watch (still watch.address view time) k) := by
  simp only [World.afterRead, beforeRead_still, ask_read_still]

theorem seen_still (k : ℕ) : (world.replies watch (still watch.address view time)).seen watch k =
    .ok (.found (view.state watch.nodeHost watch.address)) := by
  simp only [Replies.seen, read_still, readOutcome]

theorem calm_still (k : ℕ) : (world.replies watch (still watch.address view time)).Calm k :=
  ⟨{}, rfl⟩

variable {condition : Condition}

/-- Waiting for what never comes ends with the first read that is too late. -/
theorem ends_still_iff (hides : condition (view.state watch.nodeHost watch.address) = false)
    (k : ℕ) : (world.replies watch (still watch.address view time)).Ends watch condition k ↔
      watch.pace.deadline < watch.elapsed (time + k • watch.pace.interval) := by
  simp [Replies.Ends, seen_still, Replies.elapsed, read_still, hides]

end Simulator

end Still

namespace Scripted

/-- Waits for a Pod with a pause that is longer than the deadline. -/
def hasty : Watch ℚ := ⟨⟨.pod, "default", "postgres"⟩, "127.0.0.1", ⟨10, 5⟩, 0⟩

/-- A cluster with a Pod that stays pending. -/
def pending : Simulator ℚ := .still hasty.address (Simulator.podView "Pending") 0

theorem pending_ends_iff (k : ℕ) : (Simulator.world.replies hasty pending).Ends hasty phaseRunning k
    ↔ 5 < (k : ℚ) * 10 := by
  rw [pending, Simulator.ends_still_iff hasty _ _ (by decide)]
  simp [hasty, Watch.elapsed]

/-- A Pod that stays pending is read at the beginning and after the pause, and then given up. -/
theorem given_up_at_second_read :
    ∃ r : Except Fault (Waited phaseRunning ℚ),
      (Simulator.world.replies hasty pending).Concludes hasty 1 r ∧ ∀ fuel, 3 ≤ fuel →
        (Poll.machine hasty).Runs Simulator.world fuel (Poll.start hasty none).1 pending
          ((Simulator.world.replies hasty pending).turns hasty 1 ++
            [(Simulator.world.replies hasty pending).look hasty 1])
          (.done r) (Simulator.world.afterRead hasty pending 1) := by
  refine ((Poll.runs_reference phaseRunning Simulator.world hasty pending none).2 (by simp)).1 1
    ⟨(pending_ends_iff 1).2 (by norm_num), fun k ends => ?_⟩ fun j _ => Simulator.calm_still _ _ _ j
  have late : 5 < (k : ℚ) * 10 := (pending_ends_iff k).1 ends
  cases k with
  | zero => norm_num at late
  | succ k => exact Nat.succ_le_succ k.zero_le

end Scripted

end EphemeralDatabase
