import Mathlib
import EphemeralDatabase.Fixture.Provision
import EphemeralDatabase.Proofs.Decimal.Double
import EphemeralDatabase.Proofs.Poll.Reference
import EphemeralDatabase.Proofs.Provision.Course
import EphemeralDatabase.Proofs.Settings.Names

/-!
# Whether waiting comes to an end

Settings are doubles, and the deadline that they give may be infinite.  Here intervals and deadlines
are the numbers that the doubles stand for, infinity among them, and the clock moves by exactly the
interval in every pause (`World.Exact`).

Then an object that never is what is waited for is given up after finitely many reads if the
deadline is a number, and is read for ever if it is infinite (`Poll.givesUp_iff`).  In the first
case the multiples of the interval get past the deadline (`exists_lt_nsmul_of_ne_top`), because a
valid interval is positive; in the second no time is later than the deadline.

That provisioning waits with the paces of its settings and no others is an invariant of its steps
(`Provision.Stage.Keeps`).
-/

namespace EphemeralDatabase

variable {τ ω : Type}

/-! ## Exact times, infinity included -/

noncomputable instance Clock.extended : Clock EReal where
  zero := 0
  decidableLT := inferInstance

/-- The pace in exact numbers. -/
noncomputable def Pace.exact (p : Pace Float) : Pace EReal :=
  ⟨Decimal.exactValue p.interval, Decimal.exactValue p.deadline⟩

/-- The settings in exact numbers. -/
noncomputable def PollSettings.exact (p : PollSettings Float) : PollSettings EReal :=
  ⟨p.service.exact, p.pod.exact⟩

theorem PollSettings.forKind_exact (p : PollSettings Float) (kind : Kind) :
    p.exact.forKind kind = (p.forKind kind).exact := by
  cases kind <;> rfl

/-- Multiples of a positive interval get past every deadline but an infinite one. -/
theorem exists_lt_nsmul_of_ne_top {interval deadline : EReal} (positive : 0 < interval)
    (finite : deadline ≠ ⊤) : ∃ k : ℕ, deadline < k • interval := by
  induction interval with
  | bot => exact absurd positive (not_lt_bot)
  | top => exact ⟨1, by rw [one_nsmul]; exact lt_top_iff_ne_top.2 finite⟩
  | coe interval =>
    induction deadline with
    | top => exact absurd rfl finite
    | bot => exact ⟨0, by rw [zero_nsmul]; exact EReal.bot_lt_zero⟩
    | coe deadline =>
      obtain ⟨k, enough⟩ := exists_lt_nsmul (EReal.coe_pos.1 positive) deadline
      exact ⟨k, by rw [← EReal.coe_nsmul]; exact EReal.coe_lt_coe_iff.2 enough⟩

/-! ## The paces of provisioning -/

namespace BringUp

variable {condition : Condition} {t : Task τ}

/-- The wait that bringing up an object is in. -/
def Stage.watch? : Stage condition τ → Option (Watch τ)
  | .waiting watch _ => some watch
  | .ensuring _ | .done _ => none

/-- If there is a wait, it is at the pace of the task. -/
def Keeps (t : Task τ) (s : Stage condition τ) : Prop :=
  ∀ watch, s.watch? = some watch → watch.pace = t.pace

theorem keeps_settle {watch : Watch τ} (pace : watch.pace = t.pace)
    (s : Poll.Stage condition τ) : Keeps t (settle watch s) := by
  rintro watch' hwatch
  match s with
  | .reading _ | .sleeping _ =>
    obtain rfl : watch = watch' := Option.some.inj hwatch
    exact pace
  | .done (.ok (.ready _)) | .done (.ok (.timedOut _)) | .done (.error _) => cases hwatch

variable [Clock τ]

theorem keeps_proceed (time : τ) (s : Ensure.Stage) :
    Keeps t (proceed t time s : Stage condition τ × List (Event τ)).1 := by
  have pace : (t.watch time).pace = t.pace := rfl
  match s with
  | .done (.ok (.existed s)) => exact keeps_settle pace (Poll.start (t.watch time) (some s)).1
  | .done (.ok (.created _)) => exact keeps_settle pace (Poll.start (t.watch time) none).1
  | .reading | .creating | .done (.ok (.failed _ _)) | .done (.error _) => rintro _ ⟨⟩

/-- Whatever is replied, the pace is kept. -/
theorem Keeps.resume {s : Stage condition τ} (h : Keeps t s) (reply : Reply τ) :
    Keeps t (resume t s reply).1 := by
  cases s with
  | ensuring s => exact keeps_proceed _ _
  | waiting watch s => exact keeps_settle (h watch rfl) _
  | done r => exact h

end BringUp

namespace Provision

/-- The wait that provisioning is in, and for what kind of object. -/
def Stage.watch? : Stage τ → Option (Kind × Watch τ)
  | .service s => s.watch?.map fun watch => (.service, watch)
  | .pod _ s => s.watch?.map fun watch => (.pod, watch)
  | .done _ => none

/-- If there is a wait, it is at the pace of its object. -/
def Keeps (plan : Plan τ) : Stage τ → Prop
  | .service s => BringUp.Keeps (serviceTask plan) s
  | .pod _ s => BringUp.Keeps (podTask plan) s
  | .done _ => True

variable {plan : Plan τ} {s : Stage τ}

theorem keeps_start : Keeps plan (start : Stage τ) := by rintro _ ⟨⟩

theorem keeps_afterService {s : BringUp.Stage endpointAssigned τ}
    (h : BringUp.Keeps (serviceTask plan) s) : Keeps plan (afterService s) := by
  match s with
  | .done (.ok r) => rintro _ ⟨⟩
  | .done (.error e) => trivial
  | .ensuring _ | .waiting _ _ => exact h

theorem keeps_afterPod {endpoint : Endpoint} {s : BringUp.Stage phaseRunning τ}
    (h : BringUp.Keeps (podTask plan) s) : Keeps plan (afterPod plan endpoint s) := by
  match s with
  | .done (.ok r) | .done (.error e) => trivial
  | .ensuring _ | .waiting _ _ => exact h

variable [Clock τ]

theorem Keeps.resume (h : Keeps plan s) (reply : Reply τ) :
    Keeps plan (resume plan s reply).1 := by
  cases s with
  | service s => exact keeps_afterService (BringUp.Keeps.resume h reply)
  | pod endpoint s => exact keeps_afterPod (BringUp.Keeps.resume h reply)
  | done o => trivial

theorem Keeps.trace {es : List (Exchange τ)} {s' : Stage τ} (h : Keeps plan s)
    (trace : (machine plan).Trace s es s') : Keeps plan s' := by
  induction trace with
  | nil s => exact h
  | cons asks _ ih => exact ih (h.resume _)

/-- **Provisioning waits at the paces of its plan**, however far it has come. -/
theorem pace_of_trace {es : List (Exchange τ)} (trace : (machine plan).Trace start es s)
    {kind : Kind} {watch : Watch τ} (waits : s.watch? = some (kind, watch)) :
    watch.pace = plan.poll.forKind kind := by
  have kept := keeps_start.trace trace
  match s with
  | .service s =>
    obtain ⟨watch, hwatch, ⟨⟩⟩ := Option.map_eq_some_iff.1 waits
    exact kept watch hwatch
  | .pod _ s =>
    obtain ⟨watch, hwatch, ⟨⟩⟩ := Option.map_eq_some_iff.1 waits
    exact kept watch hwatch

end Provision

/-! ## Waiting for what never comes -/

/-- The clock never goes back, and a pause lasts exactly as long as it was asked to. -/
structure World.Exact (world : World EReal ω) : Prop where
  pause : ∀ seconds w, world.now (world.ask (.sleep seconds) w).2 = world.now w + seconds
  read : ∀ a w, world.now w ≤ world.now (world.ask (.read a) w).2

namespace Poll

variable {condition : Condition} {world : World EReal ω} {watch : Watch EReal} {v : ω}

/-- Every read shows something else than what is waited for, and nothing breaks. -/
structure Hopeless (condition : Condition) (world : World EReal ω) (watch : Watch EReal) (v : ω) :
    Prop where
  never : ∀ k, ∃ seen, (world.replies watch v).seen watch k = .ok seen ∧
    seen.shows condition = false
  calm : ∀ k, (world.replies watch v).Calm k

/-- An object that never is what is waited for ends waiting with the first read after the
deadline. -/
theorem Hopeless.ends_iff (hopeless : Hopeless condition world watch v) (k : ℕ) :
    (world.replies watch v).Ends watch condition k ↔
      watch.pace.deadline < (world.replies watch v).elapsed watch k := by
  obtain ⟨seen, read, hides⟩ := hopeless.never k
  rw [Replies.Ends, read]
  refine ⟨?_, fun late => Or.inr (Or.inr late)⟩
  rintro (⟨fault, broken⟩ | ⟨s, found, holds⟩ | late)
  · cases broken
  · obtain rfl := Except.ok.inj found
    exact absurd (hides.symm.trans holds) (by simp)
  · exact late

/-- Before each read at least so many intervals have passed. -/
theorem nsmul_le_now (exact : world.Exact) (k : ℕ) :
    world.now v + k • watch.pace.interval ≤ world.now (world.beforeRead watch v k) := by
  induction k with
  | zero => simp [World.beforeRead]
  | succ k ih =>
    have pause : world.now (world.beforeRead watch v (k + 1)) =
        world.now (world.afterRead watch v k) + watch.pace.interval := exact.pause _ _
    rw [pause, succ_nsmul, ← add_assoc]
    exact add_le_add_left (ih.trans (exact.read _ _)) _

theorem nsmul_le_elapsed (exact : world.Exact) (started : world.now v = watch.started) {t : ℝ}
    (time : watch.started = t) (k : ℕ) :
    k • watch.pace.interval ≤ (world.replies watch v).elapsed watch k := by
  have passed : (t : EReal) + k • watch.pace.interval ≤ ((world.replies watch v).read k).time := by
    rw [← time, ← started]
    exact (nsmul_le_now exact k).trans (exact.read _ _)
  calc k • watch.pace.interval = t + k • watch.pace.interval - t :=
        EReal.add_sub_cancel_left.symm
    _ ≤ ((world.replies watch v).read k).time - t := EReal.sub_le_sub passed le_rfl
    _ = (world.replies watch v).elapsed watch k := by rw [← time]; rfl

/-! ## The end of waiting, or none -/

/-- After finitely many reads waiting times out, however many requests it is given. -/
def GivesUp (condition : Condition) (world : World EReal ω) (watch : Watch EReal) (v : ω)
    (observed : Option ResourceState) : Prop :=
  ∃ (k : ℕ) (timeout : TimedOut EReal), ∀ fuel, 2 * k + 1 ≤ fuel →
    (machine watch).Runs world fuel (start watch observed : Stage condition EReal × _).1 v
      ((world.replies watch v).turns watch k ++ [(world.replies watch v).look watch k])
      (.done (.ok (.timedOut timeout))) (world.afterRead watch v k)

/-- However many requests waiting is given, all of them are reads and the pauses between them, and
the object is about to be read again. -/
def ReadsForEver (condition : Condition) (world : World EReal ω) (watch : Watch EReal) (v : ω)
    (observed : Option ResourceState) : Prop :=
  ∀ k : ℕ, (machine watch).Runs world (2 * k) (start watch observed : Stage condition EReal × _).1 v
    ((world.replies watch v).turns watch k) (.reading k) (world.beforeRead watch v k)

variable {observed : Option ResourceState}

theorem Hopeless.givesUp (hopeless : Hopeless condition world watch v) (exact : world.Exact)
    (started : world.now v = watch.started) {t : ℝ} (time : watch.started = t)
    (hides : ∀ s, observed = some s → condition s = false) (positive : 0 < watch.pace.interval)
    (finite : watch.pace.deadline ≠ ⊤) : GivesUp condition world watch v observed := by
  classical
  obtain ⟨late, hlate⟩ : ∃ k, (world.replies watch v).Ends watch condition k := by
    obtain ⟨k, past⟩ := exists_lt_nsmul_of_ne_top positive finite
    exact ⟨k, (hopeless.ends_iff k).2 (past.trans_le (nsmul_le_elapsed exact started time k))⟩
  obtain ⟨k, hk, idle⟩ := Nat.findX ⟨late, hlate⟩
  obtain ⟨seen, read, hidden⟩ := hopeless.never k
  let timeout : TimedOut EReal := ⟨watch.address, watch.pace.deadline, k + 1,
    (world.replies watch v).elapsed watch k, some seen⟩
  refine ⟨k, timeout, fun fuel enough => ?_⟩
  rw [start_of_hides hides]
  exact runs_of_concludes idle (fun j _ => hopeless.calm j)
    (.timedOut read hidden ((hopeless.ends_iff k).1 hk)) enough

theorem Hopeless.readsForEver (hopeless : Hopeless condition world watch v)
    (hides : ∀ s, observed = some s → condition s = false)
    (infinite : watch.pace.deadline = ⊤) : ReadsForEver condition world watch v observed := by
  have idle (k : ℕ) : ¬ (world.replies watch v).Ends watch condition k := by
    rw [hopeless.ends_iff, infinite]
    exact not_top_lt
  intro k
  rw [start_of_hides hides]
  exact ((((runs_reference condition world watch v none).2 (by simp)).2).2 idle hopeless.calm k)

/-- Reading for ever is not giving up. -/
theorem ReadsForEver.not_givesUp (h : ReadsForEver condition world watch v observed) :
    ¬ GivesUp condition world watch v observed := by
  rintro ⟨k, timeout, runs⟩
  have reading := (h (k + 1)).result
  rw [(runs (2 * (k + 1)) (by omega)).result] at reading
  cases reading

/-- **Whether waiting comes to an end is a matter of the deadline.**  Let provisioning have come to
wait for an object, with the paces of valid settings, and let the object never be what is waited
for.  On a clock on which a pause lasts exactly as long as it was asked to, waiting times out after
finitely many reads if and only if the deadline is not infinite; and valid settings may well have an
infinite deadline, with which the object is read for ever. -/
theorem givesUp_iff {p : PollSettings Float} (valid : p.Valid) {plan : Plan EReal}
    (paces : plan.poll = p.exact) {es : List (Exchange EReal)} {stage : Provision.Stage EReal}
    (trace : (Provision.machine plan).Trace Provision.start es stage) {kind : Kind}
    (waits : stage.watch? = some (kind, watch)) {t : ℝ} (time : watch.started = t)
    (started : world.now v = watch.started) (exact : world.Exact)
    (hopeless : Hopeless condition world watch v)
    (hides : ∀ s, observed = some s → condition s = false) :
    (GivesUp condition world watch v observed ↔
      Decimal.exactValue (p.forKind kind).deadline ≠ ⊤) ∧
    (Decimal.exactValue (p.forKind kind).deadline = ⊤ →
      ReadsForEver condition world watch v observed) := by
  have pace : watch.pace = (p.forKind kind).exact := by
    rw [Provision.pace_of_trace trace waits, paces, PollSettings.forKind_exact]
  have positive : 0 < watch.pace.interval := by
    rw [pace]
    exact Decimal.exactValue_pos (valid.pos kind).1
  have deadline : watch.pace.deadline = Decimal.exactValue (p.forKind kind).deadline := by
    rw [pace]
    rfl
  rw [← deadline]
  refine ⟨⟨fun ends infinite => ?_, hopeless.givesUp exact started time hides positive⟩,
    hopeless.readsForEver hides⟩
  exact (hopeless.readsForEver hides infinite).not_givesUp ends

end Poll

/-! ### A Service without an endpoint -/

namespace Scripted

/-- A world in which every object looks the same at all times, and only pauses take time. -/
noncomputable def unchanging : World EReal EReal where
  answer
    | .sleep seconds, now => (.ok {}, now + seconds)
    | _, now => (.ok {}, now)
  now now := now

theorem unchanging_exact : unchanging.Exact := ⟨fun _ _ => rfl, fun _ _ => le_rfl⟩

/-- The plan of standard settings with other paces. -/
noncomputable def planWith (p : PollSettings Float) : Plan EReal :=
  .ofSettings {} {} p.exact

/-- How the Service is waited for, from the time `0` on. -/
noncomputable def waitWith (p : PollSettings Float) : Watch EReal :=
  (Provision.serviceTask (planWith p)).watch 0

/-- Provisioning finds the Service without an endpoint and waits for it. -/
theorem trace_waitWith (p : PollSettings Float) :
    (Provision.machine (planWith p)).Trace Provision.start
      [⟨.read (planWith p).service.address, ⟨.ok {}, 0⟩⟩]
      (.service (.waiting (waitWith p) (.reading 0))) :=
  .cons rfl (.nil _)

theorem hopeless_unchanging (p : PollSettings Float) :
    Poll.Hopeless endpointAssigned unchanging (waitWith p) 0 where
  never _ := ⟨.found (({} : View).state (waitWith p).nodeHost (waitWith p).address), rfl, rfl⟩
  calm _ := ⟨{}, rfl⟩

/-- The paces that an environment gives in which the deadline for the Service is infinite. -/
def infinite : PollSettings Float := ⟨⟨1, 1.0 / 0.0⟩, ⟨5, 300⟩⟩

theorem build_infinite :
    PollSettings.build [] [("PG_FIXTURE_SERVICE_DEADLINE", "inf")] = .ok infinite := rfl

theorem build_standard : PollSettings.build [] [] = .ok PollSettings.standard := rfl

theorem exactValue_infinite : Decimal.exactValue infinite.service.deadline = ⊤ := by
  have hinfinite : Decimal.Binary.ofFloat infinite.service.deadline = .infinite false := by
    decide +kernel
  rw [Decimal.exactValue, hinfinite]
  rfl

theorem exactValue_standard : Decimal.exactValue PollSettings.standard.service.deadline ≠ ⊤ := by
  have hfinite : Decimal.Binary.ofFloat PollSettings.standard.service.deadline =
      .finite false 8444249301319680 (-48) := by
    decide +kernel
  rw [Decimal.exactValue, hfinite]
  exact EReal.coe_ne_top _

/-- With the standard deadline a Service without an endpoint is given up; with an infinite one,
which settings may have, it is read for ever. -/
theorem givesUp_of_standard :
    (PollSettings.standard.Valid ∧
      Poll.GivesUp endpointAssigned unchanging (waitWith PollSettings.standard) 0 none) ∧
    (infinite.Valid ∧ ¬ Poll.GivesUp endpointAssigned unchanging (waitWith infinite) 0 none ∧
      Poll.ReadsForEver endpointAssigned unchanging (waitWith infinite) 0 none) := by
  have wait {p : PollSettings Float} (valid : p.Valid) :
      (Poll.GivesUp endpointAssigned unchanging (waitWith p) 0 none ↔
        Decimal.exactValue p.service.deadline ≠ ⊤) ∧
      (Decimal.exactValue p.service.deadline = ⊤ →
        Poll.ReadsForEver endpointAssigned unchanging (waitWith p) 0 none) :=
    Poll.givesUp_iff valid rfl (trace_waitWith p) rfl EReal.coe_zero.symm rfl unchanging_exact
      (hopeless_unchanging p) nofun
  have valid : PollSettings.standard.Valid := ⟨[], [], build_standard⟩
  have valid' : infinite.Valid := ⟨[], _, build_infinite⟩
  obtain ⟨gives, -⟩ := wait valid
  obtain ⟨gives', reads⟩ := wait valid'
  exact ⟨⟨valid, gives.2 exactValue_standard⟩, valid',
    fun ends => gives'.1 ends exactValue_infinite, reads exactValue_infinite⟩

end Scripted

end EphemeralDatabase
