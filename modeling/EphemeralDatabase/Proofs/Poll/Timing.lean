import EphemeralDatabase.Proofs.Poll.Reference

/-!
# When an object is read

Waiting looks at the clock after a read and before the pause that follows it, and at no other time.
So the deadline is kept at the ends of reads: a read that ends later than that is the last.  What
this means for their beginnings depends on how long pauses last.  Here times are exact, a pause
lasts as long as it was asked to, and everything else lasts as long as it likes (`Ticks`).

Then every read begins exactly one interval after the end of the one before it, and that end was
within the deadline.  A read may therefore begin after the deadline, though never by more than the
interval (`Poll.reads_begin`).

`Poll.Paced` is what carries the argument: after `m` reads at least `m - 1` intervals have passed,
and no more than the deadline and one interval.
-/

namespace EphemeralDatabase

variable {τ ω : Type}

namespace Poll

/-! ## One step of waiting -/

section Step

variable [Clock τ] {condition : Condition} {w : Watch τ} {n : ℕ}

/-- After a read waiting is done, or it pauses because the read ended in time. -/
theorem resume_reading_cases (condition : Condition) (w : Watch τ) (n : ℕ) (reply : Reply τ) :
    (∃ r, (resume w (.reading n : Stage condition τ) reply).1 = .done r) ∨
      ((resume w (.reading n : Stage condition τ) reply).1 = .sleeping (n + 1) ∧
        ¬ w.pace.deadline < w.elapsed reply.time) := by
  match read : readOutcome w.nodeHost w.address reply.answer with
  | .error fault =>
    simp only [resume, read]
    exact Or.inl ⟨_, rfl⟩
  | .ok seen =>
    simp only [resume, read]
    by_cases hides : seen.shows condition = false
    · rw [afterRead_of_hides hides]
      by_cases late : w.pace.deadline < reply.time - w.started
      · simp only [again, if_pos late]
        exact Or.inl ⟨_, rfl⟩
      · simp only [again, if_neg late]
        exact Or.inr ⟨trivial, late⟩
    · obtain ⟨s, rfl, holds⟩ := ReadOutcome.shows_iff.1 (eq_true_of_ne_false hides)
      simp only [afterRead, dif_pos holds]
      exact Or.inl ⟨_, rfl⟩

/-- After a pause the object is read again, unless the pause broke. -/
theorem resume_sleeping_cases (condition : Condition) (w : Watch τ) (n : ℕ) (reply : Reply τ) :
    ((resume w (.sleeping n : Stage condition τ) reply).1 = .reading n ∧
        ∃ view, reply.answer = .ok view) ∨
      ∃ r, (resume w (.sleeping n : Stage condition τ) reply).1 = .done r := by
  match answer : reply.answer with
  | .ok view =>
    simp only [resume, answer]
    exact Or.inl ⟨trivial, view, rfl⟩
  | .error fault =>
    simp only [resume, answer]
    exact Or.inr ⟨_, rfl⟩

variable {es : List (Exchange τ)} {e : Exchange τ} {s : Stage condition τ}

/-- What makes a read is about to read. -/
theorem eq_reading_of_ask {a : Address} (asks : (machine w).ask s = some (.read a)) :
    ∃ n, s = .reading n := by
  cases s with
  | reading n => exact ⟨n, rfl⟩
  | sleeping n => simp [machine, ask] at asks
  | done r => simp [machine, ask] at asks

/-- Before a pause there is a read, and it ended in time. -/
theorem read_before_sleeping (trace : (machine w).Trace s (es ++ [e]) (.sleeping n)) :
    e.request = .read w.address ∧ ¬ w.pace.deadline < w.elapsed e.reply.time := by
  obtain ⟨u, -, asks, next⟩ := trace.exists_of_snoc
  cases u with
  | reading m =>
    have cases := resume_reading_cases condition w m e.reply
    rw [show (resume w (.reading m) e.reply).1 = .sleeping n from next] at cases
    obtain ⟨-, timely⟩ := cases.resolve_left (by simp)
    exact ⟨(Option.some.inj asks).symm, timely⟩
  | sleeping m =>
    have cases := resume_sleeping_cases condition w m e.reply
    rw [show (resume w (.sleeping m) e.reply).1 = .sleeping n from next] at cases
    simp at cases
  | done r => simp [machine, ask] at asks

/-- Before a read there is nothing, or a pause that did not break and before that another read,
which ended in time. -/
theorem before_reading
    (trace : (machine w).Trace (.reading 0 : Stage condition τ) es (.reading n)) :
    es = [] ∨ ∃ fs q p view, es = fs ++ [q, p] ∧ q.request = .read w.address ∧
      ¬ w.pace.deadline < w.elapsed q.reply.time ∧ p.request = .sleep w.pace.interval ∧
        p.reply.answer = .ok view := by
  rcases List.eq_nil_or_concat' es with rfl | ⟨es, p, rfl⟩
  · exact Or.inl rfl
  obtain ⟨u, before, asks, next⟩ := trace.exists_of_snoc
  cases u with
  | reading m =>
    have cases := resume_reading_cases condition w m p.reply
    rw [show (resume w (.reading m) p.reply).1 = .reading n from next] at cases
    simp at cases
  | done r => simp [machine, ask] at asks
  | sleeping m =>
    have cases := resume_sleeping_cases condition w m p.reply
    rw [show (resume w (.sleeping m) p.reply).1 = .reading n from next] at cases
    obtain ⟨-, view, calm⟩ := cases.resolve_right (by simp)
    rcases List.eq_nil_or_concat' es with rfl | ⟨es, q, rfl⟩
    · cases before
    · obtain ⟨read, timely⟩ := read_before_sleeping before
      exact Or.inr ⟨es, q, p, view, by simp, read, timely, (Option.some.inj asks).symm, calm⟩

/-- A trace cut at one of its reads. -/
theorem exists_reading {σ : Type} {before after : List (Transaction σ τ)} {x : Transaction σ τ}
    (trace : (machine w).Trace (.reading 0) ((before ++ x :: after).map Transaction.exchange) s)
    (read : x.exchange.request = .read w.address) :
    ∃ n, (machine w).Trace (.reading 0 : Stage condition τ) (before.map Transaction.exchange)
        (.reading n) ∧
      (machine w).Trace (resume w (.reading n) x.exchange.reply).1
        (after.map Transaction.exchange) s := by
  rw [List.map_append, List.map_cons] at trace
  obtain ⟨u, earlier, rest⟩ := trace.exists_of_append
  obtain ⟨asks, rest⟩ := rest.of_cons
  obtain ⟨n, rfl⟩ := eq_reading_of_ask (asks.trans (congrArg some read))
  exact ⟨n, earlier, rest⟩

end Step

end Poll

/-! ## Exact time -/

section Exact

variable [AddCommGroup τ] [LinearOrder τ]

/-- An exchange on an exact clock.  The reply bears the time at which it comes, a call takes its
time, and a pause lasts as long as it was asked to, or shorter if it breaks. -/
structure Ticks (t : τ) (e : Exchange τ) (t' : τ) : Prop where
  stamp : e.reply.time = t'
  forward : ∀ a, e.request.address? = some a → t ≤ t'
  pause : ∀ seconds, e.request = .sleep seconds → t' ≤ t + seconds
  whole : ∀ seconds view, e.request = .sleep seconds → e.reply.answer = .ok view →
    t' = t + seconds

namespace Ticks

variable {t t' : τ} {request : Request τ} {a : Address} {answer : Answer}

theorem of_call (call : request.address? = some a) (forward : t ≤ t') :
    Ticks t ⟨request, ⟨answer, t'⟩⟩ t' where
  stamp := rfl
  forward _ _ := forward
  pause seconds sleep := by
    obtain rfl : request = .sleep seconds := sleep
    cases call
  whole seconds _ sleep := by
    obtain rfl : request = .sleep seconds := sleep
    cases call

theorem of_sleep (seconds : τ) :
    Ticks t ⟨.sleep seconds, ⟨answer, t + seconds⟩⟩ (t + seconds) where
  stamp := rfl
  forward _ call := by cases call
  pause _ sleep := by
    cases sleep
    exact le_rfl
  whole _ _ sleep _ := by
    cases sleep
    rfl

end Ticks

namespace Watch

variable {w : Watch τ}

theorem elapsed_started : w.elapsed w.started = 0 := sub_self _

theorem elapsed_add (t s : τ) : w.elapsed (t + s) = w.elapsed t + s := add_sub_right_comm ..

theorem elapsed_mono [IsOrderedAddMonoid τ] {t t' : τ} (h : t ≤ t') :
    w.elapsed t ≤ w.elapsed t' := sub_le_sub_right h _

end Watch

namespace Poll

variable [IsOrderedAddMonoid τ] {w : Watch τ} {condition : Condition} {m n : ℕ} {t t' : τ}
  {s s' : Stage condition τ} {request : Request τ} {reply : Reply τ} {es : List (Exchange τ)}

/-- What is known of waiting at a time, when the object has been read so often. -/
def Paced (w : Watch τ) (m : ℕ) (t : τ) : Stage condition τ → Prop
  | .reading n => n = m ∧ m • w.pace.interval ≤ w.elapsed t ∧
      w.elapsed t ≤ w.pace.deadline + w.pace.interval
  | .sleeping n => n = m ∧ m • w.pace.interval ≤ w.elapsed t + w.pace.interval ∧
      w.elapsed t ≤ w.pace.deadline
  | .done _ => m • w.pace.interval ≤ w.pace.deadline + w.pace.interval + w.pace.interval

theorem paced_reading (positive : w.pace.Positive) :
    Paced w 0 w.started (.reading 0 : Stage condition τ) := by
  have room : 0 ≤ w.pace.deadline + w.pace.interval :=
    add_nonneg positive.deadline.le positive.interval.le
  simpa [Paced, Watch.elapsed_started] using room

theorem paced_start (positive : w.pace.Positive) (observed : Option ResourceState) :
    Paced w 0 w.started (start w observed : Stage condition τ × _).1 := by
  rcases hides_or_holds condition observed with hides | ⟨s, rfl, holds⟩
  · rw [start_of_hides hides]
    exact paced_reading positive
  · have room : 0 ≤ w.pace.deadline + w.pace.interval + w.pace.interval :=
      add_nonneg (add_nonneg positive.deadline.le positive.interval.le) positive.interval.le
    rw [start_of_holds holds]
    simpa [Paced] using room

/-- One read more. -/
theorem Paced.read (h : Paced w m t (.reading n : Stage condition τ))
    (ticks : Ticks t ⟨.read w.address, reply⟩ t') :
    Paced w (m + 1) t' (resume w (.reading n : Stage condition τ) reply).1 := by
  obtain ⟨rfl, passed, soon⟩ := h
  have more : (n + 1) • w.pace.interval ≤ w.elapsed t + w.pace.interval := by
    rw [succ_nsmul]
    exact add_le_add_left passed _
  rcases resume_reading_cases condition w n reply with ⟨r, hr⟩ | ⟨hs, timely⟩
  · rw [hr]
    exact more.trans (add_le_add_left soon _)
  · rw [hs]
    refine ⟨rfl, more.trans (add_le_add_left (Watch.elapsed_mono (ticks.forward _ rfl)) _), ?_⟩
    rw [← ticks.stamp]
    exact le_of_not_gt timely

/-- One pause more. -/
theorem Paced.pause (positive : w.pace.Positive)
    (h : Paced w m t (.sleeping n : Stage condition τ))
    (ticks : Ticks t ⟨.sleep w.pace.interval, reply⟩ t') :
    Paced w m t' (resume w (.sleeping n : Stage condition τ) reply).1 := by
  obtain ⟨rfl, passed, timely⟩ := h
  rcases resume_sleeping_cases condition w n reply with ⟨hs, view, calm⟩ | ⟨r, hr⟩
  · obtain rfl := ticks.whole _ view rfl calm
    rw [hs]
    refine ⟨rfl, ?_, ?_⟩ <;> rw [Watch.elapsed_add]
    · exact passed
    · exact add_le_add_left timely _
  · rw [hr]
    calc n • w.pace.interval ≤ w.elapsed t + w.pace.interval := passed
      _ ≤ w.pace.deadline + w.pace.interval := add_le_add_left timely _
      _ ≤ w.pace.deadline + w.pace.interval + w.pace.interval :=
        le_add_of_nonneg_right positive.interval.le

/-- **Whatever waiting asks and whatever it is told, it is paced afterwards.** -/
theorem Paced.resume (positive : w.pace.Positive) (h : Paced w m t s)
    (asks : (machine w).ask s = some request) (ticks : Ticks t ⟨request, reply⟩ t') :
    Paced w (m + (Exchange.calls [⟨request, reply⟩]).length) t' ((machine w).resume s reply).1 := by
  cases s with
  | reading n =>
    obtain rfl : .read w.address = request := Option.some.inj asks
    exact h.read ticks
  | sleeping n =>
    obtain rfl : .sleep w.pace.interval = request := Option.some.inj asks
    exact h.pause positive ticks
  | done r => cases asks

/-- So it is paced throughout. -/
theorem Paced.trace (positive : w.pace.Positive) (h : Paced w m t s)
    (trace : (machine w).Trace s es s') (carries : Carries Ticks t es t') :
    Paced w (m + (Exchange.calls es).length) t' s' :=
  trace.lasting (P := Paced w) (fun h asks ticks => h.resume positive asks ticks) h carries

/-! ## When reads begin -/

/-- One read, and the next one after it. -/
structure Successive (w : Watch τ) (ts : List (Transaction τ τ)) (q x : Transaction τ τ) :
    Prop where
  first : q.exchange.request = .read w.address
  second : x.exchange.request = .read w.address
  apart : ∃ before p after, ts = before ++ q :: p :: x :: after

variable {ts before after : List (Transaction τ τ)} {q x : Transaction τ τ}

omit [IsOrderedAddMonoid τ] in
/-- When a read begins: at once, or one interval after the end of the read before it. -/
theorem begins (trace : (machine w).Trace (.reading 0) (ts.map Transaction.exchange) s)
    (timed : Transactions Ticks w.started ts t) (split : ts = before ++ x :: after)
    (read : x.exchange.request = .read w.address) :
    (before = [] ∧ w.elapsed x.before = 0) ∨ ∃ bs q p, before = bs ++ [q, p] ∧
      q.exchange.request = .read w.address ∧ w.elapsed q.after ≤ w.pace.deadline ∧
        w.elapsed x.before = w.elapsed q.after + w.pace.interval := by
  subst split
  obtain ⟨n, earlier, -⟩ := exists_reading trace read
  rcases before_reading earlier with none | ⟨fs, e, d, view, hmap, first, timely, sleep, calm⟩
  · obtain rfl := List.map_eq_nil_iff.1 none
    have start : x.before = w.started := carries_nil.1 ⟨[], rfl, timed.around.1⟩
    rw [start]
    exact Or.inl ⟨rfl, Watch.elapsed_started⟩
  · obtain ⟨bs, ds, rfl, -, hds⟩ := List.map_eq_append_iff.1 hmap
    obtain ⟨q, ps, rfl, rfl, hps⟩ := List.map_eq_cons_iff.1 hds
    obtain ⟨p, ns, rfl, rfl, hns⟩ := List.map_eq_cons_iff.1 hps
    obtain rfl := List.map_eq_nil_iff.1 hns
    -- the three transactions follow each other, so each begins when the one before it ends
    have course : Transactions Ticks w.started (bs ++ q :: p :: x :: after) t := by
      simpa using timed
    obtain ⟨-, hq, later⟩ := course.around
    cases later with
    | cons hp later =>
      cases later with
      | cons hx later =>
        refine Or.inr ⟨bs, q, _, rfl, first, ?_, ?_⟩
        · rw [← hq.stamp]
          exact le_of_not_gt timely
        · rw [hp.whole _ view sleep calm, Watch.elapsed_add]

/-- **When reads begin.**  On an exact clock, whatever is replied and however long it takes:

* no read begins later than one interval after the deadline;
* a read that is not the first begins one interval after the end of the read before it, and that
  end was within the deadline;
* so all of them begin within the deadline exactly if every read that another one follows ends at
  least one interval before it. -/
theorem reads_begin (positive : w.pace.Positive)
    (trace : (machine w).Trace (.reading 0) (ts.map Transaction.exchange) s)
    (timed : Transactions Ticks w.started ts t) :
    (∀ x ∈ ts, x.exchange.request = .read w.address →
      w.elapsed x.before ≤ w.pace.deadline + w.pace.interval) ∧
    (∀ q x, Successive w ts q x → w.elapsed q.after ≤ w.pace.deadline ∧
      w.elapsed x.before = w.elapsed q.after + w.pace.interval) ∧
    ((∀ x ∈ ts, x.exchange.request = .read w.address → w.elapsed x.before ≤ w.pace.deadline) ↔
      ∀ q x, Successive w ts q x → w.elapsed q.after + w.pace.interval ≤ w.pace.deadline) := by
  have successive : ∀ q x, Successive w ts q x → w.elapsed q.after ≤ w.pace.deadline ∧
      w.elapsed x.before = w.elapsed q.after + w.pace.interval := by
    rintro q x ⟨-, second, before, p, after, split⟩
    have later : ts = (before ++ [q, p]) ++ x :: after := by simpa using split
    rcases begins trace timed later second with ⟨none, -⟩ | ⟨bs, q', p', last, -, timely, next⟩
    · simp at none
    · obtain ⟨-, rfl, rfl⟩ : before = bs ∧ q = q' ∧ p = p' := by
        simpa using List.append_inj' last rfl
      exact ⟨timely, next⟩
  refine ⟨fun x hx read => ?_, successive, fun all q x next => ?_, fun early x hx read => ?_⟩
  · obtain ⟨before, after, split⟩ := List.append_of_mem hx
    rcases begins trace timed split read with ⟨-, start⟩ | ⟨bs, q, p, -, -, timely, next⟩
    · rw [start]
      exact add_nonneg positive.deadline.le positive.interval.le
    · rw [next]
      exact add_le_add_left timely _
  · have hx : x ∈ ts := by
      obtain ⟨before, p, after, split⟩ := next.apart
      simp [split]
    rw [← (successive q x next).2]
    exact all x hx next.second
  · obtain ⟨before, after, split⟩ := List.append_of_mem hx
    rcases begins trace timed split read with ⟨-, start⟩ | ⟨bs, q, p, rfl, first, -, next⟩
    · rw [start]
      exact positive.deadline.le
    · rw [next]
      exact early q x ⟨first, read, bs, p, after, by simpa using split⟩

end Poll

end Exact

/-! ### A read that begins too late -/

namespace Scripted

/-- A read of the pending Pod, which takes no time. -/
def glance (time : ℚ) : Transaction ℚ ℚ :=
  ⟨time, ⟨.read hasty.address, ⟨.ok (Simulator.podView "Pending"), time⟩⟩, time⟩

/-- The pause after the first read. -/
def nap : Transaction ℚ ℚ := ⟨0, ⟨.sleep hasty.pace.interval, ⟨.ok {}, 10⟩⟩, 10⟩

theorem hasty_positive : hasty.pace.Positive := by
  constructor <;> norm_num [hasty]

theorem hasty_trace : ∃ s, (Poll.machine hasty).Trace (.reading 0 : Poll.Stage phaseRunning ℚ)
    ([glance 0, nap, glance 10].map Transaction.exchange) s := by
  let seen := (Simulator.podView "Pending").state hasty.nodeHost hasty.address
  have read (time : ℚ) :
      (glance time).exchange.Reads hasty.nodeHost hasty.address (.ok (.found seen)) := ⟨rfl, rfl⟩
  exact ⟨_, Poll.trace_again (read 0) rfl (by norm_num [hasty, glance]) rfl rfl
    (Poll.trace_late (read 10) rfl (by norm_num [hasty, glance]))⟩

theorem hasty_timed : Transactions Ticks hasty.started [glance 0, nap, glance 10] 10 := by
  have pause : Ticks 0 nap.exchange (10 : ℚ) := by
    simpa [nap, hasty] using Ticks.of_sleep (t := (0 : ℚ)) (10 : ℚ)
  exact .cons (.of_call rfl le_rfl) (.cons pause (.cons (.of_call rfl le_rfl) (.nil 10)))

/-- The second read of the pending Pod begins one pause after the end of the first. -/
theorem second_read_begins : hasty.elapsed (glance 0).after ≤ 5 ∧
    hasty.elapsed (glance 10).before = hasty.elapsed (glance 0).after + 10 := by
  obtain ⟨s, trace⟩ := hasty_trace
  exact (Poll.reads_begin hasty_positive trace hasty_timed).2.1 (glance 0) (glance 10)
    ⟨rfl, rfl, [], nap, [], rfl⟩

/-- **A read can begin after the deadline.** -/
theorem read_begins_late : hasty.pace.Positive ∧ ∃ (ts : List (Transaction ℚ ℚ)) (s : _) (t : ℚ),
    (Poll.machine hasty).Trace (.reading 0 : Poll.Stage phaseRunning ℚ)
      (ts.map Transaction.exchange) s ∧ Transactions Ticks hasty.started ts t ∧
    ∃ x ∈ ts, x.exchange.request = .read hasty.address ∧
      hasty.pace.deadline < hasty.elapsed x.before := by
  obtain ⟨s, trace⟩ := hasty_trace
  refine ⟨hasty_positive, _, s, 10, trace, hasty_timed, glance 10, by simp, rfl, ?_⟩
  norm_num [hasty, glance, Watch.elapsed]

end Scripted

end EphemeralDatabase
