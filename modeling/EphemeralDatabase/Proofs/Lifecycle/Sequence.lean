import EphemeralDatabase.Proofs.Lifecycle.Flight
import EphemeralDatabase.Proofs.Machine.Trace

/-!
# The exchanges of a flight

Between two requests of a flight other threads do what they like, and other flights may have come
and gone before it.  None of that shows in what is exchanged for the flight itself: its exchanges
are a trace of the provisioning machine, which leads to the stage that the flight has reached.

So what is known of all traces of the machine is known of all flights in all histories.
-/

namespace EphemeralDatabase

open Crew Position

variable {τ : Type} [Clock τ] {plan : Plan τ}

/-! ## The stage of a flight -/

namespace Crew

variable {crew crew' : Crew τ} {x : Stride τ} {f : Flight}

/-- The stage that the provisioning of a flight has reached. -/
def Reached (crew : Crew τ) (f : Flight) (s : Provision.Stage τ) : Prop :=
  (∃ t, crew.At t (.provision f s)) ∨ ∃ o, s = .done o ∧ crew.Landed f o

/-- A step that exchanges something for a flight is one of the thread that provisions for it. -/
theorem Step.at_of_exchangeFor (h : Step plan crew x crew') {e : Exchange τ}
    (he : x.exchangeFor f = some e) :
    ∃ s, Provision.ask plan s = some e.request ∧ crew.At x.thread (.provision f s) ∧
      x.target = .provision f (Provision.resume plan s e.reply).1 := by
  obtain ⟨s, hsource, hex⟩ := Stride.exchangeFor_eq_some_iff.1 he
  rcases (h.exchange_effect hex).2 with ⟨g, s', asks, hp, hx⟩ | ⟨strict, s', -, -, hx⟩
  · rw [hx] at hsource
    obtain ⟨rfl, rfl⟩ : g = f ∧ s' = s := by simpa using hsource
    exact ⟨s', asks, hp, congrArg Stride.target hx⟩
  · rw [hx] at hsource
    simp at hsource

/-- A thread begins to provision with the first stage, for a new flight. -/
theorem Step.provision_effect (h : Step plan crew x crew') {s : Provision.Stage τ}
    (hq : x.target = .provision f s) :
    (x.exchange = none ∧ s = Provision.start ∧ crew.cell.flights.length = f) ∨
      ∃ e s', x.exchangeFor f = some e ∧ Provision.ask plan s' = some e.request ∧
        crew.At x.thread (.provision f s') ∧ s = (Provision.resume plan s' e.reply).1 := by
  rcases h.begins_or_goes with ⟨hb, -, -, -⟩ | ⟨p, hp, hsource, hg⟩
  · rw [hq] at hb
    exact hb.elim
  · obtain ⟨t, source, q, e⟩ := x
    subst hsource hq
    generalize crew'.cell = c' at hg
    cases hg with
    | @enter p q door free => cases p <;> simp [door?] at door
    | claim unready idle => exact Or.inl ⟨rfl, rfl, rfl⟩
    | provision reply asks =>
      exact Or.inr ⟨_, _, Stride.exchangeFor_eq_some_iff.2 ⟨_, rfl, rfl⟩, asks, hp, rfl⟩

omit [Clock τ] in
theorem exchangeFor_of_quiet (hx : x.exchange = none) : x.exchangeFor f = none := by
  refine Option.eq_none_iff_forall_ne_some.2 fun e he => ?_
  obtain ⟨s, -, hex⟩ := Stride.exchangeFor_eq_some_iff.1 he
  exact absurd (hx.symm.trans hex) (by simp)

/-- **A flight reaches its next stage by an exchange of its own, and by nothing else.** -/
theorem Step.reached_effect (h : Step plan crew x crew') (hc : Coherent crew)
    {s : Provision.Stage τ} (hs : crew'.Reached f s) :
    (x.exchangeFor f = none ∧
        (crew.Reached f s ∨ (s = Provision.start ∧ crew.cell.flights.length = f))) ∨
      ∃ e s', x.exchangeFor f = some e ∧ crew.Reached f s' ∧
        Provision.ask plan s' = some e.request ∧ s = (Provision.resume plan s' e.reply).1 := by
  rcases hs with ⟨t, ht⟩ | ⟨o, rfl, hl⟩
  · rcases h.at_iff.1 ht with ⟨rfl, hq⟩ | ⟨hne, hold⟩
    · rcases h.provision_effect hq.symm with ⟨hx, hs, hnew⟩ | ⟨e, s', he, asks, hp, hs⟩
      · exact Or.inl ⟨exchangeFor_of_quiet hx, Or.inr ⟨hs, hnew⟩⟩
      · exact Or.inr ⟨e, s', he, Or.inl ⟨_, hp⟩, asks, hs⟩
    · refine Or.inl ⟨Option.eq_none_iff_forall_ne_some.2 fun e he => ?_, Or.inl (Or.inl ⟨t, hold⟩)⟩
      obtain ⟨s', -, hp, -⟩ := h.at_of_exchangeFor he
      exact hne (hc.alone _ _ f ⟨_, hold, rfl⟩ ⟨_, hp, rfl⟩)
  · by_cases hold : crew.Landed f o
    · refine Or.inl ⟨Option.eq_none_iff_forall_ne_some.2 fun e he => ?_,
        Or.inl (Or.inr ⟨o, rfl, hold⟩)⟩
      obtain ⟨s', -, hp, -⟩ := h.at_of_exchangeFor he
      exact hc.not_landed_of_provision hp hold
    · have hx := h.lands_of_landed hold hl
      have hsource : crew.At x.thread (.provision f (.done o)) :=
        h.source.trans (congrArg Stride.source hx)
      exact Or.inl ⟨exchangeFor_of_quiet (congrArg Stride.exchange hx),
        Or.inl (Or.inl ⟨_, hsource⟩)⟩

omit [Clock τ] in
/-- Every flight that was claimed has reached some stage. -/
theorem Coherent.exists_reached (hc : Coherent crew) (hf : f < crew.cell.flights.length) :
    ∃ s, crew.Reached f s := by
  cases ho : crew.cell.flights[f] with
  | some o => exact ⟨.done o, Or.inr ⟨o, rfl, Or.inr (by simp [Cell.outcome?, hf, ho])⟩⟩
  | none =>
    obtain ⟨t, p, hp, hflies⟩ := (hc.pending f).1 (by simp [hf, ho])
    cases p with
    | provision g s =>
      obtain rfl : g = f := hflies
      exact ⟨s, Or.inl ⟨t, hp⟩⟩
    | land g o | publish g o | complete g o =>
      exact ⟨.done o, Or.inr ⟨o, rfl, Or.inl ⟨t, _, hp, hflies, rfl⟩⟩⟩
    | _ => exact hflies.elim

end Crew

/-! ## Histories -/

namespace History

variable {h : History plan} {f : Flight}

theorem exchangesOf_succ {n : ℕ} :
    h.exchangesOf f (n + 1) = h.exchangesOf f n ++ (h.exchange? f n).toList := by
  unfold exchangesOf
  rw [List.range_succ, List.filterMap_append]
  cases he : h.exchange? f n <;> simp [he]

/-- Nothing is exchanged for a flight before it is claimed. -/
theorem exchangesOf_of_new {n : ℕ} (hn : (h.crew n).cell.flights.length ≤ f) :
    h.exchangesOf f n = [] := by
  refine List.filterMap_eq_nil_iff.2 fun m hm => ?_
  refine Option.eq_none_iff_forall_ne_some.2 fun e he => ?_
  have hlt := (h.coherent m).lt_of_inflight (inflight_of_exchange he)
  have hmono := h.flights_length_mono (Nat.le_of_lt (List.mem_range.1 hm))
  exact absurd hn (Nat.not_le.2 (Nat.lt_of_lt_of_le hlt hmono))

/-- **The exchanges of a flight are a trace of provisioning**, whatever other threads do, and lead
to the stage that the flight has reached. -/
theorem trace_of_reached {n : ℕ} {s : Provision.Stage τ} (hs : (h.crew n).Reached f s) :
    (Provision.machine plan).Trace Provision.start (h.exchangesOf f n) s := by
  induction n generalizing s with
  | zero =>
    rw [h.start] at hs
    simp [Crew.Reached, Crew.Landed, Stands, At, Cell.outcome?] at hs
  | succ n ih =>
    rw [exchangesOf_succ]
    cases hx : h.stride n with
    | none =>
      have hno : h.exchange? f n = none := by simp [exchange?, hx]
      rw [h.rest hx] at hs
      simpa [hno] using ih hs
    | some x =>
      have hex : h.exchange? f n = x.exchangeFor f := by simp [exchange?, hx]
      rcases (h.step hx).reached_effect (h.coherent n) hs with
        ⟨hno, hold | ⟨rfl, hnew⟩⟩ | ⟨e, s', he, hold, asks, rfl⟩
      · simpa [hex, hno] using ih hold
      · rw [hex, hno, exchangesOf_of_new (Nat.le_of_eq hnew)]
        exact .nil _
      · rw [hex, he]
        exact (ih hold).snoc e.reply asks

/-- Whatever the flight, and whether it was claimed or not, its exchanges are a trace. -/
theorem exists_trace (h : History plan) (f : Flight) (n : ℕ) :
    ∃ s, (Provision.machine plan).Trace Provision.start (h.exchangesOf f n) s := by
  rcases Nat.lt_or_ge f (h.crew n).cell.flights.length with hlt | hge
  · obtain ⟨s, hs⟩ := (h.coherent n).exists_reached hlt
    exact ⟨s, trace_of_reached hs⟩
  · rw [exchangesOf_of_new hge]
    exact ⟨_, .nil _⟩

end History

end EphemeralDatabase
