import EphemeralDatabase.Proofs.Lifecycle.Coherence

/-!
# Histories

A history is an execution of any number of threads that share a fixture: a crew at every instant,
and between one instant and the next the step of one thread, or nothing.  It begins with nobody;
threads come in by calling.  Every finite execution is the beginning of a history in which nothing
happens after it (`History.exists_of_run`), so what holds of all histories at all instants holds of
all executions.

What happens at an instant is named by the stride: a thread *claims*, *lands*, *publishes* or
*completes* a flight, *attempts* to delete an object, or *clears* the fixture.

* `History.coherent`: the invariant holds at every instant.
* `History.exists_turn`: what is true at a later instant and not at an earlier one became true by
  some step in between.
* `History.inflight_between`: a flight is in progress during one stretch of time only.
-/

namespace EphemeralDatabase

variable {τ : Type}

/-- An execution: a crew at every instant, and the steps that lead from each to the next. -/
structure History [Clock τ] (plan : Plan τ) where
  crew : ℕ → Crew τ
  stride : ℕ → Option (Stride τ)
  start : crew 0 = ⟨{}, []⟩
  step : ∀ {n x}, stride n = some x → Crew.Step plan (crew n) x (crew (n + 1))
  rest : ∀ {n}, stride n = none → crew (n + 1) = crew n

namespace History

open Crew Position

variable [Clock τ] {plan : Plan τ}

/-! ## Finite executions -/

/-- The history in which nobody ever calls. -/
def idle : History plan where
  crew _ := ⟨{}, []⟩
  stride _ := none
  start := rfl
  step hx := by cases hx
  rest _ := rfl

/-- A history that was at rest and goes on with one more step. -/
def extend (h : History plan) (k : ℕ) {x : Stride τ} {crew' : Crew τ}
    (step : Crew.Step plan (h.crew k) x crew') (quiet : ∀ n, k ≤ n → h.stride n = none) :
    History plan where
  crew n := if n ≤ k then h.crew n else crew'
  stride n := if n = k then some x else h.stride n
  start := by rw [if_pos (Nat.zero_le k), h.start]
  step {n y} hy := by
    rcases Nat.lt_trichotomy n k with hlt | rfl | hgt
    · rw [if_neg (Nat.ne_of_lt hlt)] at hy
      rw [if_pos (Nat.le_of_lt hlt), if_pos (Nat.succ_le_of_lt hlt)]
      exact h.step hy
    · rw [if_pos rfl] at hy
      obtain rfl := Option.some.inj hy
      rw [if_pos (Nat.le_refl n), if_neg (Nat.not_succ_le_self n)]
      exact step
    · rw [if_neg (Nat.ne_of_gt hgt), quiet n (Nat.le_of_lt hgt)] at hy
      cases hy
  rest {n} hn := by
    rcases Nat.lt_trichotomy n k with hlt | rfl | hgt
    · rw [if_neg (Nat.ne_of_lt hlt)] at hn
      rw [if_pos (Nat.le_of_lt hlt), if_pos (Nat.succ_le_of_lt hlt)]
      exact h.rest hn
    · rw [if_pos rfl] at hn
      cases hn
    · rw [if_neg (Nat.not_le.2 hgt), if_neg (Nat.not_le.2 (Nat.lt_succ_of_lt hgt))]

/-- A finite execution: the strides that were made, and the crew that they led to. -/
inductive Run (plan : Plan τ) : List (Stride τ) → Crew τ → Prop
  | nil : Run plan [] ⟨{}, []⟩
  | snoc {xs : List (Stride τ)} {x : Stride τ} {crew crew' : Crew τ} (run : Run plan xs crew)
      (step : Crew.Step plan crew x crew') : Run plan (xs ++ [x]) crew'

/-- **Every finite execution is the beginning of a history**, in which nothing happens after it. -/
theorem exists_of_run {xs : List (Stride τ)} {crew : Crew τ} (run : Run plan xs crew) :
    ∃ h : History plan, (∀ n, h.stride n = xs[n]?) ∧ h.crew xs.length = crew := by
  induction run with
  | nil => exact ⟨idle, fun n => rfl, rfl⟩
  | @snoc xs x crew crew' run step ih =>
    obtain ⟨h, hstride, rfl⟩ := ih
    have quiet : ∀ n, xs.length ≤ n → h.stride n = none := fun n hn => by
      rw [hstride, List.getElem?_eq_none hn]
    refine ⟨h.extend xs.length step quiet, fun n => ?_, ?_⟩
    · rcases Nat.lt_trichotomy n xs.length with hlt | rfl | hgt
      · simp [extend, Nat.ne_of_lt hlt, hstride, List.getElem?_append_left hlt]
      · simp [extend]
      · simp [extend, Nat.ne_of_gt hgt, quiet n (Nat.le_of_lt hgt)]
        omega
    · exact if_neg (by simp)

variable (h : History plan)

/-! ## What happens at an instant -/

/-- A thread claims a new flight. -/
def Claims (n : ℕ) (t : ThreadId) (f : Flight) : Prop :=
  h.stride n = some ⟨t, some .claim, .provision f Provision.start, none⟩

/-- The provisioning of a flight has come to its end. -/
def Lands (n : ℕ) (t : ThreadId) (f : Flight) (o : Acquired τ) : Prop :=
  h.stride n = some ⟨t, some (.provision f (.done o)), .land f o, none⟩

/-- What came of a flight is published. -/
def Publishes (n : ℕ) (t : ThreadId) (f : Flight) (o : Acquired τ) : Prop :=
  h.stride n = some ⟨t, some (.publish f o), .complete f o, none⟩

/-- A flight is completed, and the thread that flew it returns from its `acquire`. -/
def Completes (n : ℕ) (t : ThreadId) (f : Flight) (o : Acquired τ) : Prop :=
  h.stride n = some ⟨t, some (.complete f o), .acquired f o, none⟩

/-- A release has made its attempts to delete, and the fixture is not ready any more. -/
def Clears (n : ℕ) (t : ThreadId) : Prop :=
  (∃ strict stage result,
      h.stride n = some ⟨t, some (.tearDown strict stage), .released result, none⟩) ∧
    (h.crew n).cell.status = .ready ∧ (h.crew (n + 1)).cell.status = .tornDown

/-- An attempt to delete an object. -/
def Attempts (n : ℕ) (t : ThreadId) (a : Address) : Prop :=
  ∃ p q reply, h.stride n = some ⟨t, p, q, some ⟨.delete a, reply⟩⟩

/-- What is exchanged with the outside for a flight at an instant. -/
def exchange? (f : Flight) (n : ℕ) : Option (Exchange τ) :=
  (h.stride n).bind (Stride.exchangeFor f)

variable {h} in
theorem exchange?_eq_some_iff {n : ℕ} {f : Flight} {e : Exchange τ} :
    h.exchange? f n = some e ↔
      ∃ t s q, h.stride n = some ⟨t, some (.provision f s), q, some e⟩ := by
  unfold exchange?
  constructor
  · intro he
    obtain ⟨x, hx, hfor⟩ := Option.bind_eq_some_iff.1 he
    obtain ⟨s, hsource, hex⟩ := Stride.exchangeFor_eq_some_iff.1 hfor
    obtain ⟨t, source, q, e'⟩ := x
    subst hsource hex
    exact ⟨t, s, q, hx⟩
  · rintro ⟨t, s, q, hx⟩
    exact Option.bind_eq_some_iff.2 ⟨_, hx, Stride.exchangeFor_eq_some_iff.2 ⟨s, rfl, rfl⟩⟩

/-- Everything that was exchanged with the outside for a flight before an instant, in order. -/
def exchangesOf (f : Flight) (n : ℕ) : List (Exchange τ) :=
  (List.range n).filterMap (h.exchange? f)

/-! ## The invariant, and change -/

/-- **The invariant holds at every instant.** -/
theorem coherent (n : ℕ) : (h.crew n).Coherent := by
  induction n with
  | zero =>
    rw [h.start]
    exact Coherent.start
  | succ n ih =>
    cases hx : h.stride n with
    | none =>
      rw [h.rest hx]
      exact ih
    | some x => exact ih.step (h.step hx)

variable {h}

/-- What every step keeps is kept. -/
theorem lasting {P : Crew τ → Prop} {a b : ℕ} (hab : a ≤ b)
    (hstep : ∀ n x, a ≤ n → n < b → h.stride n = some x → P (h.crew n) → P (h.crew (n + 1)))
    (ha : P (h.crew a)) : P (h.crew b) := by
  induction hab with
  | refl => exact ha
  | @step b hab ih =>
    have hb := ih fun n x han hnb => hstep n x han (Nat.lt_succ_of_lt hnb)
    cases hx : h.stride b with
    | none =>
      rw [h.rest hx]
      exact hb
    | some x => exact hstep b x hab (Nat.lt_succ_self b) hx hb

/-- **What is true later and not before became true by a step in between.** -/
theorem exists_turn (P : Crew τ → Prop) {a b : ℕ} (hab : a ≤ b) (ha : ¬ P (h.crew a))
    (hb : P (h.crew b)) :
    ∃ n x, a ≤ n ∧ n < b ∧ h.stride n = some x ∧ ¬ P (h.crew n) ∧ P (h.crew (n + 1)) := by
  by_contra hno
  refine lasting (P := fun crew => ¬ P crew) hab (fun n x han hnb hx hn hs => ?_) ha hb
  exact hno ⟨n, x, han, hnb, hx, hn, hs⟩

/-- What is true at some instant of a history, and not of a crew without threads, became true. -/
theorem exists_beginning (P : Crew τ → Prop) {b : ℕ} (h0 : ¬ P ⟨{}, []⟩) (hb : P (h.crew b)) :
    ∃ n x, n < b ∧ h.stride n = some x ∧ ¬ P (h.crew n) ∧ P (h.crew (n + 1)) := by
  rw [← h.start] at h0
  obtain ⟨n, x, -, hnb, hx, hn, hs⟩ := exists_turn P (Nat.zero_le b) h0 hb
  exact ⟨n, x, hnb, hx, hn, hs⟩

theorem flights_length_mono (h : History plan) {a b : ℕ} (hab : a ≤ b) :
    (h.crew a).cell.flights.length ≤ (h.crew b).cell.flights.length :=
  lasting (P := fun crew => (h.crew a).cell.flights.length ≤ crew.cell.flights.length) hab
    (fun _ _ _ _ hx hn => Nat.le_trans hn (h.step hx).flights_length_le) (Nat.le_refl _)

/-! ## Flights in progress, and handles -/

/-- A flight is in progress when something is exchanged with the outside for it. -/
theorem inflight_of_exchange {n : ℕ} {f : Flight} {e : Exchange τ}
    (he : h.exchange? f n = some e) : (h.crew n).cell.inflight = some f := by
  obtain ⟨t, s, q, hx⟩ := exchange?_eq_some_iff.1 he
  have hp : (h.crew n).At t (.provision f s) := (h.step hx).source
  exact ((h.coherent n).owner f).2 ⟨t, _, hp, rfl⟩

/-- A flight begins to be in progress when it is claimed, and is a new one then. -/
theorem claims_of_inflight {n : ℕ} {x : Stride τ} {f : Flight} (hx : h.stride n = some x)
    (hn : (h.crew n).cell.inflight ≠ some f) (hs : (h.crew (n + 1)).cell.inflight = some f) :
    h.Claims n x.thread f ∧ f = (h.crew n).cell.flights.length := by
  rcases (h.step hx).status_effect with ⟨-, -, hi, -⟩ | ⟨-, -, hcell, -, hstride⟩ |
    ⟨g, o, hcell, -, -⟩ | ⟨_, _, _, hcell, -, -⟩
  · exact absurd (hi ▸ hs) hn
  · rw [hcell] at hs
    obtain rfl : (h.crew n).cell.flights.length = f := Option.some.inj hs
    exact ⟨hx.trans (congrArg some hstride), rfl⟩
  · rw [hcell] at hs
    cases o <;> exact absurd hs (by simp [Cell.published, Cell.freed])
  · rw [hcell] at hs
    exact absurd hs hn

/-- A fixture ceases to be ready when a release clears it. -/
theorem clears_of_ready {n : ℕ} {x : Stride τ} (hx : h.stride n = some x)
    (hn : (h.crew n).cell.status = .ready) (hs : (h.crew (n + 1)).cell.status ≠ .ready) :
    h.Clears n x.thread := by
  have hcoh := h.coherent n
  rcases (h.step hx).status_effect with ⟨hst, -⟩ | ⟨unready, -⟩ | ⟨g, o, -, hp, -⟩ |
    ⟨strict, stage, result, hcell, -, hstride⟩
  · exact absurd (hst.trans hn) hs
  · exact absurd ⟨hn, hcoh.handle.1 hn⟩ unready
  · have hst := (hcoh.unready_of_publish hp).2.1
    exact absurd (hst.symm.trans hn) (by simp)
  · refine ⟨⟨strict, stage, result, hx.trans (congrArg some hstride)⟩, hn, ?_⟩
    rw [hcell]
    rfl

/-- A handle comes in when the flight that made it is published. -/
theorem publishes_of_handle {n : ℕ} {x : Stride τ} {f : Flight} {handle : Handle}
    (hx : h.stride n = some x) (hn : (h.crew n).cell.handle ≠ some (f, handle))
    (hs : (h.crew (n + 1)).cell.handle = some (f, handle)) :
    h.Publishes n x.thread f (.ok handle) := by
  rcases (h.step hx).status_effect with ⟨-, hh, -⟩ | ⟨-, -, hcell, -, -⟩ |
    ⟨g, o, hcell, -, hstride⟩ | ⟨_, _, _, hcell, -, -⟩
  · exact absurd (hh ▸ hs) hn
  · rw [hcell] at hs
    exact absurd hs hn
  · rw [hcell] at hs
    cases o with
    | ok k =>
      obtain ⟨rfl, rfl⟩ : g = f ∧ k = handle := by simpa [Cell.published, Cell.freed] using hs
      exact hx.trans (congrArg some hstride)
    | error e => exact absurd hs hn
  · rw [hcell] at hs
    exact absurd hs (by simp [Cell.cleared, Cell.freed])

/-- **A flight is in progress during one stretch of time only**: it is claimed when its number is
new, and numbers are not used again. -/
theorem inflight_between {a n b : ℕ} (han : a ≤ n) (hnb : n ≤ b) {f : Flight}
    (ha : (h.crew a).cell.inflight = some f) (hb : (h.crew b).cell.inflight = some f) :
    (h.crew n).cell.inflight = some f := by
  by_contra hn
  obtain ⟨m, x, hnm, -, hx, hm, hs⟩ :=
    exists_turn (fun crew => crew.cell.inflight = some f) hnb hn hb
  obtain ⟨-, hnew⟩ := claims_of_inflight hx hm hs
  have hold := (h.coherent a).lt_of_inflight ha
  have hmono := h.flights_length_mono (Nat.le_trans han hnm)
  exact Nat.not_lt.2 hmono (hnew ▸ hold)

end History

end EphemeralDatabase
