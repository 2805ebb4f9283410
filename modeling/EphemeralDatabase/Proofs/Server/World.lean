import EphemeralDatabase.Proofs.Lifecycle.Solo
import EphemeralDatabase.Proofs.Server.Conduct

/-!
# Worlds that behave like servers

A server is known by its conduct, which leaves open what exactly it answers.  A world answers, and
its states are its own business.  `World.Imitates` connects the two: each state of the world stands
for one of the server, and whatever the world is asked, its answer is one that the server can give.
From then on the two are followed side by side (`Likeness`, `World.Meets`).

A call is run for a number of moves.  A thread makes one move for each exchange, and
`Position.moves` bounds the moves that it makes beside them, because every one of them makes it
smaller and no exchange makes it larger.  So a call goes the way in which it can go if there are
moves enough and the world takes part in its exchanges (`Crew.advance_of_solo`,
`Fixture.acquire_of_solo`).  The other way round, the world has taken part in whatever is exchanged
(`Crew.carries_advance`), and it has one reply to a request (`World.exchanges_unique`).
-/

namespace EphemeralDatabase

variable {σ τ ω : Type}

/-- A world takes part in an exchange. -/
def World.Conducts (world : World τ ω) (w : ω) (e : Exchange τ) (w' : ω) : Prop :=
  world.ask e.request w = (e.reply, w')

/-! ## Imitation -/

/-- Whatever a world is asked, the server that it stands for can answer the same. -/
def World.Imitates (world : World τ ω) (conduct : σ → Exchange τ → σ → Prop)
    (like : ω → σ → Prop) : Prop :=
  ∀ ⦃w d⦄, like w d → ∀ request, ∃ d',
    conduct d ⟨request, (world.ask request w).1⟩ d' ∧ like (world.ask request w).2 d'

/-- A state of a world, and the state of the server that it stands for. -/
structure Likeness (like : ω → σ → Prop) where
  world : ω
  server : σ
  like : like world server

/-- The world and the server that it stands for take part in the same exchange. -/
structure World.Meets (world : World τ ω) (conduct : σ → Exchange τ → σ → Prop)
    {like : ω → σ → Prop} (p : Likeness like) (e : Exchange τ) (q : Likeness like) : Prop where
  world : world.Conducts p.world e q.world
  server : conduct p.server e q.server

/-- To every request there is a reply. -/
theorem World.Imitates.exists_meets {world : World τ ω} {conduct : σ → Exchange τ → σ → Prop}
    {like : ω → σ → Prop} (h : world.Imitates conduct like) (p : Likeness like)
    (request : Request τ) : ∃ reply q, world.Meets conduct p ⟨request, reply⟩ q := by
  obtain ⟨d', server, hlike⟩ := h p.like request
  exact ⟨_, ⟨_, d', hlike⟩, Prod.ext rfl rfl, server⟩

/-- What is known of every exchange is known of all of them. -/
theorem Carries.map {ρ : Type} {conduct : σ → Exchange τ → σ → Prop}
    {conduct' : ρ → Exchange τ → ρ → Prop} (f : σ → ρ) {p q : σ} {es : List (Exchange τ)}
    (h : Carries conduct p es q)
    (keeps : ∀ {p e q}, conduct p e q → conduct' (f p) e (f q)) :
    Carries conduct' (f p) es (f q) := by
  induction es generalizing p with
  | nil =>
    obtain rfl := carries_nil.1 h
    exact carries_nil.2 rfl
  | cons e es ih =>
    obtain ⟨p₁, first, rest⟩ := carries_cons.1 h
    exact carries_cons.2 ⟨f p₁, keeps first, ih rest⟩

/-- What a world exchanges, the server that it imitates can exchange too. -/
theorem World.Imitates.carries {world : World τ ω} {conduct : σ → Exchange τ → σ → Prop}
    {like : ω → σ → Prop} (h : world.Imitates conduct like) {w w' : ω} {d : σ} (stands : like w d)
    {es : List (Exchange τ)} (carries : Carries world.Conducts w es w') :
    ∃ d', Carries conduct d es d' ∧ like w' d' := by
  induction es generalizing w d with
  | nil =>
    obtain rfl := carries_nil.1 carries
    exact ⟨d, carries_nil.2 rfl, stands⟩
  | cons e es ih =>
    obtain ⟨w₁, first, rest⟩ := carries_cons.1 carries
    obtain ⟨d₁, served, hlike⟩ := h stands e.request
    have hask : world.ask e.request w = (e.reply, w₁) := first
    rw [hask] at served hlike
    obtain ⟨d', others, hlike'⟩ := ih hlike rest
    exact ⟨d', carries_cons.2 ⟨d₁, served, others⟩, hlike'⟩

/-- A world that imitates a server imitates one of which less is known. -/
theorem World.Imitates.map {world : World τ ω} {ρ : Type} {conduct : σ → Exchange τ → σ → Prop}
    {conduct' : ρ → Exchange τ → ρ → Prop} {like : ω → σ → Prop} (h : world.Imitates conduct like)
    (f : σ → ρ) (keeps : ∀ {d e d'}, conduct d e d' → conduct' (f d) e (f d')) :
    world.Imitates conduct' fun w r => ∃ d, like w d ∧ f d = r := by
  rintro w - ⟨d, stands, rfl⟩ request
  obtain ⟨d', conducts, hlike⟩ := h stands request
  exact ⟨f d', keeps conducts, d', hlike, rfl⟩

/-! ## Running -/

/-- **A world has one reply to a request**, so the same requests make the same exchanges. -/
theorem World.exchanges_unique {world : World τ ω} {w w' w'' : ω} {es fs : List (Exchange τ)}
    (h : Carries world.Conducts w es w') (h' : Carries world.Conducts w fs w'')
    (requests : es.map Exchange.request = fs.map Exchange.request) : es = fs := by
  induction es generalizing w fs with
  | nil => exact (List.map_eq_nil_iff.1 requests.symm).symm
  | cons e es ih =>
    obtain ⟨f, fs, rfl, hrequest, hrequests⟩ := List.map_eq_cons_iff.1 requests.symm
    obtain ⟨w₁, first, rest⟩ := carries_cons.1 h
    obtain ⟨w₂, first', rest'⟩ := carries_cons.1 h'
    have hask : (e.reply, w₁) = (f.reply, w₂) := by
      rw [← first, ← first', hrequest]
    obtain ⟨hreply, rfl⟩ := Prod.mk.inj hask
    have hexchange : e = f := by
      cases e
      cases f
      simp_all
    rw [hexchange, ih rest rest' hrequests.symm]

/-- How many moves without an exchange a thread can still make. -/
def Position.moves : Position τ → ℕ
  | .acquired .. | .released _ => 0
  | .complete .. | .join _ | .tearDown .. => 1
  | .publish .. | .decide _ => 2
  | .land .. | .descend _ => 3
  | .provision .. | .await .. => 4
  | .claim | .peek _ => 5
  | .acquire | .release _ => 6

variable [Clock τ] {plan : Plan τ} {world : World τ ω} {c c' : Cell τ} {p q : Position τ}
  {w w' : ω} {es : List (Exchange τ)}

/-- Given enough moves, a thread that has the fixture and the world to itself comes to the end of
its call, and these are its exchanges. -/
def Crew.Returns (plan : Plan τ) (world : World τ ω) (c : Cell τ) (p : Position τ) (w : ω)
    (es : List (Exchange τ)) (c' : Cell τ) (q : Position τ) : Prop :=
  ∃ enough, ∀ fuel, enough ≤ fuel →
    (advance plan world false 0 fuel ⟨c, [p]⟩ w).result = ⟨c', [q]⟩ ∧
      (advance plan world false 0 fuel ⟨c, [p]⟩ w).journal.exchanges = es

namespace Plan

variable {self : ThreadId}

theorem moves_lt_of_silent {events : List (Event τ)}
    (move : plan.move self c p = .silent c' q events) : q.moves < p.moves := by
  cases Goes.of_silent move with
  | enter door => cases p <;> cases door <;> simp [Position.moves]
  | reuse | join | claim | wake | land | publish | complete | await | pass | rise | tearDown
  | decline | clear => simp [Position.moves]

theorem moves_of_ask {request : Request τ} {resume : Reply τ → Position τ × List (Event τ)}
    (move : plan.move self c p = .ask request resume) (reply : Reply τ) :
    (resume reply).1.moves = p.moves := by
  have goes := Goes.of_ask move reply
  generalize (resume reply).1 = q at goes
  cases goes <;> rfl

end Plan

namespace Crew

/-- **With moves enough a call is run in the way in which it can go** on the world that takes part
in it. -/
theorem advance_of_solo (solo : plan.Solo 0 c p es c' q) (h : Carries world.Conducts w es w')
    {fuel : ℕ} (enough : es.length + p.moves ≤ fuel) :
    (advance plan world false 0 fuel ⟨c, [p]⟩ w).result = ⟨c', [q]⟩ ∧
      (advance plan world false 0 fuel ⟨c, [p]⟩ w).journal.exchanges = es := by
  induction solo generalizing w fuel with
  | @ended c p ended =>
    rw [advance_of_still (Or.inr (Plan.move_of_ended ended))]
    exact ⟨rfl, rfl⟩
  | @silent c c₁ c₂ p q r events es move rest ih =>
    have fewer : q.moves < p.moves := Plan.moves_lt_of_silent move
    obtain ⟨fuel, rfl⟩ := Nat.exists_eq_add_of_le' (show 1 ≤ fuel by omega)
    have left : es.length + q.moves ≤ fuel := by omega
    rw [advance_of_silent move]
    simpa [bind, Act.report, Act.note] using ih h left
  | @ask c c₂ p r request resume es reply move rest ih =>
    obtain ⟨w₁, first, others⟩ := carries_cons.1 h
    have answer : world.ask request w = (reply, w₁) := first
    rw [List.length_cons, ← Plan.moves_of_ask move reply] at enough
    obtain ⟨fuel, rfl⟩ := Nat.exists_eq_add_of_le' (show 1 ≤ fuel by omega)
    have left : es.length + (resume reply).1.moves ≤ fuel := by omega
    rw [advance_of_ask move]
    simpa [bind, Act.report, Act.note, Act.request, answer] using ih others left

/-- A call is run in the way in which it can go on the world that takes part in it. -/
theorem returns_of_solo (solo : plan.Solo 0 c p es c' q) (h : Carries world.Conducts w es w') :
    Returns plan world c p w es c' q :=
  ⟨es.length + p.moves, fun _ enough => advance_of_solo solo h enough⟩

/-- **The world takes part in whatever is exchanged.** -/
theorem carries_advance (fuel : ℕ) (c : Cell τ) (p : Position τ) (w : ω) :
    Carries world.Conducts w (advance plan world false 0 fuel ⟨c, [p]⟩ w).journal.exchanges
      (advance plan world false 0 fuel ⟨c, [p]⟩ w).world := by
  induction fuel generalizing c p w with
  | zero => exact carries_nil.2 rfl
  | succ fuel ih =>
    cases move : plan.move 0 c p with
    | blocked | finished =>
      rw [advance_of_still (by simp [move])]
      exact carries_nil.2 rfl
    | silent c₁ q events =>
      rw [advance_of_silent move]
      simpa [bind, Act.report, Act.note] using ih c₁ q w
    | ask request resume =>
      have rest := ih c (resume (world.ask request w).1).1 (world.ask request w).2
      rw [advance_of_ask move]
      simpa [bind, Act.report, Act.note, Act.request] using
        carries_cons.2 ⟨(world.ask request w).2, rfl, rest⟩

end Crew

namespace Fixture

variable {f : Fixture τ}

/-- The world takes part in the exchanges of an acquisition. -/
theorem carries_acquire (w : ω) :
    Carries world.Conducts w (f.acquire world w).journal.exchanges (f.acquire world w).world := by
  have h : Carries world.Conducts w
      (Crew.advance f.plan world false 0 patience ⟨f.cell, [.acquire]⟩ w).journal.exchanges
      (Crew.advance f.plan world false 0 patience ⟨f.cell, [.acquire]⟩ w).world :=
    Crew.carries_advance patience f.cell .acquire w
  simpa [acquire, call, bind, pure] using h

/-- **An acquisition goes the way of a call** that has fewer exchanges than a thread has patience.
-/
theorem acquire_of_solo {flight : Flight} {o : Acquired τ}
    (solo : f.plan.Solo 0 f.cell .acquire es c (.acquired flight o))
    (h : Carries world.Conducts w es w') (enough : es.length + 6 ≤ patience) :
    (f.acquire world w).result = ({ f with cell := c }, some o) ∧
      (f.acquire world w).journal.exchanges = es := by
  obtain ⟨hresult, hexchanges⟩ := Crew.advance_of_solo solo h enough
  constructor
  · simp [acquire, call, bind, pure, hresult, acquiredAt?]
  · simpa [acquire, call, bind, pure] using hexchanges

end Fixture

end EphemeralDatabase
