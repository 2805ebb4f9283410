import EphemeralDatabase.Proofs.Lifecycle.Sequence

/-!
# Agreement

All who get the outcome of a flight get the same: there is one, which its provisioning made, and
it is completed once.  And a handle that is returned was there while the `acquire` ran: it was the
handle of the fixture, which was ready, at some instant between call and return.

An `acquire` gets its outcome in one of three ways, and the argument is another for each
(`Step.returns_effect`).  One that finds a handle sees it under the lock.  One that has flown the
flight itself has published it on the way.  One that has joined a flight saw it in progress, and
sees an outcome now, so that the flight was published in between, by another thread.  The handle
may be gone again when that `acquire` returns.

Handles of two flights are told apart by a release: between two publications the fixture ceases to
be ready, and only a release can make it so.
-/

namespace EphemeralDatabase

open Crew Position

variable {τ : Type} [Clock τ] {plan : Plan τ}

/-! ## How an `acquire` returns -/

/-- **An `acquire` returns** the handle that it finds, the outcome of the flight that it has joined,
or that of the flight that it has flown. -/
theorem Crew.Step.returns_effect {crew crew' : Crew τ} {x : Stride τ}
    (h : Step plan crew x crew') {f : Flight} {o : Acquired τ} (hq : x.target = .acquired f o) :
    (∃ handle, o = .ok handle ∧ crew.cell.status = .ready ∧
        crew.cell.handle = some (f, handle)) ∨
      (crew.At x.thread (.join f) ∧ crew.cell.outcome? f = some o) ∨
      crew.At x.thread (.complete f o) := by
  rcases h.begins_or_goes with ⟨hb, -, -, -⟩ | ⟨p, hp, -, hg⟩
  · rw [hq] at hb
    exact hb.elim
  · rw [hq] at hg
    generalize crew'.cell = c' at hg
    generalize x.exchange = e at hg
    cases hg with
    | @enter p q door free => cases p <;> simp [door?] at door
    | reuse ready found => exact Or.inl ⟨_, rfl, ready, found⟩
    | wake done => exact Or.inr (Or.inl ⟨hp, done⟩)
    | complete => exact Or.inr (Or.inr hp)

/-- What a thread that has joined a flight does next is to return what came of it. -/
theorem Crew.Step.wakes {crew crew' : Crew τ} {x : Stride τ} (h : Step plan crew x crew')
    {f : Flight} (hp : crew.At x.thread (.join f)) :
    ∃ o, x.target = .acquired f o ∧ crew.cell.outcome? f = some o := by
  rcases h.begins_or_goes with ⟨-, hended, -, -⟩ | ⟨p, hat, -, hg⟩
  · exact (hended _ hp).elim
  · obtain rfl : p = .join f := Option.some.inj (hat.symm.trans hp)
    generalize crew'.cell = c' at hg
    generalize x.target = q at hg ⊢
    generalize x.exchange = e at hg
    cases hg with
    | enter door free => simp [door?] at door
    | wake done => exact ⟨_, rfl, done⟩

namespace History

variable (h : History plan)

/-- A thread calls `acquire`. -/
def Calls (n : ℕ) (t : ThreadId) : Prop := ∃ p, h.stride n = some ⟨t, p, .acquire, none⟩

/-- A thread returns from an `acquire` with what came of a flight. -/
def Returns (n : ℕ) (t : ThreadId) (f : Flight) (o : Acquired τ) : Prop :=
  ∃ p e, h.stride n = some ⟨t, p, .acquired f o, e⟩

variable {h} {f : Flight} {o : Acquired τ}

/-! ## Publication -/

/-- A publication puts a handle into the cell. -/
theorem Publishes.spec {n : ℕ} {t : ThreadId} (hn : h.Publishes n t f o) :
    (h.crew n).cell.inflight = some f ∧ (h.crew n).cell.status = .provisioning ∧
      (h.crew (n + 1)).cell = ((h.crew n).cell.published f o).freed := by
  have hp : (h.crew n).At t (.publish f o) := (h.step hn).source
  obtain ⟨hin, hst, -⟩ := (h.coherent n).unready_of_publish hp
  refine ⟨hin, hst, ?_⟩
  rcases (h.step hn).status_effect with ⟨-, -, -, hq⟩ | ⟨-, -, -, -, hx⟩ | ⟨g, o', hcell, -, hx⟩ |
    ⟨strict, stage, result, -, -, hx⟩
  · exact ((hq f).2 (hp.stands_iff.2 rfl)).elim
  · exact absurd (congrArg Stride.target hx) (by simp)
  · obtain ⟨rfl, rfl⟩ : f = g ∧ o = o' := by simpa using congrArg Stride.target hx
    exact hcell
  · exact absurd (congrArg Stride.target hx) (by simp)

/-- A handle that is published makes the fixture ready. -/
theorem Publishes.ready {n : ℕ} {t : ThreadId} {handle : Handle}
    (hn : h.Publishes n t f (.ok handle)) :
    (h.crew (n + 1)).cell.status = .ready ∧ (h.crew (n + 1)).cell.handle = some (f, handle) := by
  rw [hn.spec.2.2]
  exact ⟨rfl, rfl⟩

/-- **A flight is published once.** -/
theorem Publishes.unique {m n : ℕ} {t u : ThreadId} {o' : Acquired τ} (hm : h.Publishes m t f o)
    (hn : h.Publishes n u f o') : m = n := by
  have hlt : ∀ {a b : ℕ} {t u : ThreadId} {o o' : Acquired τ}, h.Publishes a t f o →
      h.Publishes b u f o' → ¬ a < b := by
    intro a b t u o o' ha hb hab
    have hin := inflight_between (Nat.le_succ a) hab ha.spec.1 hb.spec.1
    rw [ha.spec.2.2] at hin
    cases o <;> simp [Cell.published, Cell.freed] at hin
  exact Nat.le_antisymm (Nat.not_lt.1 (hlt hn hm)) (Nat.not_lt.1 (hlt hm hn))

/-- **Between two publications, the first of a handle, a release clears the fixture.** -/
theorem exists_clears {m n : ℕ} {t u : ThreadId} {g : Flight} {handle : Handle} {o' : Acquired τ}
    (hmn : m < n) (hm : h.Publishes m t f (.ok handle)) (hn : h.Publishes n u g o') :
    ∃ d v, m < d ∧ d < n ∧ h.Clears d v := by
  have hready := hm.ready.1
  have hunready : (h.crew n).cell.status ≠ .ready := by simp [hn.spec.2.1]
  obtain ⟨d, x, hmd, hdn, hx, hd, hd'⟩ :=
    exists_turn (fun crew => crew.cell.status ≠ .ready) hmn (not_not.2 hready) hunready
  exact ⟨d, x.thread, hmd, hdn, clears_of_ready hx (not_not.1 hd) hd'⟩

/-- A handle that is there was published. -/
theorem exists_publishes_of_handle {n : ℕ} {handle : Handle}
    (hn : (h.crew n).cell.handle = some (f, handle)) :
    ∃ m t, m < n ∧ h.Publishes m t f (.ok handle) := by
  obtain ⟨m, x, hmn, hx, hm, hs⟩ :=
    exists_beginning (fun crew => crew.cell.handle = some (f, handle)) (by simp) hn
  exact ⟨m, x.thread, hmn, publishes_of_handle hx hm hs⟩

/-- **What an `acquire` returns was published**, by whatever thread. -/
theorem Returns.published {n : ℕ} {t : ThreadId} {handle : Handle}
    (hn : h.Returns n t f (.ok handle)) : ∃ m u, m < n ∧ h.Publishes m u f (.ok handle) := by
  obtain ⟨p, e, hx⟩ := hn
  rcases (h.step hx).returns_effect rfl with ⟨handle, ho, -, hh⟩ | ⟨-, ho⟩ | hp
  · cases ho
    exact exists_publishes_of_handle hh
  · exact exists_publishes (Or.inr ho)
  · exact exists_publishes (Or.inl ⟨t, _, hp, rfl, rfl⟩)

/-! ## Handles were current -/

/-- A thread that joins a flight sees it in progress. -/
theorem exists_join {a b : ℕ} {t : ThreadId} (hab : a ≤ b) (ha : ¬ (h.crew a).At t (.join f))
    (hb : (h.crew b).At t (.join f)) :
    ∃ m, a ≤ m ∧ m < b ∧ (h.crew m).cell.inflight = some f := by
  obtain ⟨m, x, ham, hmb, hx, hm, hs⟩ :=
    exists_turn (fun crew => crew.At t (.join f)) hab ha hb
  rcases (h.step hx).at_iff.1 hs with ⟨-, hq⟩ | ⟨-, hold⟩
  · exact ⟨m, ham, hmb, (h.step hx).awaits_effect (hq ▸ rfl : x.target.Awaits f)⟩
  · exact absurd hold hm

/-- A flight that is in progress at one instant, and whose outcome is known at another, was
published between the two. -/
theorem exists_publishes_between {a b : ℕ} (hab : a ≤ b)
    (ha : (h.crew a).cell.inflight = some f) (hb : (h.crew b).Published f o) :
    ∃ m t, a ≤ m ∧ m < b ∧ h.Publishes m t f o := by
  obtain ⟨m, x, ham, hmb, hx, hm, hs⟩ := exists_turn (fun crew => crew.Published f o) hab
    ((h.coherent a).not_published_of_inflight ha) hb
  exact ⟨m, x.thread, ham, hmb,
    hx.trans (congrArg some ((h.step hx).publishes_of_published hm hs))⟩

/-- A thread begins to finish a flight when it publishes it. -/
theorem publishes_of_finishes {a b : ℕ} {t : ThreadId} (hab : a ≤ b)
    (ha : ¬ (h.crew a).Stands t (Finishes f o)) (hb : (h.crew b).Stands t (Finishes f o)) :
    ∃ m, a ≤ m ∧ m < b ∧ h.Publishes m t f o := by
  obtain ⟨m, x, ham, hmb, hx, hm, hm'⟩ :=
    exists_turn (fun crew => crew.Stands t (Finishes f o)) hab ha hb
  rcases (h.step hx).stands_iff.1 hm' with ⟨rfl, hq⟩ | ⟨-, hold⟩
  · exact ⟨m, ham, hmb, hx.trans (congrArg some ((h.step hx).finishes_effect hq))⟩
  · exact absurd hold hm

/-- **A handle that an `acquire` returns was the handle of the fixture, which was ready, at some
instant between the call and the return.** -/
theorem Returns.current {s n : ℕ} {t : ThreadId} {handle : Handle} (hs : h.Calls s t) (hsn : s < n)
    (hn : h.Returns n t f (.ok handle)) :
    ∃ m, s < m ∧ m ≤ n ∧ (h.crew m).cell.status = .ready ∧
      (h.crew m).cell.handle = some (f, handle) := by
  obtain ⟨p, hs⟩ := hs
  obtain ⟨q, e, hx⟩ := hn
  have hcalled : (h.crew (s + 1)).At t .acquire := (h.step hs).at_target
  rcases (h.step hx).returns_effect rfl with ⟨handle, ho, hst, hh⟩ | ⟨hp, ho⟩ | hp
  · cases ho
    exact ⟨n, hsn, Nat.le_refl n, hst, hh⟩
  · have hno : ¬ (h.crew (s + 1)).At t (.join f) := fun hj => by
      simpa using hcalled.symm.trans hj
    obtain ⟨j, hsj, hjn, hin⟩ := exists_join hsn hno hp
    obtain ⟨m, u, hjm, hmn, hpub⟩ :=
      exists_publishes_between (Nat.le_of_lt hjn) hin (Or.inr ho)
    exact ⟨m + 1, Nat.le_succ_of_le (Nat.le_trans hsj hjm), hmn, hpub.ready⟩
  · -- the thread has published the flight since it called
    have hno : ¬ (h.crew (s + 1)).Stands t (Finishes f (.ok handle)) := fun hf =>
      hcalled.stands_iff.1 hf
    obtain ⟨m, hsm, hmn, hpub⟩ := publishes_of_finishes hsn hno ⟨_, hp, rfl, rfl⟩
    exact ⟨m + 1, Nat.le_succ_of_le hsm, hmn, hpub.ready⟩

/-! ## Outcomes are those of the flight -/

/-- A flight that has landed was claimed before, by the thread that landed it. -/
theorem Lands.exists_claims {n : ℕ} {t : ThreadId} (hn : h.Lands n t f o) :
    ∃ m, m < n ∧ h.Claims m t f := by
  have hp : (h.crew n).At t (.provision f (.done o)) := (h.step hn).source
  obtain ⟨m, u, hmn, hclaim⟩ := History.exists_claims (((h.coherent n).owner f).2 ⟨t, _, hp, rfl⟩)
  have ht : (h.crew n).Stands t (Flies f) := ⟨_, hp, rfl⟩
  rcases hclaim.flies hmn with hu | ⟨k, o', -, hkn, hdone⟩
  · obtain rfl := (h.coherent n).alone t u f ht hu
    exact ⟨m, hmn, hclaim⟩
  · exact absurd (((h.coherent n).outcome?_of_flies ht).symm.trans (hdone.outcome hkn)) (by simp)

/-- The outcome with which a flight lands is what provisioning makes of its exchanges. -/
theorem Lands.trace {n : ℕ} {t : ThreadId} (hn : h.Lands n t f o) :
    (Provision.machine plan).Trace Provision.start (h.exchangesOf f n) (.done o) :=
  trace_of_reached (Or.inl ⟨t, (h.step hn).source⟩)

/-- **Who has joined a flight returns what its provisioning made.** -/
theorem exists_lands_of_join {n : ℕ} {x : Stride τ} (hx : h.stride n = some x)
    (hp : x.source = some (.join f)) :
    ∃ o m t, x.target = .acquired f o ∧ m < n ∧ h.Lands m t f o := by
  obtain ⟨o, hq, ho⟩ := (h.step hx).wakes ((h.step hx).source.trans hp)
  obtain ⟨m, t, hmn, hland⟩ := exists_lands (Or.inr ho)
  exact ⟨o, m, t, hq, hmn, hland⟩

end History

/-- **Agreement.**  In every history: a flight is completed once; who claims a flight flies it until
it is completed, and from then on its outcome stands in the cell; who joins a flight returns what
the provisioning of that flight made, which is done once and by the one thread that has claimed it;
a handle that an `acquire` returns was the handle of the fixture, which was ready, between the call
and the return; and if the handles that two calls return are of different flights, then both were
published, each once, and a release cleared the fixture in between. -/
theorem History.agree (h : History plan) :
    (∀ m n t u f o o', h.Completes m t f o → h.Completes n u f o' → m = n) ∧
    (∀ m n t f, h.Claims m t f → m < n →
      (h.crew n).Stands t (Flies f) ∨ ∃ k o, m < k ∧ k < n ∧ h.Completes k t f o ∧
        (h.crew n).cell.outcome? f = some o) ∧
    (∀ n x f, h.stride n = some x → x.source = some (.join f) →
      ∃ o l m t, x.target = .acquired f o ∧ l < m ∧ m < n ∧ h.Claims l t f ∧ h.Lands m t f o ∧
        (Provision.machine plan).Trace Provision.start (h.exchangesOf f m) (.done o) ∧
        (∀ l' t', h.Claims l' t' f → l' = l) ∧ ∀ m' t' o', h.Lands m' t' f o' → m' = m) ∧
    (∀ s n t f handle, h.Calls s t → s < n → h.Returns n t f (.ok handle) →
      ∃ m, s < m ∧ m ≤ n ∧ (h.crew m).cell.status = .ready ∧
        (h.crew m).cell.handle = some (f, handle)) ∧
    (∀ m n t u f g a b, f ≠ g → h.Returns m t f (.ok a) → h.Returns n u g (.ok b) →
      ∃ p q d t' u' v, h.Publishes p t' f (.ok a) ∧ h.Publishes q u' g (.ok b) ∧
        h.Clears d v ∧ ((p < d ∧ d < q) ∨ (q < d ∧ d < p)) ∧
        (∀ p' w o, h.Publishes p' w f o → p' = p) ∧ ∀ q' w o, h.Publishes q' w g o → q' = q) := by
  refine ⟨?_, ?_, ?_, ?_, ?_⟩
  · intro m n t u f o o' hm hn
    exact hm.unique hn
  · intro m n t f hm hmn
    exact (hm.flies hmn).imp_right fun ⟨k, o, hmk, hkn, hdone⟩ =>
      ⟨k, o, hmk, hkn, hdone, hdone.outcome hkn⟩
  · intro n x f hx hp
    obtain ⟨o, m, t, hq, hmn, hland⟩ := exists_lands_of_join hx hp
    obtain ⟨l, hlm, hclaim⟩ := hland.exists_claims
    exact ⟨o, l, m, t, hq, hlm, hmn, hclaim, hland, hland.trace,
      fun l' t' hc => hc.unique hclaim, fun m' t' o' hl => hl.unique hland⟩
  · intro s n t f handle hs hsn hn
    exact hn.current hs hsn
  · intro m n t u f g a b hfg hm hn
    obtain ⟨p, t', -, hp⟩ := hm.published
    obtain ⟨q, u', -, hq⟩ := hn.published
    have honce : (∀ p' w o, h.Publishes p' w f o → p' = p) ∧
        ∀ q' w o, h.Publishes q' w g o → q' = q :=
      ⟨fun p' w o hp' => hp'.unique hp, fun q' w o hq' => hq'.unique hq⟩
    rcases Nat.lt_trichotomy p q with hpq | rfl | hqp
    · obtain ⟨d, v, hpd, hdq, hd⟩ := exists_clears hpq hp hq
      exact ⟨p, q, d, t', u', v, hp, hq, hd, Or.inl ⟨hpd, hdq⟩, honce⟩
    · exact absurd (Option.some.inj (hp.symm.trans hq)) (by simp [hfg])
    · obtain ⟨d, v, hqd, hdp, hd⟩ := exists_clears hqp hq hp
      exact ⟨p, q, d, t', u', v, hp, hq, hd, Or.inr ⟨hqd, hdp⟩, honce⟩

end EphemeralDatabase
