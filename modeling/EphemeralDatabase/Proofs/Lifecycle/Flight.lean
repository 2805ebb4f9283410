import EphemeralDatabase.Proofs.Lifecycle.History

/-!
# The life of a flight

A flight is claimed, lands, is published and is completed, each once and in this order, and one
thread does it all.  A thread may stop anywhere on the way, but it does not return before the end.

A flight that has landed keeps its outcome: the thread that flies it bears the outcome until the
flight is completed, and then the cell has it.  `Crew.Landed` and `Crew.Published` say that of a
crew.  Both are for good (`Step.landed`), and they become true by the step after which they are
named, so that whoever sees an outcome can look back to the step that made it.
-/

namespace EphemeralDatabase

variable {τ : Type}

/-! ## Outcomes of flights -/

namespace Position

/-- The thread has brought a flight to its end, and has not completed it. -/
def Bears (flight : Flight) (outcome : Acquired τ) : Position τ → Prop
  | .land f o | .publish f o | .complete f o => f = flight ∧ o = outcome
  | _ => False

/-- The thread has published a flight, and has not completed it. -/
def Finishes (flight : Flight) (outcome : Acquired τ) : Position τ → Prop
  | .complete f o => f = flight ∧ o = outcome
  | _ => False

theorem Bears.flies {f : Flight} {o : Acquired τ} {p : Position τ} (h : p.Bears f o) :
    p.Flies f := by
  cases p <;> first | exact h.1 | exact h.elim

theorem Finishes.bears {f : Flight} {o : Acquired τ} {p : Position τ} (h : p.Finishes f o) :
    p.Bears f o := by
  cases p <;> first | exact h | exact h.elim

theorem Begins.not_bears {p : Position τ} (h : p.Begins) (f : Flight) (o : Acquired τ) :
    ¬ p.Bears f o := fun hb => h.idle.2.1 f hb.flies

/-- What is borne to a door is borne through it, and nobody finishes behind one. -/
theorem door_bears {p q : Position τ} (h : p.door? = some q) (f : Flight) (o : Acquired τ) :
    (q.Bears f o ↔ p.Bears f o) ∧ ¬ q.Finishes f o := by
  cases p <;> simp only [door?, reduceCtorEq, Option.some.injEq] at h <;> subst h <;>
    simp [Bears, Finishes]

end Position

theorem Cell.outcome?_eq_some_iff {c : Cell τ} {f : Flight} {o : Acquired τ} :
    c.outcome? f = some o ↔ c.flights[f]? = some (some o) := by
  simp [Cell.outcome?, Option.join_eq_some_iff]

namespace Crew

open Position

variable {crew crew' : Crew τ} {f : Flight} {o : Acquired τ}

/-- The provisioning of a flight has come to its end. -/
def Landed (crew : Crew τ) (f : Flight) (o : Acquired τ) : Prop :=
  (∃ t, crew.Stands t (Bears f o)) ∨ crew.cell.outcome? f = some o

/-- What came of a flight has been published. -/
def Published (crew : Crew τ) (f : Flight) (o : Acquired τ) : Prop :=
  (∃ t, crew.Stands t (Finishes f o)) ∨ crew.cell.outcome? f = some o

namespace Coherent

variable (hc : Coherent crew)

include hc

/-- A flight that is flown has no outcome yet. -/
theorem outcome?_of_flies {t : ThreadId} (ht : crew.Stands t (Flies f)) :
    crew.cell.outcome? f = none := by
  have hpending := (hc.pending f).2 ⟨t, ht⟩
  simp [Cell.outcome?, hpending]

/-- What a thread has not yet brought to its end has not landed. -/
theorem not_landed_of_provision {t : ThreadId} {s : Provision.Stage τ}
    (ht : crew.At t (.provision f s)) : ¬ crew.Landed f o := by
  have hflies : crew.Stands t (Flies f) := ⟨_, ht, rfl⟩
  rintro (⟨u, hu⟩ | ho)
  · obtain ⟨p, hp, hb⟩ := hu
    obtain rfl := hc.alone u t f ⟨p, hp, hb.flies⟩ hflies
    exact ht.stands_iff.1 ⟨p, hp, hb⟩
  · exact absurd ((hc.outcome?_of_flies hflies).symm.trans ho) (by simp)

/-- A flight in progress has not been published. -/
theorem not_published_of_inflight (hin : crew.cell.inflight = some f) :
    ¬ crew.Published f o := by
  obtain ⟨t, ht⟩ := (hc.owner f).1 hin
  have hflies := flies_of_owns ht
  rintro (⟨u, hu⟩ | ho)
  · obtain ⟨p, hp, hb⟩ := hu
    obtain rfl := hc.alone u t f ⟨p, hp, hb.bears.flies⟩ hflies
    have howns := hp.stands_iff.1 ht
    cases p <;> first | exact howns | exact hb
  · exact absurd ((hc.outcome?_of_flies hflies).symm.trans ho) (by simp)

end Coherent

/-! ## What a step does to outcomes -/

variable [Clock τ] {plan : Plan τ} {x : Stride τ}

/-- An outcome comes into the cell when a flight is completed. -/
theorem Step.outcome_effect (h : Step plan crew x crew') (ho : crew'.cell.outcome? f = some o) :
    crew.cell.outcome? f = some o ∨ crew.At x.thread (.complete f o) := by
  rw [Cell.outcome?_eq_some_iff] at ho ⊢
  rcases h.flights_effect with ⟨hf, -⟩ | ⟨hf, -, -⟩ | ⟨g, o', hf, hp, -⟩
  · exact Or.inl (hf ▸ ho)
  · rw [hf, List.getElem?_append] at ho
    split at ho
    · exact Or.inl ho
    · simp [List.getElem?_singleton] at ho
  · rw [hf, List.getElem?_set] at ho
    split at ho
    · rename_i hg
      subst hg
      obtain ⟨-, rfl⟩ : _ ∧ o' = o := by simpa using ho
      exact Or.inr hp
    · exact Or.inl ho

/-- An outcome in the cell stays there. -/
theorem Step.outcome_lasting (h : Step plan crew x crew') (hc : Coherent crew)
    (ho : crew.cell.outcome? f = some o) : crew'.cell.outcome? f = some o := by
  rcases h.flights_effect with ⟨hf, -⟩ | ⟨hf, -, -⟩ | ⟨g, o', hf, hp, -⟩
  · rwa [Cell.outcome?_eq_some_iff, hf, ← Cell.outcome?_eq_some_iff]
  · rw [Cell.outcome?_eq_some_iff] at ho ⊢
    rw [hf, List.getElem?_append_left (List.getElem?_eq_some_iff.1 ho).1, ho]
  · have hg : g ≠ f := by
      rintro rfl
      exact absurd ((hc.outcome?_of_flies ⟨_, hp, rfl⟩).symm.trans ho) (by simp)
    rw [Cell.outcome?_eq_some_iff] at ho ⊢
    rw [hf, List.getElem?_set_ne hg, ho]

/-- A thread begins to bear an outcome when it has nothing more to ask. -/
theorem Step.bears_effect (h : Step plan crew x crew') (hq : x.target.Bears f o) :
    crew.Stands x.thread (Bears f o) ∨
      x = ⟨x.thread, some (.provision f (.done o)), .land f o, none⟩ := by
  rcases h.begins_or_goes with ⟨hb, -, -, -⟩ | ⟨p, hp, hsource, hg⟩
  · exact absurd hq (hb.not_bears f o)
  · rw [hp.stands_iff]
    obtain ⟨t, source, q, e⟩ := x
    subst hsource
    generalize crew'.cell = c' at hg
    cases hg with
    | enter door free => exact Or.inl ((door_bears door f o).1.1 hq)
    | land =>
      obtain ⟨rfl, rfl⟩ := hq
      exact Or.inr rfl
    | publish => exact Or.inl hq
    | _ => exact hq.elim

/-- A thread begins to finish when it publishes. -/
theorem Step.finishes_effect (h : Step plan crew x crew') (hq : x.target.Finishes f o) :
    x = ⟨x.thread, some (.publish f o), .complete f o, none⟩ := by
  rcases h.begins_or_goes with ⟨hb, -, -, -⟩ | ⟨p, hp, hsource, hg⟩
  · exact absurd hq.bears (hb.not_bears f o)
  · obtain ⟨t, source, q, e⟩ := x
    subst hsource
    generalize crew'.cell = c' at hg
    cases hg with
    | enter door free => exact absurd hq (door_bears door f o).2
    | publish =>
      obtain ⟨rfl, rfl⟩ := hq
      rfl
    | _ => exact hq.elim

/-- A thread that bears an outcome bears it on, or puts it into the cell. -/
theorem Step.bears_lasting (h : Step plan crew x crew') (hc : Coherent crew)
    (hp : crew.Stands x.thread (Bears f o)) :
    x.target.Bears f o ∨ crew'.cell.outcome? f = some o := by
  rcases h.begins_or_goes with ⟨-, hended, -, -⟩ | ⟨p, hat, -, hg⟩
  · obtain ⟨p, hat, hb⟩ := hp
    exact absurd hb.flies ((hended p hat).idle.2.1 f)
  · have hflies : crew.Stands x.thread (Flies f) := ⟨p, hat, (hat.stands_iff.1 hp).flies⟩
    rw [hat.stands_iff] at hp
    have hlt := hc.lt_of_flies hflies
    generalize crew'.cell = c' at hg ⊢
    generalize x.target = q at hg ⊢
    generalize x.exchange = e at hg
    cases hg with
    | enter door free => exact Or.inl ((door_bears door f o).1.2 hp)
    | publish => exact Or.inl hp
    | complete =>
      obtain ⟨rfl, rfl⟩ := hp
      exact Or.inr (by simp [Cell.outcome?, Cell.completed, hlt])
    | _ => exact hp.elim

/-- **A flight that has landed has landed for good**, with the same outcome. -/
theorem Step.landed (h : Step plan crew x crew') (hc : Coherent crew) (hl : crew.Landed f o) :
    crew'.Landed f o := by
  rcases hl with ⟨t, ht⟩ | ho
  · by_cases htx : t = x.thread
    · subst htx
      rcases h.bears_lasting hc ht with hq | ho
      · exact Or.inl ⟨_, h.stands_target_iff.2 hq⟩
      · exact Or.inr ho
    · exact Or.inl ⟨t, (h.stands_other_iff htx).2 ht⟩
  · exact Or.inr (h.outcome_lasting hc ho)

/-- A flight lands when its provisioning has nothing more to ask. -/
theorem Step.lands_of_landed (h : Step plan crew x crew') (hn : ¬ crew.Landed f o)
    (hl : crew'.Landed f o) :
    x = ⟨x.thread, some (.provision f (.done o)), .land f o, none⟩ := by
  rcases hl with ⟨t, ht⟩ | ho
  · rcases h.stands_iff.1 ht with ⟨-, hq⟩ | ⟨-, hold⟩
    · rcases h.bears_effect hq with hp | hx
      · exact absurd (Or.inl ⟨_, hp⟩) hn
      · exact hx
    · exact absurd (Or.inl ⟨t, hold⟩) hn
  · rcases h.outcome_effect ho with hold | hp
    · exact absurd (Or.inr hold) hn
    · exact absurd (Or.inl ⟨_, _, hp, rfl, rfl⟩) hn

/-- A flight counts as published when it is. -/
theorem Step.publishes_of_published (h : Step plan crew x crew') (hn : ¬ crew.Published f o)
    (hl : crew'.Published f o) :
    x = ⟨x.thread, some (.publish f o), .complete f o, none⟩ := by
  rcases hl with ⟨t, ht⟩ | ho
  · rcases h.stands_iff.1 ht with ⟨-, hq⟩ | ⟨-, hold⟩
    · exact h.finishes_effect hq
    · exact absurd (Or.inl ⟨t, hold⟩) hn
  · rcases h.outcome_effect ho with hold | hp
    · exact absurd (Or.inr hold) hn
    · exact absurd (Or.inl ⟨_, _, hp, rfl, rfl⟩) hn

end Crew

/-! ## Histories -/

namespace History

open Crew Position

variable [Clock τ] {plan : Plan τ} {h : History plan} {f : Flight} {o : Acquired τ}

theorem landed_lasting {a b : ℕ} (hab : a ≤ b) (ha : (h.crew a).Landed f o) :
    (h.crew b).Landed f o :=
  lasting (P := fun crew => crew.Landed f o) hab
    (fun n _ _ _ hx hn => (h.step hx).landed (h.coherent n) hn) ha

/-! ### Claims -/

/-- A flight gets the number of flights before it. -/
theorem Claims.spec {n : ℕ} {t : ThreadId} (hn : h.Claims n t f) :
    f = (h.crew n).cell.flights.length ∧
      (h.crew (n + 1)).cell.flights = (h.crew n).cell.flights ++ [none] := by
  have hsource : (h.crew n).At t .claim := (h.step hn).source
  rcases (h.step hn).flights_effect with ⟨-, hq⟩ | ⟨hf, -, hx⟩ | ⟨g, o, -, hp, -⟩
  · exact (hsource.stands_iff.1 ((hq f).1 rfl)).elim
  · exact ⟨by simpa using congrArg Stride.target hx, hf⟩
  · exact absurd (hsource.symm.trans hp) (by simp)

/-- **A flight is claimed once.** -/
theorem Claims.unique {m n : ℕ} {t u : ThreadId} (hm : h.Claims m t f) (hn : h.Claims n u f) :
    m = n := by
  -- a flight has the number of those before it, and that was higher after the first claim
  have hlt : ∀ {a b : ℕ} {t u : ThreadId}, h.Claims a t f → h.Claims b u f → ¬ a < b := by
    intro a b t u ha hb hab
    have hmono := h.flights_length_mono (Nat.succ_le_of_lt hab)
    rw [ha.spec.2, ← hb.spec.1, List.length_append, ← ha.spec.1] at hmono
    exact Nat.lt_irrefl _ hmono
  exact Nat.le_antisymm (Nat.not_lt.1 (hlt hn hm)) (Nat.not_lt.1 (hlt hm hn))

/-- A flight that is in progress was claimed. -/
theorem exists_claims {n : ℕ} (hn : (h.crew n).cell.inflight = some f) :
    ∃ m t, m < n ∧ h.Claims m t f := by
  obtain ⟨m, x, hmn, hx, hm, hs⟩ :=
    exists_beginning (fun crew => crew.cell.inflight = some f) (by simp) hn
  exact ⟨m, x.thread, hmn, (claims_of_inflight hx hm hs).1⟩

/-- **Who claims a flight flies it until it is completed.** -/
theorem Claims.flies {m n : ℕ} {t : ThreadId} (hm : h.Claims m t f) (hmn : m < n) :
    (h.crew n).Stands t (Flies f) ∨ ∃ k o, m < k ∧ k < n ∧ h.Completes k t f o := by
  by_cases hn : (h.crew n).Stands t (Flies f)
  · exact Or.inl hn
  · have hs : (h.crew (m + 1)).Stands t (Flies f) :=
      ⟨_, (h.step hm).at_target, rfl⟩
    obtain ⟨k, x, hmk, hkn, hx, hk, hk'⟩ :=
      exists_turn (fun crew => ¬ crew.Stands t (Flies f)) hmn (not_not.2 hs) hn
    have hk := not_not.1 hk
    have htx : t = x.thread := by
      by_contra hne
      exact hk' (((h.step hx).stands_other_iff hne).2 hk)
    subst htx
    rcases (h.step hx).flights_effect with ⟨-, hq⟩ | ⟨-, hp, -⟩ | ⟨g, o, -, hp, hstride⟩
    · exact absurd ((h.step hx).stands_target_iff.2 ((hq f).2 hk)) hk'
    · exact (hp.stands_iff.1 hk).elim
    · obtain rfl : g = f := hp.stands_iff.1 hk
      exact Or.inr ⟨k, o, hmk, hkn, hx.trans (congrArg some hstride)⟩

/-! ### Completion -/

theorem Completes.outcome {n : ℕ} {t : ThreadId} (hn : h.Completes n t f o) {m : ℕ} (hm : n < m) :
    (h.crew m).cell.outcome? f = some o := by
  have hs : (h.crew (n + 1)).cell.outcome? f = some o := by
    have hp : (h.crew n).At t (.complete f o) := (h.step hn).source
    rcases (h.step hn).bears_lasting (h.coherent n) ⟨_, hp, rfl, rfl⟩ with hq | ho
    · exact hq.elim
    · exact ho
  exact lasting (P := fun crew => crew.cell.outcome? f = some o) hm
    (fun k _ _ _ hx hk => (h.step hx).outcome_lasting (h.coherent k) hk) hs

/-- **A flight is completed once.** -/
theorem Completes.unique {m n : ℕ} {t u : ThreadId} {o' : Acquired τ} (hm : h.Completes m t f o)
    (hn : h.Completes n u f o') : m = n := by
  have hlt : ∀ {a b : ℕ} {t u : ThreadId} {o o' : Acquired τ}, h.Completes a t f o →
      h.Completes b u f o' → ¬ a < b := by
    intro a b t u o o' ha hb hab
    have hp : (h.crew b).At u (.complete f o') := (h.step hb).source
    have hno := (h.coherent b).outcome?_of_flies ⟨_, hp, rfl⟩
    exact absurd (hno.symm.trans (ha.outcome hab)) (by simp)
  exact Nat.le_antisymm (Nat.not_lt.1 (hlt hn hm)) (Nat.not_lt.1 (hlt hm hn))

/-! ### Landing and publication -/

/-- A flight that is known to have landed did land. -/
theorem exists_lands {n : ℕ} (hn : (h.crew n).Landed f o) : ∃ m t, m < n ∧ h.Lands m t f o := by
  obtain ⟨m, x, hmn, hx, hm, hs⟩ := exists_beginning (fun crew => crew.Landed f o)
    (by simp [Crew.Landed, Stands, At, Cell.outcome?]) hn
  exact ⟨m, x.thread, hmn, hx.trans (congrArg some ((h.step hx).lands_of_landed hm hs))⟩

/-- A flight that is known to be published was published. -/
theorem exists_publishes {n : ℕ} (hn : (h.crew n).Published f o) :
    ∃ m t, m < n ∧ h.Publishes m t f o := by
  obtain ⟨m, x, hmn, hx, hm, hs⟩ := exists_beginning (fun crew => crew.Published f o)
    (by simp [Crew.Published, Stands, At, Cell.outcome?]) hn
  exact ⟨m, x.thread, hmn, hx.trans (congrArg some ((h.step hx).publishes_of_published hm hs))⟩

/-- **A flight lands once**, so all who learn what came of it learn the same. -/
theorem Lands.unique {m n : ℕ} {t u : ThreadId} {o' : Acquired τ} (hm : h.Lands m t f o)
    (hn : h.Lands n u f o') : m = n := by
  have hlt : ∀ {a b : ℕ} {t u : ThreadId} {o o' : Acquired τ}, h.Lands a t f o →
      h.Lands b u f o' → ¬ a < b := by
    intro a b t u o o' ha hb hab
    have hs : (h.crew (a + 1)).Landed f o :=
      Or.inl ⟨t, _, (h.step ha).at_target, rfl, rfl⟩
    have hp : (h.crew b).At u (.provision f (.done o')) := (h.step hb).source
    exact (h.coherent b).not_landed_of_provision hp (landed_lasting hab hs)
  exact Nat.le_antisymm (Nat.not_lt.1 (hlt hn hm)) (Nat.not_lt.1 (hlt hm hn))

end History

end EphemeralDatabase
