import EphemeralDatabase.Fixture.Machine
import Mathlib.Tactic.Common

/-!
# Traces of machines

`Machine.Trace` says by which exchanges a machine comes from one state to another.  The replies
are arbitrary, so the traces of a machine are what it can do against any outside whatsoever.

The machines of a fixture are nested: bringing up an object ensures that it exists and then waits
for it, and provisioning brings up two objects.  Each outer machine runs an inner one behind a
constructor until the inner one has nothing more to ask.  `Machine.Embeds` is that relation, and
`Embeds.split` cuts a trace of the outer machine at the moment the inner one comes to its end, so
that what is known of the traces of the inner machine can be used; `Embeds.join` makes a trace of
the outer machine out of one of the inner that is finished.
-/

namespace EphemeralDatabase

/-- The replies are the first ones of a sequence. -/
def Exchange.Answered {τ : Type} (reply : ℕ → Reply τ) (es : List (Exchange τ)) : Prop :=
  ∀ i e, es[i]? = some e → e.reply = reply i

namespace Exchange.Answered

variable {τ : Type} {reply : ℕ → Reply τ} {es : List (Exchange τ)}

theorem nil : Answered reply [] := by
  intro i e he
  simp at he

theorem cons {e : Exchange τ} (he : e.reply = reply 0)
    (h : Answered (fun i => reply (i + 1)) es) : Answered reply (e :: es) := by
  intro i d hd
  cases i with
  | zero =>
    obtain rfl : e = d := by simpa using hd
    exact he
  | succ i => exact h i d (by simpa using hd)

theorem snoc (h : Answered reply es) {e : Exchange τ} (he : e.reply = reply es.length) :
    Answered reply (es ++ [e]) := by
  intro i d hd
  rcases Nat.lt_trichotomy i es.length with hlt | rfl | hgt
  · rw [List.getElem?_append_left hlt] at hd
    exact h i d hd
  · obtain rfl : e = d := by simpa using hd
    exact he
  · rw [List.getElem?_eq_none (by simp; omega)] at hd
    cases hd

/-- What follows is answered by the replies that are left. -/
theorem append (h : Answered reply es) {fs : List (Exchange τ)}
    (h' : Answered (fun i => reply (es.length + i)) fs) : Answered reply (es ++ fs) := by
  intro i d hd
  rcases Nat.lt_or_ge i es.length with hlt | hge
  · rw [List.getElem?_append_left hlt] at hd
    exact h i d hd
  · rw [List.getElem?_append_right hge] at hd
    simpa [Nat.add_sub_cancel' hge] using h' (i - es.length) d hd

end Exchange.Answered

namespace Machine

variable {τ σ σ₁ σ₂ : Type}

/-- By these exchanges a machine comes from one state to another. -/
inductive Trace (m : Machine τ σ) : σ → List (Exchange τ) → σ → Prop
  | nil (s : σ) : m.Trace s [] s
  | cons {s t : σ} {request : Request τ} {reply : Reply τ} {es : List (Exchange τ)}
      (asks : m.ask s = some request) (rest : m.Trace (m.resume s reply).1 es t) :
      m.Trace s (⟨request, reply⟩ :: es) t

namespace Trace

variable {m : Machine τ σ} {s t u : σ} {es fs : List (Exchange τ)}

theorem append (h : m.Trace s es t) (h' : m.Trace t fs u) : m.Trace s (es ++ fs) u := by
  induction h with
  | nil s => exact h'
  | cons asks _ ih => exact .cons asks (ih h')

/-- One more exchange. -/
theorem snoc (h : m.Trace s es t) {request : Request τ} (reply : Reply τ)
    (asks : m.ask t = some request) :
    m.Trace s (es ++ [⟨request, reply⟩]) (m.resume t reply).1 :=
  h.append (.cons asks (.nil _))

/-- A trace can be cut anywhere. -/
theorem exists_of_append (h : m.Trace s (es ++ fs) u) : ∃ t, m.Trace s es t ∧ m.Trace t fs u := by
  induction es generalizing s with
  | nil => exact ⟨s, .nil s, h⟩
  | cons e es ih =>
    cases h with
    | cons asks rest =>
      obtain ⟨t, hes, hfs⟩ := ih rest
      exact ⟨t, .cons asks hes, hfs⟩

/-- The first exchange of a trace. -/
theorem of_cons {e : Exchange τ} (h : m.Trace s (e :: es) t) :
    m.ask s = some e.request ∧ m.Trace (m.resume s e.reply).1 es t := by
  cases h with
  | cons asks rest => exact ⟨asks, rest⟩

/-- The last exchange of a trace. -/
theorem exists_of_snoc {e : Exchange τ} (h : m.Trace s (es ++ [e]) u) :
    ∃ t, m.Trace s es t ∧ m.ask t = some e.request ∧ (m.resume t e.reply).1 = u := by
  obtain ⟨t, before, last⟩ := h.exists_of_append
  cases last with
  | cons asks rest =>
    cases rest with
    | nil => exact ⟨t, before, asks, rfl⟩

/-- A machine that has nothing to ask stays where it is. -/
theorem of_quiet (h : m.Trace s es t) (hs : m.ask s = none) : es = [] ∧ t = s := by
  cases h with
  | nil s => exact ⟨rfl, rfl⟩
  | cons asks _ => exact absurd (asks.symm.trans hs) (by simp)

/-- A machine that has something to ask has come to an end only by an exchange. -/
theorem exists_cons (h : m.Trace s es t) {request : Request τ} (hs : m.ask s = some request)
    (ht : m.ask t = none) :
    ∃ e fs, es = e :: fs ∧ e.request = request ∧ m.Trace (m.resume s e.reply).1 fs t := by
  cases h with
  | nil s => exact absurd (hs.symm.trans ht) (by simp)
  | cons asks rest => exact ⟨_, _, rfl, Option.some.inj (asks.symm.trans hs), rest⟩

/-- What is asked of the outside is asked in some state. -/
theorem exists_ask (h : m.Trace s es t) {e : Exchange τ} (he : e ∈ es) :
    ∃ u, m.ask u = some e.request := by
  induction h with
  | nil s => cases he
  | @cons s t request reply es asks rest ih =>
    rcases List.mem_cons.1 he with rfl | he
    · exact ⟨s, asks⟩
    · exact ih he

end Trace

/-! ## Machines inside machines -/

/-- A machine runs another one behind `embed` until that has nothing more to ask, and `leave` is
where it goes then. -/
structure Embeds (m₁ : Machine τ σ₁) (m₂ : Machine τ σ₂) (embed : σ₁ → σ₂)
    (leave : σ₁ → Reply τ → σ₂) : Prop where
  ask : ∀ {s request}, m₁.ask s = some request → m₂.ask (embed s) = some request
  stay : ∀ {s reply}, m₁.ask s ≠ none → m₁.ask (m₁.resume s reply).1 ≠ none →
    (m₂.resume (embed s) reply).1 = embed (m₁.resume s reply).1
  leave : ∀ {s reply}, m₁.ask s ≠ none → m₁.ask (m₁.resume s reply).1 = none →
    (m₂.resume (embed s) reply).1 = leave (m₁.resume s reply).1 reply

/-- **A finished trace of the outer machine is a finished trace of the inner one**, and after the
last reply of that what the outer machine does next. -/
theorem Embeds.split {m₁ : Machine τ σ₁} {m₂ : Machine τ σ₂} {embed : σ₁ → σ₂}
    {leave : σ₁ → Reply τ → σ₂} (h : Embeds m₁ m₂ embed leave) {s : σ₁} {t : σ₂}
    {es : List (Exchange τ)} (hs : m₁.ask s ≠ none) (ht : m₂.ask t = none)
    (trace : m₂.Trace (embed s) es t) :
    ∃ es₁ e es₂ s', es = es₁ ++ e :: es₂ ∧ m₁.Trace s (es₁ ++ [e]) s' ∧ m₁.ask s' = none ∧
      m₂.Trace (leave s' e.reply) es₂ t := by
  -- the induction is on the exchanges, and goes on while the inner machine has something to ask
  induction es generalizing s with
  | nil =>
    obtain ⟨request, hr⟩ := Option.ne_none_iff_exists'.1 hs
    obtain ⟨e, fs, hes, -, -⟩ := trace.exists_cons (h.ask hr) ht
    exact absurd hes (List.cons_ne_nil _ _).symm
  | cons e es ih =>
    obtain ⟨request, hr⟩ := Option.ne_none_iff_exists'.1 hs
    obtain ⟨e', fs, hes, hreq, rest⟩ := trace.exists_cons (h.ask hr) ht
    obtain ⟨rfl, rfl⟩ := List.cons.inj hes
    obtain ⟨req, reply⟩ := e
    obtain rfl : req = request := hreq
    have first : m₁.Trace s [⟨req, reply⟩] (m₁.resume s reply).1 := .cons hr (.nil _)
    by_cases hn : m₁.ask (m₁.resume s reply).1 = none
    · rw [h.leave hs hn] at rest
      exact ⟨[], _, es, _, rfl, first, hn, rest⟩
    · rw [h.stay hs hn] at rest
      obtain ⟨es₁, f, es₂, s', rfl, inner, hq, outer⟩ := ih hn rest
      exact ⟨⟨req, reply⟩ :: es₁, f, es₂, s', rfl, .cons hr inner, hq, outer⟩

/-- The other way round: **where a finished trace of the inner machine leads the outer one.** -/
theorem Embeds.join {m₁ : Machine τ σ₁} {m₂ : Machine τ σ₂} {embed : σ₁ → σ₂}
    {leave : σ₁ → Reply τ → σ₂} (h : Embeds m₁ m₂ embed leave) {s t : σ₁} {es : List (Exchange τ)}
    (hs : m₁.ask s ≠ none) (trace : m₁.Trace s es t) (ht : m₁.ask t = none) :
    ∃ es₁ e, es = es₁ ++ [e] ∧ m₂.Trace (embed s) es (leave t e.reply) := by
  induction trace with
  | nil s => exact absurd ht hs
  | @cons s t request reply es asks rest ih =>
    by_cases hn : m₁.ask (m₁.resume s reply).1 = none
    · obtain ⟨rfl, rfl⟩ := rest.of_quiet hn
      refine ⟨[], ⟨request, reply⟩, rfl, .cons (h.ask asks) ?_⟩
      rw [h.leave hs hn]
      exact .nil _
    · obtain ⟨es₁, e, rfl, outer⟩ := ih hn ht
      refine ⟨⟨request, reply⟩ :: es₁, e, rfl, .cons (h.ask asks) ?_⟩
      rw [h.stay hs hn]
      exact outer

end Machine
end EphemeralDatabase
