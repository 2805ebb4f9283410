import EphemeralDatabase.Cluster.Adapter
import EphemeralDatabase.Cluster.World
import EphemeralDatabase.Proofs.Provision.Calls
import Mathlib.Logic.Function.Basic

/-!
# The conduct of an API server

The traces of a machine leave open where the replies come from.  Here they come from a server: it is
in some state, and its *conduct* says in which exchanges it can take part and in which state each of
them leaves it.  An exchange together with the states around it is a *transaction*.

Two sorts of server are of interest.  Both hold objects by address, and remember of each object the
document that it was created from:

* one that `Serves` says 404 to a read exactly when there is no object, refuses with 409 to create
  what is there, and deletes at once;
* one that `Falters` does the same, but reads may fail, and so may attempts to create, without
  effect or after they have taken effect.

What is true of a server once and for good is carried along transactions by `Transactions.lasting`,
and what can only happen before that happens once at most (`Transactions.once`).
-/

namespace EphemeralDatabase

variable {σ τ : Type}

/-! ## Transactions -/

/-- An exchange, with the state of the server before it and after it. -/
structure Transaction (σ τ : Type) where
  before : σ
  exchange : Exchange τ
  after : σ

/-- Exchanges with a server, one after another. -/
inductive Transactions (conduct : σ → Exchange τ → σ → Prop) :
    σ → List (Transaction σ τ) → σ → Prop
  | nil (w : σ) : Transactions conduct w [] w
  | cons {w w₁ w₂ : σ} {e : Exchange τ} {ts : List (Transaction σ τ)} (first : conduct w e w₁)
      (rest : Transactions conduct w₁ ts w₂) : Transactions conduct w (⟨w, e, w₁⟩ :: ts) w₂

namespace Transactions

variable {conduct : σ → Exchange τ → σ → Prop} {w w₁ w₂ : σ} {ts us : List (Transaction σ τ)}

theorem append (h : Transactions conduct w ts w₁) (h' : Transactions conduct w₁ us w₂) :
    Transactions conduct w (ts ++ us) w₂ := by
  induction h with
  | nil w => exact h'
  | cons first _ ih => exact .cons first (ih h')

theorem mono {conduct' : σ → Exchange τ → σ → Prop} (h : Transactions conduct w ts w₁)
    (weaker : ∀ {w e w'}, conduct w e w' → conduct' w e w') : Transactions conduct' w ts w₁ := by
  induction h with
  | nil w => exact .nil w
  | cons first _ ih => exact .cons (weaker first) ih

/-- Transactions can be cut anywhere. -/
theorem exists_of_append (h : Transactions conduct w (ts ++ us) w₂) :
    ∃ w₁, Transactions conduct w ts w₁ ∧ Transactions conduct w₁ us w₂ := by
  induction ts generalizing w with
  | nil => exact ⟨w, .nil w, h⟩
  | cons t ts ih =>
    cases h with
    | cons first rest =>
      obtain ⟨w₁, hts, hus⟩ := ih rest
      exact ⟨w₁, .cons first hts, hus⟩

/-- Around a transaction the server is in the states that it names. -/
theorem around {t : Transaction σ τ} (h : Transactions conduct w (ts ++ t :: us) w₂) :
    Transactions conduct w ts t.before ∧ conduct t.before t.exchange t.after ∧
      Transactions conduct t.after us w₂ := by
  obtain ⟨w₁, hts, hrest⟩ := h.exists_of_append
  cases hrest with
  | cons first rest => exact ⟨hts, first, rest⟩

theorem conducts (h : Transactions conduct w ts w₁) {t : Transaction σ τ} (ht : t ∈ ts) :
    conduct t.before t.exchange t.after := by
  obtain ⟨before, after, rfl⟩ := List.append_of_mem ht
  exact h.around.2.1

/-- **What every transaction keeps is true throughout.** -/
theorem lasting {P : σ → Prop} (h : Transactions conduct w ts w₁)
    (step : ∀ t ∈ ts, P t.before → P t.after) (hw : P w) :
    (∀ t ∈ ts, P t.before) ∧ P w₁ := by
  induction h with
  | nil w => exact ⟨by simp, hw⟩
  | cons first rest ih =>
    rw [List.forall_mem_cons] at step
    obtain ⟨hbefore, hend⟩ := ih step.2 (step.1 hw)
    exact ⟨List.forall_mem_cons.2 ⟨hw, hbefore⟩, hend⟩

/-- **What makes something true for good happens at most once.** -/
theorem once {P : σ → Prop} {Q : Transaction σ τ → Prop} (h : Transactions conduct w ts w₁)
    (step : ∀ t ∈ ts, P t.before → P t.after)
    (turn : ∀ t ∈ ts, Q t → ¬ P t.before ∧ P t.after) : ts.Pairwise fun t u => Q t → ¬ Q u := by
  induction h with
  | nil w => exact .nil
  | cons first rest ih =>
    rw [List.forall_mem_cons] at step turn
    refine .cons (fun u hu ht hq => ?_) (ih step.2 turn.2)
    have already := (rest.lasting step.2 (turn.1 ht).2).1 u hu
    exact (turn.2 u hu hq).1 already

end Transactions

/-- A server takes part in exchanges, one after another, in whatever states. -/
def Carries (conduct : σ → Exchange τ → σ → Prop) (w : σ) (es : List (Exchange τ)) (w' : σ) :
    Prop :=
  ∃ ts, ts.map Transaction.exchange = es ∧ Transactions conduct w ts w'

section Carries

variable {conduct : σ → Exchange τ → σ → Prop} {w w' : σ} {e : Exchange τ}
  {es fs : List (Exchange τ)}

@[simp] theorem carries_nil : Carries conduct w [] w' ↔ w' = w := by
  constructor
  · rintro ⟨ts, hts, h⟩
    obtain rfl := List.map_eq_nil_iff.1 hts
    cases h
    rfl
  · rintro rfl
    exact ⟨[], rfl, .nil _⟩

theorem carries_cons :
    Carries conduct w (e :: es) w' ↔ ∃ w₁, conduct w e w₁ ∧ Carries conduct w₁ es w' := by
  constructor
  · rintro ⟨ts, hts, h⟩
    obtain ⟨t, us, rfl, rfl, hus⟩ := List.map_eq_cons_iff.1 hts
    cases h with
    | cons first rest => exact ⟨_, first, us, hus, rest⟩
  · rintro ⟨w₁, first, us, rfl, rest⟩
    exact ⟨_, rfl, .cons first rest⟩

theorem carries_append :
    Carries conduct w (es ++ fs) w' ↔
      ∃ w₁, Carries conduct w es w₁ ∧ Carries conduct w₁ fs w' := by
  induction es generalizing w with
  | nil => simp
  | cons e es ih =>
    rw [List.cons_append, carries_cons]
    constructor
    · rintro ⟨w₁, first, rest⟩
      obtain ⟨w₂, hes, hfs⟩ := ih.1 rest
      exact ⟨w₂, carries_cons.2 ⟨w₁, first, hes⟩, hfs⟩
    · rintro ⟨w₂, hes, hfs⟩
      obtain ⟨w₁, first, rest⟩ := carries_cons.1 hes
      exact ⟨w₁, first, ih.2 ⟨w₂, rest, hfs⟩⟩

theorem carries_singleton : Carries conduct w [e] w' ↔ conduct w e w' := by
  simp [carries_cons]

end Carries

/-! ## Objects -/

/-- What a server holds: for each address the document that the object was created from. -/
abbrev Objects : Type := Address → Option Manifest

namespace Objects

/-- No objects. -/
def bare : Objects := fun _ => none

/-- Puts an object at an address. -/
def put (o : Objects) (a : Address) (body : Manifest) : Objects := Function.update o a (some body)

/-- Removes the object at an address. -/
def drop (o : Objects) (a : Address) : Objects := Function.update o a none

variable {o : Objects} {a b : Address} {body : Manifest}

@[simp] theorem put_self : o.put a body a = some body := Function.update_self ..

@[simp] theorem put_of_ne (h : b ≠ a) : o.put a body b = o b := Function.update_of_ne h ..

@[simp] theorem drop_self : o.drop a a = none := Function.update_self ..

@[simp] theorem drop_of_ne (h : b ≠ a) : o.drop a b = o b := Function.update_of_ne h ..

/-- To create what is not there and delete it again changes nothing. -/
theorem drop_put (h : o a = none) : (o.put a body).drop a = o := by
  rw [drop, put, Function.update_idem, ← h, Function.update_eq_self]

end Objects

/-! ## Servers -/

/-- How a server without faults replies.  Views and reasons are of no account. -/
inductive Serves : Objects → Exchange τ → Objects → Prop
  | found {o : Objects} {a : Address} {view : View} {time : τ} (there : o a ≠ none) :
      Serves o ⟨.read a, ⟨.ok view, time⟩⟩ o
  | missing {o : Objects} {a : Address} {reason : Option String} {time : τ}
      (absent : o a = none) : Serves o ⟨.read a, ⟨.error (.api (some 404) reason), time⟩⟩ o
  | made {o : Objects} {a : Address} {body : Manifest} {view : View} {time : τ}
      (absent : o a = none) : Serves o ⟨.create a body, ⟨.ok view, time⟩⟩ (o.put a body)
  | conflict {o : Objects} {a : Address} {body : Manifest} {reason : Option String} {time : τ}
      (there : o a ≠ none) :
      Serves o ⟨.create a body, ⟨.error (.api (some 409) reason), time⟩⟩ o
  | deleted {o : Objects} {a : Address} {view : View} {time : τ} (there : o a ≠ none) :
      Serves o ⟨.delete a, ⟨.ok view, time⟩⟩ (o.drop a)
  | gone {o : Objects} {a : Address} {reason : Option String} {time : τ} (absent : o a = none) :
      Serves o ⟨.delete a, ⟨.error (.api (some 404) reason), time⟩⟩ o
  | slept {o : Objects} {seconds : τ} {view : View} {time : τ} :
      Serves o ⟨.sleep seconds, ⟨.ok view, time⟩⟩ o

/-- How a server replies that may fail to read and to create.  A failure to read is not an answer
that the object is not there. -/
inductive Falters : Objects → Exchange τ → Objects → Prop
  | serves {o o' : Objects} {e : Exchange τ} (serves : Serves o e o') : Falters o e o'
  | unread {o : Objects} {a : Address} {fault : Fault} {time : τ}
      (failed : fault.isAbsence = false) : Falters o ⟨.read a, ⟨.error fault, time⟩⟩ o
  /-- refused, whether the object is there or not -/
  | refused {o : Objects} {a : Address} {body : Manifest} {fault : Fault} {time : τ} :
      Falters o ⟨.create a body, ⟨.error fault, time⟩⟩ o
  /-- created, though the call failed -/
  | unheard {o : Objects} {a : Address} {body : Manifest} {fault : Fault} {time : τ}
      (absent : o a = none) : Falters o ⟨.create a body, ⟨.error fault, time⟩⟩ (o.put a body)
  /-- a pause is cut short -/
  | restless {o : Objects} {seconds : τ} {fault : Fault} {time : τ} :
      Falters o ⟨.sleep seconds, ⟨.error fault, time⟩⟩ o

/-- An attempt to create an object takes effect. -/
def Transaction.Makes (t : Transaction Objects τ) (a : Address) : Prop :=
  (∃ body, t.exchange.request = .create a body) ∧ t.after a ≠ t.before a

section

variable {o o' : Objects} {e : Exchange τ} {a : Address} {body : Manifest}

namespace Serves

/-- A read tells whether the object is there, and changes nothing. -/
theorem of_read (h : Serves o e o') (hr : e.request = .read a) :
    o' = o ∧ ((o a ≠ none ∧ ∃ view, e.reply.answer = .ok view) ∨
      (o a = none ∧ ∃ reason, e.reply.answer = .error (.api (some 404) reason))) := by
  cases h with
  | found there =>
    cases hr
    exact ⟨rfl, Or.inl ⟨there, _, rfl⟩⟩
  | missing absent =>
    cases hr
    exact ⟨rfl, Or.inr ⟨absent, _, rfl⟩⟩
  | made | conflict | deleted | gone | slept => cases hr

/-- What is there is not created once more. -/
theorem of_create (h : Serves o e o') (hr : e.request = .create a body) :
    (o a = none ∧ o' = o.put a body ∧ ∃ view, e.reply.answer = .ok view) ∨
      (o a ≠ none ∧ o' = o ∧ ∃ reason, e.reply.answer = .error (.api (some 409) reason)) := by
  cases h with
  | made absent =>
    cases hr
    exact Or.inl ⟨absent, rfl, _, rfl⟩
  | conflict there =>
    cases hr
    exact Or.inr ⟨there, rfl, _, rfl⟩
  | found | missing | deleted | gone | slept => cases hr

theorem of_delete (h : Serves o e o') (hr : e.request = .delete a) :
    (o a ≠ none ∧ o' = o.drop a ∧ ∃ view, e.reply.answer = .ok view) ∨
      (o a = none ∧ o' = o ∧ ∃ reason, e.reply.answer = .error (.api (some 404) reason)) := by
  cases h with
  | deleted there =>
    cases hr
    exact Or.inl ⟨there, rfl, _, rfl⟩
  | gone absent =>
    cases hr
    exact Or.inr ⟨absent, rfl, _, rfl⟩
  | found | missing | made | conflict | slept => cases hr

theorem of_sleep (h : Serves o e o') {seconds : τ} (hr : e.request = .sleep seconds) :
    o' = o ∧ ∃ view, e.reply.answer = .ok view := by
  cases h with
  | slept => exact ⟨rfl, _, rfl⟩
  | found | missing | made | conflict | deleted | gone => cases hr

/-- What is put where nothing was is made. -/
theorem exists_create (h : Serves o e o') (absent : o a = none) (there : o' a ≠ none) :
    ∃ body, e.request = .create a body := by
  cases h with
  | found | missing | conflict | gone | slept => exact absurd absent there
  | @made b body =>
    by_cases hab : a = b
    · exact ⟨body, by rw [hab]⟩
    · rw [Objects.put_of_ne hab] at there
      exact absurd absent there
  | @deleted b =>
    by_cases hab : a = b
    · rw [hab, Objects.drop_self] at there
      exact absurd rfl there
    · rw [Objects.drop_of_ne hab] at there
      exact absurd absent there

/-- An attempt to create that takes effect puts the object where none was. -/
theorem of_makes {t : Transaction Objects τ} (h : Serves t.before t.exchange t.after)
    (makes : t.Makes a) : t.before a = none ∧
      ∃ body, t.exchange.request = .create a body ∧ t.after a = some body := by
  obtain ⟨⟨body, hr⟩, hchange⟩ := makes
  rcases h.of_create hr with ⟨absent, hput, -⟩ | ⟨-, hsame, -⟩
  · exact ⟨absent, body, hr, by rw [hput, Objects.put_self]⟩
  · exact absurd (congrFun hsame a) hchange

end Serves

namespace Falters

/-- An answer that an object is not there is true, even of a server with faults. -/
theorem of_missing (h : Falters o e o') (hr : e.request = .read a) {reason : Option String}
    (ha : e.reply.answer = .error (.api (some 404) reason)) : o' = o ∧ o a = none := by
  cases h with
  | serves serves =>
    obtain ⟨hsame, ⟨-, view, hview⟩ | ⟨absent, -⟩⟩ := serves.of_read hr
    · rw [hview] at ha
      cases ha
    · exact ⟨hsame, absent⟩
  | unread failed =>
    cases ha
    cases failed
  | refused | unheard | restless => cases hr

/-- An attempt to create makes the object where there is none, or changes nothing. -/
theorem of_create (h : Falters o e o') (hr : e.request = .create a body) :
    o' = o ∨ (o a = none ∧ o' = o.put a body) := by
  cases h with
  | serves serves =>
    rcases serves.of_create hr with ⟨absent, hput, -⟩ | ⟨-, hsame, -⟩
    · exact Or.inr ⟨absent, hput⟩
    · exact Or.inl hsame
  | refused => exact Or.inl rfl
  | unheard absent =>
    cases hr
    exact Or.inr ⟨absent, rfl⟩
  | unread | restless => cases hr

/-- Reads and pauses change nothing. -/
theorem of_quiet (h : Falters o e o') (hcreate : ∀ b body, e.request ≠ .create b body)
    (hdelete : ∀ b, e.request ≠ .delete b) : o' = o := by
  cases h with
  | serves serves =>
    cases serves with
    | found | missing | slept | conflict | gone => rfl
    | made => exact absurd rfl (hcreate _ _)
    | deleted => exact absurd rfl (hdelete _)
  | unread | refused | restless => rfl
  | unheard => exact absurd rfl (hcreate _ _)

/-- **What is there stays as it is**, unless it is deleted. -/
theorem kept (h : Falters o e o') (there : o a ≠ none) (hdelete : ∀ b, e.request ≠ .delete b) :
    o' a = o a := by
  by_cases hcreate : ∃ b body, e.request = .create b body
  · obtain ⟨b, body, hr⟩ := hcreate
    rcases h.of_create hr with rfl | ⟨absent, rfl⟩
    · rfl
    · refine Objects.put_of_ne ?_
      rintro rfl
      exact there absent
  · have hquiet : ∀ b body, e.request ≠ .create b body := fun b body hr => hcreate ⟨b, body, hr⟩
    rw [h.of_quiet hquiet hdelete]

end Falters

/-- **Where nothing is deleted, an object is made at most once.** -/
theorem Transactions.made_once {ts : List (Transaction Objects τ)}
    (h : Transactions Falters o ts o')
    (undeleted : ∀ t ∈ ts, ∀ b, t.exchange.request ≠ .delete b) :
    ts.Pairwise fun t u => t.Makes a → ¬ u.Makes a := by
  refine h.once (P := fun p => p a ≠ none) (fun t ht there => ?_) ?_
  · rw [(h.conducts ht).kept there (undeleted t ht)]
    exact there
  · rintro t ht ⟨⟨body, hr⟩, hchange⟩
    rcases (h.conducts ht).of_create hr with hsame | ⟨absent, hput⟩
    · exact absurd (congrFun hsame a) hchange
    · refine ⟨not_not.2 absent, ?_⟩
      simp [hput]

/-- What is not there, and nobody makes, is not there in the end. -/
theorem Transactions.absent {ts : List (Transaction Objects τ)} (h : Transactions Serves o ts o')
    (unmade : ∀ t ∈ ts, ¬ t.Makes a) (absent : o a = none) :
    (∀ t ∈ ts, t.before a = none) ∧ o' a = none := by
  refine h.lasting (P := fun p => p a = none) (fun t ht hnone => ?_) absent
  by_contra there
  obtain ⟨body, hr⟩ := (h.conducts ht).exists_create hnone there
  exact unmade t ht ⟨⟨body, hr⟩, by rwa [hnone]⟩

/-- What is there in the beginning is there throughout, as it was. -/
theorem Transactions.kept {ts : List (Transaction Objects τ)} (h : Transactions Falters o ts o')
    (undeleted : ∀ t ∈ ts, ∀ b, t.exchange.request ≠ .delete b) (there : o a ≠ none) :
    (∀ t ∈ ts, t.before a = o a ∧ t.after a = o a) ∧ o' a = o a := by
  have step : ∀ t ∈ ts, t.before a = o a → t.after a = o a := by
    intro t ht hsame
    rw [← hsame] at there ⊢
    exact (h.conducts ht).kept there (undeleted t ht)
  obtain ⟨hbefore, hend⟩ := h.lasting (P := fun p => p a = o a) step rfl
  exact ⟨fun t ht => ⟨hbefore t ht, step t ht (hbefore t ht)⟩, hend⟩

end

end EphemeralDatabase
