import EphemeralDatabase.Proofs.Server.Conduct

/-!
# Clients that race

Several clients ensure that an object exists, all at the same time and against one server.  To
ensure is to read first and to create then, and nothing keeps another client from creating the
object in between.  Each call is answered at once, but the calls of different clients come in any
order.

What became of one client is told by its `Account`: which of the turns were its own, and what it
found in them.  A turn of another client changes nothing in the account, and a turn of its own leads
from one account to the next, so every client has an account at every moment (`Run.account`).
Whoever found the object is done after one read.  Whoever did not find it went on to create it, and
then either made it or met one that had been made since its read.

`Race.Run.settles` puts this together with what holds of the server alone.
-/

namespace EphemeralDatabase

variable {ι τ : Type}

/-- One of several clients that ensure that an object exists. -/
structure Rival where
  nodeHost : String
  descriptor : Descriptor

/-- What the server holds, and where each client stands. -/
structure Race (ι : Type) where
  objects : Objects
  stage : ι → Ensure.Stage

/-- A transaction of one of the clients. -/
structure Turn (ι τ : Type) where
  rival : ι
  transaction : Transaction Objects τ

/-- The turns of one client. -/
def Turn.own [DecidableEq ι] (i : ι) (ts : List (Turn ι τ)) : List (Turn ι τ) :=
  ts.filter fun t => t.rival = i

theorem Turn.mem_own [DecidableEq ι] {i : ι} {t : Turn ι τ} {ts : List (Turn ι τ)} :
    t ∈ own i ts ↔ t ∈ ts ∧ t.rival = i := by
  simp [own]

namespace Race

/-- Before anybody has begun. -/
def start (o : Objects) : Race ι := ⟨o, fun _ => .reading⟩

section Steps

variable [DecidableEq ι] {rivals : ι → Rival} {s s' s₁ s₂ : Race ι} {t : Turn ι τ}
  {ts us : List (Turn ι τ)} {i : ι} {a : Address}

/-- One of the clients makes its next call, and the server answers it. -/
inductive Step (rivals : ι → Rival) : Race ι → Turn ι τ → Race ι → Prop
  | turn {s : Race ι} {i : ι} {request : Request τ} {reply : Reply τ} {o : Objects}
      (asks : Ensure.ask (rivals i).descriptor (s.stage i) = some request)
      (serves : Serves s.objects ⟨request, reply⟩ o) :
      Step rivals s ⟨i, s.objects, ⟨request, reply⟩, o⟩ ⟨o, Function.update s.stage i
        (Ensure.resume (rivals i).nodeHost (rivals i).descriptor (s.stage i) reply).1⟩

/-- Turns of the clients, in whatever order. -/
inductive Run (rivals : ι → Rival) (s : Race ι) : List (Turn ι τ) → Race ι → Prop
  | nil : Run rivals s [] s
  | snoc {ts : List (Turn ι τ)} {t : Turn ι τ} {s₁ s₂ : Race ι} (run : Run rivals s ts s₁)
      (step : Step rivals s₁ t s₂) : Run rivals s (ts ++ [t]) s₂

/-! ## What the server sees -/

theorem Step.serves (h : Step rivals s t s') :
    t.transaction.before = s.objects ∧ t.transaction.after = s'.objects ∧
      Serves t.transaction.before t.transaction.exchange t.transaction.after := by
  cases h with
  | turn asks serves => exact ⟨rfl, rfl, serves⟩

theorem Run.transactions (h : Run rivals s ts s') :
    Transactions Serves s.objects (ts.map Turn.transaction) s'.objects := by
  induction h with
  | nil => exact .nil _
  | @snoc ts t s₁ s₂ run step ih =>
    obtain ⟨hbefore, hafter, serves⟩ := step.serves
    rw [List.map_append]
    refine ih.append ?_
    rw [← hbefore, ← hafter]
    exact .cons serves (.nil _)

/-- The client whose turn it is goes on with the reply, and the others stand where they stood. -/
theorem Step.stages (h : Step rivals s t s') :
    Ensure.ask (rivals t.rival).descriptor (s.stage t.rival) =
        some t.transaction.exchange.request ∧
      s'.stage t.rival = (Ensure.resume (rivals t.rival).nodeHost (rivals t.rival).descriptor
        (s.stage t.rival) t.transaction.exchange.reply).1 ∧
      ∀ j, j ≠ t.rival → s'.stage j = s.stage j := by
  cases h with
  | turn asks serves =>
    exact ⟨asks, Function.update_self .., fun j hj => Function.update_of_ne hj ..⟩

/-- What the clients ask for is the one object, each as it wants it to be. -/
theorem Step.requests (h : Step rivals s t s') :
    t.transaction.exchange.request = .read (rivals t.rival).descriptor.address ∨
      t.transaction.exchange.request = .create (rivals t.rival).descriptor.address
        (rivals t.rival).descriptor.manifest := by
  have asks := h.stages.1
  generalize s.stage t.rival = stage at asks
  cases stage with
  | reading => exact Or.inl (Option.some.inj asks).symm
  | creating => exact Or.inr (Option.some.inj asks).symm
  | done r => cases asks

theorem Run.requests (h : Run rivals s ts s') {u : Turn ι τ} (hu : u ∈ ts) :
    u.transaction.exchange.request = .read (rivals u.rival).descriptor.address ∨
      u.transaction.exchange.request = .create (rivals u.rival).descriptor.address
        (rivals u.rival).descriptor.manifest := by
  induction h with
  | nil => cases hu
  | snoc run step ih =>
    rcases List.mem_append.1 hu with hu | hu
    · exact ih hu
    · rw [List.mem_singleton.1 hu]
      exact step.requests

/-! ## What becomes of a client -/

/-- The turns that a client has had, what it found in them, and where it stands now.  It wants the
object at an address to be as described. -/
inductive Account (d : Descriptor) (a : Address) : List (Turn ι τ) → Ensure.Stage → Prop
  /-- it has not begun -/
  | waiting : Account d a [] .reading
  /-- it has not found the object -/
  | missed {r : Turn ι τ} (read : r.transaction.exchange.request = .read a)
      (absent : r.transaction.before a = none) : Account d a [r] .creating
  /-- it has found it -/
  | found {r : Turn ι τ} {state : ResourceState}
      (read : r.transaction.exchange.request = .read a)
      (there : r.transaction.before a ≠ none) : Account d a [r] (.done (.ok (.existed state)))
  /-- it has not found it, and has made it -/
  | made {r c : Turn ι τ} {state : ResourceState}
      (read : r.transaction.exchange.request = .read a)
      (missing : r.transaction.before a = none) (makes : c.transaction.Makes a) :
      Account d a [r, c] (.done (.ok (.created state)))
  /-- it has not found it, but another client has made it since -/
  | beaten {r c : Turn ι τ} {body : Manifest} {cause : Failure}
      (read : r.transaction.exchange.request = .read a)
      (missing : r.transaction.before a = none)
      (create : c.transaction.exchange.request = .create a body)
      (there : c.transaction.before a ≠ none) (operation : cause.operation = .create)
      (status : cause.status = some 409) : Account d a [r, c] (.done (.ok (.failed d cause)))

/-- **A turn of the client itself continues its account.** -/
theorem Account.step (h : Account (rivals t.rival).descriptor a us (s.stage t.rival))
    (same : (rivals t.rival).descriptor.address = a) (step : Step rivals s t s') :
    Account (rivals t.rival).descriptor a (us ++ [t]) (s'.stage t.rival) := by
  obtain ⟨asks, hnext, -⟩ := step.stages
  obtain ⟨-, -, serves⟩ := step.serves
  rw [hnext]
  generalize s.stage t.rival = stage at h asks
  cases h with
  | waiting =>
    have hr : t.transaction.exchange.request = .read a := by
      rw [← same]
      exact (Option.some.inj asks).symm
    rcases (serves.of_read hr).2 with ⟨there, view, hview⟩ | ⟨absent, reason, hmissing⟩
    · simp only [Ensure.resume, readOutcome, hview, Ensure.afterRead]
      exact .found hr there
    · simp only [Ensure.resume, readOutcome, hmissing, Fault.isAbsence, beq_self_eq_true, if_true,
        Ensure.afterRead]
      exact .missed hr absent
  | missed read missing =>
    have hr : t.transaction.exchange.request =
        .create a (rivals t.rival).descriptor.manifest := by
      rw [← same]
      exact (Option.some.inj asks).symm
    rcases serves.of_create hr with ⟨absent, hput, view, hview⟩ | ⟨there, -, reason, hrefused⟩
    · have makes : t.transaction.Makes a := by
        refine ⟨⟨_, hr⟩, ?_⟩
        rw [hput, Objects.put_self, absent]
        simp
      simp only [Ensure.resume, createOutcome, hview, Ensure.afterCreate]
      exact .made read missing makes
    · simp only [Ensure.resume, createOutcome, hrefused, Fault.failure?, Ensure.afterCreate]
      exact .beaten read missing hr there rfl rfl
  | found | made | beaten => cases asks

/-- **Every client that begins has an account**, whatever the others do. -/
theorem Run.account (h : Run rivals s ts s') (same : (rivals i).descriptor.address = a)
    (begins : s.stage i = .reading) :
    Account (rivals i).descriptor a (Turn.own i ts) (s'.stage i) := by
  induction h with
  | nil =>
    rw [begins]
    exact .waiting
  | @snoc ts t s₁ s₂ run step ih =>
    by_cases hi : t.rival = i
    · subst hi
      have hown : Turn.own t.rival (ts ++ [t]) = Turn.own t.rival ts ++ [t] := by
        simp [Turn.own]
      rw [hown]
      exact ih.step same step
    · have hown : Turn.own i (ts ++ [t]) = Turn.own i ts := by simp [Turn.own, hi]
      rw [hown, step.stages.2.2 i (Ne.symm hi)]
      exact ih

end Steps

/-! ## How a race goes -/

variable [DecidableEq ι] {rivals : ι → Rival} {o : Objects} {s : Race ι} {ts : List (Turn ι τ)}
  {a : Address}

namespace Run

theorem undeleted {s₁ : Race ι} (h : Run rivals s₁ ts s) :
    ∀ t ∈ ts.map Turn.transaction, ∀ b, t.exchange.request ≠ .delete b := by
  intro t ht b hr
  obtain ⟨u, hu, rfl⟩ := List.mem_map.1 ht
  rcases h.requests hu with hread | hcreate
  · rw [hread] at hr
    cases hr
  · rw [hcreate] at hr
    cases hr

/-- What is there when a run begins is there throughout, as it was. -/
theorem kept {s₁ : Race ι} (h : Run rivals s₁ ts s) (there : s₁.objects a ≠ none) :
    (∀ t ∈ ts, t.transaction.before a = s₁.objects a ∧
      t.transaction.after a = s₁.objects a) ∧ s.objects a = s₁.objects a := by
  obtain ⟨hsame, hend⟩ := (h.transactions.mono Falters.serves).kept h.undeleted there
  exact ⟨fun t ht => hsame _ (List.mem_map_of_mem ht), hend⟩

/-- At most one client makes the object. -/
theorem once {s₁ : Race ι} (h : Run rivals s₁ ts s) :
    ts.Pairwise fun t u => t.transaction.Makes a → ¬ u.transaction.Makes a :=
  List.pairwise_map.1 ((h.transactions.mono Falters.serves).made_once h.undeleted)

/-- Who makes the object makes it as it wants it to be. -/
theorem of_makes {s₁ : Race ι} (h : Run rivals s₁ ts s) {t : Turn ι τ} (ht : t ∈ ts)
    (makes : t.transaction.Makes a) : t.transaction.before a = none ∧
      t.transaction.after a = some (rivals t.rival).descriptor.manifest := by
  have serves := h.transactions.conducts (List.mem_map_of_mem (f := Turn.transaction) ht)
  obtain ⟨absent, body, hr, hbody⟩ := serves.of_makes makes
  rcases h.requests ht with hread | hcreate
  · rw [hread] at hr
    cases hr
  · rw [hcreate] at hr
    cases hr
    exact ⟨absent, hbody⟩

/-- What is there at a turn and was not in the beginning was made before. -/
theorem exists_makes {s₁ : Race ι} {before after : List (Turn ι τ)} {t : Turn ι τ}
    (h : Run rivals s₁ ts s) (hts : ts = before ++ t :: after) (absent : s₁.objects a = none)
    (there : t.transaction.before a ≠ none) : ∃ u ∈ before, u.transaction.Makes a := by
  have transactions := h.transactions
  rw [hts, List.map_append, List.map_cons] at transactions
  by_contra hno
  refine there (transactions.around.1.absent (fun u hu makes => hno ?_) absent).2
  obtain ⟨v, hv, rfl⟩ := List.mem_map.1 hu
  exact ⟨v, hv, makes⟩

end Run

/-! ## What becomes of all of them -/

namespace Run

variable {i : ι}

/-- What one client has made, no other one makes. -/
theorem exactly_one (h : Run rivals (start o) ts s) {t : Turn ι τ} (ht : t ∈ ts)
    (makes : t.transaction.Makes a) : ∃ before t after, ts = before ++ t :: after ∧
      t.transaction.Makes a ∧ ∀ u ∈ before ++ after, ¬ u.transaction.Makes a := by
  obtain ⟨before, after, rfl⟩ := List.append_of_mem ht
  obtain ⟨-, hafter, hbefore⟩ := List.pairwise_append.1 (h.once (a := a))
  refine ⟨before, t, after, rfl, makes, fun u hu => ?_⟩
  rcases List.mem_append.1 hu with hu | hu
  · exact fun hu' => hbefore u hu t (by simp) hu' makes
  · exact (List.pairwise_cons.1 hafter).1 u hu makes

/-- When a client is done, the object has been made. -/
theorem exists_makes_of_done (h : Run rivals (start o) ts s)
    (same : (rivals i).descriptor.address = a) (absent : o a = none) {r : Except Fault Ensured}
    (done : s.stage i = .done r) : ∃ t ∈ ts, t.transaction.Makes a := by
  have seen : ∀ u ∈ Turn.own i ts, u.transaction.before a ≠ none →
      ∃ t ∈ ts, t.transaction.Makes a := by
    intro u hu there
    obtain ⟨before, after, hts⟩ := List.append_of_mem (Turn.mem_own.1 hu).1
    obtain ⟨t, ht, makes⟩ := h.exists_makes hts absent there
    exact ⟨t, by rw [hts]; exact List.mem_append_left _ ht, makes⟩
  have account := h.account same rfl
  rw [done] at account
  generalize hown : Turn.own i ts = own at account
  cases account with
  | found read there => exact seen _ (by simp [hown]) there
  | beaten read missing create there => exact seen _ (by simp [hown]) there
  | @made r c state read missing makes =>
    have hc : c ∈ Turn.own i ts := by simp [hown]
    exact ⟨c, (Turn.mem_own.1 hc).1, makes⟩

/-- **Only the client that made the object returns that it was created.** -/
theorem created_iff (h : Run rivals (start o) ts s) (same : (rivals i).descriptor.address = a) :
    (∃ state, s.stage i = .done (.ok (.created state))) ↔
      ∃ t ∈ ts, t.rival = i ∧ t.transaction.Makes a := by
  have account := h.account same rfl
  have unread : ∀ t : Turn ι τ, t.transaction.exchange.request = .read a →
      ¬ t.transaction.Makes a := by
    rintro t hread ⟨⟨body, hcreate⟩, -⟩
    rw [hread] at hcreate
    cases hcreate
  constructor
  · rintro ⟨state, hstage⟩
    rw [hstage] at account
    generalize hown : Turn.own i ts = own at account
    cases account with
    | @made r c _ read missing makes =>
      obtain ⟨hc, hi⟩ := Turn.mem_own.1 (by simp [hown] : c ∈ Turn.own i ts)
      exact ⟨c, hc, hi, makes⟩
  · rintro ⟨t, ht, hi, makes⟩
    have habsent := (h.of_makes ht makes).1
    have hown : t ∈ Turn.own i ts := Turn.mem_own.2 ⟨ht, hi⟩
    generalize Turn.own i ts = own at account hown
    generalize s.stage i = stage at account
    cases account with
    | waiting => cases hown
    | missed read | found read =>
      rw [List.mem_singleton.1 hown] at makes
      exact absurd makes (unread _ read)
    | made => exact ⟨_, rfl⟩
    | beaten read missing create there =>
      rcases List.mem_cons.1 hown with rfl | hown
      · exact absurd makes (unread _ read)
      · rw [List.mem_singleton.1 hown] at habsent
        exact absurd habsent there

/-- **Who was refused lost to another client**, which made the object between the client's own read
and its own attempt to create it. -/
theorem exists_between (h : Run rivals (start o) ts s) {r c : Turn ι τ}
    (hown : Turn.own i ts = [r, c]) (read : r.transaction.exchange.request = .read a)
    (missing : r.transaction.before a = none) (there : c.transaction.before a ≠ none) :
    ∃ before between after, ts = before ++ r :: (between ++ c :: after) ∧
      ∃ t ∈ between, t.rival ≠ i ∧ t.transaction.Makes a := by
  obtain ⟨before, rest, rfl, -, -, hrest⟩ := List.filter_eq_cons_iff.1 hown
  obtain ⟨between, after, rfl, others, -, -⟩ := List.filter_eq_cons_iff.1 hrest
  refine ⟨before, between, after, rfl, ?_⟩
  have transactions := h.transactions
  rw [List.map_append, List.map_cons] at transactions
  obtain ⟨-, reads, rest⟩ := transactions.around
  have still : r.transaction.after a = none := by
    rw [(reads.of_read read).1]
    exact missing
  rw [List.map_append, List.map_cons] at rest
  by_contra hno
  refine there (rest.around.1.absent (fun t ht makes => hno ?_) still).2
  obtain ⟨u, hu, rfl⟩ := List.mem_map.1 ht
  exact ⟨u, hu, by simpa using others u hu, makes⟩

/-- **Who begins while the object is there has found it when it is done.** -/
theorem late {s₁ : Race ι} (h : Run rivals s₁ ts s) (same : (rivals i).descriptor.address = a)
    (there : s₁.objects a ≠ none) (begins : s₁.stage i = .reading) :
    (s.stage i = .reading ∧ Turn.own i ts = []) ∨
      ∃ state read, s.stage i = .done (.ok (.existed state)) ∧ Turn.own i ts = [read] ∧
        read.transaction.exchange.request = .read a := by
  have account := h.account same begins
  have found : ∀ u ∈ Turn.own i ts, u.transaction.before a ≠ none := by
    intro u hu
    rw [((h.kept there).1 u (Turn.mem_own.1 hu).1).1]
    exact there
  generalize Turn.own i ts = own at account found
  generalize s.stage i = stage at account
  cases account with
  | waiting => exact Or.inl ⟨rfl, rfl⟩
  | found read => exact Or.inr ⟨_, _, rfl, rfl, read⟩
  | missed read missing | made read missing | beaten read missing =>
    exact absurd missing (found _ (by simp))

/-- **What a client made stays as it is.** -/
theorem stays {s₁ : Race ι} {before after : List (Turn ι τ)} {t : Turn ι τ}
    (h : Run rivals s₁ ts s) (hts : ts = before ++ t :: after) (makes : t.transaction.Makes a) :
    t.transaction.after a = some (rivals t.rival).descriptor.manifest ∧
      (∀ u ∈ after, u.transaction.before a = t.transaction.after a ∧
        u.transaction.after a = t.transaction.after a) ∧
      s.objects a = t.transaction.after a := by
  have ht : t ∈ ts := by simp [hts]
  have hbody := (h.of_makes ht makes).2
  have there : t.transaction.after a ≠ none := by simp [hbody]
  have transactions := h.transactions
  rw [hts, List.map_append, List.map_cons] at transactions
  obtain ⟨-, -, rest⟩ := transactions.around
  have undeleted : ∀ u ∈ after.map Turn.transaction, ∀ b, u.exchange.request ≠ .delete b :=
    fun u hu => h.undeleted u (by rw [hts, List.map_append, List.map_cons]; simp_all)
  obtain ⟨hsame, hend⟩ := (rest.mono Falters.serves).kept undeleted there
  exact ⟨hbody, fun u hu => hsame _ (List.mem_map_of_mem hu), hend⟩

end Run

/-- How a race has gone so far, for the object at an address that was begun with `o`. -/
structure Settled (rivals : ι → Rival) (a : Address) (o : Objects) (ts : List (Turn ι τ))
    (s : Race ι) : Prop where
  /-- at most one client makes the object -/
  once : ts.Pairwise fun t u => t.transaction.Makes a → ¬ u.transaction.Makes a
  /-- if it was not there in the beginning, and some client is done, exactly one has made it -/
  made : o a = none → ∀ i r, s.stage i = .done r → ∃ before t after,
    ts = before ++ t :: after ∧ t.transaction.Makes a ∧
      ∀ u ∈ before ++ after, ¬ u.transaction.Makes a
  /-- the client that made it returns that it was created, and no other does -/
  winner : ∀ i, (∃ state, s.stage i = .done (.ok (.created state))) ↔
    ∃ t ∈ ts, t.rival = i ∧ t.transaction.Makes a
  /-- who is done and has not made it found it, or was refused with a 409, and then another client
  made it between its own read and its own attempt to create it -/
  loser : ∀ i r, s.stage i = .done r → (∀ state, r ≠ .ok (.created state)) →
    (∃ state, r = .ok (.existed state)) ∨ ∃ cause before read between create after body,
      r = .ok (.failed (rivals i).descriptor cause) ∧ cause.operation = .create ∧
      cause.status = some 409 ∧
      ts = before ++ read :: (between ++ create :: after) ∧ Turn.own i ts = [read, create] ∧
      read.transaction.exchange.request = .read a ∧
      create.transaction.exchange.request = .create a body ∧
      ∃ t ∈ between, t.rival ≠ i ∧ t.transaction.Makes a
  /-- what was made is as its maker wanted it to be, and stays as it is -/
  kept : ∀ before t after, ts = before ++ t :: after → t.transaction.Makes a →
    t.transaction.after a = some (rivals t.rival).descriptor.manifest ∧
      (∀ u ∈ after, u.transaction.before a = t.transaction.after a ∧
        u.transaction.after a = t.transaction.after a) ∧
      s.objects a = t.transaction.after a
  /-- who begins while it is there has found it when it is done, after one read and nothing else -/
  late : s.objects a ≠ none → ∀ i, s.stage i = .reading → ∀ (us : List (Turn ι τ)) s',
    Run rivals s us s' → (s'.stage i = .reading ∧ Turn.own i us = []) ∨
      ∃ state read, s'.stage i = .done (.ok (.existed state)) ∧ Turn.own i us = [read] ∧
        read.transaction.exchange.request = .read a

/-- **Clients that race.**  Let any number of clients ensure that the same object exists, each
wanting it in its own way, their calls in any order, on a server that says 404 exactly of what is
not there and refuses with 409 to create what is there.  Then at every moment:

* at most one of them has made the object; if it was not there in the beginning and one of them is
  done, exactly one has;
* the one that made it returns that it was created, and no other does;
* every other one that is done found it, or was refused with a 409, and was refused only because
  another one made it after its own read and before its own attempt;
* what was made is what its maker wanted, and stays as it is;
* whoever begins when it is there finds it with one read, and makes no attempt to create it. -/
theorem Run.settles (h : Run rivals (start o) ts s)
    (same : ∀ i, (rivals i).descriptor.address = a) : Settled rivals a o ts s where
  once := h.once
  made := by
    intro absent i r done
    obtain ⟨t, ht, makes⟩ := h.exists_makes_of_done (same i) absent done
    exact h.exactly_one ht makes
  winner i := h.created_iff (same i)
  loser := by
    intro i r done lost
    have account := h.account (same i) rfl
    rw [done] at account
    generalize hown : Turn.own i ts = own at account
    cases account with
    | found => exact Or.inl ⟨_, rfl⟩
    | made => exact absurd rfl (lost _)
    | @beaten read create body cause hread missing hcreate there operation status =>
      obtain ⟨before, between, after, hts, hbetween⟩ :=
        h.exists_between hown hread missing there
      exact Or.inr ⟨cause, before, read, between, create, after, body, rfl, operation, status, hts,
        rfl, hread, hcreate, hbetween⟩
  kept before t after hts makes := h.stays hts makes
  late there i begins us s' run := run.late (same i) there begins

end Race

/-! ### Two clients -/

namespace Contest

open Race

/-- What both clients want. -/
def service : Descriptor := serviceDescriptor {} {}

/-- They do not differ. -/
def rivals : Bool → Rival := fun _ => ⟨"127.0.0.1", service⟩

/-- Says that an object is not there. -/
def missing : Reply Unit := ⟨.error (.api (some 404) none), ()⟩

/-- Says that an object is there already. -/
def conflict : Reply Unit := ⟨.error (.api (some 409) none), ()⟩

/-- What the server holds when the first client has created the object. -/
def taken : Objects := Objects.bare.put service.address service.manifest

/-- Both clients read before one of them creates. -/
def turns : List (Turn Bool Unit) :=
  [⟨true, .bare, ⟨.read service.address, missing⟩, .bare⟩,
    ⟨false, .bare, ⟨.read service.address, missing⟩, .bare⟩,
    ⟨true, .bare, ⟨.create service.address service.manifest, ⟨.ok {}, ()⟩⟩, taken⟩,
    ⟨false, taken, ⟨.create service.address service.manifest, conflict⟩, taken⟩]

/-- How the object is seen when it is created. -/
def state : ResourceState := View.state "127.0.0.1" service.address {}

/-- Why the other client does not create it. -/
def cause : Failure := ⟨service.address, .create, some 409, refusalReason none⟩

/-- Both clients have not found the object. -/
def missed : Bool → Ensure.Stage :=
  Function.update (Function.update (fun _ => .reading) true .creating) false .creating

/-- One has created it, and the other has not. -/
def finished : Bool → Ensure.Stage :=
  Function.update (Function.update missed true (.done (.ok (.created state)))) false
    (.done (.ok (.failed service cause)))

theorem run : Run rivals (start .bare) turns ⟨taken, finished⟩ := by
  have there : taken service.address ≠ none := by simp [taken]
  have reads : Run rivals (start .bare) (turns.take 2) ⟨.bare, missed⟩ :=
    .snoc (.snoc .nil (.turn rfl (.missing rfl))) (.turn rfl (.missing rfl))
  have creates : Step rivals ⟨.bare, missed⟩
      ⟨true, .bare, ⟨.create service.address service.manifest, ⟨.ok {}, ()⟩⟩, taken⟩
      ⟨taken, Function.update missed true (.done (.ok (.created state)))⟩ :=
    .turn rfl (.made rfl)
  have loses : Step rivals ⟨taken, Function.update missed true (.done (.ok (.created state)))⟩
      ⟨false, taken, ⟨.create service.address service.manifest, conflict⟩, taken⟩
      ⟨taken, finished⟩ := .turn rfl (.conflict there)
  exact .snoc (.snoc reads creates) loses

/-- The first client creates the object, and the other one is refused since it has read before. -/
theorem one_creates : Race.Settled rivals service.address .bare turns ⟨taken, finished⟩ ∧
    finished true = .done (.ok (.created state)) ∧ finished false = .done (.ok (.failed service cause)) :=
  ⟨run.settles fun _ => rfl, rfl, rfl⟩

end Contest

end EphemeralDatabase
