import EphemeralDatabase.Fixture.Single
import EphemeralDatabase.Proofs.Text.Blank
import Mathlib.Tactic.Common

/-!
# What single calls come to

Reading, creating and deleting sort answers in the same way.  An answer shows the object, whatever
may be missing in it.  A refusal is a failure with its status and with what the server said, if it
said anything.  A failure on the way to the server is one without a status and with the text of the
fault.  Everything else is raised as it is.  Only in one case do they differ: a refusal with status
404 is absence for reading and deleting, and a failure like any other for creating.

`Sorts` says this once, for all three, and `Act.calls_sorted` says that each makes one request and
that its result is the one that the answer is sorted as.
-/

namespace EphemeralDatabase

variable {τ ω α : Type}

/-! ## Reasons -/

/-- What the reason of a refusal tells: what stands in it between blanks, or that nothing does. -/
inductive Tells : Option String → String → Prop
  | said {reason said : String} (bare : Bare isBlank said.toList)
      (part : Surrounds isBlank reason.toList said.toList) (something : said ≠ "") :
      Tells (some reason) said
  | silent {reason : Option String} (blank : ∀ c ∈ (reason.getD "").toList, isBlank c) :
      Tells reason "API error"

theorem trimmed_eq_empty_iff {text : String} :
    trimmed text = "" ↔ ∀ c ∈ text.toList, isBlank c := by
  have hempty : trimmed text = "" ↔ trimBoth isBlank text.toList = [] := by simp [trimmed]
  rw [hempty, trimBoth_eq_nil_iff]

/-- The reason in a failure is what the refusal tells. -/
theorem tells_refusalReason (reason : Option String) : Tells reason (refusalReason reason) := by
  by_cases h : trimmed (reason.getD "") = ""
  · have hsilent : refusalReason reason = "API error" := by simp [refusalReason, h]
    rw [hsilent]
    exact .silent (trimmed_eq_empty_iff.1 h)
  · have hsaid : refusalReason reason = trimmed (reason.getD "") := by simp [refusalReason, h]
    rw [hsaid]
    cases reason with
    | none => exact absurd (by decide) h
    | some text =>
      have hlist : (trimmed text).toList = trimBoth isBlank text.toList := by simp [trimmed]
      refine .said ?_ ?_ h
      · rw [Option.getD_some, hlist]
        exact bare_trimBoth isBlank _
      · rw [Option.getD_some, hlist]
        exact surrounds_trimBoth isBlank _

/-- It tells nothing else. -/
theorem Tells.eq {reason : Option String} {said : String} (h : Tells reason said) :
    refusalReason reason = said := by
  cases h with
  | @said reason said bare part something =>
    have htrimmed : trimmed reason = said := by
      rw [trimmed, trimBoth_eq_iff.2 ⟨bare, part⟩, String.ofList_toList]
    simp [refusalReason, htrimmed, something]
  | silent blank => simp [refusalReason, trimmed_eq_empty_iff.2 blank]

theorem Tells.ne_empty {reason : Option String} {said : String} (h : Tells reason said) :
    said ≠ "" := by
  cases h with
  | said _ _ something => exact something
  | silent _ => decide

/-! ## Sorting answers -/

/-- The outcomes of an operation: for an object that is shown, for absence unless that is a
failure, and for failures. -/
structure Sorting (α : Type) where
  present : View → α
  absent : Option α
  failed : Failure → α

namespace Sorting

def reading (nodeHost : String) (a : Address) : Sorting ReadOutcome where
  present view := .found (view.state nodeHost a)
  absent := some (.notFound a)
  failed := .failed

/-- Absence is a failure of creating. -/
def creating (nodeHost : String) (a : Address) : Sorting CreateOutcome where
  present view := .made (view.state nodeHost a)
  absent := none
  failed := .failed

def deleting (a : Address) : Sorting DeleteOutcome where
  present _ := .deleted a
  absent := some (.notFound a)
  failed := .failed

end Sorting

/-- What an answer to an operation on an object is sorted as. -/
inductive Sorts (operation : Operation) (a : Address) (sorting : Sorting α) :
    Answer → Except Fault α → Prop
  | present (view : View) :
      Sorts operation a sorting (.ok view) (.ok (sorting.present view))
  | absent {reason : Option String} {outcome : α} (known : sorting.absent = some outcome) :
      Sorts operation a sorting (.error (.api (some 404) reason)) (.ok outcome)
  | refused {status : Option Int} {reason : Option String} {said : String}
      (other : status ≠ some 404 ∨ sorting.absent = none) (tells : Tells reason said) :
      Sorts operation a sorting (.error (.api status reason))
        (.ok (sorting.failed ⟨a, operation, status, said⟩))
  | unreached (carrier : Carrier) (details : List Value) :
      Sorts operation a sorting (.error (.carrier carrier details))
        (.ok (sorting.failed ⟨a, operation, none, (Fault.carrier carrier details).text⟩))
  | raised (breakage : Breakage) (details : List Value) :
      Sorts operation a sorting (.error (.other breakage details))
        (.error (.other breakage details))

variable {operation : Operation} {a : Address} {sorting : Sorting α} {answer : Answer}

/-- An answer is sorted in one way. -/
theorem Sorts.unique {r s : Except Fault α} (hr : Sorts operation a sorting answer r)
    (hs : Sorts operation a sorting answer s) : r = s := by
  cases hr with
  | present view => cases hs with | present => rfl
  | unreached carrier details => cases hs with | unreached => rfl
  | raised breakage details => cases hs with | raised => rfl
  | absent known =>
    cases hs with
    | absent known' => rw [Option.some.inj (known.symm.trans known')]
    | refused other =>
      rcases other with other | other
      · exact absurd rfl other
      · cases known.symm.trans other
  | refused other tells =>
    cases hs with
    | absent known =>
      rcases other with other | other
      · exact absurd rfl other
      · cases known.symm.trans other
    | refused _ tells' => rw [← tells.eq, tells'.eq]

/-- Two operations that know absence sort refusals alike. -/
theorem Sorts.refusal {outcome : α} (known : sorting.absent = some outcome) (status : Option Int)
    (reason : Option String) :
    Sorts operation a sorting (.error (.api status reason))
      (.ok (if status = some 404 then outcome
        else sorting.failed ⟨a, operation, status, refusalReason reason⟩)) := by
  split
  case isTrue h =>
    subst h
    exact .absent known
  case isFalse h => exact .refused (.inl h) (tells_refusalReason reason)

theorem readOutcome_sorts (nodeHost : String) (a : Address) (answer : Answer) :
    Sorts .get a (.reading nodeHost a) answer (readOutcome nodeHost a answer) := by
  match answer with
  | .ok view => exact .present view
  | .error (.carrier carrier details) => exact .unreached carrier details
  | .error (.other breakage details) => exact .raised breakage details
  | .error (.api status reason) =>
    have h : Sorts .get a (.reading nodeHost a) (.error (.api status reason)) _ :=
      Sorts.refusal rfl status reason
    convert h using 1
    by_cases hs : status = some 404 <;>
      simp [readOutcome, Fault.isAbsence, Fault.failure?, hs, Sorting.reading]

theorem createOutcome_sorts (nodeHost : String) (a : Address) (answer : Answer) :
    Sorts .create a (.creating nodeHost a) answer (createOutcome nodeHost a answer) := by
  match answer with
  | .ok view => exact .present view
  | .error (.carrier carrier details) => exact .unreached carrier details
  | .error (.other breakage details) => exact .raised breakage details
  | .error (.api status reason) => exact .refused (.inr rfl) (tells_refusalReason reason)

theorem deleteOutcome_sorts (a : Address) (answer : Answer) :
    Sorts .delete a (.deleting a) answer (deleteOutcome a answer) := by
  match answer with
  | .ok view => exact .present view
  | .error (.carrier carrier details) => exact .unreached carrier details
  | .error (.other breakage details) => exact .raised breakage details
  | .error (.api status reason) =>
    have h : Sorts .delete a (.deleting a) (.error (.api status reason)) _ :=
      Sorts.refusal rfl status reason
    convert h using 1
    by_cases hs : status = some 404 <;>
      simp [deleteOutcome, Fault.isAbsence, Fault.failure?, hs, Sorting.deleting]

/-! ## What outcomes are about -/

/-- A failure is about an object and says what was to be done with it. -/
def Failure.About (operation : Operation) (a : Address) (f : Failure) : Prop :=
  f.address = a ∧ f.operation = operation

def ReadOutcome.About (a : Address) : ReadOutcome → Prop
  | found state => state.address = a
  | notFound missing => missing = a
  | failed failure => failure.About .get a

def CreateOutcome.About (a : Address) : CreateOutcome → Prop
  | made state => state.address = a
  | failed failure => failure.About .create a

def DeleteOutcome.About (a : Address) : DeleteOutcome → Prop
  | deleted gone => gone = a
  | notFound missing => missing = a
  | failed failure => failure.About .delete a

theorem View.state_address (nodeHost : String) (a : Address) (view : View) :
    (view.state nodeHost a).address = a := by
  unfold View.state
  split <;> rfl

/-- An outcome is about the object if those for a view, for absence and for a failure are. -/
theorem Sorts.about {About : α → Prop} {outcome : α}
    (h : Sorts operation a sorting answer (.ok outcome))
    (present : ∀ view, About (sorting.present view))
    (absent : ∀ missing ∈ sorting.absent, About missing)
    (failed : ∀ f : Failure, f.About operation a → About (sorting.failed f)) : About outcome := by
  cases h with
  | present view => exact present view
  | absent known => exact absent outcome known
  | refused _ _ => exact failed _ ⟨rfl, rfl⟩
  | unreached _ _ => exact failed _ ⟨rfl, rfl⟩

/-! ## Calls -/

/-- A call makes one request.  Its result is what the answer is sorted as, and an outcome is about
the object. -/
structure Act.Settles (call : Act τ ω (Except Fault α)) (world : World τ ω) (request : Request τ)
    (operation : Operation) (a : Address) (sorting : Sorting α) (About : α → Prop) : Prop where
  journal : ∀ w, (call w).journal = [.exchange ⟨request, (world.ask request w).1⟩]
  after : ∀ w, (call w).world = (world.ask request w).2
  result : ∀ w r, (call w).result = r ↔
    Sorts operation a sorting (world.ask request w).1.answer r
  about : ∀ w outcome, (call w).result = .ok outcome → About outcome

/-- A call that makes one request and sorts its answer settles it. -/
theorem Act.settles_of_sorts {world : World τ ω} {request : Request τ} {About : α → Prop}
    {outcome : Answer → Except Fault α}
    (sorts : ∀ answer, Sorts operation a sorting answer (outcome answer))
    (present : ∀ view, About (sorting.present view))
    (absent : ∀ missing ∈ sorting.absent, About missing)
    (failed : ∀ f : Failure, f.About operation a → About (sorting.failed f)) :
    Act.Settles (do return outcome (← Act.request world request).answer) world request operation a
      sorting About where
  journal w := rfl
  after w := rfl
  result w r := by
    have hw := sorts (world.ask request w).1.answer
    constructor
    · rintro rfl
      exact hw
    · exact hw.unique
  about w o h := by
    have hw := sorts (world.ask request w).1.answer
    have ho : outcome (world.ask request w).1.answer = .ok o := h
    rw [ho] at hw
    exact hw.about present absent failed

/-- **Each call makes one request, and its answer is sorted** as what it is for the operation:
absence is none for creating, and nothing else depends on the operation. -/
theorem Act.calls_sorted (world : World τ ω) (nodeHost : String) :
    (∀ a, (Act.read world nodeHost a).Settles world (.read a) .get a (.reading nodeHost a)
      (ReadOutcome.About a)) ∧
    (∀ d : Descriptor, (Act.create world nodeHost d).Settles world
      (.create d.address d.manifest) .create d.address (.creating nodeHost d.address)
      (CreateOutcome.About d.address)) ∧
    ∀ a, (Act.delete world a).Settles world (.delete a) .delete a (.deleting a)
      (DeleteOutcome.About a) := by
  have missing {β : Type} {outcome : β} {About : β → Prop} (h : About outcome) :
      ∀ found ∈ some outcome, About found := fun found hfound => by
    rwa [← Option.some.inj hfound]
  refine ⟨fun a => ?_, fun d => ?_, fun a => ?_⟩
  · exact Act.settles_of_sorts (readOutcome_sorts nodeHost a) (View.state_address nodeHost a)
      (missing rfl) fun f hf => hf
  · exact Act.settles_of_sorts (createOutcome_sorts nodeHost d.address)
      (View.state_address nodeHost d.address) nofun fun f hf => hf
  · exact Act.settles_of_sorts (deleteOutcome_sorts a) (fun _ => rfl) (missing rfl) fun f hf => hf

/-! ### Where nothing is there -/

namespace Refusing

/-- A world that refuses every request with status 404 and a blank for a reason. -/
def world : World ℕ Unit where
  answer _ w := (.error (.api (some 404) (some " ")), w)
  now _ := 0

def pod : Descriptor where
  space := "default"
  name := "postgres"
  spec := .workload ⟨"postgres:latest", "postgres", 5432, []⟩

/-- Reading and deleting find nothing there, and creating fails. -/
theorem calls_differ :
    (Act.read world "127.0.0.1" pod.address ()).result = .ok (.notFound pod.address) ∧
      (Act.create world "127.0.0.1" pod ()).result =
        .ok (.failed ⟨pod.address, .create, some 404, "API error"⟩) ∧
      (Act.delete world pod.address ()).result = .ok (.notFound pod.address) := by
  obtain ⟨reads, creates, deletes⟩ := Act.calls_sorted world "127.0.0.1"
  have blank : ∀ c ∈ ((some " ").getD "").toList, isBlank c := List.all_eq_true.1 (by decide)
  refine ⟨((reads pod.address).result () _).2 (.absent rfl), ?_,
    ((deletes pod.address).result () _).2 (.absent rfl)⟩
  exact ((creates pod).result () _).2 (.refused (.inr rfl) (.silent blank))

end Refusing

end EphemeralDatabase
