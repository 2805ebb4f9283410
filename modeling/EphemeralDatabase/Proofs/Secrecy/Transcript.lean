import EphemeralDatabase.Cluster.Simulator
import EphemeralDatabase.Proofs.Secrecy.Fixture
import Mathlib.Data.List.Forall2

/-!
# The password does not leak

A *deed* is a call on a fixture, or something done beside it: the settings are displayed, or a
command is run.  The *transcript* of deeds holds what can be seen of each of them: what it came to,
the status and the handle of the fixture after it, the time, and the journal with every request,
reply and event, the log, and what an error said.

Two transcripts of the same deeds with settings that differ in the password only are masked to the
same (`Deed.transcript_masked`), against every cluster that takes no notice of the environment of a
Pod.  So the password can be seen in the handle, in the body that the Pod is created with, and in
the descriptor that the error of a refused Pod holds, and nowhere else.  The scripted cluster is one
that takes no notice (`Simulator.discreet`).
-/

namespace EphemeralDatabase

variable {ω : Type} {world : World Float ω}

/-! ## Displays and commands -/

/-- The lines that show the settings do not show the password. -/
theorem Settings.lines_congr {s s' : Settings} (h : s.masked = s'.masked) : s.lines = s'.lines := by
  obtain ⟨password, rfl⟩ := masked_eq_iff.1 h
  rfl

theorem Screen.settings_congr [Console] {s s' : Settings} (h : s.masked = s'.masked)
    (screen : Screen) :
    screen.settings s = screen.settings s' := by
  unfold settings
  rw [Settings.lines_congr h]

/-- The commands that only inspect the database or delete it. -/
def Command.SparesPassword (c : Command) : Prop := c = .status ∨ c = .delete

section Commands

open CommandAct

variable {environment environment' : Environment} {store : CredentialStore} {overrides : Keywords}
  {c : Command}

theorem loadSettings_steady [Interpreter] [Console] (environment : Environment)
    (store : CredentialStore) (overrides : Keywords) :
    Steady world (loadSettings ⟨world, environment, store⟩ overrides) := by
  unfold loadSettings
  cases Settings.resolve overrides environment with
  | ok settings => exact steady_pure settings
  | error e =>
    dsimp only
    cases e.fault? with
    | some f => exact steady_halt _
    | none => exact (steady_print _).bind fun _ => steady_halt _

theorem Command.run_steady [Interpreter] [Console] (hc : c.SparesPassword) :
    Steady world (c.run ⟨world, environment, store⟩ overrides) := by
  refine (loadSettings_steady environment store overrides).bind fun settings => ?_
  rcases hc with rfl | rfl
  · exact showStatus_steady environment store settings
  · exact deleteDatabase_steady environment store settings

section Settings

variable [Console] {s s' : Settings} (h : s.masked = s'.masked)

include h

/-- Showing the status is the same with settings that differ in the password only. -/
theorem showStatus_congr :
    showStatus ⟨world, environment, store⟩ s = showStatus ⟨world, environment', store⟩ s' := by
  obtain ⟨password, rfl⟩ := Settings.masked_eq_iff.1 h
  rfl

/-- And so is deleting the database. -/
theorem deleteDatabase_congr :
    deleteDatabase ⟨world, environment, store⟩ s =
      deleteDatabase ⟨world, environment', store⟩ s' := by
  obtain ⟨password, rfl⟩ := Settings.masked_eq_iff.1 h
  rfl

theorem Command.perform_congr (hc : c.SparesPassword) :
    c.perform ⟨world, environment, store⟩ s = c.perform ⟨world, environment', store⟩ s' := by
  rcases hc with rfl | rfl
  · exact showStatus_congr h
  · exact deleteDatabase_congr h

end Settings

theorem Command.run_congr [Interpreter] [Console] (hc : c.SparesPassword)
    (h : (Settings.resolve overrides environment).map Settings.masked =
      (Settings.resolve overrides environment').map Settings.masked) :
    c.run ⟨world, environment, store⟩ overrides = c.run ⟨world, environment', store⟩ overrides := by
  rcases Except.cases_of_map_eq h with ⟨e, hs, hs'⟩ | ⟨s, s', hs, hs', hmasked⟩
  · simp only [run, loadSettings, hs, hs']
    exact congrArg (Bind.bind _) (funext fun settings => perform_congr rfl hc)
  · simp only [run, loadSettings, hs, hs', CommandAct.pure_bind]
    exact perform_congr hmasked hc

/-- **A command that spares the password is the twin of the same command with settings that differ
in the password only.** -/
theorem Invocation.run_twins [Interpreter] [Console] {i : Invocation}
    (hc : i.command.SparesPassword)
    (h : (Settings.resolve i.overrides environment).map Settings.masked =
      (Settings.resolve i.overrides environment').map Settings.masked) :
    Act.Twins world Eq (i.run ⟨world, environment, store⟩)
      (i.run ⟨world, environment', store⟩) := by
  have hrun : i.run ⟨world, environment, store⟩ = i.run ⟨world, environment', store⟩ := by
    unfold run
    rw [Command.run_congr hc h]
  rw [hrun]
  exact run_steady environment' store (Command.run_steady hc)

end Commands

/-! ## Deeds -/

/-- A call on a fixture, or something that is done beside it. -/
inductive Deed where
  | acquire
  | release (strict : Bool)
  | display (settings : Settings)
  | command (i : Invocation) (environment : Environment) (store : CredentialStore)

namespace Deed

/-- What came of a deed. -/
inductive Outcome where
  /-- nothing if waiting was cut off -/
  | acquired (got : Option (Acquired Float))
  | released (got : Option Released)
  | displayed (shown : Screen × Option Markup.PrintError)
  | ended (done : Screen × Ending)

/-- Does a deed. -/
def carry [Interpreter] [Console] (world : World Float ω) (f : Fixture Float) :
    Deed → Act Float ω (Fixture Float × Outcome)
  | acquire => do
      let (f, got) ← f.acquire world
      return (f, .acquired got)
  | release strict => do
      let (f, got) ← f.release world strict
      return (f, .released got)
  | display settings => pure (f, .displayed (Screen.settings {} settings))
  | command i environment store => do
      let done ← i.run ⟨world, environment, store⟩
      return (f, .ended done)

/-- The message of the error that a deed came to, if it came to one. -/
def Outcome.message? : Outcome → Option String
  | acquired (some (.error e)) => some e.message
  | released (some (.error e)) => some e.message
  | displayed (_, some e) => some e.message
  | ended (_, .raised e) => some e.message
  | _ => none

/-- What can be seen of a deed. -/
structure Record where
  outcome : Outcome
  /-- what its error says, if it came to one -/
  message : Option String
  /-- the status of the fixture after the deed -/
  status : Status
  /-- its handle -/
  handle : Option Handle
  /-- the time after the deed -/
  clock : Float
  journal : Journal Float
  /-- what was logged meanwhile -/
  log : List String

/-- What can be seen of deeds that are done one after another. -/
def transcript [Interpreter] [Console] (world : World Float ω) :
    List Deed → Fixture Float → ω → List Record
  | [], _, _ => []
  | deed :: rest, f, w =>
      let done := deed.carry world f w
      let (f, outcome) := done.result
      ⟨outcome, outcome.message?, f.cell.status, f.handle?, world.now done.world, done.journal,
        done.journal.events.map Event.text⟩ :: transcript world rest f done.world

/-- What came of a deed, with the password masked. -/
def Outcome.masked : Outcome → Outcome
  | acquired got => acquired (got.map Acquired.masked)
  | o => o

/-- What can be seen of a deed, with the password masked in what it came to, in the handle and in
the body that the Pod was created with.  Messages and log lines are left as they are. -/
def Record.masked (r : Record) : Record :=
  { r with
    outcome := r.outcome.masked
    handle := r.handle.map Handle.masked
    journal := Journal.masked r.journal }

/-- Two deeds that are the same but for the password in the settings that they make use of. -/
inductive Alike [Interpreter] : Deed → Deed → Prop
  | acquire : Alike .acquire .acquire
  | release (strict : Bool) : Alike (.release strict) (.release strict)
  | display {settings settings' : Settings} (masked : settings.masked = settings'.masked) :
      Alike (.display settings) (.display settings')
  | command {i : Invocation} {environment environment' : Environment} (store : CredentialStore)
      (spares : i.command.SparesPassword)
      (masked : (Settings.resolve i.overrides environment).map Settings.masked =
        (Settings.resolve i.overrides environment').map Settings.masked) :
      Alike (.command i environment store) (.command i environment' store)

/-- A deed is like whatever the other one is like. -/
theorem Alike.right [Interpreter] {deed deed' : Deed} (h : Alike deed deed') :
    Alike deed' deed' := by
  cases h with
  | acquire => exact .acquire
  | release strict => exact .release strict
  | display masked => exact .display rfl
  | command store spares masked => exact .command store spares rfl

theorem Alike.forall_right [Interpreter] {deeds deeds' : List Deed}
    (h : List.Forall₂ Alike deeds deeds') :
    List.Forall₂ Alike deeds' deeds' := by
  induction h with
  | nil => exact .nil
  | cons first _ ih => exact .cons first.right ih

/-- **What an error says does not depend on the password.** -/
theorem Outcome.message?_masked (o : Outcome) : o.masked.message? = o.message? := by
  match o with
  | acquired (some (.error e)) => exact congrArg some e.message_masked
  | acquired none | acquired (some (.ok h)) | released _ | displayed _ | ended _ => rfl

variable {f : Fixture Float} {deed deed' : Deed}

/-- **Deeds that are alike come to the same but for the password**, the second one on the masked
fixture. -/
theorem carry_twins [Interpreter] [Console] (f : Fixture Float) (h : Alike deed deed') :
    Act.Twins world
      (fun done done' => done'.1 = done.1.masked ∧ done.2.masked = done'.2.masked)
      (deed.carry world f) (deed'.carry world f.masked) := by
  cases h with
  | acquire =>
    refine f.acquire_twins.bind ?_
    rintro ⟨g, got⟩ ⟨_, _⟩ ⟨rfl, rfl⟩
    exact .pure ⟨rfl, by simp [Outcome.masked, Function.comp_def]⟩
  | release strict =>
    refine (f.release_twins strict).bind ?_
    rintro ⟨g, got⟩ ⟨_, got'⟩ ⟨rfl, same⟩
    exact .pure ⟨rfl, congrArg Outcome.released (Eq.symm same)⟩
  | display masked =>
    have hshown := Screen.settings_congr masked {}
    exact .pure ⟨rfl, congrArg Outcome.displayed hshown⟩
  | command store spares masked =>
    refine (Invocation.run_twins spares masked).bind ?_
    rintro done _ rfl
    exact .pure ⟨rfl, rfl⟩

/-- What is done with a fixture can be done with the masked one, and looks the same. -/
theorem transcript_twins [Interpreter] [Console] {deeds deeds' : List Deed}
    (h : List.Forall₂ Alike deeds deeds') (f : Fixture Float) {w w' : ω} (hw : world.Twins w w') :
    (transcript world deeds f w).map Record.masked =
      (transcript world deeds' f.masked w').map Record.masked := by
  induction h generalizing f w w' with
  | nil => rfl
  | @cons deed deed' deeds deeds' hdeed _ ih =>
    obtain ⟨⟨hfixture, houtcome⟩, hworld, hjournal⟩ := carry_twins f hdeed w w' hw
    have hmessage : (deed.carry world f w).result.2.message? =
        (deed'.carry world f.masked w').result.2.message? := by
      rw [← Outcome.message?_masked, houtcome, Outcome.message?_masked]
    have hlog := congrArg Journal.events hjournal
    rw [Journal.events_masked, Journal.events_masked] at hlog
    simp only [transcript, List.map_cons, Record.masked, houtcome, hmessage, hfixture, hlog,
      Fixture.masked_status, Fixture.masked_handle?, Option.map_map, hworld.now, hjournal]
    exact congrArg (_ :: ·) (ih _ hworld)

end Deed

/-! ## The scripted cluster -/

namespace Simulator

variable {τ : Type} [Clock τ] {r r' : Request τ}

/-- The scripted cluster looks into the body of a Service only. -/
theorem answer_congr (h : r.withoutEnvironment = r'.withoutEnvironment) (s : Simulator τ) :
    answer r s = answer r' s := by
  rcases r with a | ⟨⟨kind, space, name⟩, body⟩ | a | seconds <;>
    rcases r' with a' | ⟨⟨kind', space', name'⟩, body'⟩ | a' | seconds' <;>
    simp [Request.withoutEnvironment, Request.onPodBody] at h
  · rw [h]
  · obtain ⟨⟨rfl, rfl, rfl⟩, hbody⟩ := h
    cases kind with
    | service => rw [show body = body' from hbody]
    | pod => rfl
  · rw [h]
  · rw [h]

/-- **The scripted cluster takes no notice of the environment of a Pod.** -/
theorem discreet (s : Simulator τ) : Simulator.world.Discreet s := by
  intro rs
  induction rs generalizing s with
  | nil =>
    intro rs' h
    obtain rfl : rs' = [] := by simpa using h.symm
    rfl
  | cons r rs ih =>
    intro rs' h
    cases rs' with
    | nil => simp at h
    | cons r' rs' =>
      obtain ⟨hr, hrs⟩ := List.cons.inj h
      have hask : Simulator.world.ask r s = Simulator.world.ask r' s := by
        simp only [World.ask, Simulator.world, answer_congr hr]
      simp only [World.answers, hask, ih _ rs' hrs]

end Simulator

/-! ## Transcripts -/

namespace Deed

/-- **The password does not leak.**  Two fixtures with settings that differ in the password only,
and the same deeds with settings that differ in the password only, against a cluster that takes no
notice of the environment of a Pod: what can be seen is the same in both runs, request by request
and event by event, with every status, report, message and log line, except for the password where
a handle, the body of the Pod, or the error of a Pod that could not be provisioned holds it. -/
theorem transcript_masked [Interpreter] [Console] {w : ω} (discreet : world.Discreet w)
    (c : ClusterSettings)
    {d d' : DatabaseSettings} (masked : d.masked = d'.masked) (poll : PollSettings Float)
    {deeds deeds' : List Deed} (alike : List.Forall₂ Alike deeds deeds') :
    (transcript world deeds { plan := Plan.ofSettings c d poll } w).map Record.masked =
      (transcript world deeds' { plan := Plan.ofSettings c d' poll } w).map Record.masked := by
  let first : Fixture Float := { plan := Plan.ofSettings c d poll }
  let second : Fixture Float := { plan := Plan.ofSettings c d' poll }
  have same : first.masked = second.masked := by
    simp only [first, second, Fixture.masked, Plan.ofSettings_masked c masked poll]
  have left := transcript_twins alike first discreet.twins
  have right := transcript_twins (Alike.forall_right alike) second discreet.twins
  rw [same] at left
  exact left.trans right.symm

/-- The database is acquired, looked at and released, and then deleted by a command. -/
def round (password : String) : List Deed :=
  let environment : Environment := [("PG_FIXTURE_PASSWORD", password)]
  let store : CredentialStore := ⟨.ok (), .ok ()⟩
  [.acquire, .display ⟨{}, { password := password }, .standard⟩,
    .command ⟨true, .status, [("namespace", .text "default")]⟩ environment store, .release true,
    .command ⟨false, .delete, []⟩ environment store]

theorem round_alike [Interpreter] (password password' : String) :
    List.Forall₂ Alike (round password) (round password') := by
  have hraw : ∀ name ∈ settingNames, name ≠ "password" →
      Environment.raw? [("PG_FIXTURE_PASSWORD", password)] name =
        Environment.raw? [("PG_FIXTURE_PASSWORD", password')] name :=
    fun _ _ hname => Environment.raw?_password (by decide) hname [] [] password password'
  refine .cons .acquire (.cons (.display rfl) (.cons (.command _ (Or.inl rfl) ?_)
    (.cons (.release true) (.cons (.command _ (Or.inr rfl) ?_) .nil))))
  · exact Settings.resolve_masked (by decide) hraw
  · exact Settings.resolve_masked (by decide) hraw

/-- With the password that is the default and with another one. -/
theorem round_masked :
    Simulator.world.Discreet ({ clock := 0 } : Simulator Float) ∧
      DatabaseSettings.masked {} = DatabaseSettings.masked { password := "other" } ∧
      List.Forall₂ Alike (round "password") (round "other") ∧
      (transcript Simulator.world (round "password")
          { plan := Plan.ofSettings {} {} .standard } { clock := 0 }).map Record.masked =
        (transcript Simulator.world (round "other")
          { plan := Plan.ofSettings {} { password := "other" } .standard } { clock := 0 }).map
            Record.masked := by
  have discreet := Simulator.discreet ({ clock := 0 } : Simulator Float)
  have masked : DatabaseSettings.masked {} = DatabaseSettings.masked { password := "other" } := rfl
  have alike := round_alike "password" "other"
  exact ⟨discreet, masked, alike, transcript_masked discreet {} masked .standard alike⟩

end Deed

end EphemeralDatabase
