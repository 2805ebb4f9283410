import EphemeralDatabase.Proofs.CommandLine.Fidelity
import EphemeralDatabase.Proofs.CommandLine.Refusal
import EphemeralDatabase.Proofs.Lifecycle.First
import EphemeralDatabase.Proofs.Teardown.Removal

/-!
# Deleting a database

The command `delete` ends well exactly when it came to its report and the report has no failure in
it (`Invocation.run_delete_iff`).  A failure may have a reason that cannot be printed, and then the
command ends in another way than by its own exit status, but not well either.

With what is known of reports and of servers without faults, this is all there is to tearing down
(`Teardown.complete`).
-/

namespace EphemeralDatabase

open CommandAct

variable {ω : Type}

/-! ## The command -/

/-- A command does not end well that has broken or cannot print something. -/
theorem Invocation.concluded_eq_zero_iff [Console] {screen : Screen} {outcome : Except Halt Unit}
    (other : outcome ≠ .error (.exit 0)) :
    (concluded screen outcome).2 = .exit 0 ↔ outcome = .ok () := by
  rcases outcome with (code | e | f) | ⟨⟩
  · have hcode : code ≠ 0 := fun h => other (by rw [h])
    simp [concluded, hcode]
  · simpa [concluded] using lastResort_ne_zero e.message screen
  · simpa [concluded] using faultEnding_ne_zero f screen
  · simp [concluded]

/-- What a run with valid settings comes to is how its command concludes. -/
theorem Invocation.result_run [Interpreter] [Console] {i : Invocation} {s : Surroundings ω}
    {settings : Settings} (hsettings : Settings.resolve i.overrides s.environment = .ok settings)
    (w : ω) :
    (i.run s w).result = concluded (i.command.perform s settings {} w).result.1
      (i.command.perform s settings {} w).result.2 := by
  have loaded : loadSettings s i.overrides {} w = ⟨({}, .ok settings), w, []⟩ := by
    simp only [loadSettings, hsettings]
    rfl
  cases hdone : i.command.perform s settings {} w with
  | mk result w' journal =>
    obtain ⟨screen, outcome⟩ := result
    rw [run_of_command (bind_eq loaded hdone)]

section Command

variable {s : Surroundings ω} {settings : Settings} {screen : Screen} {w : ω}

/-- Without a client nothing is deleted. -/
theorem deleteDatabase_of_no_client [Console] {fault : Fault}
    (hclient : (settings.cluster.connect s.store).client = .error fault) :
    (deleteDatabase s settings screen w).result.2 = .error (.fault fault) := by
  obtain ⟨journal, connected, -⟩ := exists_connected hclient w
  have broken : (orFault (.error fault : Except Fault Client) : CommandAct ω _)
      (screen.title "Deleting database") w =
        ⟨(screen.title "Deleting database", .error (.fault fault)), w, []⟩ := rfl
  have stopped : deleteDatabase s settings screen w = _ :=
    bind_eq rfl (bind_eq connected (bind_of_error broken))
  rw [stopped]

/-- Where tearing down is broken there is no report to tell. -/
theorem deleteDatabase_of_broken [Console] {client : Client} {fault : Fault}
    (hclient : (settings.cluster.connect s.store).client = .ok client)
    (hbroken : (Teardown.deleteAll s.world settings.plan.teardownOrder w).result = .error fault) :
    (deleteDatabase s settings screen w).result.2 = .error (.fault fault) := by
  obtain ⟨journal, connected, -⟩ := exists_connected hclient w
  cases hdone : Teardown.deleteAll s.world settings.plan.teardownOrder w with
  | mk result w' journal' =>
    obtain rfl : result = .error fault := by rwa [hdone] at hbroken
    have deleted (screen : Screen) : act (Teardown.deleteAll s.world settings.plan.teardownOrder)
        screen w = (⟨(screen, .ok (.error fault)), w', journal'⟩ : Done Float ω _) := by
      simp [act, bind, pure, hdone]
    have broken (screen : Screen) : (orFault (.error fault : Except Fault Report) :
        CommandAct ω _) screen w' = ⟨(screen, .error (.fault fault)), w', []⟩ := rfl
    have stopped : deleteDatabase s settings screen w = _ :=
      bind_eq rfl (bind_eq connected (bind_eq rfl (bind_eq (deleted _) (bind_of_error (broken _)))))
    rw [stopped]

/-- A report without a failure can be told. -/
theorem Report.problem?_of_ok [Console] {report : Report} (hcluster : settings.cluster.Valid)
    (hdatabase : settings.database.Valid)
    (about : Teardown.About settings.plan.teardownOrder report) (hok : report.ok = true) :
    ∀ l ∈ report.display, Console.problem? l.marked = none := fun l hl => by
  obtain ⟨hservice, hpod⟩ := Settings.plain_refs hcluster hdatabase
  have hrefs : ∀ a ∈ settings.plan.teardownOrder, Markup.Plain a.ref.toList :=
    List.forall_mem_cons.2 ⟨hpod, List.forall_mem_singleton.2 hservice⟩
  have hnone : report.failures = [] := List.isEmpty_iff.1 hok
  have hliteral := (Report.literal_display_iff about hrefs).2 fun f hf => by simp [hnone] at hf
  exact Line.problem?_of_literal (hliteral l hl)

/-- What is told ends as it was to, or because something cannot be printed. -/
theorem Screen.telling_snd [Console] (screen : Screen) (lines : List Line)
    (outcome : Except Halt Unit) :
    (screen.telling lines outcome).2 = outcome ∨
      ∃ e, (screen.telling lines outcome).2 = .error (.unprinted e) := by
  unfold telling
  split
  · exact .inl rfl
  · exact .inr ⟨_, rfl⟩

/-- A report is told to a good end if and only if there is no failure in it. -/
theorem deleteDatabase_eq_ok_iff [Console] (screen : Screen) {client : Client} {report : Report}
    (hcluster : settings.cluster.Valid) (hdatabase : settings.database.Valid)
    (hclient : (settings.cluster.connect s.store).client = .ok client)
    (hreport : (Teardown.deleteAll s.world settings.plan.teardownOrder w).result = .ok report) :
    (deleteDatabase s settings screen w).result.2 ≠ .error (.exit 0) ∧
      ((deleteDatabase s settings screen w).result.2 = .ok () ↔ report.ok = true) := by
  rw [deleteDatabase_telling hclient hreport]
  cases hok : report.ok with
  | true =>
    have printable := Report.problem?_of_ok hcluster hdatabase
      (Teardown.about_of_deleteAll hreport) hok
    have ends : ∀ e, (.ok () : Except Halt Unit) ≠ .error (.unprinted e) := nofun
    have good : ((screen.title "Deleting database").telling report.display (.ok ())).2 = .ok () :=
      (Screen.telling_snd_iff ends).2 printable
    simp [good]
  | false =>
    rcases Screen.telling_snd (screen.title "Deleting database") report.display
      (.error (.exit 1)) with bad | ⟨e, bad⟩ <;> simp [bad]

end Command

namespace Invocation

variable {i : Invocation} {s : Surroundings ω} {w : ω}

/-- A run with invalid settings does not end well. -/
theorem run_ne_zero_of_refused [Interpreter] [Console] {e : SettingsError}
    (h : Settings.resolve i.overrides s.environment = .error e) :
    (i.run s w).result.2 ≠ .exit 0 := by
  cases hfault : e.fault? with
  | some f =>
    rw [run_of_fault h hfault]
    exact faultEnding_ne_zero _ _
  | none =>
    cases hrender : Console.render e.refusal with
    | ok printed =>
      rw [run_of_printed h hfault hrender]
      simp
    | error unprinted =>
      rw [run_of_unprinted h hfault hrender]
      exact lastResort_ne_zero _ _

/-- **A deletion ends well if and only if it comes to a report without a failure.** -/
theorem run_delete_iff [Interpreter] [Console] (hcommand : i.command = .delete) :
    (i.run s w).result.2 = .exit 0 ↔ ∃ settings client report,
      Settings.resolve i.overrides s.environment = .ok settings ∧
      (settings.cluster.connect s.store).client = .ok client ∧
      (Teardown.deleteAll s.world settings.plan.teardownOrder w).result = .ok report ∧
      report.ok = true := by
  cases hsettings : Settings.resolve i.overrides s.environment with
  | error e => simpa using run_ne_zero_of_refused hsettings
  | ok settings =>
    have performed : i.command.perform s settings = deleteDatabase s settings := by
      rw [hcommand]
      rfl
    rw [result_run hsettings, performed]
    cases hclient : (settings.cluster.connect s.store).client with
    | error fault =>
      rw [deleteDatabase_of_no_client hclient]
      simpa [concluded, hclient] using faultEnding_ne_zero fault _
    | ok client =>
      cases hreport : (Teardown.deleteAll s.world settings.plan.teardownOrder w).result with
      | error fault =>
        rw [deleteDatabase_of_broken hclient hreport]
        simpa [concluded, hreport] using faultEnding_ne_zero fault _
      | ok report =>
        obtain ⟨hcluster, hdatabase, -⟩ := Settings.valid_of_resolve hsettings
        obtain ⟨other, good⟩ := deleteDatabase_eq_ok_iff {} hcluster hdatabase hclient hreport
        rw [concluded_eq_zero_iff other, good]
        simp [hclient, hreport]

end Invocation

/-! ## All of it -/

namespace Teardown

/-- **Tearing down makes every attempt, reports on all of them, and leaves nothing.**  Whatever
comes of the attempts, they are all made, in order, and the report parts them; nothing but a call
that has no outcome keeps it from that.  The command ends well if and only if there is such a report
and no failure in it.  On a server without faults the objects are removed, and to tear down once
more changes nothing. -/
theorem complete :
    (∀ {τ ω : Type} (world : World τ ω) (w : ω) (attempts : List Deletion)
      (es : List (Exchange τ)) (w' : ω),
      world.Attempts w attempts es w' → Completes world w attempts es w') ∧
    (∀ {τ ω : Type} (world : World τ ω) (addresses : List Address) (w : ω),
      (∃ attempts es w', attempts.map Deletion.address = addresses ∧
        world.Attempts w attempts es w') ∨ Breaks world addresses w) ∧
    (∀ [Interpreter] [Console] {ω : Type} (i : Invocation) (s : Surroundings ω) (w : ω),
      i.command = .delete → ((i.run s w).result.2 = .exit 0 ↔ ∃ settings client report,
        Settings.resolve i.overrides s.environment = .ok settings ∧
        (settings.cluster.connect s.store).client = .ok client ∧
        (deleteAll s.world settings.plan.teardownOrder w).result = .ok report ∧
        report.ok = true)) ∧
    ∀ {τ ω : Type} (world : World τ ω) (like : ω → Objects → Prop), world.Imitates Serves like →
      ∀ w o addresses, like w o →
      let first := deleteAll world addresses w
      let second := deleteAll world addresses first.world
      ∃ o' report, first.result = .ok report ∧ Removes addresses o o' report ∧
        like first.world o' ∧ second.result = .ok { alreadyGone := addresses } ∧
        like second.world o' :=
  ⟨fun _ _ _ _ _ h => deleteAll_of_attempts h, exists_attempts_or_breaks,
    fun _ _ _ hcommand => Invocation.run_delete_iff hcommand,
    fun _ _ imitates _ _ addresses stands => deleteAll_removes imitates stands addresses⟩

/-! ### A Service without its Pod -/

namespace Leftover

def service : Descriptor := serviceDescriptor {} {}

def pod : Descriptor := podDescriptor {} {}

/-- A world that refuses to delete Pods. -/
def refusing : World ℕ Unit where
  answer request w :=
    match request with
    | .delete ⟨.pod, _, _⟩ => (.error (.api (some 500) none), w)
    | _ => (.ok {}, w)
  now _ := 0

/-- The Pod stays, and the Service is deleted nevertheless. -/
def attempts : List Deletion :=
  [⟨pod.address, .failed ⟨pod.address, .delete, some 500, "API error"⟩⟩,
    ⟨service.address, .deleted service.address⟩]

def exchanges : List (Exchange ℕ) :=
  attempts.map fun t => ⟨.delete t.address, (refusing.ask (.delete t.address) ()).1⟩

/-- A scripted cluster on which the Service has been created. -/
def cluster : Simulator ℚ :=
  (Simulator.world.ask (.create service.address service.manifest) Scripted.cluster).2

/-- The command for deleting, without options. -/
def invocation : Invocation := ⟨false, .delete, []⟩

/-- A scripted cluster that can be reached. -/
def surroundings : Surroundings (Simulator Float) := ⟨Simulator.world, [], ⟨.ok (), .ok ()⟩⟩

/-- A failure does not keep the Service from being deleted.  Where there is no Pod and the Service
is mentioned twice, it is deleted once, and the command that finds neither ends well. -/
theorem complete_of_leftover :
    (∃ es, Completes refusing () attempts es ()) ∧
    (∃ report, (deleteAll Simulator.world [pod.address, service.address, service.address]
        cluster).result = .ok report ∧ report.failures = [] ∧
      report.deleted.count service.address = 1 ∧ report.deleted.count pod.address = 0 ∧
      report.alreadyGone.count service.address = 1) ∧
    (invocation.run surroundings { clock := 0 }).result.2 = .exit 0 := by
  obtain ⟨completes, -, command, removes⟩ := complete
  refine ⟨?_, ?_, ?_⟩
  · refine ⟨exchanges, completes refusing () attempts exchanges () ⟨?_, ?_⟩⟩
    · exact carries_cons.2 ⟨(), rfl, carries_singleton.2 rfl⟩
    · exact .cons ⟨rfl, by rfl⟩ (.cons ⟨rfl, rfl⟩ .nil)
  · obtain ⟨scene, created, stands⟩ := Simulator.imitates "10.43.0.7" Scripted.stands
      (.create service.address service.manifest)
    have imitates := (@Simulator.imitates ℚ _ _ "10.43.0.7").map Scene.objects Displays.serves
    obtain ⟨o', report, hreport, ⟨-, -, failures, deleted, mentioned⟩, -⟩ :=
      removes _ _ imitates cluster _ [pod.address, service.address, service.address]
        ⟨scene, stands, rfl⟩
    have hput : scene.objects = Objects.bare.put service.address service.manifest := by
      rcases created.serves.of_create rfl with ⟨-, hput, -⟩ | ⟨there, -⟩
      · exact hput
      · exact absurd rfl there
    have hservice : report.deleted.count service.address = 1 := by
      simp [deleted, hput]
    have hpod : report.deleted.count pod.address = 0 := by
      rw [deleted, hput, if_neg]
      exact fun h => h.2 rfl
    have hmentioned := mentioned service.address
    rw [hservice] at hmentioned
    exact ⟨report, hreport, failures, hservice, hpod, Nat.add_left_cancel hmentioned⟩
  · have hsettings : Settings.resolve invocation.overrides surroundings.environment =
        .ok ⟨{}, {}, PollSettings.standard⟩ := by
      have hunknown : Keywords.unknown (Keywords.given []) = [] :=
        Settings.unknown_eq_nil_iff.2 nofun
      have h := @Settings.resolve_eq [] [] _ List.nodup_nil
      rw [hunknown] at h
      exact h.trans rfl
    exact (command _ _ _ rfl).2 ⟨_, .inCluster, _, hsettings, rfl, rfl, rfl⟩

end Leftover

end Teardown

end EphemeralDatabase
