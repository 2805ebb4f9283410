import EphemeralDatabase.Cluster.Simulator
import EphemeralDatabase.Proofs.CommandLine.Line
import EphemeralDatabase.Proofs.CommandLine.Plain
import EphemeralDatabase.Proofs.Provision.Standing
import EphemeralDatabase.Proofs.Server.World

/-!
# What the status says, and what a fixture finds

The command `status` reads the Service and the Pod once each and says of both whether they are
ready.  A fixture that acquires reads them too, and goes on to create and to wait.  The two are
written separately, and they agree: the status is good exactly when a fresh fixture gets its
handle by reading each object once, and the endpoint that is shown is the one of that handle, if
the console shows it as it stands (`Invocation.run_status`).

Both sides come down to what the two reads show.  For the command this is `showStatus_eq`, and for
the fixture `Settings.stands_iff`.  What is read is printed on the way, so the texts in it must
not be taken for markup (`World.Legible`).  That is not enough for the endpoint to be shown: a tab
in the host is printed as spaces (`Invocation.run_status_of_tab`), and a line that does not fit the
console is broken.
-/

namespace EphemeralDatabase

open CommandAct
open Console (render)
open Markup (Plain laid)

variable {ω : Type}

/-! ## Lines -/

/-- Nothing in the text is taken for a tag or for the name of a pictograph. -/
def Markup.Unmarked (text : String) : Prop := '[' ∉ text.toList ∧ ':' ∉ text.toList

/-- Nothing that was read of an object is taken for markup. -/
def ReadOutcome.Unmarked : ReadOutcome → Prop
  | .found s => (∀ e, s.endpoint = some e → Markup.Unmarked e.host) ∧
      ∀ p, s.phase = some p → Markup.Unmarked p
  | .notFound _ => True
  | .failed f => Markup.Unmarked f.reason

section Lines

variable {a : Address} {nodeHost colour text : String} {answer : Answer} {seen : ReadOutcome}

theorem exists_render_unmarked [Console] (hcolour : Markup.IsStyle colour)
    (h : '[' ∉ text.toList) : ∃ printed, render (coloured colour text) = .ok printed :=
  ⟨_, by rw [render, problem?_of_tame hcolour (Markup.tame_of_notMem h)]⟩

/-- The line says that an object is ready if and only if it was seen to be. -/
theorem statusLine_ready (a : Address) (seen : ReadOutcome) :
    (statusLine a seen).2 = seen.shows a.kind.ready := by
  cases seen with
  | found s =>
    simp only [statusLine, ReadOutcome.shows]
    split <;> simp_all
  | notFound b => rfl
  | failed f => rfl

theorem ReadOutcome.address_of_failed {f : Failure}
    (h : readOutcome nodeHost a answer = .ok (.failed f)) :
    f.address = a ∧ f.operation = .get := by
  cases answer with
  | ok view => simp [readOutcome] at h
  | error fault =>
    simp only [readOutcome] at h
    split at h
    · cases h
    · cases fault <;> simp [Fault.failure?] at h <;> simp [← h]

theorem Failure.notMem_text {f : Failure} (href : '[' ∉ f.address.ref.toList)
    (hreason : '[' ∉ f.reason.toList) : '[' ∉ f.text.toList := by
  have hstatus : ∀ n : ℤ, '[' ∉ ("HTTP " ++ toString n).toList := by
    intro n
    rw [String.toList_append, List.mem_append, not_or]
    exact ⟨by decide, notMem_toString_int rfl (by decide) n⟩
  obtain ⟨address, operation, status, reason⟩ := f
  simp only [text, String.toList_append, List.mem_append, not_or]
  refine ⟨⟨⟨⟨⟨⟨?_, by decide⟩, href⟩, by decide⟩, ?_⟩, by decide⟩, hreason⟩
  · cases operation <;> decide
  · cases status with
    | none => decide
    | some n => exact hstatus n

theorem notMem_readyDetail {s : ResourceState} (h : (ReadOutcome.found s).Unmarked) :
    '[' ∉ (readyDetail s).toList := by
  unfold readyDetail
  split
  · rename_i e he
    simp only [Endpoint.text, String.toList_append, List.mem_append, not_or]
    exact ⟨by decide, ⟨(h.1 e he).1, by decide⟩, notMem_portText rfl (by decide) (by decide) _⟩
  · simp only [String.toList_append, List.mem_append, not_or]
    refine ⟨by decide, ?_⟩
    cases hp : s.phase with
    | none => decide
    | some p => exact (h.2 p hp).1

theorem notMem_unreadyDetail {s : ResourceState} (h : (ReadOutcome.found s).Unmarked) :
    '[' ∉ (unreadyDetail s).toList := by
  unfold unreadyDetail
  split
  · simp only [String.toList_append, List.mem_append, not_or]
    refine ⟨by decide, ?_⟩
    unfold phaseText
    split
    · rename_i p hp
      split
      · decide
      · exact (h.2 p hp).1
    · decide
  · decide

/-- **The line of an object can be printed** if nothing in it is taken for markup. -/
theorem exists_render_statusLine [Console] (hread : readOutcome nodeHost a answer = .ok seen)
    (hseen : seen.Unmarked) (hplain : Plain a.ref.toList) :
    ∃ printed, render (statusLine a seen).1 = .ok printed := by
  have href : '[' ∉ a.ref.toList := hplain.notMem rfl
  cases seen with
  | notFound b =>
    refine exists_render_unmarked Markup.isStyle_yellow ?_
    simp only [String.toList_append, List.mem_append, not_or]
    exact ⟨⟨by decide, href⟩, by decide⟩
  | failed f =>
    obtain ⟨rfl, -⟩ := ReadOutcome.address_of_failed hread
    refine exists_render_unmarked Markup.isStyle_red ?_
    rw [String.toList_append, List.mem_append, not_or]
    exact ⟨by decide, Failure.notMem_text href hseen.1⟩
  | found s =>
    simp only [statusLine]
    split
    · refine exists_render_unmarked Markup.isStyle_green ?_
      simp only [String.toList_append, List.mem_append, not_or]
      exact ⟨⟨⟨⟨by decide, href⟩, by decide⟩, notMem_readyDetail hseen⟩, by decide⟩
    · refine exists_render_unmarked Markup.isStyle_yellow ?_
      simp only [String.toList_append, List.mem_append, not_or]
      exact ⟨⟨⟨⟨by decide, href⟩, by decide⟩, notMem_unreadyDetail hseen⟩, by decide⟩

/-- The line of an object that is ready. -/
def readyLine (a : Address) (detail : String) : String :=
  "✓ " ++ a.ref ++ ": ready (" ++ detail ++ ")"

theorem render_ready [Console] {detail : String} (href : Plain a.ref.toList)
    (hopen : '[' ∉ detail.toList)
    (hdetail : Pictograph.replaced (detail.toList ++ [')']) = detail.toList ++ [')']) :
    render (coloured "green" ("✓ " ++ a.ref ++ ": ready (" ++ detail ++ ")")) =
      .ok (laid (readyLine a detail).toList) := by
  have hbefore : ':' ∉ '✓' :: ' ' :: a.ref.toList := by simpa using href.notMem (c := ':') rfl
  have hlist : (readyLine a detail).toList =
      ('✓' :: ' ' :: a.ref.toList) ++ ':' :: ' ' :: ("ready (".toList ++
        (detail.toList ++ [')'])) := by
    simp [readyLine]
  have hreplaced : Pictograph.replaced (readyLine a detail).toList =
      (readyLine a detail).toList := by
    rw [hlist, Pictograph.replaced_append hbefore, Pictograph.replaced_of_space,
      ← List.cons_append, Pictograph.replaced_append (by decide), hdetail]
  have hnone : '[' ∉ (readyLine a detail).toList := by
    simp only [readyLine, String.toList_append, List.mem_append, not_or]
    exact ⟨⟨⟨⟨by decide, href.notMem rfl⟩, by decide⟩, hopen⟩, by decide⟩
  have hlast : (readyLine a detail).toList.getLast? ≠ some '\\' := by
    rw [readyLine, String.toList_append, List.getLast?_append]
    simp
  exact Line.render_of_kept (l := ⟨some .green, readyLine a detail⟩)
    (Markup.kept_of_notMem hnone hreplaced hlast)

/-- The endpoint of a Service is in its line. -/
theorem render_service [Console] {s : ResourceState} {e : Endpoint} (hkind : a.kind = .service)
    (href : Plain a.ref.toList) (hendpoint : s.endpoint = some e)
    (hhost : Markup.Unmarked e.host) :
    render (statusLine a (.found s)).1 =
      .ok (laid (readyLine a ("endpoint " ++ e.text)).toList) := by
  have hready : a.kind.ready s = true := by simp [hkind, Kind.ready, endpointAssigned, hendpoint]
  have hport : ':' ∉ (portText e.port).toList ++ [')'] := by
    rw [List.mem_append, not_or]
    exact ⟨(plain_portText _).notMem rfl, by decide⟩
  have hbefore : ':' ∉ "endpoint ".toList ++ e.host.toList := by
    rw [List.mem_append, not_or]
    exact ⟨by decide, hhost.2⟩
  have hlist : ("endpoint " ++ e.text).toList ++ [')'] =
      ("endpoint ".toList ++ e.host.toList) ++ ':' :: ((portText e.port).toList ++ [')']) := by
    simp [Endpoint.text]
  simp only [statusLine, hready, if_true, readyDetail, hendpoint]
  refine render_ready href ?_ ?_
  · simp only [Endpoint.text, String.toList_append, List.mem_append, not_or]
    exact ⟨by decide, ⟨hhost.1, by decide⟩, (plain_portText _).notMem rfl⟩
  · rw [hlist, Pictograph.replaced_append hbefore, Pictograph.replaced_of_last hport]

/-- Of a Pod the line says that it runs. -/
theorem render_pod [Console] {s : ResourceState} (hkind : a.kind = .pod) (href : Plain a.ref.toList)
    (hread : readOutcome nodeHost a answer = .ok (.found s)) (running : phaseRunning s = true) :
    render (statusLine a (.found s)).1 = .ok (laid (readyLine a "phase Running").toList) := by
  have hready : a.kind.ready s = true := by rw [hkind]; exact running
  have hdetail : readyDetail s = "phase Running" := by
    cases answer with
    | error fault =>
      simp only [readOutcome] at hread
      split at hread
      · cases hread
      · split at hread <;> cases hread
    | ok view =>
      obtain rfl : view.state nodeHost a = s := by simpa [readOutcome] using hread
      simp_all [phaseRunning, readyDetail, View.state]
  simp only [statusLine, hready, if_true, hdetail]
  exact render_ready href (by decide) (Pictograph.replaced_of_notMem (by decide))

/-- There is no control character in a line if there is none in its detail. -/
theorem visible_readyLine {detail : String} (href : Plain a.ref.toList)
    (hdetail : ∀ c ∈ detail.toList, Markup.isControl c = false ∧ c ≠ '\t') :
    ∀ c ∈ (readyLine a detail).toList, Markup.isControl c = false ∧ c ≠ '\t' := by
  simp only [readyLine, String.toList_append, List.forall_mem_append]
  exact ⟨⟨⟨⟨Markup.visible_of_all rfl, fun c hc => Markup.visible_of_inert (href c hc)⟩,
    Markup.visible_of_all rfl⟩, hdetail⟩, Markup.visible_of_all rfl⟩

/-- There is none in an endpoint if there is none in its host. -/
theorem Endpoint.visible_text {e : Endpoint}
    (hhost : ∀ c ∈ e.host.toList, Markup.isControl c = false ∧ c ≠ '\t') :
    ∀ c ∈ ("endpoint " ++ e.text).toList, Markup.isControl c = false ∧ c ≠ '\t' := by
  have hport := plain_portText e.port
  simp only [text, String.toList_append, List.forall_mem_append]
  exact ⟨Markup.visible_of_all rfl, ⟨hhost, Markup.visible_of_all rfl⟩,
    fun c hc => Markup.visible_of_inert (hport c hc)⟩

end Lines

/-! ## Reads -/

/-- The plan that settings make. -/
def Settings.plan (s : Settings) : Plan Float := Plan.ofSettings s.cluster s.database s.poll

/-- A read of each object, the Service first. -/
def Settings.reads (s : Settings) : List (Request Float) :=
  [.read s.plan.service.address, .read s.plan.pod.address]

/-- The read of an object, if it is read now. -/
def World.look {τ : Type} (world : World τ ω) (a : Address) (w : ω) : Exchange τ :=
  ⟨.read a, (world.ask (.read a) w).1⟩

theorem World.conducts_look {τ : Type} (world : World τ ω) (a : Address) (w : ω) :
    world.Conducts w (world.look a w) (world.ask (.read a) w).2 := rfl

/-- If the object is read now, the answer is one that the adapter makes an outcome of, and nothing
in it is taken for markup. -/
def World.Legible {τ : Type} (world : World τ ω) (nodeHost : String) (a : Address) (w : ω) : Prop :=
  ∃ seen, (world.look a w).Reads nodeHost a (.ok seen) ∧ seen.Unmarked

/-- Looking for credentials exchanges nothing with the cluster. -/
theorem ClusterSettings.exists_authenticate {τ : Type} (c : ClusterSettings)
    (store : CredentialStore) (w : ω) :
    ∃ journal : Journal τ, c.authenticate store w = ⟨(c.connect store).client, w, journal⟩ ∧
      journal.exchanges = [] := by
  let found : Journal τ := (c.connect store).calls.map .credentials
  let noted : List (Event τ) := (c.connect store).notes.map .credentials
  refine ⟨found ++ (noted.map .event ++ []), rfl, ?_⟩
  simp [found, Journal.exchanges]

section Command

variable {s : Surroundings ω} {settings : Settings} {screen : Screen} {w w₁ w₂ : ω}
  {a : Address} {nodeHost : String} {seen : ReadOutcome} {e : Exchange Float}

/-- An object is read, and then comes what the printing of its line comes to. -/
theorem printStatus_of_reads [Console] (h : s.world.Conducts w e w₁)
    (hread : e.Reads nodeHost a (.ok seen)) {result : Screen × Except Halt Bool}
    (hprints : (print (statusLine a seen).1 >>= fun _ => pure (statusLine a seen).2) screen w₁ =
      (⟨result, w₁, []⟩ : Done Float ω (Screen × Except Halt Bool))) :
    printStatus s nodeHost a screen w = ⟨result, w₁, [.exchange e]⟩ := by
  obtain ⟨request, reply⟩ := e
  obtain ⟨rfl, hseen⟩ := hread
  have hask : s.world.ask (.read a) w = (reply, w₁) := h
  have asked : (CommandAct.act (Act.request s.world (.read a)) : CommandAct ω _) screen w =
      ⟨(screen, .ok reply), w₁, [.exchange ⟨.read a, reply⟩]⟩ := by
    simp [act, bind, pure, Act.request, hask]
  have found : (orFault (readOutcome nodeHost a reply.answer) : CommandAct ω _) screen w₁ =
      ⟨(screen, .ok seen), w₁, []⟩ := by
    rw [hseen]
    rfl
  exact bind_eq asked (bind_eq found hprints)

/-- An object is read, and its line printed. -/
theorem printStatus_eq [Console] (h : s.world.Conducts w e w₁)
    (hread : e.Reads nodeHost a (.ok seen)) {printed : String} (hprinted : render (statusLine a seen).1 = .ok printed) :
    printStatus s nodeHost a screen w =
      ⟨({ screen with console := screen.console ++ printed ++ "\n" },
        .ok (seen.shows a.kind.ready)), w₁, [.exchange e]⟩ := by
  refine printStatus_of_reads h hread ?_
  rw [statusLine_ready]
  exact bind_eq (print_of_ok hprinted) rfl

variable {settings : Settings} {service pod : Exchange Float} {serviceSeen podSeen : ReadOutcome}

theorem exists_connected {client : Except Fault Client}
    (hclient : (settings.cluster.connect s.store).client = client) (w : ω) :
    ∃ journal, act (settings.cluster.authenticate s.store) screen w =
        ⟨(screen, .ok client), w, journal⟩ ∧ journal.exchanges = [] := by
  obtain ⟨journal, hauthenticate, hquiet⟩ :=
    settings.cluster.exists_authenticate (τ := Float) s.store w
  refine ⟨journal, ?_, hquiet⟩
  simp [act, bind, pure, hauthenticate, hclient]

/-- **The status is what two reads show**: both are made, both lines are printed, and the status
is good if and only if both objects are ready. -/
theorem showStatus_eq [Console] {client : Client}
    (hclient : (settings.cluster.connect s.store).client = .ok client)
    (hservice : s.world.Conducts w service w₁) (hpod : s.world.Conducts w₁ pod w₂)
    (hserviceRead : service.Reads settings.plan.nodeHost settings.plan.service.address
      (.ok serviceSeen))
    (hpodRead : pod.Reads settings.plan.nodeHost settings.plan.pod.address (.ok podSeen))
    {line line' : String}
    (hline : render (statusLine settings.plan.service.address serviceSeen).1 = .ok line)
    (hline' : render (statusLine settings.plan.pod.address podSeen).1 = .ok line') :
    ∃ journal, showStatus s settings screen w =
        ⟨({ screen with console := screen.console ++ line ++ "\n" ++ line' ++ "\n" },
          if serviceSeen.shows endpointAssigned && podSeen.shows phaseRunning then .ok ()
          else .error (.exit 1)), w₂, journal⟩ ∧ journal.exchanges = [service, pod] := by
  obtain ⟨journal, connected, hquiet⟩ := exists_connected hclient w
  let printed : Screen :=
    { screen with console := screen.console ++ line ++ "\n" ++ line' ++ "\n" }
  have ended : ∀ good : Bool,
      (if good then pure () else halt (.exit 1) : CommandAct ω Unit) printed w₂ =
        ⟨(printed, if good then .ok () else .error (.exit 1)), w₂, []⟩ := by
    rintro (_ | _) <;> rfl
  refine ⟨_, bind_eq connected (bind_eq rfl (bind_eq (printStatus_eq hservice hserviceRead hline)
    (bind_eq (printStatus_eq hpod hpodRead hline') (ended _)))), ?_⟩
  simp only [Journal.exchanges_append, Journal.exchanges_cons, hquiet]
  rfl

/-- Without a client nothing is read. -/
theorem showStatus_of_error [Console] {fault : Fault}
    (hclient : (settings.cluster.connect s.store).client = .error fault) :
    ∃ journal, showStatus s settings screen w = ⟨(screen, .error (.fault fault)), w, journal⟩ ∧
      journal.exchanges = [] := by
  obtain ⟨journal, connected, hquiet⟩ := exists_connected hclient w
  have broken : (orFault (.error fault : Except Fault Client) : CommandAct ω _) screen w =
      ⟨(screen, .error (.fault fault)), w, []⟩ := rfl
  refine ⟨_, bind_eq connected (bind_of_error broken), ?_⟩
  simp [hquiet]

end Command

/-- The line of a Service at which a handle connects. -/
def Settings.endpointLine (s : Settings) (handle : Handle) : String :=
  readyLine s.plan.service.address ("endpoint " ++ (handle.host ++ ":" ++ portText handle.port))

/-- The line of a Pod that runs. -/
def Settings.runningLine (s : Settings) : String := readyLine s.plan.pod.address "phase Running"

/-! ## A fresh fixture -/

/-- Opens the fixture that the settings describe, and acquires. -/
def Settings.acquire (settings : Settings) (store : CredentialStore) (world : World Float ω) :
    Act Float ω (Except Fault (Option (Acquired Float))) := do
  match ← Fixture.opened settings.cluster settings.database settings.poll store with
  | .ok fixture => do
      let (_, acquired) ← fixture.acquire world
      return .ok acquired
  | .error fault => return .error fault

/-- A fresh fixture gets the handle, and all that it asks for are a read of the Service and one of
the Pod. -/
structure Settings.Stands (settings : Settings) (s : Surroundings ω) (w : ω) (handle : Handle) :
    Prop where
  acquired : (settings.acquire s.store s.world w).result = .ok (some (.ok handle))
  requests : (settings.acquire s.store s.world w).journal.exchanges.map Exchange.request =
    settings.reads

namespace Settings

variable {s : Surroundings ω} {settings : Settings} {w w₁ w₂ : ω} {handle : Handle}
  {service pod : Exchange Float}

theorem exists_acquire {client : Client}
    (hclient : (settings.cluster.connect s.store).client = .ok client) (w : ω) :
    let f : Fixture Float := { plan := settings.plan }
    ∃ journal, settings.acquire s.store s.world w = ⟨.ok (f.acquire s.world w).result.2,
        (f.acquire s.world w).world, journal⟩ ∧
      journal.exchanges = (f.acquire s.world w).journal.exchanges := by
  intro f
  obtain ⟨journal, hauthenticate, hquiet⟩ :=
    settings.cluster.exists_authenticate (τ := Float) s.store w
  have hopened : Fixture.opened settings.cluster settings.database settings.poll s.store w =
      (⟨.ok f, w, journal⟩ : Done Float ω _) := by
    simp [Fixture.opened, bind, pure, hauthenticate, hclient, f, plan]
  refine ⟨journal ++ (f.acquire s.world w).journal, ?_, ?_⟩
  · simp [acquire, bind, pure, hopened]
  · simp [hquiet]

/-- Without a client there is no fixture. -/
theorem not_stands_of_error {fault : Fault}
    (hclient : (settings.cluster.connect s.store).client = .error fault) :
    ¬ settings.Stands s w handle := by
  obtain ⟨journal, hauthenticate, -⟩ :=
    settings.cluster.exists_authenticate (τ := Float) s.store w
  intro h
  have acquired := h.acquired
  simp [acquire, Fixture.opened, bind, pure, hauthenticate, hclient] at acquired

/-- **A fixture gets its handle with the two reads alone if and only if they show that the database
stands.** -/
theorem stands_iff {client : Client}
    (hclient : (settings.cluster.connect s.store).client = .ok client)
    (hservice : s.world.Conducts w service w₁) (hpod : s.world.Conducts w₁ pod w₂)
    (hreads : [service, pod].map Exchange.request = settings.reads) :
    settings.Stands s w handle ↔
      ∃ endpoint, Provision.Standing settings.plan service pod endpoint ∧
        handle = Provision.handle settings.plan endpoint := by
  let f : Fixture Float := { plan := settings.plan }
  obtain ⟨journal, hacquire, hexchanges⟩ := exists_acquire hclient (s := s) w
  have hcarries : Carries s.world.Conducts w [service, pod] w₂ :=
    carries_cons.2 ⟨w₁, hservice, carries_singleton.2 hpod⟩
  rw [← Provision.trace_pair_iff]
  constructor
  · rintro ⟨acquired, requests⟩
    rw [hacquire] at acquired requests
    obtain ⟨flight, solo⟩ := Fixture.acquire_solo (Except.ok.inj acquired)
    obtain ⟨o, trace, -, ho⟩ := (Plan.solo_acquire_of_unready rfl (by simp) rfl).1 solo
    obtain ⟨-, rfl⟩ : flight = 0 ∧ Except.ok handle = o := by simpa [f] using ho
    have hpair : (f.acquire s.world w).journal.exchanges = [service, pod] :=
      World.exchanges_unique (Fixture.carries_acquire w) hcarries
        ((hexchanges ▸ requests).trans hreads.symm)
    rwa [hpair] at trace
  · intro trace
    have solo : f.plan.Solo 0 f.cell .acquire [service, pod] _ (.acquired 0 (.ok handle)) :=
      Plan.solo_acquire_of_trace trace
    have enough : [service, pod].length + 6 ≤ patience := show 2 + 6 ≤ patience by decide
    obtain ⟨hresult, hpair⟩ := Fixture.acquire_of_solo solo hcarries enough
    constructor
    · rw [hacquire]
      exact congrArg (fun r => Except.ok r.2) hresult
    · rw [hacquire, hexchanges, hpair, hreads]

end Settings

/-! ## Both of them -/

theorem lastResort_ne_zero [Console] (message : String) (screen : Screen) :
    (lastResort message screen).2 ≠ .exit 0 := by
  unfold lastResort
  split <;> simp

/-- A command that broke did not end well. -/
theorem faultEnding_ne_zero [Console] (f : Fault) (screen : Screen) :
    (faultEnding f screen).2 ≠ .exit 0 := by
  unfold faultEnding
  split
  · simp
  · split
    · simp
    · exact lastResort_ne_zero _ _
  · exact lastResort_ne_zero _ _

namespace Invocation

variable {i : Invocation} {s : Surroundings ω} {settings : Settings} {w w' : ω}

theorem run_of_showStatus [Interpreter] [Console] (hcommand : i.command = .status)
    (hsettings : Settings.resolve i.overrides s.environment = .ok settings) {screen : Screen}
    {outcome : Except Halt Unit} {journal : Journal Float}
    (h : showStatus s settings {} w = ⟨(screen, outcome), w', journal⟩) :
    i.run s w = ⟨concluded screen outcome, w', journal⟩ := by
  have loaded : loadSettings s i.overrides {} w = ⟨({}, .ok settings), w, []⟩ := by
    simp only [loadSettings, hsettings]
    rfl
  have performed : i.command.perform s settings {} w = ⟨(screen, outcome), w', journal⟩ := by
    rw [hcommand]
    exact h
  exact run_of_command (bind_eq loaded performed)

/-- Without a client the status is not good, and nothing is read. -/
theorem run_of_no_client [Interpreter] [Console] (hcommand : i.command = .status)
    (hsettings : Settings.resolve i.overrides s.environment = .ok settings) {fault : Fault}
    (hclient : (settings.cluster.connect s.store).client = .error fault) :
    (i.run s w).result.2 ≠ .exit 0 ∧ (i.run s w).journal.exchanges = [] := by
  obtain ⟨journal, hshow, hquiet⟩ := showStatus_of_error hclient
  rw [run_of_showStatus hcommand hsettings hshow]
  exact ⟨faultEnding_ne_zero _ _, hquiet⟩

section Reads

variable {client : Client} {service pod : Exchange Float} {w₁ w₂ : ω}
  {serviceSeen podSeen : ReadOutcome}
  (hserviceRead : service.Reads settings.plan.nodeHost settings.plan.service.address
    (.ok serviceSeen))
  (hpodRead : pod.Reads settings.plan.nodeHost settings.plan.pod.address (.ok podSeen))

include hserviceRead hpodRead

/-- A run with a client is the two reads, their lines, and what they show. -/
theorem exists_run_of_reads [Interpreter] [Console] (hcommand : i.command = .status)
    (hsettings : Settings.resolve i.overrides s.environment = .ok settings)
    (hclient : (settings.cluster.connect s.store).client = .ok client)
    (hservice : s.world.Conducts w service w₁) (hpod : s.world.Conducts w₁ pod w₂)
    {line line' : String}
    (hline : render (statusLine settings.plan.service.address serviceSeen).1 = .ok line)
    (hline' : render (statusLine settings.plan.pod.address podSeen).1 = .ok line') :
    ∃ journal, i.run s w = ⟨({ console := line ++ "\n" ++ line' ++ "\n" },
        if serviceSeen.shows endpointAssigned && podSeen.shows phaseRunning then .exit 0
        else .exit 1), w₂, journal⟩ ∧ journal.exchanges = [service, pod] := by
  obtain ⟨journal, hshow, hpair⟩ :=
    showStatus_eq hclient hservice hpod hserviceRead hpodRead hline hline'
  refine ⟨journal, ?_, hpair⟩
  rw [run_of_showStatus hcommand hsettings hshow]
  simp only [String.empty_append]
  split <;> rfl

/-- If the reads show that the database stands, the lines say at which endpoint. -/
theorem lines_of_standing [Console] {endpoint : Endpoint}
    (standing : Provision.Standing settings.plan service pod endpoint)
    (hserviceText : serviceSeen.Unmarked)
    (hservice : Plain settings.plan.service.address.ref.toList)
    (hpod : Plain settings.plan.pod.address.ref.toList) :
    render (statusLine settings.plan.service.address serviceSeen).1 = .ok (laid
        (settings.endpointLine (Provision.handle settings.plan endpoint)).toList) ∧
      render (statusLine settings.plan.pod.address podSeen).1 =
        .ok (laid settings.runningLine.toList) := by
  obtain ⟨⟨st, hst, hendpoint⟩, p, hp, running⟩ := standing
  obtain rfl : serviceSeen = .found st := Except.ok.inj (hserviceRead.2.symm.trans hst.2)
  obtain rfl : podSeen = .found p := Except.ok.inj (hpodRead.2.symm.trans hp.2)
  exact ⟨render_service rfl hservice hendpoint (hserviceText.1 endpoint hendpoint),
    render_pod rfl hpod hp.2 running⟩

end Reads

section Legible

variable [Interpreter] [Console] (hcommand : i.command = .status)
  (hsettings : Settings.resolve i.overrides s.environment = .ok settings)
  (hservice : s.world.Legible settings.plan.nodeHost settings.plan.service.address w)
  (hpod : s.world.Legible settings.plan.nodeHost settings.plan.pod.address
    (s.world.ask (.read settings.plan.service.address) w).2)

include hcommand hsettings hservice hpod

/-- **If a fresh fixture gets its handle by reading each object once, the status is good** and
prints that both objects are ready, the Service at the endpoint of that handle. -/
theorem run_of_stands {handle : Handle} (stands : settings.Stands s w handle) :
    (i.run s w).result =
      ({ console :=
          laid (settings.endpointLine handle).toList ++ "\n" ++
            laid settings.runningLine.toList ++ "\n" }, .exit 0) := by
  obtain ⟨hcluster, hdatabase, -⟩ := Settings.valid_of_resolve hsettings
  have hplain := Settings.plain_refs hcluster hdatabase
  obtain ⟨serviceSeen, hserviceRead, hserviceText⟩ := hservice
  obtain ⟨podSeen, hpodRead, hpodText⟩ := hpod
  cases hclient : (settings.cluster.connect s.store).client with
  | error fault => exact absurd stands (Settings.not_stands_of_error hclient)
  | ok client =>
    have hconducts := s.world.conducts_look settings.plan.service.address w
    have hconducts' := s.world.conducts_look settings.plan.pod.address
      (s.world.ask (.read settings.plan.service.address) w).2
    obtain ⟨endpoint, standing, rfl⟩ :=
      (Settings.stands_iff hclient hconducts hconducts' rfl).1 stands
    obtain ⟨hready, hrunning⟩ :=
      lines_of_standing hserviceRead hpodRead standing hserviceText hplain.1 hplain.2
    obtain ⟨journal, hrun, -⟩ := exists_run_of_reads hserviceRead hpodRead hcommand hsettings
      hclient hconducts hconducts' hready hrunning
    have hshown := (Provision.exists_standing_iff hserviceRead hpodRead).1 ⟨endpoint, standing⟩
    rw [hrun]
    simp [hshown.1, hshown.2]

/-- **The status is good only if a fresh fixture gets its handle by reading each object once.** -/
theorem exists_stands_of_run (good : (i.run s w).result.2 = .exit 0) :
    ∃ handle, settings.Stands s w handle := by
  obtain ⟨hcluster, hdatabase, -⟩ := Settings.valid_of_resolve hsettings
  have hplain := Settings.plain_refs hcluster hdatabase
  obtain ⟨serviceSeen, hserviceRead, hserviceText⟩ := hservice
  obtain ⟨podSeen, hpodRead, hpodText⟩ := hpod
  cases hclient : (settings.cluster.connect s.store).client with
  | error fault => exact absurd good (run_of_no_client hcommand hsettings hclient).1
  | ok client =>
    have hconducts := s.world.conducts_look settings.plan.service.address w
    have hconducts' := s.world.conducts_look settings.plan.pod.address
      (s.world.ask (.read settings.plan.service.address) w).2
    obtain ⟨line, hline⟩ := exists_render_statusLine hserviceRead.2 hserviceText hplain.1
    obtain ⟨line', hline'⟩ := exists_render_statusLine hpodRead.2 hpodText hplain.2
    obtain ⟨journal, hrun, -⟩ := exists_run_of_reads hserviceRead hpodRead hcommand hsettings
      hclient hconducts hconducts' hline hline'
    have hshown : serviceSeen.shows endpointAssigned ∧ podSeen.shows phaseRunning := by
      rw [hrun] at good
      rw [← Bool.and_eq_true]
      by_contra hbad
      simp [hbad] at good
    obtain ⟨endpoint, standing⟩ := (Provision.exists_standing_iff hserviceRead hpodRead).2 hshown
    exact ⟨_, (Settings.stands_iff hclient hconducts hconducts' rfl).2 ⟨endpoint, standing, rfl⟩⟩

/-- The status reads each object once if there is a client, and asks for nothing else. -/
theorem requests_of_run : (i.run s w).journal.exchanges.map Exchange.request =
    match (settings.cluster.connect s.store).client with
    | .ok _ => settings.reads
    | .error _ => [] := by
  obtain ⟨hcluster, hdatabase, -⟩ := Settings.valid_of_resolve hsettings
  have hplain := Settings.plain_refs hcluster hdatabase
  obtain ⟨serviceSeen, hserviceRead, hserviceText⟩ := hservice
  obtain ⟨podSeen, hpodRead, hpodText⟩ := hpod
  cases hclient : (settings.cluster.connect s.store).client with
  | error fault =>
    rw [(run_of_no_client hcommand hsettings hclient).2]
    rfl
  | ok client =>
    obtain ⟨line, hline⟩ := exists_render_statusLine hserviceRead.2 hserviceText hplain.1
    obtain ⟨line', hline'⟩ := exists_render_statusLine hpodRead.2 hpodText hplain.2
    obtain ⟨journal, hrun, hpair⟩ := exists_run_of_reads hserviceRead hpodRead hcommand hsettings
      hclient (s.world.conducts_look _ _) (s.world.conducts_look _ _) hline hline'
    rw [hrun, hpair]
    rfl

end Legible

/-- **The status is good if and only if a fresh fixture gets its handle by reading each object
once**, and then it prints a line with the endpoint of that handle.  On a console on which the two
lines fit they are shown as they stand, if the host has no control characters in it.  The status
itself reads each object once, and asks for nothing else. -/
theorem run_status [Interpreter] [Console] (hcommand : i.command = .status)
    (hsettings : Settings.resolve i.overrides s.environment = .ok settings)
    (hservice : s.world.Legible settings.plan.nodeHost settings.plan.service.address w)
    (hpod : s.world.Legible settings.plan.nodeHost settings.plan.pod.address
      (s.world.ask (.read settings.plan.service.address) w).2) :
    ((i.run s w).result.2 = .exit 0 ↔ ∃ handle, settings.Stands s w handle) ∧
    (∀ handle, settings.Stands s w handle →
      (i.run s w).result.1.console = laid (settings.endpointLine handle).toList ++ "\n" ++
        laid settings.runningLine.toList ++ "\n" ∧
      ((∀ c ∈ handle.host.toList, Markup.isControl c = false ∧ c ≠ '\t') →
        Console.Fits (settings.endpointLine handle) → Console.Fits settings.runningLine →
        (i.run s w).result.1.console =
          settings.endpointLine handle ++ "\n" ++ settings.runningLine ++ "\n")) ∧
    (i.run s w).journal.exchanges.map Exchange.request =
      match (settings.cluster.connect s.store).client with
      | .ok _ => settings.reads
      | .error _ => [] := by
  have good {handle : Handle} (stands : settings.Stands s w handle) :=
    run_of_stands hcommand hsettings hservice hpod stands
  refine ⟨⟨exists_stands_of_run hcommand hsettings hservice hpod, fun ⟨handle, stands⟩ => ?_⟩,
    fun handle stands => ⟨by rw [good stands], fun hhost fits fits' => ?_⟩,
    requests_of_run hcommand hsettings hservice hpod⟩
  · rw [good stands]
  · obtain ⟨hcluster, hdatabase, -⟩ := Settings.valid_of_resolve hsettings
    have hplain := Settings.plain_refs hcluster hdatabase
    have hendpoint : ∀ c ∈ (settings.endpointLine handle).toList,
        Markup.isControl c = false ∧ c ≠ '\t' :=
      visible_readyLine hplain.1 (Endpoint.visible_text (e := ⟨handle.host, handle.port⟩) hhost)
    have hrunning : ∀ c ∈ settings.runningLine.toList, Markup.isControl c = false ∧ c ≠ '\t' :=
      visible_readyLine hplain.2 (Markup.visible_of_all rfl)
    rw [good stands]
    exact congrArg₂ (fun line line' => line ++ "\n" ++ line' ++ "\n")
      (Markup.laid_of_fits hendpoint fits) (Markup.laid_of_fits hrunning fits')

end Invocation

/-! ### Two objects that are ready -/

namespace Ready

/-- A Service that is exposed at a node port. -/
def exposed : View :=
  { spec := some {
      serviceType := some "NodePort"
      ports := some [{ port := some 5432, nodePort := some 30001 }] } }

/-- A scripted cluster on which both objects are ready. -/
def cluster : Simulator Float :=
  { clock := 0
    objects := [⟨⟨.service, "default", "postgres-service"⟩, [exposed]⟩,
      ⟨⟨.pod, "default", "postgres"⟩, [Simulator.podView "Running"]⟩] }

/-- The command for the status, without options. -/
def invocation : Invocation := ⟨false, .status, []⟩

/-- An environment that names the host, and a scripted cluster that can be reached. -/
def surroundings (host : String) : Surroundings (Simulator Float) :=
  ⟨Simulator.world, [("PG_FIXTURE_NODE_HOST", host)], ⟨.ok (), .ok ()⟩⟩

def settings (host : String) : Settings := ⟨{ nodeHost := host }, {}, PollSettings.standard⟩

def handle (host : String) : Handle := Provision.handle (settings host).plan ⟨host, some 30001⟩

/-- Without options the settings are those of the environment. -/
theorem resolve_settings {host : String}
    (h : Settings.build [] [] [] (surroundings host).environment = .ok (settings host)) :
    Settings.resolve invocation.overrides (surroundings host).environment =
      .ok (settings host) := by
  have hunknown : Keywords.unknown (Keywords.given []) = [] :=
    Settings.unknown_eq_nil_iff.2 nofun
  have hresolve := @Settings.resolve_eq [] (surroundings host).environment _ List.nodup_nil
  rw [hunknown, h] at hresolve
  exact hresolve.trans h

theorem legible_service {host : String} (h : Markup.Unmarked host) :
    (surroundings host).world.Legible (settings host).plan.nodeHost
      (settings host).plan.service.address cluster := by
  refine ⟨_, ⟨rfl, rfl⟩, ?_, nofun⟩
  rintro e ⟨⟩
  exact h

theorem legible_pod (host : String) :
    (surroundings host).world.Legible (settings host).plan.nodeHost
      (settings host).plan.pod.address
      ((surroundings host).world.ask (.read (settings host).plan.service.address) cluster).2 := by
  refine ⟨_, ⟨rfl, rfl⟩, nofun, ?_⟩
  rintro p ⟨⟩
  exact ⟨by decide, by decide⟩

/-- The fixture gets its handle, whatever the host is called. -/
theorem stands (host : String) :
    (settings host).Stands (surroundings host) cluster (handle host) := by
  have hservice := World.conducts_look (surroundings host).world
    (settings host).plan.service.address cluster
  refine (Settings.stands_iff (by rfl) hservice
    (World.conducts_look _ (settings host).plan.pod.address _) rfl).2 ⟨_, ⟨?_, ?_⟩, rfl⟩
  · exact ⟨_, ⟨rfl, rfl⟩, rfl⟩
  · exact ⟨_, ⟨rfl, rfl⟩, rfl⟩

end Ready

/-- **On a scripted cluster where both objects are ready**, the status is good and shows the node
port of the Service. -/
theorem Invocation.run_status_of_ready :
    let done := Ready.invocation.run (Ready.surroundings "127.0.0.1") Ready.cluster
    done.result.2 = .exit 0 ∧
    done.result.1.console =
      "✓ Service default/postgres-service: ready (endpoint 127.0.0.1:30001)\n" ++
        "✓ Pod default/postgres: ready (phase Running)\n" := by
  intro done
  obtain ⟨hgood, hconsole, -⟩ := Invocation.run_status rfl (Ready.resolve_settings rfl)
    (Ready.legible_service ⟨by decide, by decide⟩) (Ready.legible_pod "127.0.0.1")
  have hstands := Ready.stands "127.0.0.1"
  have hhost : ∀ c ∈ "127.0.0.1".toList, Markup.isControl c = false ∧ c ≠ '\t' :=
    Markup.visible_of_all rfl
  refine ⟨hgood.2 ⟨_, hstands⟩, ((hconsole _ hstands).2 hhost ?_ ?_).trans rfl⟩
  · exact ⟨by decide, fun _ _ => Nat.zero_le _⟩
  · exact ⟨by decide, fun _ _ => Nat.zero_le _⟩

/-- **The endpoint of the handle is not shown if there is a tab in the host**: the status is good,
and nowhere in what is printed does the host stand with its port. -/
theorem Invocation.run_status_of_tab :
    let done := Ready.invocation.run (Ready.surroundings "db\thost") Ready.cluster
    let handle := Ready.handle "db\thost"
    (Ready.settings "db\thost").Stands (Ready.surroundings "db\thost") Ready.cluster handle ∧
    done.result.2 = .exit 0 ∧
    ¬ (handle.host ++ ":" ++ portText handle.port).toList <:+: done.result.1.console.toList := by
  intro done handle
  have hstands := Ready.stands "db\thost"
  have hrun := Invocation.run_of_stands rfl (Ready.resolve_settings rfl)
    (Ready.legible_service ⟨by decide, by decide⟩) (Ready.legible_pod "db\thost") hstands
  refine ⟨hstands, by rw [hrun], fun hwithin => ?_⟩
  have htab : '\t' ∈ done.result.1.console.toList := hwithin.subset (by decide)
  simp only [done, hrun, String.toList_append, List.mem_append] at htab
  rcases htab with ((hline | hbreak) | hline) | hbreak
  · exact (Markup.visible_laid _ _ hline).2 rfl
  · exact absurd hbreak (by decide)
  · exact (Markup.visible_laid _ _ hline).2 rfl
  · exact absurd hbreak (by decide)

end EphemeralDatabase
