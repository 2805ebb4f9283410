import EphemeralDatabase.Proofs.CommandLine.Status
import EphemeralDatabase.Proofs.Machine.Run
import EphemeralDatabase.Proofs.Teardown.Course

/-!
# What is shown of settings and of failures

Settings and failures are shown with texts in them that come from outside.  Of the settings these
are five (`Settings.chosen`), since names, types and numbers have a form in which nothing means
anything to the console; of a failure it is the reason.

The settings, the status and the report of a deletion are lines of known texts
(`Settings.display`, `ReadOutcome.line`, `Report.display`).  A line is shown as it stands only if
the texts in it from outside are literal, on any console, and if they are it is shown so on a
console on which it fits.  A command that prints such lines goes on to its own exit status if and
only if each of them can be printed, which literal lines always can (`Settings.told_iff`).
-/

namespace EphemeralDatabase

open Console (render)
open Markup (Plain)

/-! ## Settings -/

namespace Settings

variable {s : Settings}

/-- The context as it is shown. -/
def contextText (s : Settings) : String :=
  match s.cluster.context with
  | some c => if c = "" then "(current)" else c
  | none => "(current)"

/-- The node port as it is shown. -/
def nodePortText (s : Settings) : String :=
  match s.database.nodePort with
  | some n => if n = 0 then "auto" else toString n
  | none => "auto"

/-- The settings that may be any text, as they are shown. -/
def chosen (s : Settings) : List String :=
  [s.contextText, s.cluster.nodeHost, s.database.image, s.database.database, s.database.user]

/-- A setting with its label. -/
def entry (label value : String) : Line := { text := label ++ ": " ++ value }

/-- The lines that show the settings. -/
def display (s : Settings) : List Line :=
  [⟨some .yellow, "Cluster:"⟩,
    entry "  namespace       " s.cluster.space,
    entry "  kube_context    " s.contextText,
    entry "  node_host       " s.cluster.nodeHost,
    ⟨some .yellow, "Database:"⟩,
    entry "  service         " (s.database.serviceName ++ " (" ++ s.database.serviceType ++ ")"),
    entry "  pod             " s.database.podName,
    entry "  image           " s.database.image,
    entry "  port            "
      (toString s.database.containerPort ++ " (node port " ++ s.nodePortText ++ ")"),
    entry "  database        " s.database.database,
    entry "  user            " s.database.user,
    entry "  password        " "********",
    ⟨some .yellow, "Readiness:"⟩,
    entry "  service         " s.poll.service.text,
    entry "  pod             " s.poll.pod.text]

theorem lines_eq (s : Settings) : s.lines = s.display.map Line.marked := by
  have hentry (label value : String) : (entry label value).marked = label ++ ": " ++ value := rfl
  simp only [lines, display, List.map_cons, List.map_nil, hentry]
  rfl

theorem plain_nodePortText (s : Settings) : Plain s.nodePortText.toList := by
  unfold nodePortText
  split
  · split
    · decide
    · exact (Numeric.toString_int _).plain
  · decide

end Settings

theorem Pace.plain_text (p : Pace Float) : Plain p.text.toList := by
  simp only [text, Markup.plain_append]
  exact ⟨⟨⟨⟨by decide, (Decimal.numeric_exactText _).plain⟩, by decide⟩,
    (Decimal.numeric_exactText _).plain⟩, by decide⟩

namespace Settings

/-- **The settings are literal if and only if those are that may be any text.** -/
theorem display_literal_iff {s : Settings} (hcluster : s.cluster.Valid)
    (hdatabase : s.database.Valid) :
    (∀ l ∈ s.display, l.Literal) ↔ ∀ text ∈ s.chosen, Markup.Literal text.toList := by
  have hspace := Form.plain_of_label hcluster.space_label
  have hservice :
      Plain (s.database.serviceName ++ " (" ++ s.database.serviceType ++ ")").toList := by
    simp only [Markup.plain_append]
    refine ⟨⟨⟨Form.plain_of_label hdatabase.name_labels.1, by decide⟩, ?_⟩, by decide⟩
    rcases hdatabase.serviceType_mem with htype | htype | htype <;> rw [htype] <;> decide
  have hpod := Form.plain_of_label hdatabase.name_labels.2
  have hport : Plain (toString s.database.containerPort ++ " (node port " ++ s.nodePortText ++
      ")").toList := by
    simp only [Markup.plain_append]
    exact ⟨⟨⟨(Numeric.toString_int _).plain, by decide⟩, s.plain_nodePortText⟩, by decide⟩
  have hpassword : Plain "********".toList := by decide
  have htitle (title : String) (h : Plain title.toList) :
      (⟨some .yellow, title ++ ":"⟩ : Line).Literal :=
    ⟨by simpa using h.literal_title, fun _ => by simp⟩
  have hclusterTitle : (⟨some .yellow, "Cluster:"⟩ : Line).Literal := htitle "Cluster" (by decide)
  have hdatabaseTitle : (⟨some .yellow, "Database:"⟩ : Line).Literal :=
    htitle "Database" (by decide)
  have hreadinessTitle : (⟨some .yellow, "Readiness:"⟩ : Line).Literal :=
    htitle "Readiness" (by decide)
  -- The lines in which nothing is chosen are literal, and the others are if their values are.
  simp (disch := decide) only [display, chosen, entry, List.forall_mem_cons,
    Line.literal_entry_iff, hclusterTitle, hdatabaseTitle, hreadinessTitle, hspace.literal,
    hservice.literal, hpod.literal, hport.literal, hpassword.literal,
    s.poll.service.plain_text.literal, s.poll.pod.plain_text.literal, true_and, List.not_mem_nil,
    false_imp_iff, implies_true]

end Settings

/-! ## What a command tells -/

namespace Screen

variable {screen : Screen} {lines : List Line} {outcome : Except Halt Unit}

/-- What comes of a command that prints lines and then ends in its way: a line that cannot be
printed ends it before. -/
def telling [Console] (screen : Screen) (lines : List Line) (outcome : Except Halt Unit) :
    Screen × Except Halt Unit :=
  match screen.printAll (lines.map Line.marked) with
  | (screen, none) => (screen, outcome)
  | (screen, some e) => (screen, .error (.unprinted e))

section Console

variable [Console]

/-- The command ends in its way if and only if every line can be printed. -/
theorem telling_snd_iff (hends : ∀ e, outcome ≠ .error (.unprinted e)) :
    (screen.telling lines outcome).2 = outcome ↔
      ∀ l ∈ lines, Console.problem? l.marked = none := by
  rw [← printAll_ends_iff screen]
  unfold telling
  cases hprinted : screen.printAll (lines.map Line.marked) with
  | mk screen' failure =>
    cases failure with
    | none => simp
    | some e => simpa using fun h => hends e h.symm

/-- The lines are told as they stand if and only if they are printed so. -/
theorem telling_eq_iff (hends : ∀ e, outcome ≠ .error (.unprinted e)) :
    screen.telling lines outcome = (screen.showing (lines.map Line.text), outcome) ↔
      screen.printAll (lines.map Line.marked) =
        (screen.showing (lines.map Line.text), none) := by
  unfold telling
  cases hprinted : screen.printAll (lines.map Line.marked) with
  | mk screen' failure =>
    cases failure with
    | none => simp
    | some e =>
      simp only [Prod.mk.injEq, reduceCtorEq, and_false, iff_false, not_and]
      exact fun _ h => hends e h.symm

end Console

end Screen

/-! ## Failures -/

/-- What is said of a failure. -/
def Failure.line (f : Failure) : Line := ⟨some .red, "❌ " ++ f.text⟩

/-- The failure is told as it is. -/
structure Failure.Literal (f : Failure) : Prop where
  reason : Markup.Literal f.reason.toList
  apart : f.reason.toList.getLast? ≠ some '\\'

/-- All that is said of a failure before its reason is plain. -/
theorem Failure.exists_label {f : Failure} (href : Plain f.address.ref.toList) :
    ∃ label, Plain label.toList ∧ f.line = ⟨some .red, label ++ ": " ++ f.reason⟩ := by
  have entitled (status : String) (h : Plain status.toList)
      (htext : f.text =
        f.operation.name ++ " " ++ f.address.ref ++ " failed (" ++ status ++ "): " ++ f.reason) :
      ∃ label, Plain label.toList ∧ f.line = ⟨some .red, label ++ ": " ++ f.reason⟩ := by
    refine ⟨"❌ " ++ f.operation.name ++ " " ++ f.address.ref ++ " failed (" ++ status ++ ")",
      ?_, ?_⟩
    · simp only [Markup.plain_append]
      exact ⟨⟨⟨⟨⟨⟨by decide, by cases f.operation <;> decide⟩, by decide⟩, href⟩, by decide⟩, h⟩,
        by decide⟩
    · simp [line, htext, ← String.toList_inj]
  cases hstatus : f.status with
  | none => exact entitled "no response" (by decide) (by simp [text, hstatus])
  | some n =>
    refine entitled ("HTTP " ++ toString n) ?_ (by simp [text, hstatus])
    exact Markup.plain_append.2 ⟨by decide, (Numeric.toString_int n).plain⟩

/-- **A failure is told as it is if and only if its reason is literal** and does not end with a
backslash. -/
theorem Failure.literal_line_iff {f : Failure} (href : Plain f.address.ref.toList) :
    f.line.Literal ↔ f.Literal := by
  obtain ⟨label, hlabel, hline⟩ := exists_label href
  rw [hline, Line.literal_coloured_iff hlabel]
  exact ⟨fun h => ⟨h.1, h.2⟩, fun h => ⟨h.reason, h.apart⟩⟩

/-- **A failure cannot be told if there is a closing tag in its reason.** -/
theorem Failure.exists_problem [Console] {f : Failure} {before inside after : String}
    (href : Plain f.address.ref.toList)
    (hreason : f.reason = before ++ "[" ++ inside ++ "]" ++ after)
    (hbefore : '[' ∉ before.toList ∧ before.toList.getLast? ≠ some '\\')
    (hafter : '[' ∉ after.toList ∧ after.toList.getLast? ≠ some '\\')
    (htag : Markup.IsTag inside.toList) (hcloses : inside.toList.head? = some '/') :
    ∃ e, Console.problem? f.line.marked = some e := by
  obtain ⟨label, hlabel, hline⟩ := exists_label href
  have hopen : '[' ∉ (label ++ ": " ++ before).toList := by
    simp only [String.toList_append, List.mem_append, not_or]
    exact ⟨⟨hlabel.notMem rfl, by decide⟩, hbefore.1⟩
  have hlast : (label ++ ": " ++ before).toList.getLast? ≠ some '\\' := by
    rw [String.toList_append, List.getLast?_append]
    cases hend : before.toList.getLast? with
    | none => simp
    | some c => simpa [hend] using hbefore.2
  have hmarked : f.line.marked =
      coloured "red" (label ++ ": " ++ before ++ "[" ++ inside ++ "]" ++ after) := by
    rw [hline, hreason]
    simp only [Line.marked, Colour.red, String.append_assoc]
  rw [hmarked]
  exact exists_problem_coloured Markup.isStyle_red ⟨hopen, hlast⟩ hafter htag hcloses

/-! ## The status -/

/-- What is said of an object that is there. -/
def ResourceState.told (a : Address) (s : ResourceState) : String :=
  if a.kind.ready s then "ready (" ++ readyDetail s ++ ")"
  else "not ready (" ++ unreadyDetail s ++ ")"

namespace ReadOutcome

variable {a : Address} {seen : ReadOutcome} {nodeHost : String} {answer : Answer}

/-- The line for one object. -/
def line (a : Address) : ReadOutcome → Line
  | .notFound _ => ⟨some .yellow, "✗ " ++ a.ref ++ ": " ++ "absent"⟩
  | .failed f => f.line
  | .found s =>
      if a.kind.ready s then ⟨some .green, "✓ " ++ a.ref ++ ": " ++ s.told a⟩
      else ⟨some .yellow, "… " ++ a.ref ++ ": " ++ s.told a⟩

/-- What was read is told as it is. -/
def Literal (a : Address) : ReadOutcome → Prop
  | .notFound _ => True
  | .failed f => f.Literal
  | .found s => Markup.Literal (s.told a).toList

theorem marked_line (a : Address) (seen : ReadOutcome) :
    (seen.line a).marked = (statusLine a seen).1 := by
  cases seen with
  | notFound b => simp [line, Line.marked, Colour.yellow, statusLine, String.append_assoc]
  | failed f => rfl
  | found s =>
    simp only [line, statusLine, ResourceState.told]
    split <;> simp [Line.marked, coloured, Colour.green, Colour.yellow, ← String.toList_inj]

/-- **A status is told as it is if and only if what was read is**. -/
theorem literal_line_iff (href : Plain a.ref.toList)
    (hread : readOutcome nodeHost a answer = .ok seen) :
    (seen.line a).Literal ↔ seen.Literal a := by
  cases seen with
  | notFound b =>
    have hlabel : Plain ("✗ " ++ a.ref).toList := Markup.plain_append.2 ⟨by decide, href⟩
    refine (Line.literal_coloured_iff hlabel .yellow).trans (iff_true_intro ⟨?_, by decide⟩)
    exact Plain.literal (by decide)
  | failed f =>
    obtain ⟨rfl, -⟩ := address_of_failed hread
    exact Failure.literal_line_iff href
  | found s =>
    have hlast : (s.told a).toList.getLast? ≠ some '\\' := by
      unfold ResourceState.told
      split <;> simp only [String.toList_append, List.getLast?_append] <;> simp
    simp only [line]
    split
    · have hlabel : Plain ("✓ " ++ a.ref).toList := Markup.plain_append.2 ⟨by decide, href⟩
      exact (Line.literal_coloured_iff hlabel .green).trans (and_iff_left hlast)
    · have hlabel : Plain ("… " ++ a.ref).toList := Markup.plain_append.2 ⟨by decide, href⟩
      exact (Line.literal_coloured_iff hlabel .yellow).trans (and_iff_left hlast)

end ReadOutcome

section Command

open CommandAct

variable {ω : Type} {s : Surroundings ω} {settings : Settings} {screen : Screen} {w w₁ w₂ : ω}
  {client : Client} {service pod : Exchange Float} {serviceSeen podSeen : ReadOutcome}

/-- A line that cannot be printed ends the command. -/
theorem printStatus_of_error [Console] {a : Address} {nodeHost : String} {seen : ReadOutcome}
    {e : Exchange Float} {unprinted : Markup.PrintError} (h : s.world.Conducts w e w₁)
    (hread : e.Reads nodeHost a (.ok seen))
    (hline : render (statusLine a seen).1 = .error unprinted) (screen : Screen) :
    printStatus s nodeHost a screen w =
      ⟨(screen, .error (.unprinted unprinted)), w₁, [.exchange e]⟩ :=
  printStatus_of_reads h hread (bind_of_error (print_of_error hline))

/-- **The status tells what was read of both objects.** -/
theorem showStatus_telling [Console]
    (hclient : (settings.cluster.connect s.store).client = .ok client)
    (hservice : s.world.Conducts w service w₁) (hpod : s.world.Conducts w₁ pod w₂)
    (hserviceRead : service.Reads settings.plan.nodeHost settings.plan.service.address
      (.ok serviceSeen))
    (hpodRead : pod.Reads settings.plan.nodeHost settings.plan.pod.address (.ok podSeen)) :
    (showStatus s settings screen w).result =
      screen.telling [serviceSeen.line settings.plan.service.address,
          podSeen.line settings.plan.pod.address]
        (if serviceSeen.shows endpointAssigned && podSeen.shows phaseRunning then .ok ()
          else .error (.exit 1)) := by
  obtain ⟨journal, connected, -⟩ := exists_connected hclient w
  simp only [Screen.telling, List.map_cons, List.map_nil, ReadOutcome.marked_line, Screen.printAll,
    Screen.print]
  cases hline : render (statusLine settings.plan.service.address serviceSeen).1 with
  | error unprinted =>
    have stopped := printStatus_of_error hservice hserviceRead hline
    have ended : showStatus s settings screen w = _ :=
      bind_eq connected (bind_eq rfl (bind_of_error (stopped _)))
    rw [ended]
    rfl
  | ok line =>
    cases hline' : render (statusLine settings.plan.pod.address podSeen).1 with
    | error unprinted =>
      have stopped := printStatus_of_error hpod hpodRead hline'
      have ended : showStatus s settings screen w = _ := bind_eq connected (bind_eq rfl
        (bind_eq (printStatus_eq hservice hserviceRead hline) (bind_of_error (stopped _))))
      rw [ended]
      rfl
    | ok line' =>
      obtain ⟨journal, hshow, -⟩ :=
        showStatus_eq hclient hservice hpod hserviceRead hpodRead hline hline'
      rw [hshow]
      rfl

end Command

/-! ## The report of a deletion -/

/-- The lines of a report. -/
def Report.display (r : Report) : List Line :=
  (r.deleted.map fun a => ⟨some .green, "✅ " ++ a.ref ++ " deleted"⟩) ++
    ((r.alreadyGone.map fun a =>
        ⟨some .yellow, "⚠️  " ++ a.ref ++ " not found or already deleted"⟩) ++
      r.failures.map Failure.line)

/-- **A report is told as it is if and only if every failure in it is.** -/
theorem Report.literal_display_iff {r : Report} {addresses : List Address}
    (h : Teardown.About addresses r) (hrefs : ∀ a ∈ addresses, Plain a.ref.toList) :
    (∀ l ∈ r.display, l.Literal) ↔ ∀ f ∈ r.failures, f.Literal := by
  have hdeleted : ∀ a ∈ r.deleted,
      (⟨some .green, "✅ " ++ a.ref ++ " deleted"⟩ : Line).Literal := fun a ha => by
    refine Line.literal_of_plain ?_
    simp only [Markup.plain_append]
    exact ⟨⟨by decide, hrefs a (h.deleted a ha)⟩, by decide⟩
  have hgone : ∀ a ∈ r.alreadyGone,
      (⟨some .yellow, "⚠️  " ++ a.ref ++ " not found or already deleted"⟩ : Line).Literal :=
    fun a ha => by
      refine Line.literal_of_plain ?_
      simp only [Markup.plain_append]
      exact ⟨⟨by decide, hrefs a (h.alreadyGone a ha)⟩, by decide⟩
  have hfailure : ∀ f ∈ r.failures, (f.line.Literal ↔ f.Literal) := fun f hf =>
    Failure.literal_line_iff (hrefs _ (h.failures f hf))
  simp only [display, List.forall_mem_append, List.forall_mem_map]
  exact ⟨fun hall f hf => (hfailure f hf).1 (hall.2.2 f hf),
    fun hall => ⟨hdeleted, hgone, fun f hf => (hfailure f hf).2 (hall f hf)⟩⟩

section Command

open CommandAct

variable {ω : Type} {s : Surroundings ω} {settings : Settings} {screen : Screen} {w : ω}
  {client : Client} {report : Report}

theorem result_bind_of_ok {α : Type} {act : CommandAct ω α} {next : α → CommandAct ω Unit} {a : α}
    {screen' : Screen} {w' : ω} {journal : Journal Float}
    (h : act screen w = ⟨(screen', .ok a), w', journal⟩) :
    ((act >>= next) screen w).result = (next a screen' w').result := by
  rw [bind_of_ok h]

/-- Lines that are printed before others are told before them. -/
theorem printEach_telling [Console] {next : CommandAct ω Unit} {rest : List Line}
    {outcome : Except Halt Unit}
    (h : ∀ screen w, (next screen w).result = screen.telling rest outcome) (lines : List Line)
    (screen : Screen) (w : ω) :
    ((printEach (lines.map Line.marked) >>= fun _ => next) screen w).result =
      screen.telling (lines ++ rest) outcome := by
  rw [Screen.telling, List.map_append, Screen.printAll_append]
  cases hprinted : screen.printAll (lines.map Line.marked) with
  | mk screen' failure =>
    cases failure with
    | none =>
      have printed : (printEach (lines.map Line.marked) : CommandAct ω Unit) screen w =
          ⟨(screen', .ok ()), w, []⟩ := by
        simp [printEach, draw, hprinted, pure]
      rw [bind_of_ok printed]
      exact h screen' w
    | some e =>
      have stopped : (printEach (lines.map Line.marked) : CommandAct ω Unit) screen w =
          ⟨(screen', .error (.unprinted e)), w, []⟩ := by
        simp [printEach, draw, hprinted, pure]
      rw [bind_of_error stopped]

/-- **A deletion tells its report.** -/
theorem deleteDatabase_telling [Console]
    (hclient : (settings.cluster.connect s.store).client = .ok client)
    (hreport : (Teardown.deleteAll s.world settings.plan.teardownOrder w).result = .ok report) :
    (deleteDatabase s settings screen w).result =
      (screen.title "Deleting database").telling report.display
        (if report.ok then .ok () else .error (.exit 1)) := by
  obtain ⟨journal, connected, -⟩ := exists_connected hclient w
  cases hdone : Teardown.deleteAll s.world settings.plan.teardownOrder w with
  | mk result w' journal' =>
    obtain rfl : result = .ok report := by rwa [hdone] at hreport
    have deleted (screen : Screen) : act (Teardown.deleteAll s.world settings.plan.teardownOrder)
        screen w = (⟨(screen, .ok (.ok report)), w', journal'⟩ : Done Float ω _) := by
      simp [act, bind, pure, hdone]
    have ended (screen : Screen) (w : ω) :
        ((if report.ok then pure () else halt (.exit 1) : CommandAct ω Unit) screen w).result =
          screen.telling [] (if report.ok then .ok () else .error (.exit 1)) := by
      cases report.ok <;> rfl
    have told := printEach_telling (printEach_telling (printEach_telling ended
      (report.failures.map Failure.line)) (report.alreadyGone.map fun a =>
        ⟨some .yellow, "⚠️  " ++ a.ref ++ " not found or already deleted"⟩))
      (report.deleted.map fun a => ⟨some .green, "✅ " ++ a.ref ++ " deleted"⟩)
      (screen.title "Deleting database") w'
    simp only [List.map_map, List.append_nil] at told
    have titled : (title "Deleting database" : CommandAct ω Unit) screen w =
        ⟨(screen.title "Deleting database", .ok ()), w, []⟩ := rfl
    exact (result_bind_of_ok titled).trans ((result_bind_of_ok connected).trans
      ((result_bind_of_ok rfl).trans ((result_bind_of_ok (deleted _)).trans
        ((result_bind_of_ok rfl).trans told))))

end Command

/-! ## All of them -/

/-- What comes of a command that has lines to tell. -/
structure Screen.Tells [Console] (screen : Screen) (lines : List Line)
    (outcome : Except Halt Unit) (literal : Prop) (result : Screen × Except Halt Unit) : Prop where
  /-- the lines are printed one after the other, up to the first that cannot be printed -/
  told : result = screen.telling lines outcome
  /-- the command ends in its way if and only if all of them can be printed -/
  ends : result.2 = outcome ↔ ∀ l ∈ lines, Console.problem? l.marked = none
  /-- and they can be if what they tell is literal -/
  printed : literal → result.2 = outcome
  /-- the lines are shown as they stand only if what they tell is literal -/
  faithful : result = (screen.showing (lines.map Line.text), outcome) → literal
  /-- and on a console on which they fit they are if it is -/
  shows : (∀ l ∈ lines, Console.Fits l.text) → literal →
    result = (screen.showing (lines.map Line.text), outcome)

theorem Screen.Tells.of_telling [Console] {screen : Screen} {lines : List Line}
    {literal good : Prop} [Decidable good] {result : Screen × Except Halt Unit}
    (hliteral : (∀ l ∈ lines, l.Literal) ↔ literal)
    (h : result = screen.telling lines (if good then .ok () else .error (.exit 1))) :
    screen.Tells lines (if good then .ok () else .error (.exit 1)) literal result := by
  have hends : ∀ e, (if good then .ok () else .error (.exit 1) : Except Halt Unit) ≠
      .error (.unprinted e) := by
    intro e
    split <;> simp
  subst h
  exact {
    told := rfl
    ends := Screen.telling_snd_iff hends
    printed := fun h => (Screen.telling_snd_iff hends).2 fun l hl =>
      Line.problem?_of_literal (hliteral.2 h l hl)
    faithful := fun h => hliteral.1 (Screen.literal_of_printAll ((Screen.telling_eq_iff hends).1 h))
    shows := fun fits h => (Screen.telling_eq_iff hends).2
      ((Screen.printAll_iff screen fits).2 (hliteral.2 h)) }

namespace Settings

/-- **Settings, status and deletion are shown as they stand only if the texts from outside are
literal, and on a console on which they fit if those are.**  Of the settings that is asked of the
five that may be any text, and of failures of their reasons.  A status with a failure in it and a
deletion with one end with exit status 1, if all their lines can be printed, as literal ones can;
otherwise the first that cannot be printed ends the command. -/
theorem told_iff [Console] {settings : Settings} (hcluster : settings.cluster.Valid)
    (hdatabase : settings.database.Valid) :
    (∀ screen : Screen,
      let shown := (screen.title "Configuration").showing (settings.display.map Line.text)
      ((screen.settings settings).2 = none ↔
        ∀ l ∈ settings.display, Console.problem? l.marked = none) ∧
      ((∀ text ∈ settings.chosen, Markup.Literal text.toList) →
        (screen.settings settings).2 = none) ∧
      (screen.settings settings = (shown, none) →
        ∀ text ∈ settings.chosen, Markup.Literal text.toList) ∧
      ((∀ l ∈ settings.display, Console.Fits l.text) →
        (∀ text ∈ settings.chosen, Markup.Literal text.toList) →
        screen.settings settings = (shown, none))) ∧
    (∀ {ω : Type} (s : Surroundings ω) (screen : Screen) {w w₁ w₂ : ω} {client : Client}
      {service pod : Exchange Float} {serviceSeen podSeen : ReadOutcome},
      (settings.cluster.connect s.store).client = .ok client →
      s.world.Conducts w service w₁ → s.world.Conducts w₁ pod w₂ →
      service.Reads settings.plan.nodeHost settings.plan.service.address (.ok serviceSeen) →
      pod.Reads settings.plan.nodeHost settings.plan.pod.address (.ok podSeen) →
      screen.Tells
        [serviceSeen.line settings.plan.service.address, podSeen.line settings.plan.pod.address]
        (if serviceSeen.shows endpointAssigned && podSeen.shows phaseRunning then .ok ()
          else .error (.exit 1))
        (serviceSeen.Literal settings.plan.service.address ∧
          podSeen.Literal settings.plan.pod.address)
        (showStatus s settings screen w).result) ∧
    (∀ {ω : Type} (s : Surroundings ω) (screen : Screen) {w : ω} {client : Client}
      {report : Report},
      (settings.cluster.connect s.store).client = .ok client →
      (Teardown.deleteAll s.world settings.plan.teardownOrder w).result = .ok report →
      (screen.title "Deleting database").Tells report.display
        (if report.ok then .ok () else .error (.exit 1)) (∀ f ∈ report.failures, f.Literal)
        (deleteDatabase s settings screen w).result) := by
  obtain ⟨hservice, hpod⟩ : Plain settings.plan.service.address.ref.toList ∧
    Plain settings.plan.pod.address.ref.toList := plain_refs hcluster hdatabase
  have hdisplay := display_literal_iff hcluster hdatabase
  refine ⟨fun screen => ?_, ?_, ?_⟩
  · simp only [Screen.settings, lines_eq]
    refine ⟨Screen.printAll_ends_iff _ _, fun h => ?_, fun h => ?_, fun fits h => ?_⟩
    · exact (Screen.printAll_ends_iff _ _).2 fun l hl =>
        Line.problem?_of_literal (hdisplay.2 h l hl)
    · exact hdisplay.1 (Screen.literal_of_printAll h)
    · exact (Screen.printAll_iff _ fits).2 (hdisplay.2 h)
  · intro ω s screen w w₁ w₂ client service pod serviceSeen podSeen hclient hconducts hconducts'
      hread hread'
    refine .of_telling ?_ (showStatus_telling hclient hconducts hconducts' hread hread')
    simp only [List.forall_mem_cons, ReadOutcome.literal_line_iff hservice hread.2,
      ReadOutcome.literal_line_iff hpod hread'.2]
    simp
  · intro ω s screen w client report hclient hreport
    refine .of_telling ?_ (deleteDatabase_telling hclient hreport)
    obtain ⟨es, t, w', runs, trace, -, -⟩ := Teardown.machine.exists_runs s.world
      settings.plan.teardownOrder.length (Teardown.start settings.plan.teardownOrder) w
    have hresult : Teardown.result t = .ok report := by
      rw [← hreport, ← runs.result]
      rfl
    refine Report.literal_display_iff (Teardown.about_of_trace trace hresult) ?_
    simpa [Plan.teardownOrder] using ⟨hpod, hservice⟩

/-- **A user in brackets is not shown, and a refusal with a closing tag in its reason ends status
and deletion without an exit status.** -/
theorem told_of_brackets :
    let settings : Settings := ⟨{}, { user := "[x]" }, PollSettings.standard⟩
    let refusing : World Float Unit :=
      ⟨fun _ w => (.error (.api (some 500) (some "[/x]")), w), fun _ => 0⟩
    let s : Surroundings Unit := ⟨refusing, [], ⟨.ok (), .ok ()⟩⟩
    (∀ screen : Screen, screen.settings settings ≠
      ((screen.title "Configuration").showing (settings.display.map Line.text), none)) ∧
    (showStatus s settings {} ()).result.2 ≠ .error (.exit 1) ∧
    (deleteDatabase s settings {} ()).result.2 ≠ .error (.exit 1) := by
  intro settings refusing s
  let failure (a : Address) (operation : Operation) : Failure := ⟨a, operation, some 500, "[/x]"⟩
  have hcluster : settings.cluster.Valid := ⟨[], [], rfl⟩
  have hdatabase : settings.database.Valid := ⟨.standard, [("user", .text "[x]")], [], rfl⟩
  obtain ⟨hsettings, hstatus, hdelete⟩ := told_iff hcluster hdatabase
  have hreads (a : Address) : (s.world.look a ()).Reads settings.plan.nodeHost a
      (.ok (.failed (failure a .get))) := ⟨rfl, by rfl⟩
  have hreport : (Teardown.deleteAll s.world settings.plan.teardownOrder ()).result =
      .ok { failures := settings.plan.teardownOrder.map fun a => failure a .delete } := by
    rfl
  have unprinted (a : Address) (operation : Operation) (href : Plain a.ref.toList) :
      Console.problem? (failure a operation).line.marked ≠ none := by
    have hreason : (failure a operation).reason = "" ++ "[" ++ "/x" ++ "]" ++ "" := rfl
    obtain ⟨e, he⟩ : ∃ e, Console.problem? (failure a operation).line.marked = some e :=
      Failure.exists_problem href hreason (by decide) (by decide) (by decide) (by decide)
    rw [he]
    exact nofun
  refine ⟨fun screen h => ?_, fun h => ?_, fun h => ?_⟩
  · have hliteral := (hsettings screen).2.2.1 h "[x]" (by simp [chosen, settings])
    exact hliteral.untagged ['x'] (by decide) (by decide)
  · have hends := (hstatus s {} rfl (s.world.conducts_look _ ()) (s.world.conducts_look _ ())
      (hreads _) (hreads _)).ends.1 h
    exact unprinted _ .get (by decide) (hends _ List.mem_cons_self)
  · have hends := (hdelete s {} rfl hreport).ends.1 h
    exact unprinted _ .delete (by decide) (hends _ List.mem_cons_self)

end Settings

end EphemeralDatabase
