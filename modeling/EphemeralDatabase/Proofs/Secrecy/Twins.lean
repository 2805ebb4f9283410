import EphemeralDatabase.CommandLine.Commands
import EphemeralDatabase.Proofs.Secrecy.Mask

/-!
# Acts that look the same but for the password

Two states of a world are twins if nothing that is asked from now on tells them apart, as long as
what is asked differs in the environment of a Pod at most.  A world that takes no notice of that
environment goes from twins to twins (`World.Twins.ask`).

Two acts are twins if from twins they come to twins and their journals are masked to the same.
What is put together from twins is twins (`Act.Twins.bind`), so an act that asks for the same in
both runs is the twin of itself: that is what it is to be *steady*, and `show status` and
`delete database` are (`showStatus_steady`, `deleteDatabase_steady`).
-/

namespace EphemeralDatabase

/-! ## Worlds -/

namespace World

variable {τ ω : Type} {world : World τ ω} {w w' : ω} {r r' : Request τ}

/-- The replies to requests that are made one after another. -/
def answers (world : World τ ω) : List (Request τ) → ω → List (Reply τ)
  | [], _ => []
  | r :: rs, w => (world.ask r w).1 :: world.answers rs (world.ask r w).2

/-- From a state on, no reply depends on the environment in the body of a Pod, neither in the body
of this request nor in that of an earlier one. -/
def Discreet (world : World τ ω) (w : ω) : Prop :=
  ∀ rs rs' : List (Request τ),
    rs.map Request.withoutEnvironment = rs'.map Request.withoutEnvironment →
      world.answers rs w = world.answers rs' w

/-- Two states with the same time and the same replies to requests that differ in the environment
of a Pod at most. -/
structure Twins (world : World τ ω) (w w' : ω) : Prop where
  now : world.now w = world.now w'
  answers : ∀ rs rs' : List (Request τ),
    rs.map Request.withoutEnvironment = rs'.map Request.withoutEnvironment →
      world.answers rs w = world.answers rs' w'

theorem Discreet.twins (h : world.Discreet w) : world.Twins w w := ⟨rfl, h⟩

/-- **Twins reply the same, and are twins again.** -/
theorem Twins.ask (h : world.Twins w w')
    (hr : r.withoutEnvironment = r'.withoutEnvironment) :
    (world.ask r w).1 = (world.ask r' w').1 ∧
      world.Twins (world.ask r w).2 (world.ask r' w').2 := by
  have hreply : (world.ask r w).1 = (world.ask r' w').1 :=
    (List.cons.inj (h.answers [r] [r'] (by simp [hr]))).1
  refine ⟨hreply, congrArg Reply.time hreply, fun rs rs' hrs => ?_⟩
  exact (List.cons.inj (h.answers (r :: rs) (r' :: rs') (by simp [hr, hrs]))).2

end World

/-! ## Acts -/

/-- What two acts left looks the same: the results are as they should be to one another. -/
structure Done.Twins {τ ω α β : Type} (world : World τ ω) (related : α → β → Prop)
    (d : Done τ ω α) (d' : Done τ ω β) : Prop where
  result : related d.result d'.result
  world : world.Twins d.world d'.world
  journal : Journal.masked d.journal = Journal.masked d'.journal

/-- Two acts that look the same from twins on. -/
def Act.Twins {τ ω α β : Type} (world : World τ ω) (related : α → β → Prop) (act : Act τ ω α)
    (act' : Act τ ω β) : Prop :=
  ∀ w w', world.Twins w w' → Done.Twins world related (act w) (act' w')

/-- An act that does not bring out a difference between twins. -/
abbrev Act.Steady {τ ω α : Type} (world : World τ ω) (act : Act τ ω α) : Prop :=
  Act.Twins world Eq act act

namespace Act

variable {τ ω α β γ δ : Type} {world : World τ ω}

namespace Twins

variable {related : α → β → Prop} {related' : γ → δ → Prop} {act : Act τ ω α} {act' : Act τ ω β}
  {next : α → Act τ ω γ} {next' : β → Act τ ω δ}

theorem pure {a : α} {b : β} (h : related a b) :
    Twins world related (pure a : Act τ ω α) (pure b : Act τ ω β) :=
  fun _ _ hw => ⟨h, hw, rfl⟩

/-- **What is put together from twins is twins.** -/
theorem bind (h : Twins world related act act')
    (hnext : ∀ a b, related a b → Twins world related' (next a) (next' b)) :
    Twins world related' (act >>= next) (act' >>= next') := by
  intro w w' hw
  obtain ⟨hresult, hworld, hjournal⟩ := h w w' hw
  obtain ⟨hresult', hworld', hjournal'⟩ := hnext _ _ hresult _ _ hworld
  refine ⟨hresult', hworld', ?_⟩
  have hsplit := congrArg₂ (· ++ ·) hjournal hjournal'
  exact (Journal.masked_append _ _).trans (hsplit.trans (Journal.masked_append _ _).symm)

/-- Requests that are masked to the same get the same reply. -/
theorem request {r r' : Request τ} (h : r.masked = r'.masked) :
    Twins world Eq (Act.request world r) (Act.request world r') := by
  intro w w' hw
  obtain ⟨hreply, hworld⟩ := hw.ask (Request.withoutEnvironment_congr h)
  refine ⟨hreply, hworld, ?_⟩
  have hentry : Entry.masked (.exchange ⟨r, (world.ask r w).1⟩) =
      Entry.masked (.exchange ⟨r', (world.ask r' w').1⟩) := by
    simp only [Entry.masked, h, hreply]
  exact congrArg (· :: []) hentry

end Twins

theorem steady_note (journal : Journal τ) : Steady world (note journal) :=
  fun _ _ hw => ⟨rfl, hw, rfl⟩

theorem steady_report (events : List (Event τ)) : Steady world (report events) := steady_note _

theorem steady_request (r : Request τ) : Steady world (request world r) := .request rfl

theorem Twins.steady_bind {act : Act τ ω α} {next : α → Act τ ω β} (h : Steady world act)
    (hnext : ∀ a, Steady world (next a)) : Steady world (act >>= next) :=
  h.bind fun a _ hab => hab ▸ hnext a

end Act

/-- **Running a machine is steady**, for what it asks depends on the replies only. -/
theorem Machine.run_steady {τ σ ω : Type} {world : World τ ω} (m : Machine τ σ) (fuel : ℕ)
    (s : σ) : Act.Steady world (m.run world fuel s) := by
  induction fuel generalizing s with
  | zero => exact .pure rfl
  | succ fuel ih =>
    rw [run]
    cases m.ask s with
    | none => exact .pure rfl
    | some request =>
      exact .steady_bind (Act.steady_request request) fun reply =>
        .steady_bind (Act.steady_report _) fun _ => ih _

/-! ## Commands -/

/-- A command that does not bring out a difference between twins. -/
def CommandAct.Steady {ω α : Type} (world : World Float ω) (act : CommandAct ω α) : Prop :=
  ∀ screen, Act.Steady world (act screen)

namespace CommandAct

variable {ω α β : Type} {world : World Float ω} {act : CommandAct ω α}
  {next : α → CommandAct ω β}

theorem steady_pure (a : α) : Steady world (pure a : CommandAct ω α) := fun _ => .pure rfl

theorem steady_halt (e : Halt) : Steady world (halt e : CommandAct ω α) := fun _ => .pure rfl

theorem pure_bind (a : α) (next : α → CommandAct ω β) :
    ((pure a : CommandAct ω α) >>= next) = next a :=
  rfl

/-- An act that is followed by another, on a screen. -/
theorem bind_apply (act : CommandAct ω α) (next : α → CommandAct ω β) (screen : Screen) :
    (act >>= next) screen = (act screen >>= fun done : Screen × Except Halt α =>
      match done with
      | (screen, .ok a) => next a screen
      | (screen, .error e) => pure (screen, .error e) : Act Float ω (Screen × Except Halt β)) :=
  rfl

theorem Steady.bind (h : Steady world act) (hnext : ∀ a, Steady world (next a)) :
    Steady world (act >>= next) := by
  intro screen
  rw [bind_apply]
  refine .steady_bind (h screen) ?_
  rintro ⟨screen, e | a⟩
  · exact .pure rfl
  · exact hnext a screen

theorem steady_act {a : Act Float ω α} (h : Act.Steady world a) :
    Steady world (CommandAct.act a) :=
  fun _ => .steady_bind h fun _ => .pure rfl

theorem steady_draw (f : Screen → Screen × Option Markup.PrintError) :
    Steady world (draw f : CommandAct ω Unit) := by
  intro screen
  unfold draw
  split <;> exact .pure rfl

theorem steady_print [Console] (text : String) :
    Steady world (print text : CommandAct ω Unit) :=
  steady_draw _

theorem steady_orFault (o : Except Fault α) : Steady world (orFault o : CommandAct ω α) := by
  cases o with
  | ok a => exact steady_pure a
  | error f => exact steady_halt _

end CommandAct

section Commands

open CommandAct

variable {ω : Type} {world : World Float ω} (environment : Environment) (store : CredentialStore)
  (settings : Settings)

theorem ClusterSettings.authenticate_steady (c : ClusterSettings) :
    Act.Steady world (c.authenticate store) :=
  .steady_bind (Act.steady_note _) fun _ => .steady_bind (Act.steady_report _) fun _ => .pure rfl

theorem Teardown.deleteAll_steady (addresses : List Address) :
    Act.Steady world (deleteAll world addresses) :=
  .steady_bind (Machine.run_steady _ _ _) fun _ => .pure rfl

/-- **Deleting the database is steady.** -/
theorem deleteDatabase_steady [Console] :
    Steady world (deleteDatabase ⟨world, environment, store⟩ settings) := by
  refine (steady_draw _).bind fun _ => ?_
  refine (steady_act (settings.cluster.authenticate_steady store)).bind fun client => ?_
  refine (steady_orFault client).bind fun _ => ?_
  refine (steady_act (Teardown.deleteAll_steady _)).bind fun deleted => ?_
  refine (steady_orFault deleted).bind fun report => ?_
  refine (steady_draw _).bind fun _ => ?_
  refine (steady_draw _).bind fun _ => ?_
  refine (steady_draw _).bind fun _ => ?_
  cases report.ok with
  | true => exact steady_pure ()
  | false => exact steady_halt _

theorem printStatus_steady [Console] (nodeHost : String) (a : Address) :
    Steady world (printStatus ⟨world, environment, store⟩ nodeHost a) := by
  refine (steady_act (Act.steady_request _)).bind fun reply => ?_
  refine (steady_orFault _).bind fun outcome => ?_
  exact (steady_draw _).bind fun _ => steady_pure _

/-- **Showing the status is steady.** -/
theorem showStatus_steady [Console] :
    Steady world (showStatus ⟨world, environment, store⟩ settings) := by
  refine (steady_act (settings.cluster.authenticate_steady store)).bind fun client => ?_
  refine (steady_orFault client).bind fun _ => ?_
  refine (printStatus_steady environment store _ _).bind fun service => ?_
  refine (printStatus_steady environment store _ _).bind fun pod => ?_
  cases service && pod with
  | true => exact steady_pure ()
  | false => exact steady_halt _

/-- A run is steady if its command is. -/
theorem Invocation.run_steady [Interpreter] [Console] {i : Invocation}
    (h : Steady world (i.command.run ⟨world, environment, store⟩ i.overrides)) :
    Act.Steady world (i.run ⟨world, environment, store⟩) := by
  refine .steady_bind (h {}) ?_
  rintro ⟨screen, (code | e | f) | ⟨⟩⟩ <;> exact .pure rfl

end Commands

end EphemeralDatabase
