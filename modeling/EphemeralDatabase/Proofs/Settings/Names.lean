import EphemeralDatabase.Fixture.Plan
import EphemeralDatabase.Proofs.Settings.Resolution

/-!
# The names of the two objects

However settings were resolved, each group of them is what can be built from some keywords in some
environment (`Settings.valid_of_resolve`).  So the namespace and the names of the Service and the
Pod have the form of labels (`ClusterSettings.Valid.space_label`,
`DatabaseSettings.Valid.name_labels`), and no character stands in them that a label does not admit
(`Form.notMem_of_fits`).  Of intervals and deadlines no more is known than that they compare as
greater than zero (`PollSettings.Valid.pos`).
-/

namespace EphemeralDatabase

/-! ## Labels -/

/-- No character stands in a text of a form that the form does not admit. -/
theorem Form.notMem_of_fits {form : Form} {s : String} (h : form.fits s = true) {c : Char}
    (hc : form.pattern.admits c = false) : c ∉ s.toList := fun hmem =>
  Bool.false_ne_true (hc.symm.trans ((Pattern.accepts_iff.1 h).admits hmem))

theorem Source.fits_of_read {s : Source} {field default x : String} {form : Form}
    (h : s.read field default (.formed form) = .ok x) (standard : form.fits default = true) :
    form.fits x = true :=
  read_spec (P := fun x => form.fits x = true) h standard fun _ _ => Reader.fits_of_formed

/-- The settings can be built from some keywords in some environment. -/
def ClusterSettings.Valid (c : ClusterSettings) : Prop :=
  ∃ keywords env, build keywords env = .ok c

/-- The namespace is a label. -/
theorem ClusterSettings.Valid.space_label {c : ClusterSettings} (h : c.Valid) :
    Form.label.fits c.space = true := by
  obtain ⟨keywords, env, hbuild⟩ := h
  have hread := read_eq_ok.1 (build_eq_ok.1 hbuild)
  exact Source.fits_of_read (List.forall_mem_cons.1 hread).1 rfl

/-- The names of both objects are labels. -/
theorem DatabaseSettings.Valid.name_labels {d : DatabaseSettings} (h : d.Valid) :
    Form.label.fits d.serviceName = true ∧ Form.label.fits d.podName = true := by
  obtain ⟨s, hread⟩ := h.exists_read
  obtain ⟨hservice, hpod, -⟩ := read_eq_ok.1 hread
  exact ⟨Source.fits_of_read hservice rfl, Source.fits_of_read hpod rfl⟩

/-! ## Paces -/

/-- The settings can be built from some keywords in some environment. -/
def PollSettings.Valid (p : PollSettings Float) : Prop :=
  ∃ keywords env, build keywords env = .ok p

/-- Intervals and deadlines compare as greater than zero. -/
theorem PollSettings.Valid.pos {p : PollSettings Float} (h : p.Valid) (kind : Kind) :
    0 < (p.forKind kind).interval ∧ 0 < (p.forKind kind).deadline := by
  obtain ⟨keywords, env, hbuild⟩ := h
  have hread := read_eq_ok.1 (build_eq_ok.1 hbuild)
  simp only [table, List.forall_mem_cons] at hread
  obtain ⟨hservice, hservice', hpod, hpod', -⟩ := hread
  have hpos {field : String} {default x : Float} (standard : 0 < default)
      (h : Source.read ⟨keywords, env, none⟩ field default .positive = .ok x) : 0 < x :=
    Source.read_spec (P := fun x => 0 < x) h standard fun _ _ => Reader.pos_of_positive
  have hstandard : ∀ kind, 0 < (standard.forKind kind).interval ∧
      0 < (standard.forKind kind).deadline := by
    rintro ⟨⟩ <;> decide +kernel
  cases kind with
  | service => exact ⟨hpos (hstandard .service).1 hservice, hpos (hstandard .service).2 hservice'⟩
  | pod => exact ⟨hpos (hstandard .pod).1 hpod, hpos (hstandard .pod).2 hpod'⟩

/-! ## Resolved settings -/

/-- A group that is built once more is what its builder gives for some keywords. -/
theorem Group.exists_build_of_rebuild {α : Type} {group : Group}
    {build : Keywords → Environment → Except SettingsError α} {keywords : α → Keywords}
    {overrides given : Keywords} {env : Environment} {present x : α}
    (hpresent : build given env = .ok present)
    (h : group.rebuild build keywords overrides env present = .ok x) :
    ∃ given, build given env = .ok x := by
  unfold rebuild at h
  split at h
  · exact ⟨given, hpresent.trans h⟩
  · exact ⟨_, h⟩

namespace Settings

variable {overrides : Keywords} {env : Environment} {s : Settings}

/-- **Resolved settings are valid.** -/
theorem valid_of_resolve [Interpreter] (h : resolve overrides env = .ok s) :
    s.cluster.Valid ∧ s.database.Valid ∧ s.poll.Valid := by
  unfold resolve at h
  obtain ⟨present, hpresent, h⟩ := Except.exists_of_bind h
  obtain ⟨hc, hd, hp⟩ := build_eq_ok.1 hpresent
  split at h
  · obtain ⟨c, hcluster, h⟩ := Except.exists_of_bind h
    obtain ⟨d, hdatabase, h⟩ := Except.exists_of_bind h
    obtain ⟨p, hpoll, h⟩ := Except.exists_of_bind h
    cases h
    obtain ⟨given, hgiven⟩ := Group.exists_build_of_rebuild hc hcluster
    obtain ⟨given', hgiven'⟩ := Group.exists_build_of_rebuild hd hdatabase
    obtain ⟨given'', hgiven''⟩ := Group.exists_build_of_rebuild hp hpoll
    exact ⟨⟨given, env, hgiven⟩, ⟨_, given', env, hgiven'⟩, given'', env, hgiven''⟩
  · cases h

end Settings

end EphemeralDatabase
