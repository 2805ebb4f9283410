import EphemeralDatabase.Proofs.Settings.Path
import EphemeralDatabase.Proofs.Settings.Reading

/-!
# Tables of settings

A table lists the settings of a group, and for each of them its name, its reader, its default and
how its value is written as a keyword.  To read a group is to supply what makes it with what is read
for its settings (`Setting.supplyAll`), so what it is read as depends on what is read for them and
on nothing else (`Setting.supplyAll_congr`).  It is read if all of them are
(`ClusterSettings.read_eq_ok`, `DatabaseSettings.read_eq_table`, `PollSettings.read_eq_ok`), and its
keywords are the values of its settings under their names (`Setting.get?_keywords`).

A setting is stable if its reader takes what it gave, and its default, for the same value again.
All settings are: a text keeps its form, a number its range, and a path its normal form.

The container variables are no part of the tables, since they are merged and not chosen.
-/

namespace EphemeralDatabase

variable {α σ τ : Type}

/-- A mapping of texts, as the fields of a record. -/
def Value.texts (m : Mapping String) : List (String × Value) :=
  m.map fun pair => (pair.1, .text pair.2)

/-! ## Readers that take what they gave -/

namespace Reader

variable {location other : List String} {v : Value}

theorem formed_text {form : Form} {s : String} (h : formed form location v = .ok s) :
    formed form other (.text s) = .ok s := by
  simp [formed, fits_of_formed h]

theorem whole_whole {low high n : Int} (h : whole low high location v = .ok n) :
    whole low high other (.whole n) = .ok n := by
  obtain ⟨hlow, hhigh⟩ := range_of_whole h
  simp [whole, anyWhole, Int.not_lt.2 hlow, Int.not_lt.2 hhigh]

theorem pos_of_positive {x : Float} (h : positive location v = .ok x) : 0 < x := by
  unfold positive at h
  split at h
  · cases h
  · split at h
    · cases h
      assumption
    · cases h

theorem positive_real {x : Float} (h : positive location v = .ok x) :
    positive other (.real x) = .ok x := by
  simp [positive, anyReal, pos_of_positive h]

theorem path_text {s : String} (h : path location v = .ok s) : path other (.text s) = .ok s := by
  cases v with
  | text t =>
    obtain rfl : Path.normal t = s := by simpa [path] using h
    simp [path, Path.normal_normal]
  | null | truth | whole | real | items | record => simp [path, refuse] at h

/-- An empty field is taken for empty, and a full one as the reader takes it. -/
theorem nullable_shown {reader : Reader α} {shown : α → Value} {o : Option α}
    (full : ∀ x, shown x ≠ .null)
    (again : ∀ x, reader location v = .ok x → reader other (shown x) = .ok x)
    (h : nullable reader location v = .ok o) :
    nullable reader other ((o.map shown).getD .null) = .ok o := by
  cases o with
  | none => rfl
  | some x =>
    have hread := again x (of_nullable h)
    have hfull := full x
    simp only [Option.map_some, Option.getD_some]
    unfold nullable
    split
    · contradiction
    · simp [hread, Except.map]

theorem pairs_cons_eq_ok {key : String} {fields : List (String × Value)} {m : Mapping String} :
    pairs location ((key, v) :: fields) = .ok m ↔
      ∃ s rest, text (location ++ [key]) v = .ok s ∧ pairs location fields = .ok rest ∧
        (key, s) :: rest = m := by
  rw [pairs, Checked.supply_eq_ok]
  constructor
  · rintro ⟨g, rest, hg, hrest, rfl⟩
    obtain ⟨f, s, hf, hs, rfl⟩ := Checked.supply_eq_ok.1 hg
    cases hf
    exact ⟨s, rest, hs, hrest, rfl⟩
  · rintro ⟨s, rest, hs, hrest, rfl⟩
    exact ⟨_, rest, Checked.supply_eq_ok.2 ⟨_, s, rfl, hs, rfl⟩, hrest, rfl⟩

/-- A mapping of texts is read pair by pair. -/
theorem pairs_eq_ok {fields : List (String × Value)} {m : Mapping String} :
    pairs location fields = .ok m ↔ fields = Value.texts m := by
  induction fields generalizing m with
  | nil => cases m <;> simp [pairs, Value.texts]
  | cons field fields ih =>
    obtain ⟨key, v⟩ := field
    rw [pairs_cons_eq_ok]
    constructor
    · rintro ⟨s, rest, hs, hrest, rfl⟩
      obtain rfl : v = .text s := by
        cases v <;> simp_all [text, refuse]
      rw [ih.1 hrest]
      rfl
    · intro h
      cases m with
      | nil => cases h
      | cons pair rest =>
        obtain ⟨hfield, hrest⟩ := List.cons.inj h
        obtain ⟨rfl, rfl⟩ := Prod.mk.inj hfield
        exact ⟨_, _, rfl, ih.2 hrest, rfl⟩

end Reader

/-! ## Settings -/

/-- One setting of a group with settings `σ`. -/
structure Setting (σ : Type) where
  /-- the name -/
  field : String
  /-- the type of its value -/
  Carrier : Type
  reader : Reader Carrier
  /-- how its value is written as a keyword -/
  shown : Carrier → Value
  default : Carrier
  /-- its value in a group -/
  value : σ → Carrier

namespace Setting

/-- A setting of a part is a setting of the whole. -/
def lift (part : τ → σ) (f : Setting σ) : Setting τ :=
  ⟨f.field, f.Carrier, f.reader, f.shown, f.default, fun t => f.value (part t)⟩

/-- What is read for the setting. -/
def read (f : Setting σ) (s : Source) : Checked f.Carrier := s.read f.field f.default f.reader

/-- The reader takes what it gave, and the default, for the same value again. -/
structure Stable (f : Setting σ) : Prop where
  standard : f.reader [f.field] (f.shown f.default) = .ok f.default
  again : ∀ v x, f.reader [f.field] v = .ok x → f.reader [f.field] (f.shown x) = .ok x

/-- What was read for a stable setting reads as it was. -/
theorem Stable.reader_shown {f : Setting σ} (stable : f.Stable) {s : Source} {x : f.Carrier}
    (h : f.read s = .ok x) : f.reader [f.field] (f.shown x) = .ok x :=
  Source.read_spec (P := fun x => f.reader [f.field] (f.shown x) = .ok x) h stable.standard
    stable.again

end Setting

namespace Setting

variable {β : Type} {table : List (Setting σ)}

/-- What makes a `β` of the values of a table. -/
def Maker : List (Setting σ) → Type → Type
  | [], β => β
  | f :: table, β => f.Carrier → Maker table β

/-- Supplies what is read for the settings of a table, one after the other. -/
def supplyAll (s : Source) : (table : List (Setting σ)) → Checked (Maker table β) → Checked β
  | [], made => made
  | f :: table, make =>
      supplyAll s table ((make : Checked (f.Carrier → Maker table β)).supply (f.read s))

/-- **What is read by a table depends on what is read for its settings.** -/
theorem supplyAll_congr {s s' : Source} (h : ∀ f ∈ table, f.read s = f.read s')
    (make : Checked (Maker table β)) : supplyAll s table make = supplyAll s' table make := by
  induction table with
  | nil => rfl
  | cons f table ih =>
    obtain ⟨hfirst, hrest⟩ := List.forall_mem_cons.1 h
    rw [supplyAll, supplyAll, hfirst]
    exact ih hrest _

/-- The values of the settings of a table as keywords. -/
def keywords (table : List (Setting σ)) (x : σ) : Keywords :=
  table.map fun f => (f.field, f.shown (f.value x))

/-- **The value of each setting stands in the keywords under its name**, whatever comes after
them. -/
theorem get?_keywords (once : (table.map field).Nodup) (x : σ) (more : Keywords) :
    ∀ f ∈ table, Mapping.get? (keywords table x ++ more) f.field = some (f.shown (f.value x)) := by
  induction table with
  | nil => exact nofun
  | cons first table ih =>
    obtain ⟨hfirst, hrest⟩ := List.nodup_cons.1 once
    refine List.forall_mem_cons.2 ⟨by simp [keywords, Mapping.get?], fun f hf => ?_⟩
    have hne : first.field ≠ f.field := fun heq => hfirst (heq ▸ List.mem_map_of_mem hf)
    simpa [keywords, Mapping.get?, hne] using ih hrest f hf

end Setting

/-- A value that may be missing, as a keyword. -/
def Value.optional (shown : α → Value) (o : Option α) : Value := (o.map shown).getD .null

/-! ## The three tables -/

namespace ClusterSettings

/-- The cluster settings one by one. -/
def table : List (Setting ClusterSettings) :=
  let standard : ClusterSettings := {}
  [⟨"namespace", String, .formed .label, .text, standard.space, space⟩,
    ⟨"kube_context", Option String, .nullable .text, .optional .text, standard.context, context⟩,
    ⟨"kubeconfig", Option String, .nullable .path, .optional .text, standard.kubeconfig,
      kubeconfig⟩,
    ⟨"node_host", String, .text, .text, standard.nodeHost, nodeHost⟩]

/-- **The cluster settings are read one by one.** -/
theorem read_eq_ok {s : Source} {c : ClusterSettings} :
    read s = .ok c ↔ ∀ f ∈ table, f.read s = .ok (f.value c) := by
  obtain ⟨space, context, kubeconfig, nodeHost⟩ := c
  simp [read, table, Setting.read, Checked.supply_eq_ok, Checked.start, and_assoc]

/-- What makes the cluster settings of the values in the table. -/
def maker : Checked (Setting.Maker table ClusterSettings) := Checked.start mk

theorem read_eq_supplyAll (s : Source) : read s = Setting.supplyAll s table maker := rfl

theorem keywords_eq (c : ClusterSettings) : keywords c = Setting.keywords table c ++ [] := rfl

theorem stable : ∀ f ∈ table, f.Stable := by
  simp only [table, List.forall_mem_cons]
  exact ⟨⟨rfl, fun _ _ => Reader.formed_text⟩,
    ⟨rfl, fun _ _ => Reader.nullable_shown nofun fun _ _ => rfl⟩,
    ⟨rfl, fun _ _ => Reader.nullable_shown nofun fun _ => Reader.path_text⟩,
    ⟨rfl, fun _ _ _ => rfl⟩, fun _ h => nomatch h⟩

end ClusterSettings

namespace DatabaseSettings

/-- The database settings one by one, without the container variables. -/
def table : List (Setting DatabaseSettings) :=
  let standard : DatabaseSettings := {}
  [⟨"service_name", String, .formed .label, .text, standard.serviceName, serviceName⟩,
    ⟨"pod_name", String, .formed .label, .text, standard.podName, podName⟩,
    ⟨"app_label", String, .text, .text, standard.appLabel, appLabel⟩,
    ⟨"image", String, .text, .text, standard.image, image⟩,
    ⟨"container_port", Int, .whole 1 65535, .whole, standard.containerPort, containerPort⟩,
    ⟨"service_type", String, .formed .serviceType, .text, standard.serviceType, serviceType⟩,
    ⟨"node_port", Option Int, .nullable (.whole 30000 32767), .optional .whole, standard.nodePort,
      nodePort⟩,
    ⟨"database", String, .text, .text, standard.database, database⟩,
    ⟨"user", String, .text, .text, standard.user, user⟩,
    ⟨"password", String, .text, .text, standard.password, password⟩]

/-- **The database settings are read one by one**, and the container variables beside them. -/
theorem read_eq_table {s : Source} {d : DatabaseSettings} :
    read s = .ok d ↔
      (∀ f ∈ table, f.read s = .ok (f.value d)) ∧ s.readVariables = .ok d.env := by
  simp [read_eq_ok, table, Setting.read, and_assoc]

/-- What makes the database settings of the values in the table and of the container variables. -/
def maker : Checked (Setting.Maker table (Mapping String → DatabaseSettings)) := Checked.start mk

theorem read_eq_supplyAll (s : Source) :
    read s = (Setting.supplyAll s table maker).supply s.readVariables := rfl

theorem keywords_eq (d : DatabaseSettings) :
    keywords d = Setting.keywords table d ++ [("env", .record (Value.texts d.env))] := rfl

theorem stable : ∀ f ∈ table, f.Stable := by
  simp only [table, List.forall_mem_cons]
  exact ⟨⟨rfl, fun _ _ => Reader.formed_text⟩, ⟨rfl, fun _ _ => Reader.formed_text⟩,
    ⟨rfl, fun _ _ _ => rfl⟩, ⟨rfl, fun _ _ _ => rfl⟩, ⟨rfl, fun _ _ => Reader.whole_whole⟩,
    ⟨rfl, fun _ _ => Reader.formed_text⟩,
    ⟨rfl, fun _ _ => Reader.nullable_shown nofun fun _ => Reader.whole_whole⟩,
    ⟨rfl, fun _ _ _ => rfl⟩, ⟨rfl, fun _ _ _ => rfl⟩, ⟨rfl, fun _ _ _ => rfl⟩,
    fun _ h => nomatch h⟩

end DatabaseSettings

namespace PollSettings

/-- The poll settings one by one. -/
def table : List (Setting (PollSettings Float)) :=
  let standard := PollSettings.standard
  [⟨"service_interval", Float, .positive, .real, standard.service.interval, (·.service.interval)⟩,
    ⟨"service_deadline", Float, .positive, .real, standard.service.deadline, (·.service.deadline)⟩,
    ⟨"pod_interval", Float, .positive, .real, standard.pod.interval, (·.pod.interval)⟩,
    ⟨"pod_deadline", Float, .positive, .real, standard.pod.deadline, (·.pod.deadline)⟩]

/-- **The poll settings are read one by one.** -/
theorem read_eq_ok {s : Source} {p : PollSettings Float} :
    read s = .ok p ↔ ∀ f ∈ table, f.read s = .ok (f.value p) := by
  obtain ⟨⟨serviceInterval, serviceDeadline⟩, ⟨podInterval, podDeadline⟩⟩ := p
  simp [read, table, Setting.read, Checked.supply_eq_ok, Checked.start, and_assoc]

/-- What makes the poll settings of the values in the table. -/
def maker : Checked (Setting.Maker table (PollSettings Float)) :=
  Checked.start fun a b c d => ⟨⟨a, b⟩, ⟨c, d⟩⟩

theorem read_eq_supplyAll (s : Source) : read s = Setting.supplyAll s table maker := rfl

theorem keywords_eq (p : PollSettings Float) : keywords p = Setting.keywords table p ++ [] := rfl

theorem stable : ∀ f ∈ table, f.Stable := by
  simp only [table, List.forall_mem_cons]
  exact ⟨⟨rfl, fun _ _ => Reader.positive_real⟩, ⟨rfl, fun _ _ => Reader.positive_real⟩,
    ⟨rfl, fun _ _ => Reader.positive_real⟩, ⟨rfl, fun _ _ => Reader.positive_real⟩,
    fun _ h => nomatch h⟩

end PollSettings

namespace Settings

/-- All settings one by one, without the container variables. -/
def table : List (Setting Settings) :=
  ClusterSettings.table.map (.lift cluster) ++ DatabaseSettings.table.map (.lift database)
    ++ PollSettings.table.map (.lift poll)

/-- What holds of all settings holds of those of every group. -/
theorem forall_mem_table {P : Setting Settings → Prop} :
    (∀ f ∈ table, P f) ↔ (∀ f ∈ ClusterSettings.table, P (f.lift cluster)) ∧
      (∀ f ∈ DatabaseSettings.table, P (f.lift database)) ∧
      ∀ f ∈ PollSettings.table, P (f.lift poll) := by
  simp only [table, List.forall_mem_append, List.forall_mem_map, and_assoc]

end Settings

end EphemeralDatabase
