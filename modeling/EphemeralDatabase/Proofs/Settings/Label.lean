import EphemeralDatabase.Proofs.Settings.Precedence

/-!
# Which names are accepted

The namespace and the names of the two objects are texts of the form `Form.label`.  A text has that
form if and only if it is a name: at least one character, each of them a lower-case letter, a digit
or a hyphen, and a letter or a digit at both ends (`Form.fits_label_iff`).  Nothing is said of the
length.  A DNS label is a name of at most 63 characters (`IsDnsLabel`), so every DNS label is
accepted, and so is every name that is too long to be one (`names_accepted_iff`).

A text can be given for a name as a keyword or by the environment; `Replaced` covers both.
-/

namespace EphemeralDatabase

variable {given given' : Keywords} {env env' : Environment} {field text : String}

/-! ## Names -/

/-- A lower-case ASCII letter or an ASCII digit. -/
def IsLabelEdge (c : Char) : Prop := ('a' ≤ c ∧ c ≤ 'z') ∨ ('0' ≤ c ∧ c ≤ '9')

/-- Lower-case letters, digits and hyphens, at least one and with no hyphen at either end. -/
structure IsName (s : String) : Prop where
  length_pos : 1 ≤ s.length
  chars : ∀ c ∈ s.toList, IsLabelEdge c ∨ c = '-'
  first : ∀ c, s.toList.head? = some c → IsLabelEdge c
  last : ∀ c, s.toList.getLast? = some c → IsLabelEdge c

/-- A label of the domain name system. -/
structure IsDnsLabel (s : String) : Prop extends IsName s where
  length_le : s.length ≤ 63

/-! ## The form of a label -/

/-- A word of characters of one kind. -/
theorem Pattern.matches_many_one_iff {test : Char → Bool} {w : List Char} :
    Matches (many (one test)) w ↔ ∀ c ∈ w, test c = true := by
  induction w with
  | nil => simp [Matches.stop]
  | cons c w ih =>
    rw [matches_many_cons_iff, List.forall_mem_cons, ← ih]
    constructor
    · rintro ⟨u, v, rfl, first, rest⟩
      obtain ⟨c', hc', htest⟩ := matches_one_iff.1 first
      obtain ⟨rfl, rfl⟩ := List.cons.inj hc'
      exact ⟨htest, rest⟩
    · rintro ⟨htest, rest⟩
      exact ⟨[], w, rfl, .one htest, rest⟩

theorem Form.isLabelEdge_iff {c : Char} :
    (decide ('a' ≤ c ∧ c ≤ 'z') || c.isDigit) = true ↔ IsLabelEdge c := by
  simp [IsLabelEdge, Char.isDigit, Char.le_def]

theorem Form.matches_labelEdge_iff {w : List Char} :
    labelEdge.Matches w ↔ ∃ c, w = [c] ∧ IsLabelEdge c := by
  simp only [labelEdge, Pattern.matches_one_iff, isLabelEdge_iff]

theorem Form.matches_labelInside_iff {w : List Char} :
    (Pattern.many labelInside).Matches w ↔ ∀ c ∈ w, IsLabelEdge c ∨ c = '-' := by
  simp only [labelInside, Pattern.matches_many_one_iff, Bool.or_assoc, Bool.or_eq_true (_ == _),
    isLabelEdge_iff, beq_iff_eq, or_comm]

/-- A word of the pattern is one edge, or two with anything of a label between them. -/
theorem Form.matches_label_iff {w : List Char} :
    label.pattern.Matches w ↔ ∃ c, IsLabelEdge c ∧ (w = [c] ∨ ∃ inside d,
      w = c :: (inside ++ [d]) ∧ (∀ x ∈ inside, IsLabelEdge x ∨ x = '-') ∧ IsLabelEdge d) := by
  simp only [label, Pattern.optional, Pattern.matches_chain_iff, Pattern.matches_choice_iff,
    Pattern.matches_empty_iff, matches_labelEdge_iff, matches_labelInside_iff]
  constructor
  · rintro ⟨_, _, rfl, ⟨c, rfl, hc⟩, ⟨inside, _, rfl, hinside, d, rfl, hd⟩ | rfl⟩
    · exact ⟨c, hc, Or.inr ⟨inside, d, rfl, hinside, hd⟩⟩
    · exact ⟨c, hc, Or.inl rfl⟩
  · rintro ⟨c, hc, rfl | ⟨inside, d, rfl, hinside, hd⟩⟩
    · exact ⟨[c], [], rfl, ⟨c, rfl, hc⟩, Or.inr rfl⟩
    · exact ⟨[c], inside ++ [d], rfl, ⟨c, rfl, hc⟩,
        Or.inl ⟨inside, [d], rfl, hinside, d, rfl, hd⟩⟩

/-- **A text has the form of a label if and only if it is a name.** -/
theorem Form.fits_label_iff {s : String} : label.fits s = true ↔ IsName s := by
  rw [fits, Pattern.accepts_iff, matches_label_iff]
  constructor
  · rintro ⟨c, hc, hs | ⟨inside, d, hs, hinside, hd⟩⟩
    · refine ⟨?_, ?_, ?_, ?_⟩ <;> simp [← String.length_toList, hs, hc]
    · refine ⟨?_, ?_, ?_, ?_⟩
      · simp [← String.length_toList, hs]
      · simpa [hs, or_imp, forall_and, hc, hd] using hinside
      · simp [hs, hc]
      · rw [hs, ← List.cons_append, List.getLast?_concat]
        simpa using hd
  · rintro ⟨hlength, hchars, hfirst, hlast⟩
    cases hs : s.toList with
    | nil => simp [← String.length_toList, hs] at hlength
    | cons c rest =>
      have hc : IsLabelEdge c := hfirst c (by simp [hs])
      refine ⟨c, hc, ?_⟩
      rcases List.eq_nil_or_concat rest with rfl | ⟨inside, d, rfl⟩
      · exact Or.inl rfl
      · refine Or.inr ⟨inside, d, by simp, fun x hx => hchars x (by simp [hs, hx]), ?_⟩
        refine hlast d ?_
        rw [hs, List.concat_eq_append, ← List.cons_append, List.getLast?_concat]

/-! ## Another text for one field -/

/-- The text is given for the field, as a keyword or by the environment, and for every other field
what was given for it before. -/
structure Replaced (field text : String) (given given' : Keywords) (env env' : Environment) :
    Prop where
  value : given'.find? field = some (.text text) ∨
    given'.find? field = none ∧ env'.raw? field = some text
  keywords : ∀ other, other ≠ field → given'.find? other = given.find? other
  environment : ∀ other, other ≠ field → env'.raw? other = env.raw? other

namespace Replaced

variable {σ : Type} {f : Setting σ} {container container' : Option Value}

/-- A keyword for a field changes what is given for it and nothing else. -/
theorem insert (given : Keywords) (env : Environment) {field : String} (text : String)
    (known : field ∈ settingNames) :
    Replaced field text given (Mapping.insert given field (.text text)) env env := by
  have hlower : lower field = field := lower_of_mem_settingNames known
  refine ⟨Or.inl ?_, fun other hne => ?_, fun _ _ => rfl⟩
  · simp [Keywords.find?, Mapping.get?_insert_self]
  · -- another spelling of the other field stands where it stood
    have hspelled : ∀ m : Keywords,
        (Mapping.insert m field (.text text)).reverse.find? (fun pair => lower pair.1 == other) =
          m.reverse.find? fun pair => lower pair.1 == other := by
      intro m
      simp only [← List.head?_filter, List.filter_reverse]
      congr 2
      induction m with
      | nil => simp [Mapping.insert, hlower, Ne.symm hne]
      | cons pair m ih =>
        by_cases hkey : pair.1 = field
        · simp [Mapping.insert, hkey, hlower, Ne.symm hne]
        · simp [Mapping.insert, hkey, List.filter_cons, ih]
    unfold Keywords.find?
    rw [Mapping.get?_insert_of_ne _ _ hne, hspelled]

/-- A variable at the end of the environment changes what is given for its field and nothing else,
if no keyword hides it. -/
theorem append {given : Keywords} (env : Environment) {name : String} (text : String)
    (spelled : lower name = Environment.leader ++ field) (hidden : given.find? field = none) :
    Replaced field text given given env (env ++ [(name, text)]) := by
  refine ⟨Or.inr ⟨hidden, ?_⟩, fun _ _ => rfl, fun other hne => ?_⟩
  · simp [Environment.raw?, spelled]
  · simp [Environment.raw?, spelled, Ne.symm hne]

theorem read_self (h : Replaced f.field text given given' env env') :
    f.read ⟨given', env', container'⟩ = f.reader [f.field] (.text text) := by
  rcases h.value with hvalue | ⟨hnone, hraw⟩
  · simp [Setting.read, Source.read, Source.value?, hvalue]
  · simp [Setting.read, Source.read, Source.value?, hnone, hraw]

theorem read_of_ne (h : Replaced field text given given' env env') (hne : f.field ≠ field) :
    f.read ⟨given', env', container'⟩ = f.read ⟨given, env, container⟩ := by
  simp only [Setting.read, Source.read, Source.value?, h.keywords _ hne, h.environment _ hne]

theorem containerValue [Interpreter] (h : Replaced field text given given' env env')
    (hne : "env" ≠ field) :
    env'.containerValue = env.containerValue := by
  simp only [Environment.containerValue, h.environment _ hne]

theorem readVariables (h : Replaced field text given given' env env') (hne : "env" ≠ field) :
    Source.readVariables ⟨given', env', container⟩ =
      Source.readVariables ⟨given, env, container⟩ := by
  simp only [Source.readVariables, Source.container?, h.keywords _ hne]

/-- **A table is read with another name if and only if that is one**, and then only the name has
changed. -/
theorem forall_read_iff {table : List (Setting σ)} {default : String} {value : σ → String} {x y : σ}
    (h : Replaced field text given given' env env') (once : (table.map Setting.field).Nodup)
    (hmem : ⟨field, String, .formed .label, .text, default, value⟩ ∈ table)
    (hread : ∀ f ∈ table, f.read ⟨given, env, container⟩ = .ok (f.value x)) :
    (∀ f ∈ table, f.read ⟨given', env', container'⟩ = .ok (f.value y)) ↔
      IsName text ∧ value y = text ∧ ∀ f ∈ table, f.field ≠ field → f.value y = f.value x := by
  let name : Setting σ := ⟨field, String, .formed .label, .text, default, value⟩
  have hname : name.read ⟨given', env', container'⟩ = .ok (value y) ↔
      IsName text ∧ value y = text := by
    rw [read_self (f := name) h]
    by_cases fits : Form.label.fits text = true
    · simp [name, Reader.formed, fits, Form.fits_label_iff.1 fits, eq_comm]
    · simp [name, Reader.formed, Reader.refuse, fits, mt Form.fits_label_iff.2 fits]
  have hother : ∀ f ∈ table, f.field ≠ field →
      (f.read ⟨given', env', container'⟩ = .ok (f.value y) ↔ f.value y = f.value x) := by
    intro f hf hne
    have hsame : f.read ⟨given', env', container'⟩ = .ok (f.value x) :=
      (h.read_of_ne hne).trans (hread f hf)
    rw [hsame, Except.ok.injEq, eq_comm]
  constructor
  · intro hagain
    obtain ⟨isName, hy⟩ := hname.1 (hagain name hmem)
    exact ⟨isName, hy, fun f hf hne => (hother f hf hne).1 (hagain f hf)⟩
  · rintro ⟨isName, hy, hrest⟩ f hf
    by_cases hfield : f.field = field
    · obtain rfl : f = name := List.inj_on_of_nodup_map once hf hmem hfield
      exact hname.2 ⟨isName, hy⟩
    · exact (hother f hf hfield).2 (hrest f hf hfield)

theorem build_cluster_iff {c c' : ClusterSettings}
    (h : Replaced "namespace" text given given' env env')
    (hbuild : ClusterSettings.build given env = .ok c) :
    ClusterSettings.build given' env' = .ok c' ↔ IsName text ∧ c' = { c with space := text } := by
  have hread := ClusterSettings.read_eq_ok.1 (ClusterSettings.build_eq_ok.1 hbuild)
  have hspace : ⟨"namespace", String, .formed .label, .text, "default", ClusterSettings.space⟩ ∈
      ClusterSettings.table := .head _
  rw [ClusterSettings.build_eq_ok, ClusterSettings.read_eq_ok,
    h.forall_read_iff (by decide) hspace hread]
  cases c
  cases c'
  simp [ClusterSettings.table]

/-- A name in the database settings is replaced without regard to the container variables. -/
theorem build_database_iff [Interpreter] {default : String} {value : DatabaseSettings → String}
    {d d' : DatabaseSettings} (h : Replaced field text given given' env env')
    (hmem : ⟨field, String, .formed .label, .text, default, value⟩ ∈ DatabaseSettings.table)
    (hbuild : DatabaseSettings.build given env = .ok d) :
    DatabaseSettings.build given' env' = .ok d' ↔ IsName text ∧ value d' = text ∧
      (∀ f ∈ DatabaseSettings.table, f.field ≠ field → f.value d' = f.value d) ∧
      d'.env = d.env := by
  obtain ⟨container, hcontainer, hread⟩ := DatabaseSettings.build_eq_ok.1 hbuild
  obtain ⟨htable, hvariables⟩ := DatabaseSettings.read_eq_table.1 hread
  have hne : "env" ≠ field := by
    rintro rfl
    revert hmem
    simp [DatabaseSettings.table]
  have hread' : DatabaseSettings.read ⟨given', env', container⟩ = .ok d' ↔
      IsName text ∧ value d' = text ∧
        (∀ f ∈ DatabaseSettings.table, f.field ≠ field → f.value d' = f.value d) ∧
        d'.env = d.env := by
    rw [DatabaseSettings.read_eq_table, h.forall_read_iff (by decide) hmem htable,
      h.readVariables hne, hvariables, Except.ok.injEq]
    simp only [and_assoc, eq_comm]
  rw [DatabaseSettings.build_eq_ok, h.containerValue hne, hcontainer]
  simpa using hread'

end Replaced

/-! ## What is accepted -/

/-- **A text is accepted for a name if and only if it is one**, and then nothing but the name has
changed.  Of names, those of at most 63 characters are DNS labels. -/
theorem names_accepted_iff [Interpreter] (s : String) :
    (∀ {given given' env env' c c'}, ClusterSettings.build given env = .ok c →
      Replaced "namespace" s given given' env env' →
      (ClusterSettings.build given' env' = .ok c' ↔ IsName s ∧ c' = { c with space := s })) ∧
    (∀ {given given' env env' d d'}, DatabaseSettings.build given env = .ok d →
      Replaced "service_name" s given given' env env' →
      (DatabaseSettings.build given' env' = .ok d' ↔
        IsName s ∧ d' = { d with serviceName := s })) ∧
    (∀ {given given' env env' d d'}, DatabaseSettings.build given env = .ok d →
      Replaced "pod_name" s given given' env env' →
      (DatabaseSettings.build given' env' = .ok d' ↔ IsName s ∧ d' = { d with podName := s })) ∧
    (IsDnsLabel s ↔ IsName s ∧ s.length ≤ 63) := by
  refine ⟨?_, ?_, ?_, fun h => ⟨h.toIsName, h.length_le⟩, fun ⟨h, hlength⟩ => ⟨h, hlength⟩⟩
  · exact fun hbuild replaced => replaced.build_cluster_iff hbuild
  · intro given given' env env' d d' hbuild replaced
    have hservice : ⟨"service_name", String, .formed .label, .text, "postgres-service",
        DatabaseSettings.serviceName⟩ ∈ DatabaseSettings.table := .head _
    rw [replaced.build_database_iff hservice hbuild]
    cases d
    cases d'
    simp [DatabaseSettings.table, and_assoc]
  · intro given given' env env' d d' hbuild replaced
    have hpod : ⟨"pod_name", String, .formed .label, .text, "postgres",
        DatabaseSettings.podName⟩ ∈ DatabaseSettings.table := .tail _ (.head _)
    rw [replaced.build_database_iff hpod hbuild]
    cases d
    cases d'
    simp [DatabaseSettings.table, and_assoc, and_left_comm]

/-- A name of the Pod from the environment, and a namespace that is no name. -/
theorem podName_accepted :
    DatabaseSettings.build [] [("PG_FIXTURE_POD_NAME", "db-0")] = .ok { podName := "db-0" } ∧
    ∀ c, ClusterSettings.build [("namespace", .text "db-")] [] ≠ .ok c := by
  have hdb : IsName "db-0" := Form.fits_label_iff.1 (by decide)
  have hhyphen : ¬ IsName "db-" := mt Form.fits_label_iff.2 (by decide)
  constructor
  · obtain ⟨-, -, hpod, -⟩ := names_accepted_iff "db-0"
    have replaced : Replaced "pod_name" "db-0" [] [] [] [("PG_FIXTURE_POD_NAME", "db-0")] :=
      .append [] "db-0" (by decide) rfl
    exact (hpod rfl replaced).2 ⟨hdb, rfl⟩
  · intro c hbuild
    obtain ⟨hspace, -⟩ := names_accepted_iff "db-"
    exact hhyphen ((hspace rfl (.insert [] [] "db-" (by decide))).1 hbuild).1

/-- A letter is a name however often it is repeated. -/
theorem isName_replicate {n : ℕ} (h : 1 ≤ n) : IsName (String.ofList (List.replicate n 'a')) := by
  have hall : ∀ c ∈ List.replicate n 'a', IsLabelEdge c := by
    intro c hc
    rw [List.eq_of_mem_replicate hc]
    exact Or.inl (by decide)
  refine ⟨by simpa using h, ?_, ?_, ?_⟩ <;> rw [String.toList_ofList]
  · exact fun c hc => Or.inl (hall c hc)
  · exact fun c hc => hall c (List.mem_of_head? hc)
  · exact fun c hc => hall c (List.mem_of_getLast? hc)

/-- **Not only DNS labels are accepted.** -/
theorem exists_long_name_accepted :
    ¬ ∀ s, (∃ c, ClusterSettings.build [("namespace", .text s)] [] = .ok c) ↔ IsDnsLabel s := by
  intro agree
  have hlong := isName_replicate (n := 64) (by decide)
  have replaced := Replaced.insert [] [] (String.ofList (List.replicate 64 'a'))
    (by decide : "namespace" ∈ settingNames)
  have accepted := (replaced.build_cluster_iff rfl).2 ⟨hlong, rfl⟩
  have hlength := ((agree _).1 ⟨_, accepted⟩).length_le
  rw [String.length_ofList, List.length_replicate] at hlength
  exact absurd hlength (by decide)

end EphemeralDatabase
