import EphemeralDatabase.Proofs.Settings.Idempotence
import EphemeralDatabase.Proofs.Settings.Json
import EphemeralDatabase.Proofs.Settings.Names
import EphemeralDatabase.Proofs.Text.Blank
import EphemeralDatabase.Proofs.Text.Numeral

/-!
# Settings from the environment alone

Which database settings come from an environment, without any override?  `environment` writes
settings as an environment: texts as they are, numbers in their digits
(`Numeral.readWhole_toString`) and the container variables as JSON.  A process can have that
environment (`DatabaseSettings.storable_environment`), and with a node port its settings are the
settings that were written (`DatabaseSettings.resolve_environment`).

Without a node port there is no such environment.  A setting that the environment does not give has
its default, which is a node port, and a setting that it gives is read from a text, and no text is
read as null (`DatabaseSettings.nodePort_ne_none`).  So the node port that is left to the cluster is
the one setting out of reach (`DatabaseSettings.exists_environment_iff`).
-/

namespace EphemeralDatabase

open Mapping (keys)

/-!
## Numbers as texts

White space, a sign, zeros, a point and underscores are taken off a numeral before its digits are
read.  None of them is a digit but the zero, and no number but zero itself begins with that, so
nothing is taken off the digits of a number.
-/

namespace Numeral

variable {cs : List Char}

theorem isWhiteSpace_of_isDigit {c : Char} (h : c.isDigit = true) : isWhiteSpace c = false := by
  have hrange : 0x30 ≤ c.toNat ∧ c.toNat ≤ 0x39 := by
    simpa [Char.isDigit, UInt32.le_iff_toNat_le] using h
  simp only [isWhiteSpace, Bool.or_eq_false_iff, Bool.and_eq_false_iff, decide_eq_false_iff_not,
    beq_eq_false_iff_ne]
  omega

theorem trimBoth_digits (h : ∀ c ∈ cs, c.isDigit = true) : trimBoth isWhiteSpace cs = cs := by
  refine trimBoth_eq_iff.2 ⟨⟨fun c hc => ?_, fun c hc => ?_⟩, [], [], by simp, nofun, nofun⟩
  · exact isWhiteSpace_of_isDigit (h c (List.mem_of_head? hc))
  · exact isWhiteSpace_of_isDigit (h c (List.mem_of_getLast? hc))

theorem splitSign_digits (h : ∀ c ∈ cs, c.isDigit = true) : splitSign cs = (false, cs) := by
  unfold splitSign
  split
  · exact absurd (h '-' (List.mem_cons_self ..)) (by decide)
  · exact absurd (h '+' (List.mem_cons_self ..)) (by decide)
  · rfl

/-- Digits that do not begin with a zero are all that is left of them. -/
theorem withoutZeros?_digits (hne : cs ≠ []) (h : ∀ c ∈ cs, c.isDigit = true)
    (hzero : cs.head? ≠ some '0' ∨ cs = ['0']) : withoutZeros? cs = some cs := by
  rcases hzero with hzero | rfl
  · cases cs with
    | nil => exact absurd rfl hne
    | cons c rest =>
      have hc : c ≠ '0' := by simpa using hzero
      rw [withoutZeros?, if_neg hc, if_pos (h c List.mem_cons_self)]
  · rfl

theorem splitPoint_digits (h : ∀ c ∈ cs, c.isDigit = true) : splitPoint cs = (cs, none) := by
  have hall : ∀ c ∈ cs, (c != '.') = true := by
    intro c hc
    have hdigit := h c hc
    rw [bne_iff_ne]
    rintro rfl
    revert hdigit
    decide
  simp [splitPoint, List.takeWhile_eq_self_iff.2 hall]

theorem ungrouped?_digits (h : ∀ c ∈ cs, c.isDigit = true) : ungrouped? cs = none :=
  if_neg fun hgrouped => absurd (h '_' hgrouped.1) (by decide)

/-- **Digits are read as the number that they stand for.** -/
theorem readWhole_digits (hne : cs ≠ []) (h : ∀ c ∈ cs, c.isDigit = true)
    (hzero : cs.head? ≠ some '0' ∨ cs = ['0']) (hlength : cs.length ≤ Value.wholeDigitLimit) :
    readWhole (String.ofList cs) = .ok (Value.digitsValue cs) := by
  have hall : allDigits cs = true := by simpa [allDigits, hne] using h
  simp [readWhole, trimBoth_digits h, splitSign_digits h, withoutZeros?_digits hne h hzero,
    splitPoint_digits h, ungrouped?_digits h, hall, Nat.not_lt.2 hlength]

/-- The digits of a positive number do not begin with a zero. -/
theorem head?_toDigits {n : ℕ} (hpos : 0 < n) : (Nat.toDigits 10 n).head? ≠ some '0' := by
  induction n using Nat.strong_induction_on with
  | _ n ih =>
    rcases Nat.lt_or_ge n 10 with hlt | hge
    · have hall : ∀ n < 10, 0 < n → n.digitChar ≠ '0' := by decide
      simpa [Nat.toDigits_of_lt_base hlt] using hall n hlt hpos
    · have hfirst := ih (n / 10) (by omega) (by omega)
      rw [Nat.toDigits_of_base_le (by decide) hge,
        List.head?_append_of_ne_nil _ Nat.toDigits_ne_nil]
      exact hfirst

/-- **A number is read from its digits**, if there are not too many of them. -/
theorem readWhole_toString {n : ℕ} (h : (Nat.toDigits 10 n).length ≤ Value.wholeDigitLimit) :
    readWhole (toString n) = .ok n := by
  have hvalue : Value.digitsValue (Nat.toDigits 10 n) = n := by
    refine Eq.trans ?_ Nat.ofDigitChars_ten_toDigits
    simp only [Value.digitsValue, Nat.ofDigitChars_eq_foldl, Nat.mul_comm]
  have hdigits : ∀ c ∈ Nat.toDigits 10 n, c.isDigit = true := fun c hc =>
    Nat.isDigit_of_mem_toDigits (by decide) (by decide) hc
  have hzero : (Nat.toDigits 10 n).head? ≠ some '0' ∨ Nat.toDigits 10 n = ['0'] :=
    (Nat.eq_zero_or_pos n).symm.imp head?_toDigits fun hn => by rw [hn, Nat.toDigits_zero]
  rw [Nat.toString_eq_ofList_toDigits, readWhole_digits Nat.toDigits_ne_nil hdigits hzero h, hvalue]

end Numeral

/-- A whole number that a field can have is read from its digits as well. -/
theorem Reader.whole_toString {location other : List String} {v : Value} {low high n : ℤ}
    (hlow : 0 ≤ low) (hhigh : high < 100000) (h : whole low high location v = .ok n) :
    whole low high other (.text (toString n)) = .ok n := by
  obtain ⟨hlown, hhighn⟩ := range_of_whole h
  obtain ⟨k, rfl⟩ := Int.eq_ofNat_of_zero_le (hlow.trans hlown)
  have hfive : (Nat.toDigits 10 k).length ≤ 5 :=
    (Nat.length_toDigits_le_iff (by decide) (by decide)).2 (by omega)
  have hread : Numeral.readWhole (toString (k : ℤ)) = .ok k :=
    Numeral.readWhole_toString (hfive.trans (by decide))
  simp only [whole, anyWhole, lift, hread, if_neg (Int.not_lt.2 hlown),
    if_neg (Int.not_lt.2 hhighn)]

/-! ## What an environment can hold -/

/-- A text that a process environment can hold. -/
def IsStorable (s : String) : Prop := '\x00' ∉ s.toList

instance (s : String) : Decidable (IsStorable s) := inferInstanceAs (Decidable (¬ _))

/-- What can be the environment of a process: every name stands there once and has no equals sign
in it, and no text has a zero character. -/
structure Environment.Storable (env : Environment) : Prop where
  once : (keys env).Nodup
  names : ∀ name ∈ keys env, name ≠ "" ∧ '=' ∉ name.toList ∧ IsStorable name
  values : ∀ pair ∈ env, IsStorable pair.2

/-- What is free in the settings can be held by a process environment.  The names of the objects and
the type of the Service are not free, and the container variables are escaped. -/
structure DatabaseSettings.Storable (d : DatabaseSettings) : Prop where
  appLabel : IsStorable d.appLabel
  image : IsStorable d.image
  database : IsStorable d.database
  user : IsStorable d.user
  password : IsStorable d.password

namespace Environment

variable {env : Environment} {field name text : String}

/-- A variable gives its setting, if no other one has the same name but for its case. -/
theorem raw?_of_mem (once : ((keys env).map lower).Nodup) (hmem : (name, text) ∈ env)
    (hname : lower name = leader ++ field) : env.raw? field = some text := by
  obtain ⟨before, after, rfl⟩ := List.append_of_mem hmem
  refine raw?_eq_some_iff.2 ⟨before, name, after, rfl, hname, fun pair hpair hsame => ?_⟩
  have hafter : lower name ∉ (keys after).map lower := by
    simp only [keys, List.map_append, List.map_cons] at once
    exact (List.nodup_cons.1 (List.nodup_append.1 once).2.1).1
  refine hafter ?_
  rw [hname, ← hsame]
  exact List.mem_map_of_mem (List.mem_map_of_mem hpair)

/-- No variable gives a setting if none has its name. -/
theorem raw?_of_notMem (h : leader ++ field ∉ (keys env).map lower) : env.raw? field = none := by
  refine raw?_eq_none_iff.2 fun text hspells => h ?_
  obtain ⟨before, name, after, rfl, hname, -⟩ := hspells
  rw [← hname]
  exact List.mem_map_of_mem (List.mem_map_of_mem (List.mem_append_right _ (List.mem_cons_self ..)))

end Environment

/-- Without keywords a field is read from the environment. -/
theorem Source.read_environment {α : Type} {env : Environment} {container : Option Value}
    {field : String} {default : α} {reader : Reader α} :
    Source.read ⟨[], env, container⟩ field default reader =
      match env.raw? field with
      | some text => reader [field] (.text text)
      | none => .ok default := by
  cases h : env.raw? field <;> simp [read, value?, Keywords.find?, Mapping.get?, h]

/-! ## Settings as an environment -/

namespace DatabaseSettings

variable {d : DatabaseSettings} {env : Environment}

/-- The settings as an environment.  That there is no node port cannot be said in it. -/
def environment (d : DatabaseSettings) : Environment :=
  [("PG_FIXTURE_SERVICE_NAME", d.serviceName), ("PG_FIXTURE_POD_NAME", d.podName),
    ("PG_FIXTURE_APP_LABEL", d.appLabel), ("PG_FIXTURE_IMAGE", d.image),
    ("PG_FIXTURE_CONTAINER_PORT", toString d.containerPort),
    ("PG_FIXTURE_SERVICE_TYPE", d.serviceType), ("PG_FIXTURE_NODE_PORT", portText d.nodePort),
    ("PG_FIXTURE_DATABASE", d.database), ("PG_FIXTURE_USER", d.user),
    ("PG_FIXTURE_PASSWORD", d.password), ("PG_FIXTURE_ENV", Value.json d.env)]

theorem keys_environment (d : DatabaseSettings) :
    keys d.environment = ["PG_FIXTURE_SERVICE_NAME", "PG_FIXTURE_POD_NAME", "PG_FIXTURE_APP_LABEL",
      "PG_FIXTURE_IMAGE", "PG_FIXTURE_CONTAINER_PORT", "PG_FIXTURE_SERVICE_TYPE",
      "PG_FIXTURE_NODE_PORT", "PG_FIXTURE_DATABASE", "PG_FIXTURE_USER", "PG_FIXTURE_PASSWORD",
      "PG_FIXTURE_ENV"] := rfl

/-- The environment is about the database settings and no others. -/
theorem lower_keys_environment (d : DatabaseSettings) :
    (keys d.environment).map lower = Group.database.fields.map (Environment.leader ++ ·) := by
  rw [keys_environment]
  decide

theorem nodup_lower_keys_environment (d : DatabaseSettings) :
    ((keys d.environment).map lower).Nodup := by
  rw [lower_keys_environment]
  decide

/-- The environment can be that of a process. -/
theorem storable_environment (valid : d.Valid) (storable : d.Storable) :
    d.environment.Storable := by
  refine ⟨?_, ?_, ?_⟩
  · rw [keys_environment]
    decide
  · rw [keys_environment]
    decide
  · obtain ⟨hservice, hpod⟩ := valid.name_labels
    have hjson : IsStorable (Value.json d.env) := fun hmem =>
      absurd (Value.le_toNat_of_mem_json hmem) (by decide)
    have htype : IsStorable d.serviceType := by
      rcases valid.serviceType_mem with h | h | h <;> rw [h] <;> decide
    simp only [environment, List.forall_mem_cons]
    exact ⟨Form.notMem_of_fits hservice rfl, Form.notMem_of_fits hpod rfl, storable.appLabel,
      storable.image, notMem_toString_int rfl (by decide) _, htype,
      notMem_portText rfl (by decide) (by decide) _, storable.database, storable.user,
      storable.password, hjson, nofun⟩

/-- What was read for a setting is read again from it. -/
theorem Valid.reader_shown (valid : d.Valid) :
    ∀ f ∈ table, f.reader [f.field] (f.shown (f.value d)) = .ok (f.value d) := by
  obtain ⟨s, hread⟩ := valid.exists_read
  obtain ⟨htable, -⟩ := read_eq_table.1 hread
  exact fun f hf => (stable f hf).reader_shown (htable f hf)

/-- **With a node port, the settings are read from the environment.** -/
theorem read_environment (valid : d.Valid) {n : ℤ} (hport : d.nodePort = some n) :
    read ⟨[], d.environment, some (.record (Value.texts d.env))⟩ = .ok d := by
  have given (name : String) {text field : String} {α : Type} {default x : α} {reader : Reader α}
      (hmem : (name, text) ∈ d.environment) (hname : lower name = Environment.leader ++ field)
      (h : reader [field] (.text text) = .ok x) :
      Source.read ⟨[], d.environment, some (.record (Value.texts d.env))⟩ field default reader =
        .ok x := by
    rw [Source.read_environment,
      Environment.raw?_of_mem (nodup_lower_keys_environment d) hmem hname]
    exact h
  have hread := valid.reader_shown
  simp only [table, List.forall_mem_cons] at hread
  obtain ⟨hservice, hpod, hlabel, himage, hcontainer, htype, hnode, hdatabase, huser, hpassword,
    -⟩ := hread
  have hcontainer' : Reader.whole 1 65535 ["container_port"] (.text (toString d.containerPort)) =
      .ok d.containerPort := Reader.whole_toString (by decide) (by decide) hcontainer
  have hwhole : Reader.whole 30000 32767 ["node_port"] (.text (portText d.nodePort)) = .ok n := by
    rw [hport] at hnode ⊢
    exact Reader.whole_toString (by decide) (by decide) (Reader.of_nullable hnode)
  have hnode' : Reader.nullable (.whole 30000 32767) ["node_port"] (.text (portText d.nodePort)) =
      .ok d.nodePort := by
    change (Reader.whole 30000 32767 ["node_port"] _).map Option.some = _
    rw [hwhole, hport]
    rfl
  exact read_eq_ok.2
    ⟨given "PG_FIXTURE_SERVICE_NAME" (by simp [environment]) (by decide) hservice,
      given "PG_FIXTURE_POD_NAME" (by simp [environment]) (by decide) hpod,
      given "PG_FIXTURE_APP_LABEL" (by simp [environment]) (by decide) hlabel,
      given "PG_FIXTURE_IMAGE" (by simp [environment]) (by decide) himage,
      given "PG_FIXTURE_CONTAINER_PORT" (by simp [environment]) (by decide) hcontainer',
      given "PG_FIXTURE_SERVICE_TYPE" (by simp [environment]) (by decide) htype,
      given "PG_FIXTURE_NODE_PORT" (by simp [environment]) (by decide) hnode',
      given "PG_FIXTURE_DATABASE" (by simp [environment]) (by decide) hdatabase,
      given "PG_FIXTURE_USER" (by simp [environment]) (by decide) huser,
      given "PG_FIXTURE_PASSWORD" (by simp [environment]) (by decide) hpassword,
      Reader.pairs_eq_ok.2 rfl⟩

theorem build_environment [Interpreter] (valid : d.Valid) (distinct : (keys d.env).Nodup)
    {n : ℤ} (hport : d.nodePort = some n) : build [] d.environment = .ok d := by
  have hraw : d.environment.raw? "env" = some (Value.json d.env) :=
    Environment.raw?_of_mem (nodup_lower_keys_environment d) (List.mem_of_getLast? rfl) (by decide)
  have hcontainer : d.environment.containerValue = .ok (some (.record (Value.texts d.env))) := by
    simp only [Environment.containerValue, hraw, Value.ofJson_json distinct]
  exact build_eq_ok.2 ⟨_, hcontainer, read_environment valid hport⟩

/-- **No environment leaves the node port to the cluster.** -/
theorem nodePort_ne_none [Interpreter] (h : build [] env = .ok d) : d.nodePort ≠ none := by
  intro hport
  obtain ⟨container, -, hread⟩ := build_eq_ok.1 h
  obtain ⟨-, -, -, -, -, -, hnode, -⟩ := read_eq_ok.1 hread
  rw [hport, Source.read_environment] at hnode
  split at hnode
  · -- a text is not null
    have full : ∀ n, Value.whole n ≠ .null := nofun
    cases Reader.null_of_nullable full hnode rfl
  · cases hnode

end DatabaseSettings

/-! ## Resolving without overrides -/

/-- Without overrides the settings are those of the environment. -/
theorem Settings.resolve_nil [Interpreter] (env : Environment) :
    resolve [] env = build [] [] [] env := by
  have once : (keys ([] : Keywords)).Nodup := List.nodup_nil
  have hunknown : Keywords.unknown (Keywords.given []) = [] := unknown_eq_nil_iff.2 nofun
  rw [resolve_eq once, hunknown]
  cases h : build [] [] [] env with
  | error e => rfl
  | ok s => exact h

namespace DatabaseSettings

variable {d : DatabaseSettings} {env : Environment}

/-- An environment that is about the database settings alone leaves the others as they are. -/
theorem resolve_environment [Interpreter] (valid : d.Valid) (distinct : (keys d.env).Nodup)
    {n : ℤ} (hport : d.nodePort = some n) :
    Settings.resolve [] d.environment = .ok ⟨{}, d, .standard⟩ := by
  have hnone : ∀ field ∈ Group.cluster.fields ++ Group.poll.fields,
      d.environment.raw? field = none := by
    intro field hfield
    refine Environment.raw?_of_notMem ?_
    rw [lower_keys_environment]
    revert field
    decide
  have hcluster : ClusterSettings.build [] d.environment = ClusterSettings.build [] [] :=
    ClusterSettings.build_congr_environment fun field hfield _ =>
      hnone field (List.mem_append_left _ hfield)
  have hpoll : PollSettings.build [] d.environment = PollSettings.build [] [] :=
    PollSettings.build_congr_environment fun field hfield _ =>
      hnone field (List.mem_append_right _ hfield)
  rw [Settings.resolve_nil]
  exact Settings.build_eq_ok.2 ⟨hcluster.trans rfl, build_environment valid distinct hport,
    hpoll.trans rfl⟩

/-- **Settings come from an environment alone if and only if they have a node port**, whatever else
is in them. -/
theorem exists_environment_iff [Interpreter] (valid : d.Valid)
    (distinct : (keys d.env).Nodup) (storable : d.Storable) :
    (∃ env : Environment, env.Storable ∧
      ∃ s, Settings.resolve [] env = .ok s ∧ s.database = d) ↔ d.nodePort ≠ none := by
  constructor
  · rintro ⟨env, -, s, hresolve, rfl⟩
    rw [Settings.resolve_nil] at hresolve
    exact nodePort_ne_none (Settings.build_eq_ok.1 hresolve).2.1
  · intro hport
    obtain ⟨n, hn⟩ := Option.ne_none_iff_exists'.1 hport
    exact ⟨d.environment, storable_environment valid storable, _,
      resolve_environment valid distinct hn, rfl⟩

/-- A quote and a line break in the container variables are no hindrance. -/
theorem exists_environment_of_quote :
    let d : DatabaseSettings := { nodePort := some 30001, env := [("A", "\x22\n"), ("B", "")] }
    ∃ env : Environment, env.Storable ∧ ∃ s, Settings.resolve [] env = .ok s ∧ s.database = d := by
  intro d
  have valid : d.Valid := ⟨.standard, [("node_port", .whole 30001),
    ("env", .record [("A", .text "\x22\n"), ("B", .text "")])], [], rfl⟩
  have storable : d.Storable := by constructor <;> decide
  exact (exists_environment_iff valid (by decide) storable).2 nofun

/-- **Settings that leave the node port to the cluster come from no environment.** -/
theorem exists_unreachable :
    ¬ ∀ d : DatabaseSettings, d.Valid → (keys d.env).Nodup → d.Storable →
      ∃ env : Environment, env.Storable ∧
        ∃ s, Settings.resolve [] env = .ok s ∧ s.database = d := by
  intro reachable
  let d : DatabaseSettings := { nodePort := none }
  have storable : d.Storable := by constructor <;> decide
  have valid : d.Valid := ⟨.standard, [("node_port", .null)], [], rfl⟩
  obtain ⟨env, -, s, hresolve, hdatabase⟩ := reachable d valid (by decide) storable
  rw [Settings.resolve_nil] at hresolve
  exact nodePort_ne_none (Settings.build_eq_ok.1 hresolve).2.1 (hdatabase ▸ rfl)

end DatabaseSettings

end EphemeralDatabase
