import EphemeralDatabase.Proofs.Uri.Inet

/-!
# The generic syntax of URIs

A URI is a scheme, an authority, a path, a query and a fragment, of which only scheme and path are
always there.  An authority is a host, which user information may precede and a port may follow.
`Uri.text` is how these parts are written, and `Uri.WellFormed` says which characters each of them
can be made of.

The parts are told apart by the characters before them, and none of these can stand in an earlier
part.  So they are found again by cutting a text at the first place of one character after another
(`Uri.split?`), and a text can be read as a URI in one way at most: reading accepts exactly what is
written of well-formed parts (`Uri.read?_eq_some_iff`).
-/

namespace EphemeralDatabase

namespace Uri

/-! ## Characters -/

/-- The characters that some parts may use to tell their own parts apart. -/
def subDelimiters : List Char := "!$&\x27()*+,;=".toList

/-- A character that stands for itself in a part with these marks. -/
def isAllowed (marks : List Char) (c : Char) : Bool :=
  decide (Percent.IsPlain c) || subDelimiters.contains c || marks.contains c

/-- Characters that stand for themselves, and escapes. -/
def isText (marks : List Char) : List Char → Bool
  | [] => true
  | '%' :: high :: low :: cs =>
      (hexValue? high).isSome && (hexValue? low).isSome && isText marks cs
  | c :: cs => isAllowed marks c && isText marks cs

/-- What is not allowed in a part is not in it, percent signs excepted. -/
theorem notMem_of_isText {marks cs : List Char} {c : Char} (h : isText marks cs = true)
    (hc : isAllowed marks c = false) (hpercent : c ≠ '%') : c ∉ cs := by
  fun_induction isText marks cs with
  | case1 => exact List.not_mem_nil
  | case2 high low cs ih =>
    simp only [Bool.and_eq_true] at h
    obtain ⟨⟨hhigh, hlow⟩, hrest⟩ := h
    have hne {d : Char} (hd : (hexValue? d).isSome = true) : c ≠ d := by
      rintro rfl
      simp [isAllowed, Percent.IsPlain, Inet.isAlphanum_of_hexValue? hd] at hc
    exact List.not_mem_cons_of_ne_of_not_mem hpercent
      (List.not_mem_cons_of_ne_of_not_mem (hne hhigh)
        (List.not_mem_cons_of_ne_of_not_mem (hne hlow) (ih hrest)))
  | case3 d cs hshort ih =>
    obtain ⟨hd, hrest⟩ := Bool.and_eq_true_iff.1 h
    have hne : c ≠ d := by
      rintro rfl
      rw [hd] at hc
      cases hc
    exact List.not_mem_cons_of_ne_of_not_mem hne (ih hrest)

/-- Without percent signs a part is made of allowed characters. -/
theorem isText_iff {marks cs : List Char} (h : '%' ∉ cs) :
    isText marks cs = true ↔ ∀ c ∈ cs, isAllowed marks c = true := by
  induction cs with
  | nil => simp [isText]
  | cons c cs ih =>
    obtain ⟨hc, hcs⟩ := not_or.1 (mt List.mem_cons.2 h)
    rw [isText.eq_3 _ _ _ fun _ _ _ h => absurd h.symm hc, Bool.and_eq_true, ih hcs,
      List.forall_mem_cons]

/-! ## Parts -/

/-- What a URI says where something is: a name, or an address in brackets. -/
inductive Host where
  | name (name : List Char)
  | literal (address : List Char)
  deriving DecidableEq

/-- The authority of a URI. -/
structure Authority where
  userInfo : Option (List Char)
  host : Host
  port : Option (List Char)
  deriving DecidableEq

end Uri

/-- The parts of a URI. -/
structure Uri where
  scheme : List Char
  authority : Option Uri.Authority
  path : List Char
  query : Option (List Char)
  fragment : Option (List Char)
  deriving DecidableEq

namespace Uri

/-- A host as it is written. -/
def Host.text : Host → List Char
  | name cs => cs
  | literal cs => '[' :: (cs ++ [']'])

/-- The user information as it is written before a host. -/
def userInfoText (userInfo : Option (List Char)) : List Char :=
  (userInfo.map (· ++ ['@'])).getD []

/-- An authority as it is written. -/
def Authority.text (a : Authority) : List Char :=
  userInfoText a.userInfo ++ (a.host.text ++ marked ':' a.port)

/-- What is written between the scheme and the query. -/
def hierarchy (u : Uri) : List Char :=
  match u.authority with
  | none => u.path
  | some a => '/' :: '/' :: (a.text ++ u.path)

/-- A URI as it is written. -/
def text (u : Uri) : List Char :=
  u.scheme ++ marked ':' (some
    ((u.hierarchy ++ marked '?' u.query) ++ marked '#' u.fragment))

/-! ## Well-formed parts -/

/-- A letter, and then letters, digits, and three marks. -/
def isScheme (cs : List Char) : Bool :=
  cs.head?.any Char.isAlpha && cs.all fun c => c.isAlphanum || "+-.".toList.contains c

theorem notMem_of_isScheme {cs : List Char} (h : isScheme cs = true) : ':' ∉ cs := fun hmem => by
  have hcolon := List.all_eq_true.1 (Bool.and_eq_true_iff.1 h).2 _ hmem
  revert hcolon
  decide

/-- An address of a version that is still to come: the letter `v`, the version, a dot, and the
address. -/
def isFutureAddress : List Char → Bool
  | [] => false
  | letter :: cs =>
      ['v', 'V'].contains letter &&
        (!(cut '.' cs).1.isEmpty && (cut '.' cs).1.all fun c => (hexValue? c).isSome) &&
        (cut '.' cs).2.any fun address => !address.isEmpty && address.all (isAllowed [':'])

/-- What a host can be made of. -/
def Host.WellFormed : Host → Prop
  | name cs => isText [] cs = true
  | literal cs => Inet.isV6 cs = true ∨ isFutureAddress cs = true

/-- What the parts of an authority can be made of. -/
structure Authority.WellFormed (a : Authority) : Prop where
  userInfo : ∀ cs ∈ a.userInfo, isText [':'] cs = true
  host : a.host.WellFormed
  port : ∀ cs ∈ a.port, cs.all Char.isDigit = true

/-- What the parts of a URI can be made of.  A path after an authority is empty or begins with a
slash, and without an authority it does not begin with two. -/
structure WellFormed (u : Uri) : Prop where
  scheme : isScheme u.scheme = true
  authority : ∀ a ∈ u.authority, a.WellFormed ∧ u.path.head?.all (· == '/') = true
  path : isText ":@/".toList u.path = true
  rootless : u.authority = none → ¬ ['/', '/'] <+: u.path
  query : ∀ cs ∈ u.query, isText ":@/?".toList cs = true
  fragment : ∀ cs ∈ u.fragment, isText ":@/?".toList cs = true

instance (h : Host) : Decidable h.WellFormed := by
  cases h <;> unfold Host.WellFormed <;> infer_instance

instance (a : Authority) : Decidable a.WellFormed :=
  decidable_of_iff ((∀ cs ∈ a.userInfo, isText [':'] cs = true) ∧ a.host.WellFormed ∧
    ∀ cs ∈ a.port, cs.all Char.isDigit = true)
    ⟨fun ⟨h₁, h₂, h₃⟩ => ⟨h₁, h₂, h₃⟩, fun ⟨h₁, h₂, h₃⟩ => ⟨h₁, h₂, h₃⟩⟩

instance (u : Uri) : Decidable u.WellFormed :=
  decidable_of_iff (isScheme u.scheme = true ∧
    (∀ a ∈ u.authority, a.WellFormed ∧ u.path.head?.all (· == '/') = true) ∧
    isText ":@/".toList u.path = true ∧ (u.authority = none → ¬ ['/', '/'] <+: u.path) ∧
    (∀ cs ∈ u.query, isText ":@/?".toList cs = true) ∧
    ∀ cs ∈ u.fragment, isText ":@/?".toList cs = true)
    ⟨fun ⟨h₁, h₂, h₃, h₄, h₅, h₆⟩ => ⟨h₁, h₂, h₃, h₄, h₅, h₆⟩,
      fun ⟨h₁, h₂, h₃, h₄, h₅, h₆⟩ => ⟨h₁, h₂, h₃, h₄, h₅, h₆⟩⟩

/-! ## Reading -/

/-- The authority of which this is the part after the user information. -/
def addressed? (userInfo : Option (List Char)) : List Char → Option Authority
  | '[' :: cs =>
      match cut ']' cs with
      | (address, some rest) =>
          match cut ':' rest with
          | ([], port) => some ⟨userInfo, .literal address, port⟩
          | _ => none
      | _ => none
  | cs => some ⟨userInfo, .name (cut ':' cs).1, (cut ':' cs).2⟩

/-- The parts of an authority. -/
def authority? (cs : List Char) : Option Authority :=
  match cut '@' cs with
  | (address, none) => addressed? none address
  | (userInfo, some address) => addressed? (some userInfo) address

/-- The parts between the scheme and the query. -/
def hierarchy? : List Char → Option (Option Authority × List Char)
  | '/' :: '/' :: cs =>
      (authority? (cut '/' cs).1).map fun a => (some a, marked '/' (cut '/' cs).2)
  | path => some (none, path)

/-- The parts of a text, whatever they are made of. -/
def split? (cs : List Char) : Option Uri :=
  match cut ':' cs with
  | (_, none) => none
  | (scheme, some rest) =>
      let (rest, fragment) := cut '#' rest
      let (rest, query) := cut '?' rest
      (hierarchy? rest).map fun (authority, path) => ⟨scheme, authority, path, query, fragment⟩

/-- The URI that a text is. -/
def read? (cs : List Char) : Option Uri := (split? cs).filter fun u => decide u.WellFormed

/-! ### What is written is read -/

variable {u : Uri} {a : Authority} {cs : List Char} {c : Char}

theorem isAllowed_of_hexValue? {marks : List Char} (h : (hexValue? c).isSome = true) :
    isAllowed marks c = true := by
  simp [isAllowed, Percent.IsPlain, Inet.isAlphanum_of_hexValue? h]

/-- What can stand in brackets. -/
theorem Host.WellFormed.allowed (h : (Host.literal cs).WellFormed) :
    ∀ c ∈ cs, isAllowed [':'] c = true := by
  rcases h with hv6 | hfuture
  · intro c hc
    rcases Inet.isNumeric_of_isV6 hv6 c hc with hhex | rfl | rfl
    · exact isAllowed_of_hexValue? hhex
    · decide
    · decide
  · cases cs with
    | nil => cases hfuture
    | cons letter cs =>
      simp only [isFutureAddress, Bool.and_eq_true, List.all_eq_true, Option.any_eq_true]
        at hfuture
      obtain ⟨⟨hletter, -, hversion⟩, address, hcut, -, haddress⟩ := hfuture
      have hcs := marked_cut '.' cs
      rw [hcut] at hcs
      refine List.forall_mem_cons.2 ⟨?_, ?_⟩
      · have hv : letter = 'v' ∨ letter = 'V' := by simpa using hletter
        rcases hv with rfl | rfl <;> decide
      · rw [← hcs]
        exact List.forall_mem_append.2 ⟨fun c hc => isAllowed_of_hexValue? (hversion c hc),
          List.forall_mem_cons.2 ⟨by decide, haddress⟩⟩

theorem Host.notMem_text {h : Host} (wellFormed : h.WellFormed) (hc : c ∈ "/?#@".toList) :
    c ∉ h.text := by
  obtain ⟨hname, hliteral, hpercent, hopen, hclose⟩ : isAllowed [] c = false ∧
      isAllowed [':'] c = false ∧ c ≠ '%' ∧ c ≠ '[' ∧ c ≠ ']' := by
    have hmark : c = '/' ∨ c = '?' ∨ c = '#' ∨ c = '@' := by simpa using hc
    rcases hmark with rfl | rfl | rfl | rfl <;> decide
  cases h with
  | name cs => exact notMem_of_isText wellFormed hname hpercent
  | literal cs =>
    have hcs : c ∉ cs := fun hmem => by
      rw [wellFormed.allowed c hmem] at hliteral
      cases hliteral
    simp [text, hcs, hopen, hclose]

theorem addressed?_of_head? (userInfo : Option (List Char)) (h : cs.head? ≠ some '[') :
    addressed? userInfo cs = some ⟨userInfo, .name (cut ':' cs).1, (cut ':' cs).2⟩ := by
  unfold addressed?
  split
  · exact absurd rfl h
  · rfl

theorem addressed?_text {h : Host} (wellFormed : h.WellFormed)
    (userInfo port : Option (List Char)) :
    addressed? userInfo (h.text ++ marked ':' port) = some ⟨userInfo, h, port⟩ := by
  cases h with
  | name cs =>
    have hcolon : ':' ∉ cs := notMem_of_isText wellFormed (by decide) (by decide)
    have hbracket : '[' ∉ cs := notMem_of_isText wellFormed (by decide) (by decide)
    have hhead : (cs ++ marked ':' port).head? ≠ some '[' := by
      cases cs with
      | nil => cases port <;> simp [marked]
      | cons d cs => simpa using Ne.symm (not_or.1 (mt List.mem_cons.2 hbracket)).1
    rw [Host.text, addressed?_of_head? userInfo hhead, cut_marked hcolon]
  | literal cs =>
    have hclose : ']' ∉ cs := fun hmem => by
      have := wellFormed.allowed _ hmem
      revert this
      decide
    have hinside : cut ']' (cs ++ marked ']' (some (marked ':' port))) =
        (cs, some (marked ':' port)) := cut_marked hclose
    have hport : cut ':' ([] ++ marked ':' port) = ([], port) := cut_marked List.not_mem_nil
    have htext : (Host.literal cs).text ++ marked ':' port =
        '[' :: (cs ++ marked ']' (some (marked ':' port))) := by
      simp [Host.text, marked]
    rw [htext]
    simp only [addressed?, hinside]
    rw [List.nil_append] at hport
    rw [hport]

/-- No character that ends an authority is in one. -/
theorem Authority.notMem_text (wellFormed : a.WellFormed) (hc : c ∈ "/?#".toList) :
    c ∉ a.text := by
  obtain ⟨huser, hpercent, hat, hcolon, hdigit, hhost⟩ : isAllowed [':'] c = false ∧ c ≠ '%' ∧
      c ≠ '@' ∧ c ≠ ':' ∧ c.isDigit = false ∧ c ∈ "/?#@".toList := by
    have hmark : c = '/' ∨ c = '?' ∨ c = '#' := by simpa using hc
    rcases hmark with rfl | rfl | rfl <;> decide
  have hport : c ∉ marked ':' a.port := notMem_marked hcolon fun cs hcs hmem => by
    rw [List.all_eq_true.1 (wellFormed.port cs hcs) c hmem] at hdigit
    cases hdigit
  have huserInfo : c ∉ userInfoText a.userInfo := by
    cases huserInfo : a.userInfo with
    | none => exact List.not_mem_nil
    | some cs =>
      have hcs : c ∉ cs := notMem_of_isText (wellFormed.userInfo cs huserInfo) huser hpercent
      simp [userInfoText, hcs, hat]
  rw [Authority.text, List.mem_append, List.mem_append, not_or, not_or]
  exact ⟨huserInfo, Host.notMem_text wellFormed.host hhost, hport⟩

theorem authority?_text (wellFormed : a.WellFormed) : authority? a.text = some a := by
  obtain ⟨userInfo, host, port⟩ := a
  have haddress : '@' ∉ host.text ++ marked ':' port := by
    rw [List.mem_append, not_or]
    refine ⟨Host.notMem_text wellFormed.host (by decide), notMem_marked (by decide) ?_⟩
    intro cs hcs hmem
    have hdigit := List.all_eq_true.1 (wellFormed.port cs hcs) _ hmem
    revert hdigit
    decide
  cases userInfo with
  | none =>
    have hcut : cut '@' ((host.text ++ marked ':' port) ++ marked '@' none) =
        (host.text ++ marked ':' port, none) := cut_marked haddress
    rw [marked, List.append_nil] at hcut
    simp only [authority?, Authority.text, userInfoText, Option.map_none, Option.getD_none,
      List.nil_append, hcut]
    exact addressed?_text wellFormed.host none port
  | some cs =>
    have hat : '@' ∉ cs :=
      notMem_of_isText (wellFormed.userInfo cs rfl) (by decide) (by decide)
    have hcut : cut '@' (cs ++ marked '@' (some (host.text ++ marked ':' port))) =
        (cs, some (host.text ++ marked ':' port)) := cut_marked hat
    have htext : (Authority.text ⟨some cs, host, port⟩) =
        cs ++ marked '@' (some (host.text ++ marked ':' port)) := by
      simp [Authority.text, userInfoText, marked]
    rw [htext]
    simp only [authority?, hcut]
    exact addressed?_text wellFormed.host (some cs) port

/-- No character that ends the hierarchical part is in it. -/
theorem notMem_hierarchy (wellFormed : u.WellFormed) (hc : c ∈ "?#".toList) :
    c ∉ u.hierarchy := by
  obtain ⟨hpath, hpercent, hslash, hauthority⟩ : isAllowed ":@/".toList c = false ∧ c ≠ '%' ∧
      c ≠ '/' ∧ c ∈ "/?#".toList := by
    have hmark : c = '?' ∨ c = '#' := by simpa using hc
    rcases hmark with rfl | rfl <;> decide
  have hrest : c ∉ u.path := notMem_of_isText wellFormed.path hpath hpercent
  unfold hierarchy
  split
  · exact hrest
  · rename_i a ha
    have ha : c ∉ a.text := Authority.notMem_text (wellFormed.authority a ha).1 hauthority
    simp [ha, hrest, hslash]

theorem hierarchy?_hierarchy (wellFormed : u.WellFormed) :
    hierarchy? u.hierarchy = some (u.authority, u.path) := by
  obtain ⟨scheme, authority, path, query, fragment⟩ := u
  cases authority with
  | none =>
    have hpath := wellFormed.rootless rfl
    simp only [hierarchy]
    unfold hierarchy?
    split
    · exact absurd (by simp) hpath
    · rfl
  | some a =>
    obtain ⟨ha, hrooted⟩ := wellFormed.authority a rfl
    obtain ⟨rest, hrest⟩ : ∃ rest, marked '/' rest = path := by
      cases path with
      | nil => exact ⟨none, rfl⟩
      | cons c path =>
        obtain rfl : c = '/' := by simpa using hrooted
        exact ⟨some path, rfl⟩
    have hslash : '/' ∉ a.text := Authority.notMem_text ha (by decide)
    have hcut : cut '/' (a.text ++ path) = (a.text, rest) := by
      rw [← hrest]
      exact cut_marked hslash
    simp only [hierarchy, hierarchy?, hcut, authority?_text ha, Option.map_some, hrest]

/-- **Well-formed parts are found in what is written of them.** -/
theorem split?_text (wellFormed : u.WellFormed) : split? u.text = some u := by
  have hcolon : ':' ∉ u.scheme := notMem_of_isScheme wellFormed.scheme
  have hhash : '#' ∉ u.hierarchy ++ marked '?' u.query := by
    rw [List.mem_append, not_or]
    exact ⟨notMem_hierarchy wellFormed (by decide), notMem_marked (by decide) fun cs hcs =>
      notMem_of_isText (wellFormed.query cs hcs) (by decide) (by decide)⟩
  have hquestion : '?' ∉ u.hierarchy := notMem_hierarchy wellFormed (by decide)
  simp only [split?, text, cut_marked hcolon, cut_marked hhash, cut_marked hquestion,
    hierarchy?_hierarchy wellFormed, Option.map_some]

/-! ### What is read is written -/

theorem text_of_addressed? {userInfo : Option (List Char)}
    (h : addressed? userInfo cs = some a) : a.text = userInfoText userInfo ++ cs := by
  unfold addressed? at h
  split at h
  · rename_i inside
    split at h
    · rename_i address rest hinside
      split at h
      · rename_i port hport
        obtain rfl : _ = a := Option.some.inj h
        have hrest := marked_cut ':' rest
        have hcs := marked_cut ']' inside
        rw [hport, List.nil_append] at hrest
        rw [hinside] at hcs
        simp only [Authority.text, Host.text]
        rw [hrest, ← hcs]
        simp [marked]
      · cases h
    · cases h
  · obtain rfl : _ = a := Option.some.inj h
    simp only [Authority.text, Host.text, marked_cut]

theorem text_of_authority? (h : authority? cs = some a) : a.text = cs := by
  have hcs := marked_cut '@' cs
  unfold authority? at h
  split at h
  · rename_i address hcut
    rw [hcut, marked, List.append_nil] at hcs
    rw [text_of_addressed? h, ← hcs]
    rfl
  · rename_i userInfo address hcut
    rw [hcut] at hcs
    rw [text_of_addressed? h, ← hcs]
    simp [userInfoText, marked]

/-- What authority and path are written to is the text that they were found in. -/
theorem hierarchy_of_hierarchy? (h : hierarchy? cs = some (u.authority, u.path)) :
    u.hierarchy = cs := by
  unfold hierarchy? at h
  split at h
  · obtain ⟨a, ha, hpair⟩ := Option.map_eq_some_iff.1 h
    obtain ⟨hauthority, hpath⟩ := Prod.mk.inj hpair
    simp only [hierarchy, ← hauthority, ← hpath, text_of_authority? ha, marked_cut]
  · obtain ⟨hauthority, hpath⟩ := Prod.mk.inj (Option.some.inj h)
    simp only [hierarchy, ← hauthority, ← hpath]

/-- **What the parts of a text are written to is the text.** -/
theorem text_of_split? (h : split? cs = some u) : u.text = cs := by
  have hcs := marked_cut ':' cs
  unfold split? at h
  split at h
  · cases h
  · rename_i scheme rest hcut
    rw [hcut] at hcs
    replace h : (hierarchy? (cut '?' (cut '#' rest).1).1).map (fun (authority, path) =>
        (⟨scheme, authority, path, (cut '?' (cut '#' rest).1).2, (cut '#' rest).2⟩ : Uri)) =
      some u := h
    obtain ⟨⟨authority, path⟩, hhierarchy, rfl⟩ := Option.map_eq_some_iff.1 h
    rw [← hcs, text, hierarchy_of_hierarchy? hhierarchy, marked_cut, marked_cut]

/-! ### Reading and writing -/

/-- **Reading a URI accepts exactly what is written of well-formed parts**, and gives these parts.
-/
theorem read?_eq_some_iff : read? cs = some u ↔ u.WellFormed ∧ u.text = cs := by
  rw [read?, Option.filter_eq_some_iff, decide_eq_true_eq]
  constructor
  · rintro ⟨hsplit, wellFormed⟩
    exact ⟨wellFormed, text_of_split? hsplit⟩
  · rintro ⟨wellFormed, rfl⟩
    exact ⟨split?_text wellFormed, wellFormed⟩

end Uri

end EphemeralDatabase
