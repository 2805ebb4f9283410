import EphemeralDatabase.Proofs.Uri.Syntax

/-!
# A handle's URL as a URI

User and password are escaped in a handle's URL, host and database are written as they are.  So it
depends on these two whether the URL is a URI that leads to the database, with a path that is
decoded to the name of the database and nothing after the path (`Handle.url_leads_iff`).

It does not lead there if the host is an IPv6 address, which would have to be in brackets, or if
the name of the database has a character in it that is not allowed in a path.  A question mark ends
the path (`Handle.query_of_question_mark`) and a percent sign begins an escape.
-/

namespace EphemeralDatabase

namespace Uri

/-- The text that a host stands for. -/
def Host.denotes? : Host → Option String
  | name cs => Percent.decode? cs
  | literal cs => some (String.ofList cs)

/-- A URI leads to a database: its host and its port are these, its path after the first slash is
decoded to the name of the database, and there is neither a query nor a fragment. -/
structure LeadsTo (u : Uri) (host : String) (port : ℕ) (database : String) : Prop where
  host : (u.authority.bind fun a => a.host.denotes?) = some host
  port : ((u.authority.bind Authority.port).bind fun cs => (String.ofList cs).toNat?) = some port
  path : ∃ name, u.path = '/' :: name ∧ Percent.decode? name = some database
  query : u.query = none
  fragment : u.fragment = none

/-- Escaped text can stand in every part. -/
theorem isText_append_of_isEscaped {marks cs : List Char} (h : Percent.IsEscaped cs)
    (ds : List Char) : isText marks (cs ++ ds) = isText marks ds := by
  induction h with
  | nil => rfl
  | plain c cs hc _ ih =>
    have hne : c ≠ '%' := by
      rintro rfl
      revert hc
      decide
    have hallowed : isAllowed marks c = true := by simp [isAllowed, hc]
    rw [List.cons_append, isText.eq_3 _ _ _ fun _ _ _ h => absurd h hne, hallowed, ih,
      Bool.true_and]
  | escape high low cs hhigh hlow _ ih =>
    simp only [List.cons_append, isText, hhigh, hlow, ih, Bool.true_and]

end Uri

namespace Handle

variable {h : Handle} {driver : String} {port : ℕ}

/-- The parts of a handle's URL. -/
def uri (h : Handle) (driver : String) (port : ℕ) : Uri where
  scheme := driver.toList
  authority := some ⟨some h.userInfo, .name h.host.toList, some (toString port).toList⟩
  path := '/' :: h.database.toList
  query := none
  fragment := none

theorem text_uri (hport : h.port = some (port : ℤ)) :
    (h.uri driver port).text = (h.url driver).toList := by
  rw [toList_url hport]
  simp [uri, Uri.text, Uri.hierarchy, Uri.Authority.text, Uri.Host.text, Uri.userInfoText, marked,
    address]

theorem isText_userInfo (h : Handle) : Uri.isText [':'] h.userInfo = true := by
  have hpassword : Uri.isText [':'] ((Percent.encode h.password).toList ++ []) = true :=
    Uri.isText_append_of_isEscaped (Percent.isEscaped_encode _) []
  rw [List.append_nil] at hpassword
  rw [userInfo, Uri.isText_append_of_isEscaped (Percent.isEscaped_encode _),
    Uri.isText.eq_3 _ _ _ (by simp), hpassword, Bool.and_true]
  decide

theorem isDigit_of_mem_port {c : Char} (hc : c ∈ (toString port).toList) : c.isDigit = true := by
  by_contra hdigit
  exact notMem_toString_nat (by simpa using hdigit) port hc

/-- A host name is written as it is. -/
theorem allowed_of_isHostName {cs : List Char} (h : Inet.isHostName cs = true) :
    ∀ c ∈ cs, Uri.isAllowed [] c = true := fun c hc => by
  rcases (Inet.isHostName_iff.1 h).2 c hc with hplain | rfl | rfl | rfl
  · simp [Uri.isAllowed, Percent.IsPlain, hplain]
  all_goals decide

/-- A percent sign is allowed nowhere but in an escape. -/
theorem notMem_percent {marks cs : List Char} (hmarks : '%' ∉ marks)
    (h : ∀ c ∈ cs, Uri.isAllowed marks c = true) : '%' ∉ cs := fun hmem => by
  have hallowed := h '%' hmem
  have hplain : ¬ Percent.IsPlain '%' := by decide
  have hdelimiter : '%' ∉ Uri.subDelimiters := by decide
  simp [Uri.isAllowed, hplain, hdelimiter, hmarks] at hallowed

theorem uri_wellFormed (hdriver : Uri.isScheme driver.toList = true)
    (hhost : Inet.isHostName h.host.toList = true)
    (hdatabase : ∀ c ∈ h.database.toList, Uri.isAllowed ":@/".toList c = true) :
    (h.uri driver port).WellFormed where
  scheme := hdriver
  authority := by
    have hname := allowed_of_isHostName hhost
    have hdigits : (toString port).toList.all Char.isDigit = true :=
      List.all_eq_true.2 fun _ hc => isDigit_of_mem_port hc
    intro a ha
    obtain rfl : _ = a := Option.some.inj ha
    refine ⟨⟨fun cs hcs => ?_, ?_, fun cs hcs => ?_⟩, rfl⟩
    · obtain rfl : h.userInfo = cs := Option.some.inj hcs
      exact h.isText_userInfo
    · exact (Uri.isText_iff (notMem_percent List.not_mem_nil hname)).2 hname
    · obtain rfl : (toString port).toList = cs := Option.some.inj hcs
      exact hdigits
  path := by
    have hpath : ∀ c ∈ '/' :: h.database.toList, Uri.isAllowed ":@/".toList c = true :=
      List.forall_mem_cons.2 ⟨by decide, hdatabase⟩
    exact (Uri.isText_iff (notMem_percent (by decide) hpath)).2 hpath
  rootless := nofun
  query := nofun
  fragment := nofun

/-- The URL leads to the database, if host and database can be written as they are. -/
theorem uri_leadsTo (hhost : Inet.isHostName h.host.toList = true)
    (hdatabase : ∀ c ∈ h.database.toList, Uri.isAllowed ":@/".toList c = true) :
    (h.uri driver port).LeadsTo h.host port h.database where
  host := by
    have hname := notMem_percent List.not_mem_nil (allowed_of_isHostName hhost)
    simpa [uri, Uri.Host.denotes?] using Percent.decode?_eq_self_iff.2 hname
  port := by
    have hdigits : (String.ofList (toString port).toList).toNat? = some port := by
      rw [String.ofList_toList]
      exact Nat.toNat?_repr port
    exact hdigits
  path := by
    have hself := Percent.decode?_eq_self_iff.2 (notMem_percent (by decide) hdatabase)
    exact ⟨_, rfl, by rwa [String.ofList_toList] at hself⟩
  query := rfl
  fragment := rfl

/-- No character that ends an authority is in a host. -/
theorem notMem_host {c : Char} (hhost : Inet.isHost h.host.toList = true) (hc : c ∈ "/?#@[]".toList) :
    c ∉ h.host.toList := fun hmem => by
  have hmark : c = '/' ∨ c = '?' ∨ c = '#' ∨ c = '@' ∨ c = '[' ∨ c = ']' := by simpa using hc
  have hother := Inet.mem_of_isHost hhost c hmem
  rcases hmark with rfl | rfl | rfl | rfl | rfl | rfl <;> revert hother <;> decide

/-- What is read from a URL without query and fragment, up to the path and behind it. -/
theorem parts_of_text {u : Uri} {a : Uri.Authority} {name : List Char} (wellFormed : u.WellFormed)
    (htext : u.text = (h.url driver).toList) (hdriver : Uri.isScheme driver.toList = true)
    (hhost : Inet.isHost h.host.toList = true) (hport : h.port = some (port : ℤ))
    (ha : u.authority = some a) (hpath : u.path = '/' :: name) (hquery : u.query = none)
    (hfragment : u.fragment = none) :
    a.text = h.userInfo ++ '@' :: h.address port ∧ name = h.database.toList := by
  have hleft : u.text = u.scheme ++ marked ':' (some ('/' :: '/' ::
      (a.text ++ marked '/' (some name)))) := by
    simp [Uri.text, Uri.hierarchy, ha, hpath, hquery, hfragment, marked]
  have hright : (h.url driver).toList = driver.toList ++ marked ':' (some ('/' :: '/' ::
      ((h.userInfo ++ '@' :: h.address port) ++ marked '/' (some h.database.toList)))) := by
    rw [toList_url hport]
    simp [marked]
  have hslash : '/' ∉ h.userInfo ++ '@' :: h.address port := by
    have hdigits : '/' ∉ (toString port).toList := notMem_toString_nat (by decide) port
    rw [List.mem_append, List.mem_cons, not_or, not_or, address, List.mem_append, List.mem_cons,
      not_or, not_or]
    exact ⟨notMem_userInfo (.inl rfl), by decide, notMem_host hhost (by decide), by decide, hdigits⟩
  have hscheme : cut ':' u.text = cut ':' (h.url driver).toList := by rw [htext]
  rw [hleft, hright, cut_marked (Uri.notMem_of_isScheme wellFormed.scheme),
    cut_marked (Uri.notMem_of_isScheme hdriver)] at hscheme
  have hrest : a.text ++ marked '/' (some name) =
      (h.userInfo ++ '@' :: h.address port) ++ marked '/' (some h.database.toList) := by
    simpa using (Prod.mk.inj hscheme).2
  have hcut := congrArg (cut '/') hrest
  rw [cut_marked (Uri.Authority.notMem_text (wellFormed.authority a ha).1 (by decide)),
    cut_marked hslash] at hcut
  obtain ⟨htext, hname⟩ := Prod.mk.inj hcut
  exact ⟨htext, Option.some.inj hname⟩

/-- An IPv6 address without brackets is no part of an authority. -/
theorem isV6_of_text {a : Uri.Authority} (wellFormed : a.WellFormed)
    (htext : a.text = h.userInfo ++ '@' :: h.address port) (hhost : Inet.isHost h.host.toList = true) :
    Inet.isV6 h.host.toList = false := by
  by_contra hv6
  have hcolon : ':' ∈ h.host.toList := Inet.mem_of_isV6 (by simpa using hv6)
  have hat : '@' ∉ h.userInfo := notMem_userInfo (.inr rfl)
  have hbracket : (h.address port).head? ≠ some '[' := fun hhead => by
    have hne : h.host.toList ≠ [] := List.ne_nil_of_mem hcolon
    rw [address, List.head?_append_of_ne_nil _ hne] at hhead
    exact notMem_host hhost (by decide) (List.mem_of_mem_head? hhead)
  obtain ⟨rest, hcut⟩ := cut_append hcolon (':' :: (toString port).toList)
  have hcutUser : cut '@' (h.userInfo ++ marked '@' (some (h.address port))) =
      (h.userInfo, some (h.address port)) := cut_marked hat
  have hread := Uri.authority?_text wellFormed
  rw [htext, Uri.authority?, ← marked.eq_2, hcutUser] at hread
  simp only [Uri.addressed?_of_head? _ hbracket] at hread
  have hport : a.port = some (rest ++ ':' :: (toString port).toList) := by
    rw [← Option.some.inj hread, address, hcut]
  have hdigit := List.all_eq_true.1 (wellFormed.port _ hport) ':' (by simp)
  revert hdigit
  decide

/-- **A handle's URL leads to its database if and only if host and database can be written as they
are**: the host is not an IPv6 address, and in the name of the database stand only characters that
are allowed in a path. -/
theorem url_leads_iff (hdriver : Uri.isScheme driver.toList = true) (hhost : Inet.isHost h.host.toList = true)
    (hport : h.port = some (port : ℤ)) :
    (∃ u, Uri.read? (h.url driver).toList = some u ∧ u.LeadsTo h.host port h.database) ↔
      Inet.isV6 h.host.toList = false ∧
        ∀ c ∈ h.database.toList, Uri.isAllowed ":@/".toList c = true := by
  constructor
  · rintro ⟨u, hread, leads⟩
    obtain ⟨wellFormed, htext⟩ := Uri.read?_eq_some_iff.1 hread
    obtain ⟨a, ha, -⟩ := Option.bind_eq_some_iff.1 leads.host
    obtain ⟨name, hpath, hname⟩ := leads.path
    obtain ⟨hauthority, rfl⟩ :=
      parts_of_text wellFormed htext hdriver hhost hport ha hpath leads.query leads.fragment
    have hself : Percent.decode? h.database.toList = some (String.ofList h.database.toList) := by
      rwa [String.ofList_toList]
    have hpercent := Percent.decode?_eq_self_iff.1 hself
    have hallowed := wellFormed.path
    rw [hpath, Uri.isText_iff (by simpa using hpercent)] at hallowed
    exact ⟨isV6_of_text (wellFormed.authority a ha).1 hauthority hhost,
      (List.forall_mem_cons.1 hallowed).2⟩
  · rintro ⟨hv6, hdatabase⟩
    have hname := Inet.isHostName_of_isHost hhost hv6
    exact ⟨h.uri driver port, Uri.read?_eq_some_iff.2 ⟨uri_wellFormed hdriver hname hdatabase,
      text_uri hport⟩, uri_leadsTo hname hdatabase⟩

/-- A handle with the standard settings. -/
def standard : Handle where
  host := "127.0.0.1"
  port := some 32543
  database := "eventstore_db"
  user := "postgres"
  password := "password"
  space := "default"
  serviceName := "postgres-service"
  podName := "postgres"

/-- **What follows a question mark in the name of a database is read as a query.** -/
theorem query_of_question_mark :
    Uri.read? ({ standard with database := "a?b" }.url).toList = some {
      scheme := "postgresql".toList
      authority := some ⟨some "postgres:password".toList, .name "127.0.0.1".toList,
        some "32543".toList⟩
      path := "/a".toList
      query := some "b".toList
      fragment := none } := by
  decide +kernel

/-- The URL leads to the database with the standard settings, and neither with a question mark in
the name of the database nor with an IPv6 address for a host. -/
theorem url_leads_of_standard :
    (Uri.isScheme "postgresql".toList = true ∧ Inet.isHost "127.0.0.1".toList = true ∧
      Inet.isHost "::1".toList = true ∧ standard.port = some ((32543 : ℕ) : ℤ)) ∧
    (∃ u, Uri.read? standard.url.toList = some u ∧
      u.LeadsTo "127.0.0.1" 32543 "eventstore_db") ∧
    (¬ ∃ u, Uri.read? ({ standard with database := "a?b" }.url).toList = some u ∧
      u.LeadsTo "127.0.0.1" 32543 "a?b") ∧
    ¬ ∃ u, Uri.read? ({ standard with host := "::1" }.url).toList = some u ∧
      u.LeadsTo "::1" 32543 "eventstore_db" := by
  have hdriver : Uri.isScheme "postgresql".toList = true := by decide
  have hv4 : Inet.isHost "127.0.0.1".toList = true := by decide
  have hv6 : Inet.isHost "::1".toList = true := by decide +kernel
  have hport : standard.port = some ((32543 : ℕ) : ℤ) := rfl
  refine ⟨⟨hdriver, hv4, hv6, hport⟩, ?_, ?_, ?_⟩
  · exact (url_leads_iff (h := standard) hdriver hv4 hport).2
      ⟨by decide +kernel, List.all_eq_true.1 (by decide)⟩
  · intro leads
    have hallowed := ((url_leads_iff (h := { standard with database := "a?b" }) hdriver hv4
      hport).1 leads).2 '?' (by decide)
    revert hallowed
    decide
  · intro leads
    have hname := ((url_leads_iff (h := { standard with host := "::1" }) hdriver hv6 hport).1
      leads).1
    revert hname
    decide +kernel

end Handle

end EphemeralDatabase
