import EphemeralDatabase.Fixture.Handle
import EphemeralDatabase.Proofs.Text.Cutting
import EphemeralDatabase.Proofs.Text.Numeral
import EphemeralDatabase.Proofs.Text.Percent
import Mathlib

/-!
# Taking a URL apart

A URL is read by cutting it: at `://`, then at the first `/`, then the authority at its only `@`,
the user information at its only `:` and the address at its only `:`.  Every cut is at the first
place where the mark stands, so what has to be shown each time is that the text before the mark
does not have the mark's first character (`cutAt?_of_notMem`).  For the user and the password
that is so because they are encoded, for the driver and the host it is assumed, and a port is
written in digits.

Nothing is assumed of the database, which is all that is left after the first `/`.
-/

namespace EphemeralDatabase

/-! ## The parts of a URL -/

/-- What is read from a URL. -/
structure UrlParts where
  driver : String
  user : String
  password : String
  host : String
  port : ℕ
  database : String
  deriving DecidableEq

namespace UrlParts

/-- The driver of a URL, its authority and what stands after the authority. -/
def sections? (url : String) : Option (List Char × List Char × List Char) := do
  let (driver, rest) ← cutAt? "://".toList url.toList
  let (authority, database) ← cutAt? "/".toList rest
  return (driver, authority, database)

/-- The user information of a URL, as it is written there. -/
def userInfo? (url : String) : Option (List Char) := do
  let (_, authority, _) ← sections? url
  let (userInfo, _) ← cutOnly? '@' authority
  return userInfo

/-- The parts of a URL, with user and password decoded. -/
def read? (url : String) : Option UrlParts := do
  let (driver, authority, database) ← sections? url
  let (userInfo, address) ← cutOnly? '@' authority
  let (user, password) ← cutOnly? ':' userInfo
  let (host, port) ← cutOnly? ':' address
  return {
    driver := String.ofList driver
    user := ← Percent.decode? user
    password := ← Percent.decode? password
    host := String.ofList host
    port := ← (String.ofList port).toNat?
    database := String.ofList database }

end UrlParts

/-- A driver that a URL can begin with. -/
def IsDriver (driver : String) : Prop := ∀ c ∈ driver.toList, c ≠ ':' ∧ c ≠ '/'

/-- A host without the characters that separate the parts of a URL. -/
def IsPlainHost (host : String) : Prop := ∀ c ∈ host.toList, c ∉ ":/?#@[]".toList

instance (driver : String) : Decidable (IsDriver driver) := List.decidableBAll _ _

instance (host : String) : Decidable (IsPlainHost host) := List.decidableBAll _ _

/-- A character that separates the parts of a URL is written neither in encoded text nor in a
port. -/
theorem notMem_of_separator {c : Char} (hc : c = ':' ∨ c = '/' ∨ c = '@') :
    (∀ text, c ∉ (Percent.encode text).toList) ∧ ∀ port : ℕ, c ∉ (toString port).toList := by
  obtain ⟨hplain, hvalue, hpercent, hdigit⟩ : ¬ Percent.IsPlain c ∧ hexValue? c = none ∧
      c ≠ '%' ∧ c.isDigit = false := by
    rcases hc with rfl | rfl | rfl <;> decide
  exact ⟨Percent.notMem_encode hplain hvalue hpercent, notMem_toString_nat hdigit⟩

theorem IsPlainHost.notMem {host : String} {c : Char} (h : IsPlainHost host)
    (hc : c = ':' ∨ c = '/' ∨ c = '@') : c ∉ host.toList := by
  intro hmem
  refine h c hmem ?_
  rcases hc with rfl | rfl | rfl <;> decide

namespace Handle

variable {h : Handle} {driver : String} {port : ℕ}

/-- The user information of a handle's URL. -/
def userInfo (h : Handle) : List Char :=
  (Percent.encode h.user).toList ++ ':' :: (Percent.encode h.password).toList

/-- The address in a handle's URL. -/
def address (h : Handle) (port : ℕ) : List Char := h.host.toList ++ ':' :: (toString port).toList

/-- The parts that a handle's URL is made of. -/
def parts (h : Handle) (driver : String) (port : ℕ) : UrlParts where
  driver := driver
  user := h.user
  password := h.password
  host := h.host
  port := port
  database := h.database

theorem notMem_userInfo {c : Char} (hc : c = '/' ∨ c = '@') : c ∉ h.userInfo := by
  have hcolon : c ≠ ':' := by rcases hc with rfl | rfl <;> decide
  have hencoded := (notMem_of_separator (.inr hc)).1
  rw [userInfo, List.mem_append, List.mem_cons, not_or, not_or]
  exact ⟨hencoded h.user, hcolon, hencoded h.password⟩

theorem notMem_address {c : Char} (hhost : IsPlainHost h.host) (hc : c = '/' ∨ c = '@') :
    c ∉ h.address port := by
  have hcolon : c ≠ ':' := by rcases hc with rfl | rfl <;> decide
  rw [address, List.mem_append, List.mem_cons, not_or, not_or]
  exact ⟨hhost.notMem (.inr hc), hcolon, (notMem_of_separator (.inr hc)).2 port⟩

theorem toList_url (hport : h.port = some (port : ℤ)) :
    (h.url driver).toList = driver.toList ++ "://".toList ++
      ((h.userInfo ++ '@' :: h.address port) ++ "/".toList ++ h.database.toList) := by
  have hdigits : portText (some (port : ℤ)) = toString port := rfl
  simp only [url, userInfo, address, hport, hdigits, String.toList_append, List.append_assoc,
    List.cons_append]
  rfl

/-- The first two cuts of a handle's URL. -/
theorem sections?_url (hdriver : IsDriver driver) (hhost : IsPlainHost h.host)
    (hport : h.port = some (port : ℤ)) :
    UrlParts.sections? (h.url driver) =
      some (driver.toList, h.userInfo ++ '@' :: h.address port, h.database.toList) := by
  have hcolon : ':' ∉ driver.toList := fun hmem => (hdriver _ hmem).1 rfl
  have hslash : '/' ∉ h.userInfo ++ '@' :: h.address port := by
    rw [List.mem_append, List.mem_cons, not_or, not_or]
    exact ⟨notMem_userInfo (.inl rfl), by decide, notMem_address hhost (.inl rfl)⟩
  have hscheme : cutAt? "://".toList (h.url driver).toList =
      some (driver.toList, (h.userInfo ++ '@' :: h.address port) ++ "/".toList ++
        h.database.toList) := by
    rw [toList_url hport]
    exact cutAt?_of_notMem hcolon
  have hpath : cutAt? "/".toList ((h.userInfo ++ '@' :: h.address port) ++ "/".toList ++
      h.database.toList) = some (h.userInfo ++ '@' :: h.address port, h.database.toList) :=
    cutAt?_of_notMem hslash
  simp only [UrlParts.sections?, hscheme, hpath, Option.bind_eq_bind, Option.bind_some]
  rfl

/-- The authority has one `@`. -/
theorem cutOnly?_authority (hhost : IsPlainHost h.host) :
    cutOnly? '@' (h.userInfo ++ '@' :: h.address port) = some (h.userInfo, h.address port) :=
  cutOnly?_of_notMem (notMem_userInfo (.inr rfl)) (notMem_address hhost (.inr rfl))

theorem userInfo?_url (hdriver : IsDriver driver) (hhost : IsPlainHost h.host)
    (hport : h.port = some (port : ℤ)) :
    UrlParts.userInfo? (h.url driver) = some h.userInfo := by
  simp only [UrlParts.userInfo?, sections?_url hdriver hhost hport, cutOnly?_authority hhost,
    Option.bind_eq_bind, Option.bind_some]
  rfl

theorem urlParts_read?_url (hdriver : IsDriver driver) (hhost : IsPlainHost h.host)
    (hport : h.port = some (port : ℤ)) :
    UrlParts.read? (h.url driver) = some (h.parts driver port) := by
  have hcredentials : cutOnly? ':' h.userInfo =
      some ((Percent.encode h.user).toList, (Percent.encode h.password).toList) :=
    cutOnly?_of_notMem ((notMem_of_separator (.inl rfl)).1 _)
      ((notMem_of_separator (.inl rfl)).1 _)
  have haddress : cutOnly? ':' (h.address port) = some (h.host.toList, (toString port).toList) :=
    cutOnly?_of_notMem (hhost.notMem (.inl rfl)) ((notMem_of_separator (.inl rfl)).2 _)
  have hdigits : (toString port).toNat? = some port := Nat.toNat?_repr port
  simp only [UrlParts.read?, sections?_url hdriver hhost hport, cutOnly?_authority hhost,
    hcredentials, haddress, String.ofList_toList, hdigits, Percent.decode?_encode,
    Option.bind_eq_bind, Option.bind_some]
  rfl

/-- **A handle's URL gives back what it was made of.**  Its user information is two escaped texts
with one `:` between them; cutting the URL and decoding user and password gives the driver, the
user, the password, the host, the port and the database; and so another handle with the same URL
agrees in all of them. -/
theorem parts_of_url (hdriver : IsDriver driver) (hhost : IsPlainHost h.host)
    (hport : h.port = some (port : ℤ)) :
    (∃ user password, UrlParts.userInfo? (h.url driver) = some (user ++ ':' :: password) ∧
      Percent.IsEscaped user ∧ Percent.IsEscaped password) ∧
    UrlParts.read? (h.url driver) = some {
      driver := driver
      user := h.user
      password := h.password
      host := h.host
      port := port
      database := h.database } ∧
    ∀ (h' : Handle) (driver' : String) (port' : ℕ), IsDriver driver' → IsPlainHost h'.host →
      h'.port = some (port' : ℤ) → h.url driver = h'.url driver' →
        driver = driver' ∧ h.user = h'.user ∧ h.password = h'.password ∧ h.host = h'.host ∧
          h.port = h'.port ∧ h.database = h'.database := by
  have hread := urlParts_read?_url hdriver hhost hport
  refine ⟨⟨_, _, userInfo?_url hdriver hhost hport, Percent.isEscaped_encode _,
    Percent.isEscaped_encode _⟩, hread, ?_⟩
  intro h' driver' port' hdriver' hhost' hport' hurl
  have hsame : h.parts driver port = h'.parts driver' port' := by
    rw [← Option.some_inj, ← hread, ← urlParts_read?_url hdriver' hhost' hport', hurl]
  simp only [parts, UrlParts.mk.injEq] at hsame
  obtain ⟨hdriver, huser, hpassword, hhost, hsamePort, hdatabase⟩ := hsame
  exact ⟨hdriver, huser, hpassword, hhost, by rw [hport, hport', hsamePort], hdatabase⟩

/-- A handle whose user and password have the separators of a URL in them. -/
def separators : Handle where
  host := "127.0.0.1"
  port := some 32543
  database := "events/2024?a:b@c"
  user := "a:b@c/d%41é"
  password := "://?#[] %"
  space := "default"
  serviceName := "postgres-service"
  podName := "postgres"

/-- The separators in the user and the password do not come apart in the wrong places. -/
theorem parts_of_url_separators :
    (IsDriver "postgresql" ∧ IsPlainHost separators.host ∧
      separators.port = some ((32543 : ℕ) : ℤ)) ∧
    UrlParts.read? (separators.url "postgresql") = some {
      driver := "postgresql"
      user := "a:b@c/d%41é"
      password := "://?#[] %"
      host := "127.0.0.1"
      port := 32543
      database := "events/2024?a:b@c" } ∧
    separators.url "postgresql" ≠
      { separators with password := "://?#[]  %" }.url "postgresql" := by
  have hdriver : IsDriver "postgresql" := by decide
  have hhost : IsPlainHost separators.host := by decide
  have hport : separators.port = some ((32543 : ℕ) : ℤ) := rfl
  obtain ⟨-, hread, hinjective⟩ := parts_of_url hdriver hhost hport
  refine ⟨⟨hdriver, hhost, hport⟩, hread, fun hurl => ?_⟩
  obtain ⟨-, -, hpassword, -⟩ := hinjective { separators with password := "://?#[]  %" }
    "postgresql" 32543 hdriver hhost rfl hurl
  revert hpassword
  decide

end Handle

end EphemeralDatabase
