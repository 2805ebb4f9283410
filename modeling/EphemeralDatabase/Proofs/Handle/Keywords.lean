import EphemeralDatabase.Fixture.Handle
import Mathlib

/-!
# Keywords and values

libpq reads a connection from a text of keywords and values, character by character:
`Keywords.read?` is that reader.  A keyword ends at `=`, with blanks allowed around it.  A value
ends at the next blank or, in single quotes, at the closing quote, and a backslash makes the next
character of a value stand for itself.

## 1.  The reader

A reader keeps the pairs it has read and the place where it stands (`Keywords.Place`).  Only two
places let the text end within something: a plain value, which then is complete, and a backslash
at the end of one.

## 2.  A written pair

`Handle.quoted` puts a backslash before each backslash and each quote.  The reader takes such a
backslash away again one character at a time (`foldlM_quotedChar`), so it leaves the value at the
closing quote and nowhere before (`foldlM_quoted`).  What makes this an induction with no side
conditions is that a reader within quotes is again within quotes after each character of the
value, with that character added.

`read?_written` is the result for every list of pairs whose keywords have no blank and no `=`.
-/

namespace EphemeralDatabase

/-! ## 1.  The reader -/

/-- The white space between keywords and values: space, tab, line feed, vertical tab, form feed and
carriage return. -/
def isAsciiBlank (c : Char) : Bool :=
  let n := c.toNat
  (0x09 ≤ n && n ≤ 0x0D) || n == 0x20

namespace Keywords

/-- Where a reader of keywords and values stands.  What it has read of the keyword and the value
is kept in order. -/
inductive Place where
  | between
  | key (key : List Char)
  | named (key : List Char)
  | assigned (key : List Char)
  | plain (key value : List Char)
  | plainEscape (key value : List Char)
  | quoted (key value : List Char)
  | quotedEscape (key value : List Char)
  deriving DecidableEq

/-- A reader: the pairs it has read, and where it stands. -/
structure Reader where
  pairs : List (String × String)
  place : Place
  deriving DecidableEq

variable {pairs : List (String × String)} {key value cs : List Char} {c : Char}

namespace Reader

/-- The reader with one more pair, after it. -/
def complete (reader : Reader) (key value : List Char) : Reader where
  pairs := reader.pairs ++ [(String.ofList key, String.ofList value)]
  place := .between

/-- The reader at another place. -/
def moved (reader : Reader) (place : Place) : Reader := { reader with place }

/-- The reader after one more character. -/
def step (reader : Reader) (c : Char) : Option Reader :=
  match reader.place with
  | .between =>
    some (reader.moved (if isAsciiBlank c then .between else if c = '=' then .assigned []
      else .key [c]))
  | .key key =>
    some (reader.moved (if isAsciiBlank c then .named key else if c = '=' then .assigned key
      else .key (key ++ [c])))
  | .named key =>
    if isAsciiBlank c then some reader else if c = '=' then some (reader.moved (.assigned key))
      else none
  | .assigned key =>
    some (reader.moved (if isAsciiBlank c then .assigned key else if c = '\x27' then .quoted key []
      else if c = '\\' then .plainEscape key [] else .plain key [c]))
  | .plain key value =>
    some (if isAsciiBlank c then reader.complete key value
      else reader.moved (if c = '\\' then .plainEscape key value else .plain key (value ++ [c])))
  | .plainEscape key value => some (reader.moved (.plain key (value ++ [c])))
  | .quoted key value =>
    some (if c = '\x27' then reader.complete key value
      else reader.moved (if c = '\\' then .quotedEscape key value else .quoted key (value ++ [c])))
  | .quotedEscape key value => some (reader.moved (.quoted key (value ++ [c])))

/-- What has been read when the text ends: nothing when it ends within a keyword or within
quotes. -/
def finish (reader : Reader) : Option (List (String × String)) :=
  match reader.place with
  | .between => some reader.pairs
  | .assigned key => some (reader.complete key []).pairs
  | .plain key value | .plainEscape key value => some (reader.complete key value).pairs
  | .key _ | .named _ | .quoted _ _ | .quotedEscape _ _ => none

end Reader

/-- The keywords of a text and their values, in order. -/
def read? (text : String) : Option (List (String × String)) := do
  (← text.toList.foldlM Reader.step ⟨[], .between⟩).finish

/-! ## 2.  A written pair -/

/-- A keyword that is read back as it is written. -/
def IsKeyword (key : String) : Prop := ∀ c ∈ key.toList, c ≠ '=' ∧ isAsciiBlank c = false

instance (key : String) : Decidable (IsKeyword key) := List.decidableBAll _ _

/-- A keyword and its value as they are written. -/
def written (pair : String × String) : String := pair.1 ++ "=" ++ Handle.quoted pair.2

theorem foldlM_key (pairs : List (String × String)) (key : List Char)
    (hkey : ∀ c ∈ cs, c ≠ '=' ∧ isAsciiBlank c = false) :
    cs.foldlM Reader.step ⟨pairs, .key key⟩ = some ⟨pairs, .key (key ++ cs)⟩ := by
  induction cs generalizing key with
  | nil => simp
  | cons c cs ih =>
    obtain ⟨hassign, hblank⟩ := hkey c List.mem_cons_self
    have hstep : Reader.step ⟨pairs, .key key⟩ c = some ⟨pairs, .key (key ++ [c])⟩ := by
      simp [Reader.step, Reader.moved, hassign, hblank]
    rw [List.foldlM_cons, hstep]
    simpa using ih (key ++ [c]) fun d hd => hkey d (List.mem_cons_of_mem _ hd)

/-- A keyword and the `=` after it, the empty keyword included. -/
theorem foldlM_assigned (pairs : List (String × String))
    (hkey : ∀ c ∈ cs, c ≠ '=' ∧ isAsciiBlank c = false) :
    (cs ++ ['=']).foldlM Reader.step ⟨pairs, .between⟩ = some ⟨pairs, .assigned cs⟩ := by
  cases cs with
  | nil => rfl
  | cons c cs =>
    obtain ⟨hassign, hblank⟩ := hkey c List.mem_cons_self
    have hstep : Reader.step ⟨pairs, .between⟩ c = some ⟨pairs, .key [c]⟩ := by
      simp [Reader.step, Reader.moved, hassign, hblank]
    have hrest := foldlM_key pairs [c] fun d hd =>
      hkey d (List.mem_cons_of_mem c hd)
    rw [List.cons_append, List.foldlM_cons, hstep]
    change (cs ++ ['=']).foldlM Reader.step ⟨pairs, .key [c]⟩ = _
    rw [List.foldlM_append, hrest]
    rfl

/-- Within quotes, a written character is read as that character. -/
theorem foldlM_quotedChar (c : Char) :
    (Handle.quotedChar c).foldlM Reader.step ⟨pairs, .quoted key value⟩ =
      some ⟨pairs, .quoted key (value ++ [c])⟩ := by
  unfold Handle.quotedChar
  split
  · rfl
  · rename_i hplain
    obtain ⟨hslash, hquote⟩ := not_or.1 hplain
    simp [Reader.step, Reader.moved, hslash, hquote]

theorem foldlM_quotedChars (pairs : List (String × String)) (key value cs : List Char) :
    (cs.flatMap Handle.quotedChar).foldlM Reader.step ⟨pairs, .quoted key value⟩ =
      some ⟨pairs, .quoted key (value ++ cs)⟩ := by
  induction cs generalizing value with
  | nil => simp
  | cons c cs ih =>
    rw [List.flatMap_cons, List.foldlM_append, foldlM_quotedChar]
    simpa using ih (value ++ [c])

/-- A quoted value ends at its own closing quote. -/
theorem foldlM_quoted (pairs : List (String × String)) (key : List Char) (value : String) :
    (Handle.quoted value).toList.foldlM Reader.step ⟨pairs, .assigned key⟩ =
      some (Reader.complete ⟨pairs, .between⟩ key value.toList) := by
  have hopen : Reader.step ⟨pairs, .assigned key⟩ '\x27' = some ⟨pairs, .quoted key []⟩ := rfl
  rw [Handle.quoted, String.toList_ofList, List.cons_append, List.foldlM_cons, hopen]
  change (value.toList.flatMap Handle.quotedChar ++ ['\x27']).foldlM Reader.step
    ⟨pairs, .quoted key []⟩ = _
  rw [List.foldlM_append, foldlM_quotedChars]
  rfl

/-- One written pair is read as that pair, after what has been read before it. -/
theorem foldlM_written (pairs : List (String × String)) {pair : String × String}
    (hkey : IsKeyword pair.1) :
    (written pair).toList.foldlM Reader.step ⟨pairs, .between⟩ =
      some ⟨pairs ++ [pair], .between⟩ := by
  have htoList : (written pair).toList =
      (pair.1.toList ++ ['=']) ++ (Handle.quoted pair.2).toList := by
    simp [written, String.toList_append]
  rw [htoList, List.foldlM_append, foldlM_assigned _ hkey]
  simpa [Reader.complete] using foldlM_quoted pairs pair.1.toList pair.2

/-- Written pairs with a blank between each two of them, after what has been read before. -/
theorem foldlM_intercalate (pairs : List (String × String)) {more : List (String × String)}
    (hkeys : ∀ pair ∈ more, IsKeyword pair.1) :
    (" ".intercalate (more.map written)).toList.foldlM Reader.step ⟨pairs, .between⟩ =
      some ⟨pairs ++ more, .between⟩ := by
  induction more generalizing pairs with
  | nil => simp
  | cons pair more ih =>
    have hpair := foldlM_written pairs (hkeys pair List.mem_cons_self)
    cases more with
    | nil => simpa using hpair
    | cons next more =>
      have hblank : Reader.step ⟨pairs ++ [pair], .between⟩ ' ' =
          some ⟨pairs ++ [pair], .between⟩ := rfl
      have hrest := ih (pairs ++ [pair]) fun p hp => hkeys p (List.mem_cons_of_mem _ hp)
      rw [List.map_cons, List.map_cons, String.intercalate_cons_cons, ← List.map_cons,
        String.toList_append, String.toList_append, List.foldlM_append, List.foldlM_append, hpair]
      change (" ".intercalate ((next :: more).map written)).toList.foldlM Reader.step
        ⟨pairs ++ [pair], .between⟩ = _
      simpa using hrest

/-- **What is written is read back**, whatever stands in the values. -/
theorem read?_written {pairs : List (String × String)} (hkeys : ∀ pair ∈ pairs, IsKeyword pair.1) :
    read? (" ".intercalate (pairs.map written)) = some pairs := by
  unfold read?
  rw [foldlM_intercalate [] hkeys]
  rfl

/-- Blanks may stand around the `=`, and a value need not be quoted. -/
example : read? " host = a\\ b  user=\x27it\\\x27s\x27port =" =
    some [("host", "a b"), ("user", "it\x27s"), ("port", "")] := by
  decide

end Keywords

/-! ## 3.  Handles -/

/-- A written port is read back, and the word that stands for no port is not a numeral. -/
theorem toInt?_portText (port : Option ℤ) : (portText port).toInt? = port := by
  cases port with
  | none => cbv
  | some n => exact Int.toInt?_repr n

theorem portText_injective : Function.Injective portText :=
  Function.LeftInverse.injective toInt?_portText

namespace Handle

/-- **A client reads back what a handle is made of**: the five keywords in their order, each with
its own value, whatever characters the values have.  So two handles that are written alike have
the same host, port, database, user and password. -/
theorem keywords_of_dsn :
    (∀ h : Handle, Keywords.read? h.dsn = some [("host", h.host), ("port", portText h.port),
      ("dbname", h.database), ("user", h.user), ("password", h.password)]) ∧
    ∀ h h' : Handle, h.dsn = h'.dsn → h.host = h'.host ∧ h.port = h'.port ∧
      h.database = h'.database ∧ h.user = h'.user ∧ h.password = h'.password := by
  have hread (h : Handle) : Keywords.read? h.dsn = some h.connection := by
    have hkeys : ∀ pair ∈ h.connection, Keywords.IsKeyword pair.1 := by
      simp only [connection, List.forall_mem_cons]
      decide
    exact Keywords.read?_written hkeys
  refine ⟨hread, fun h h' hdsn => ?_⟩
  have hsame : h.connection = h'.connection := by
    rw [← Option.some_inj, ← hread, ← hread, hdsn]
  simp only [connection, List.cons.injEq, Prod.mk.injEq, true_and, and_true] at hsame
  obtain ⟨hhost, hport, hdatabase, huser, hpassword⟩ := hsame
  exact ⟨hhost, portText_injective hport, hdatabase, huser, hpassword⟩

end Handle

end EphemeralDatabase
