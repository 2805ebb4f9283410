import EphemeralDatabase.Cluster.Outcome
import EphemeralDatabase.Text.Percent

/-!
# Handles

A handle says where a ready database is and how to log in.  It can be written in the two ways
that database clients read: as a URL, in which user and password are percent-encoded, and as a
list of keywords with quoted values, in which a backslash makes the next character stand for
itself.
-/

namespace EphemeralDatabase

/-- A ready database. -/
structure Handle where
  host : String
  port : Option Int
  database : String
  user : String
  password : String
  space : String
  serviceName : String
  podName : String
  deriving DecidableEq, Repr

namespace Handle

/-- The handle as a URL. -/
def url (h : Handle) (driver : String := "postgresql") : String :=
  driver ++ "://" ++ Percent.encode h.user ++ ":" ++ Percent.encode h.password ++ "@" ++ h.host
    ++ ":" ++ portText h.port ++ "/" ++ h.database

/-- One character inside a quoted value. -/
def quotedChar (c : Char) : List Char :=
  if c = '\\' ∨ c = '\x27' then ['\\', c] else [c]

/-- A quoted value. -/
def quoted (value : String) : String :=
  String.ofList ('\x27' :: value.toList.flatMap quotedChar ++ ['\x27'])

/-- The keywords of a connection and their values. -/
def connection (h : Handle) : List (String × String) :=
  [("host", h.host), ("port", portText h.port), ("dbname", h.database), ("user", h.user),
    ("password", h.password)]

/-- The handle as a list of keywords. -/
def dsn (h : Handle) : String :=
  " ".intercalate (h.connection.map fun (key, value) => key ++ "=" ++ quoted value)

end Handle

end EphemeralDatabase
