import EphemeralDatabase.Value.Basic

/-!
# Faults

A fault is what a call raises instead of answering.  There are three sorts.  The API server
refuses a request (`api`), with an HTTP status and a reason when it gave them.  The way to the
server fails (`carrier`): an error of the HTTP layer or of the operating system.  Or something
else breaks (`other`), which is nothing that the fixture could report as the cluster's answer.

`Fault.text` is the text of a fault.  It depends on what the fault was raised with: a single
detail is the text, several are shown as a tuple, and an error of the operating system with a
number and a message reads `[Errno 111] Connection refused`.
-/

namespace EphemeralDatabase

/-- Errors of the operating system, by the error number that they stand for. -/
inductive SystemError where
  /-- an error with no class of its own -/
  | general
  | blocking
  | brokenPipe
  | childProcess
  | connectionAborted
  | connectionRefused
  | connectionReset
  | fileExists
  | fileNotFound
  | isDirectory
  | notDirectory
  | interrupted
  | permission
  | processLookup
  | timeout
  /-- an error of the encrypted connection -/
  | secure
  deriving DecidableEq, Repr

/-- What else can break. -/
inductive Breakage where
  | value
  | runtime
  | key
  /-- the user interrupts -/
  | interrupt
  /-- no usable credentials -/
  | credentials
  deriving DecidableEq, Repr

/-- How the way to the server fails. -/
inductive Carrier where
  | http
  | protocol
  | system (error : SystemError)
  deriving DecidableEq, Repr

/-- What a call raises instead of answering. -/
inductive Fault where
  | api (status : Option Int) (reason : Option String)
  | carrier (carrier : Carrier) (details : List Value)
  | other (breakage : Breakage) (details : List Value)

namespace SystemError

/-- The error that a number of the operating system stands for. -/
def ofNumber (n : Int) : SystemError :=
  if n = 11 ∨ n = 114 ∨ n = 115 then blocking
  else if n = 32 ∨ n = 108 then brokenPipe
  else if n = 10 then childProcess
  else if n = 103 then connectionAborted
  else if n = 111 then connectionRefused
  else if n = 104 then connectionReset
  else if n = 17 then fileExists
  else if n = 2 then fileNotFound
  else if n = 21 then isDirectory
  else if n = 20 then notDirectory
  else if n = 4 then interrupted
  else if n = 1 ∨ n = 13 then permission
  else if n = 3 then processLookup
  else if n = 110 then timeout
  else general

/-- The number of an error given by its details, which have one if there is a message with it
and files at most beside them. -/
def number? (details : List Value) : Option Int :=
  match details with
  | .whole n :: _ :: files => if files.length ≤ 3 then some n else none
  | _ => none

/-- An error given by its details. -/
def ofDetails (details : List Value) : SystemError := ((number? details).map ofNumber).getD general

end SystemError

namespace Fault

/-- A detail as part of a text: a text stands for itself. -/
def shown : Value → String
  | .text s => s
  | v => v.literal

/-- Several details, as a tuple. -/
def tuple (details : List Value) : String :=
  match details with
  | [v] => "(" ++ v.literal ++ ",)"
  | _ => "(" ++ Value.commas (Value.literals details) ++ ")"

/-- Details without a form of their own. -/
def plainText (details : List Value) : String :=
  match details with
  | [] => ""
  | [v] => shown v
  | _ => tuple details

/-- A second file, after what stands between it and the first. -/
def secondFileText : List Value → String
  | [_, .null] => ""
  | [_, file] => " -> " ++ file.literal
  | _ => ""

/-- What an error of the operating system says about files: one, or from one to another.  A
blocked call may have a count there instead, which is not shown. -/
def filesText (error : SystemError) : List Value → String
  | [] => ""
  | .null :: _ => ""
  | .whole n :: more =>
      if error = .blocking then "" else ": " ++ toString n ++ secondFileText more
  | file :: more => ": " ++ file.literal ++ secondFileText more

/-- The details of an error of the operating system: number, message, and files. -/
def systemText (error : SystemError) (details : List Value) : String :=
  match details with
  | number :: message :: more =>
      if more.length ≤ 3 then
        "[Errno " ++ shown number ++ "] " ++ shown message ++ filesText error more
      else tuple details
  | _ => plainText details

/-- The details of an error of an encrypted connection: its message alone. -/
def secureText (details : List Value) : String :=
  match details with
  | [_, .text message] => message
  | [_, .text message, _] => message
  | [_, .text message, _, _] => message
  | [_, .text message, _, _, _] => message
  | _ => tuple details

/-- The text of a fault. -/
def text : Fault → String
  | api status reason =>
      "(" ++ ((status.map toString).getD "None") ++ ")\nReason: " ++ reason.getD "None" ++ "\n"
  | carrier (.system .secure) details => secureText details
  | carrier (.system error) details => systemText error details
  | carrier _ details => plainText details
  | other .key [v] => v.literal
  | other _ details => plainText details

end Fault

end EphemeralDatabase
