import EphemeralDatabase.Resource.Kind

/-!
# Outcomes of calls

A call to the cluster has a value as its outcome, whatever happened: the state of an object, its
absence, its deletion, or a `Failure` that says which call failed on what and why.  Creating has
no outcome for absence, since what is missing then is not the object.
-/

namespace EphemeralDatabase

/-- Where a Service can be reached. -/
structure Endpoint where
  host : String
  port : Option Int
  deriving DecidableEq, Repr

/-- A port as it is shown. -/
def portText (port : Option Int) : String := (port.map toString).getD "None"

/-- Host and port, as messages show them. -/
def Endpoint.text (e : Endpoint) : String := e.host ++ ":" ++ portText e.port

/-- What an object that is there was seen to be. -/
structure ResourceState where
  address : Address
  /-- where a Service can be reached, once it can be -/
  endpoint : Option Endpoint := none
  /-- where a Pod is in its life -/
  phase : Option String := none
  deriving DecidableEq, Repr

/-- What a call asks for. -/
inductive Operation where
  | get
  | create
  | delete
  deriving DecidableEq, Repr

/-- The name of an operation in messages. -/
def Operation.name : Operation → String
  | get => "get"
  | create => "create"
  | delete => "delete"

/-- A call that failed for a reason other than absence. -/
structure Failure where
  address : Address
  operation : Operation
  /-- the status that the server gave, if it answered at all -/
  status : Option Int
  reason : String
  deriving DecidableEq, Repr

/-- A failure as a sentence. -/
def Failure.text (f : Failure) : String :=
  let status :=
    match f.status with
    | some n => "HTTP " ++ toString n
    | none => "no response"
  f.operation.name ++ " " ++ f.address.ref ++ " failed (" ++ status ++ "): " ++ f.reason

/-- What came of reading an object. -/
inductive ReadOutcome where
  | found (state : ResourceState)
  | notFound (address : Address)
  | failed (failure : Failure)
  deriving DecidableEq, Repr

/-- What came of creating an object. -/
inductive CreateOutcome where
  | made (state : ResourceState)
  | failed (failure : Failure)
  deriving DecidableEq, Repr

/-- What came of deleting an object. -/
inductive DeleteOutcome where
  | deleted (address : Address)
  | notFound (address : Address)
  | failed (failure : Failure)
  deriving DecidableEq, Repr

end EphemeralDatabase
