import CrudByName.Json.Fault
import CrudByName.Verb

/-!
# Errors

`BackendError` is what a connection reports, with a code of its own.  `CrudError` is what an
operation reports: a rejected name, identifier or argument, each raised before a connection is
asked anything, or a backend error passed on unchanged (`CrudError.ofBackend`).  What is wrong with
an argument is an `ArgumentFault`; the wording of each stands in `ArgumentFault.reason` alone.
-/

namespace CrudByName

/-- A failure reported by a connection. -/
structure BackendError where
  code : Int
  message : String
  deriving DecidableEq, Repr, Inhabited

/-- The wording of an error with its code. -/
def BackendError.display (e : BackendError) : String :=
  s!"backend error [{Decimal.intText e.code}]: {e.message}"

/-- What is wrong with the arguments of an operation, or with the text of a call. -/
inductive ArgumentFault where
  | arity (verb : Verb) (expected got : Nat)
  | unexpected (operation : String) (got : Nat)
  | notScalar (position : Nat)
  | notFields (position : Nat)
  | noFields (position : Nat)
  | repeatedColumn (field column : String)
  | noShape (verb : Verb) (table : String)
  | unreadableCall (text : String)
  | badList (fault : Json.Located)
  | integerRange (n : Int)
  | nested (text : String)
  | stated (reason : String)
  deriving DecidableEq, Repr

/-- The wording of what is wrong. -/
def ArgumentFault.reason : ArgumentFault → String
  | arity verb expected got =>
    let expected := Decimal.natText expected
    s!"'{verb.spelling}' takes {expected} argument(s), got {Decimal.natText got}"
  | unexpected operation got => s!"'{operation}' takes no arguments, got {Decimal.natText got}"
  | notScalar position =>
    s!"argument {Decimal.natText position} must be a value, got a field map"
  | notFields position =>
    s!"argument {Decimal.natText position} must be a field map, got a value"
  | noFields position => s!"argument {Decimal.natText position} must be a non-empty field map"
  | repeatedColumn field column => s!"field '{field}' maps to column '{column}' more than once"
  | noShape verb table => s!"no statement shape for '{verb.spelling}' on '{table}'"
  | unreadableCall text => s!"cannot parse call '{text}'"
  | badList fault => s!"bad argument list: {fault.message}"
  | integerRange n => s!"integer {Decimal.intText n} is out of range"
  | nested text => s!"nested value {text} cannot be bound as a parameter"
  | stated reason => reason

/-- Why an operation was not carried out. -/
inductive CrudError where
  | invalidOperationName (name : String)
  | invalidIdentifier (token : String)
  | invalidArgument (fault : ArgumentFault)
  | database (code : Int) (message : String)
  deriving DecidableEq, Repr

namespace CrudError

/-- The error of a connection, passed on. -/
def ofBackend (e : BackendError) : CrudError :=
  database e.code e.message

/-- The wording of an error. -/
def message : CrudError → String
  | invalidOperationName name => s!"'{name}' is not a valid operation name"
  | invalidIdentifier token => s!"'{token}' is not a valid identifier"
  | invalidArgument fault => s!"Invalid argument: {fault.reason}"
  | database code message => s!"Database error [{Decimal.intText code}]: {message}"

end CrudError

end CrudByName
