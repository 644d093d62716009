import CrudByName.Error
import CrudByName.Outcome
import CrudByName.Statement

/-!
# Connections

A `Connection σ` drives a database whose state is a `σ`: it says how placeholders are spelled, and
it runs one statement at a time.  Each call gives an answer or an error together with the state
after it, so that an arbitrary connection is an arbitrary family of such functions.

A `Request` is one call on a connection.  A `Recorder` answers from prepared data and keeps a log of
the calls it was asked to make.  A call is logged before it is answered, so that one which fails
stands in the log as well.
-/

namespace CrudByName

/-- A database that is driven one statement at a time. -/
structure Connection (σ : Type) where
  style : σ → PlaceholderStyle := fun _ => default
  /-- Runs a change and counts the rows it touched. -/
  execute : String → List Value → σ → Except BackendError Nat × σ
  /-- Runs a lookup and gives its rows, with their columns in order. -/
  query : String → List Value → σ → Except BackendError (List Record) × σ
  /-- The id given by the last insert. -/
  lastInsertId : σ → Except BackendError Int64 × σ

/-- One call on a connection. -/
inductive Request where
  | execute (sql : String) (params : List Value)
  | query (sql : String) (params : List Value)
  | lastInsertId
  deriving DecidableEq

namespace Request

/-- The text of a call, which that for the last id does not have. -/
def sql : Request → String
  | execute sql _ | query sql _ => sql
  | lastInsertId => ""

/-- The values of a call. -/
def params : Request → List Value
  | execute _ params | query _ params => params
  | lastInsertId => []

/-- Passes an answer on as an outcome, and an error unchanged. -/
def outcome (shape : α → Outcome) (answer : Except BackendError α × σ) :
    Except CrudError Outcome × σ :=
  match answer with
  | (.ok a, s) => (.ok (shape a), s)
  | (.error e, s) => (.error (.ofBackend e), s)

/-- Makes the call. -/
def run (c : Connection σ) (request : Request) (s : σ) : Except CrudError Outcome × σ :=
  match request with
  | execute sql params => outcome .affectedCount (c.execute sql params s)
  | query sql params => outcome .ofRows (c.query sql params s)
  | lastInsertId => outcome .generatedId (c.lastInsertId s)

end Request

/-! ## A recording connection -/

/-- Prepared answers, and the calls made so far, the latest first. -/
structure Recorder where
  style : PlaceholderStyle := default
  rows : List Record := []
  affected : Nat := 0
  lastId : Int64 := 0
  failure : Option BackendError := none
  log : List Request := []

namespace Recorder

/-- Notes a call. -/
def record (r : Recorder) (request : Request) : Recorder :=
  { r with log := request :: r.log }

/-- Answers a call, unless every call fails. -/
def answer (r : Recorder) (a : α) : Except BackendError α :=
  match r.failure with
  | some e => .error e
  | none => .ok a

/-- The connection that notes its calls. -/
def connection : Connection Recorder where
  style r := r.style
  execute sql params r := (r.answer r.affected, r.record (.execute sql params))
  query sql params r := (r.answer r.rows, r.record (.query sql params))
  lastInsertId r := (r.answer r.lastId, r.record .lastInsertId)

/-- The calls made since the log was `count` long, in order. -/
def since (r : Recorder) (count : Nat) : List Request :=
  (r.log.take (r.log.length - count)).reverse

end Recorder

end CrudByName
