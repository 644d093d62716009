import CrudByName.Call
import CrudByName.Connection
import CrudByName.Grid

/-!
# Running an operation by name

`plan` decides everything that can be decided without a database: it decodes the name, normalizes
the table and then the field, and prepares the statement.  What is left is at most one `Request`,
and `invoke` makes it.  So an operation with a rejected name, identifier or argument leaves the
connection alone (`invoke_of_plan_error`), and every other one makes exactly the planned call
(`invoke_of_plan_ok`).

A line is the text of a call.  `Line.run` reads it, runs the call, and shows the outcome; a line
that cannot be read leaves the connection alone as well (`run_of_parse_error`).
-/

namespace CrudByName

/-- The call that a prepared statement asks for. -/
def Prepared.request (style : PlaceholderStyle) (p : Prepared) : Request :=
  if p.statement.returnsRows then .query (p.statement.text style) p.params
  else .execute (p.statement.text style) p.params

namespace Dispatch

/-- Normalizes the table and then the field, and prepares the statement. -/
def prepareNamed (verb : Verb) (table : String) (field : Option String) (args : List Argument) :
    Except CrudError Prepared := do
  let table ← Identifier.normalize table
  let field ← field.mapM Identifier.normalize
  prepare verb table field args

/-- The one call that an operation makes, or the reason why it makes none. -/
def plan (style : PlaceholderStyle) (name : String) (args : List Argument) :
    Except CrudError Request := do
  let operation ← Operation.parse name
  match operation.table? with
  | none =>
    if args.isEmpty then return .lastInsertId
    else throw (.invalidArgument (.unexpected name args.length))
  | some table =>
    let prepared ← prepareNamed operation.verb table operation.field? args
    return prepared.request style

/-- Runs an operation on a connection. -/
def invoke (c : Connection σ) (name : String) (args : List Argument) (s : σ) :
    Except CrudError Outcome × σ :=
  match plan (c.style s) name args with
  | .error e => (.error e, s)
  | .ok request => request.run c s

theorem invoke_of_plan_error {c : Connection σ} {name : String} {args : List Argument} {s : σ}
    {e : CrudError} (h : plan (c.style s) name args = .error e) :
    invoke c name args s = (.error e, s) := by
  simp [invoke, h]

theorem invoke_of_plan_ok {c : Connection σ} {name : String} {args : List Argument} {s : σ}
    {request : Request} (h : plan (c.style s) name args = .ok request) :
    invoke c name args s = request.run c s := by
  simp [invoke, h]

end Dispatch

/-! ## Lines -/

/-- Runs a call on a connection. -/
def Call.run (c : Connection σ) (call : Call) (s : σ) : Except CrudError Outcome × σ :=
  Dispatch.invoke c call.operation call.args s

namespace Line

/-- Runs a line on a connection, and shows its outcome. -/
def run (c : Connection σ) (text : String) (s : σ) : Except CrudError String × σ :=
  match Call.parse text with
  | .error e => (.error e, s)
  | .ok call =>
    let (answer, s) := call.run c s
    (answer.map Outcome.show, s)

theorem run_of_parse_error {c : Connection σ} {text : String} {s : σ} {e : CrudError}
    (h : Call.parse text = .error e) : run c text s = (.error e, s) := by
  simp [run, h]

theorem run_of_parse_ok {c : Connection σ} {text : String} {s : σ} {call : Call}
    (h : Call.parse text = .ok call) :
    run c text s = ((call.run c s).1.map Outcome.show, (call.run c s).2) := by
  simp [run, h]

end Line

end CrudByName
