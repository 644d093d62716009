import CrudByName.Connection
import CrudByName.Dispatch
import CrudByName.Proofs.Operation
import CrudByName.Proofs.Statement.Preparation
import Mathlib.Data.List.Chain

/-!
# Runs of calls, and what they ask of a connection

A connection that is *watched* keeps a log of the calls made on it beside its own state, and passes
every one of them on (`Connection.watched`).  Running an operation on a watched connection shows how
often, and for what, the connection was asked.  A `Step` records this for one operation, and `trace`
for any number of operations that are run one after the other.

The steps of a trace are of two kinds.  An operation without a plan is refused and asks nothing
(`step_of_plan_error`); one with a plan makes the planned call, once (`step_of_plan_ok`).  Which
errors refuse is `CrudError.Rejects`, which calls a verb may make is `Request.Serves`, and how the
reply of a connection becomes the answer is `Reply.Becomes`.  `OneCallAtMost` puts the facts about
one step together, and `at_most_one_call` states them of every step of every run.
-/

namespace CrudByName

/-! ## What a connection is asked, and what it replies -/

/-- The errors that are raised before a connection is asked anything. -/
inductive CrudError.Rejects : CrudError → Prop where
  | name (name : String) : Rejects (.invalidOperationName name)
  | identifier (token : String) : Rejects (.invalidIdentifier token)
  | argument (fault : ArgumentFault) : Rejects (.invalidArgument fault)

/-- The calls that an operation of a verb may make. -/
inductive Request.Serves : Verb → Request → Prop where
  | get (sql : String) (params : List Value) : Serves .get (.query sql params)
  | insert (sql : String) (params : List Value) : Serves .insert (.execute sql params)
  | update (sql : String) (params : List Value) : Serves .update (.execute sql params)
  | delete (sql : String) (params : List Value) : Serves .delete (.execute sql params)
  | lastInsertId : Serves .lastInsertId .lastInsertId

/-- What a connection gives when a call succeeds. -/
inductive Reply where
  | count (n : Nat)
  | rows (rows : List Record)
  | id (id : Int64)
  deriving DecidableEq

/-- The reply of a connection to any call, and its state afterwards. -/
def Connection.reply (c : Connection σ) (request : Request) (s : σ) :
    Except BackendError Reply × σ :=
  match request with
  | .execute sql params => (c.execute sql params s).map (Except.map .count) id
  | .query sql params => (c.query sql params s).map (Except.map .rows) id
  | .lastInsertId => (c.lastInsertId s).map (Except.map .id) id

/-- The answer that is owed for a reply. -/
inductive Reply.Becomes : Except BackendError Reply → Except CrudError Outcome → Prop where
  | count (n : Nat) : Becomes (.ok (.count n)) (.ok (.affectedCount n))
  | noRows : Becomes (.ok (.rows [])) (.ok .noRows)
  | oneRow (r : Record) : Becomes (.ok (.rows [r])) (.ok (.singleRecord r))
  | manyRows (rows : List Record) (h : 2 ≤ rows.length) :
      Becomes (.ok (.rows rows)) (.ok (.recordSet rows))
  | id (id : Int64) : Becomes (.ok (.id id)) (.ok (.generatedId id))
  | failure (code : Int) (message : String) :
      Becomes (.error ⟨code, message⟩) (.error (.database code message))

namespace Reply

variable {reply : Except BackendError Reply} {answer : Except CrudError Outcome}

theorem becomes_ofRows (rows : List Record) :
    Becomes (.ok (.rows rows)) (.ok (.ofRows rows)) := by
  match rows with
  | [] => exact .noRows
  | [r] => exact .oneRow r
  | r :: r' :: rest => exact .manyRows _ (by simp)

/-- No row is lost, and the rows keep their order. -/
theorem records_of_becomes {rows : List Record} (h : Becomes (.ok (.rows rows)) answer) :
    ∃ outcome, answer = .ok outcome ∧ outcome.records = rows := by
  cases h with
  | noRows | oneRow | manyRows => exact ⟨_, rfl, rfl⟩

/-- An answer to a call is no rejection. -/
theorem not_rejects_of_becomes (h : Becomes reply answer) {e : CrudError}
    (he : answer = .error e) : ¬ e.Rejects := by
  rintro (_ | _ | _) <;> subst he <;> cases h

theorem database_iff_of_becomes (h : Becomes reply answer) (code : Int) (message : String) :
    answer = .error (.database code message) ↔ reply = .error ⟨code, message⟩ := by
  cases h <;> simp

end Reply

/-- A call is answered by what its reply becomes, and it leaves the state that the connection
leaves. -/
theorem Request.run_becomes (c : Connection σ) (request : Request) (s : σ) :
    (request.run c s).2 = (c.reply request s).2 ∧
      Reply.Becomes (c.reply request s).1 (request.run c s).1 := by
  cases request with
  | execute sql params =>
    simp only [Request.run, Connection.reply]
    rcases c.execute sql params s with ⟨e | n, s'⟩
    · exact ⟨rfl, .failure e.code e.message⟩
    · exact ⟨rfl, .count n⟩
  | query sql params =>
    simp only [Request.run, Connection.reply]
    rcases c.query sql params s with ⟨e | rows, s'⟩
    · exact ⟨rfl, .failure e.code e.message⟩
    · exact ⟨rfl, Reply.becomes_ofRows rows⟩
  | lastInsertId =>
    simp only [Request.run, Connection.reply]
    rcases c.lastInsertId s with ⟨e | id, s'⟩
    · exact ⟨rfl, .failure e.code e.message⟩
    · exact ⟨rfl, .id id⟩

/-- No call is answered with a rejection. -/
theorem Request.not_rejects_of_run {c : Connection σ} {request : Request} {s : σ} {e : CrudError}
    (h : (request.run c s).1 = .error e) : ¬ e.Rejects :=
  Reply.not_rejects_of_becomes (run_becomes c request s).2 h

/-! ## Watching a connection -/

/-- The same connection, with a log of the calls that were made on it. -/
def Connection.watched (c : Connection σ) : Connection (σ × List Request) where
  style w := c.style w.1
  execute sql params w :=
    (c.execute sql params w.1).map id fun s => (s, w.2 ++ [.execute sql params])
  query sql params w := (c.query sql params w.1).map id fun s => (s, w.2 ++ [.query sql params])
  lastInsertId w := (c.lastInsertId w.1).map id fun s => (s, w.2 ++ [.lastInsertId])

theorem Request.outcome_map {σ τ : Type} (shape : α → Outcome) (f : σ → τ)
    (answer : Except BackendError α × σ) :
    outcome shape (answer.map id f) = (outcome shape answer).map id f := by
  rcases answer with ⟨e | a, s⟩ <;> rfl

/-- Making a call on a watched connection makes it, and logs it. -/
theorem Request.run_watched (c : Connection σ) (request : Request) (w : σ × List Request) :
    request.run c.watched w = (request.run c w.1).map id fun s => (s, w.2 ++ [request]) := by
  cases request <;> simp only [run, Connection.watched, outcome_map]

namespace Dispatch

/-! ## Steps and traces -/

/-- One operation of a run: the call, the states around it, what the connection was asked, and the
answer. -/
structure Step (σ : Type) where
  call : Call
  before : σ
  requests : List Request
  answer : Except CrudError Outcome
  after : σ

/-- Runs a call on a watched connection whose log is empty. -/
def step (c : Connection σ) (call : Call) (s : σ) : Step σ :=
  let (answer, after, requests) := call.run c.watched (s, [])
  ⟨call, s, requests, answer, after⟩

/-- The steps of calls that are run one after the other. -/
def trace (c : Connection σ) : List Call → σ → List (Step σ)
  | [], _ => []
  | call :: calls, s => step c call s :: trace c calls (step c call s).after

variable {σ : Type} {c : Connection σ} {call : Call} {s : σ} {e : CrudError} {request : Request}

theorem step_of_plan_error (h : plan (c.style s) call.operation call.args = .error e) :
    step c call s = ⟨call, s, [], .error e, s⟩ := by
  have hrun : call.run c.watched (s, []) = (.error e, s, []) := invoke_of_plan_error h
  simp only [step, hrun]

theorem step_of_plan_ok (h : plan (c.style s) call.operation call.args = .ok request) :
    step c call s = ⟨call, s, [request], (request.run c s).1, (request.run c s).2⟩ := by
  have hrun : call.run c.watched (s, []) = request.run c.watched (s, []) := invoke_of_plan_ok h
  simp only [step, hrun, Request.run_watched, Prod.map, id, List.nil_append]

/-! ## Plans -/

variable {style : PlaceholderStyle} {name : String} {args : List Argument}

theorem rejects_of_prepareNamed {verb : Verb} {table : String} {field : Option String}
    (h : prepareNamed verb table field args = .error e) : e.Rejects := by
  have hnormalize : ∀ token, Identifier.normalize token = .error e → e.Rejects := by
    intro token he
    rw [Identifier.eq_invalidIdentifier_of_normalize he]
    exact .identifier token
  obtain htable | ⟨table, -, h⟩ := Except.bind_eq_error_iff.1 h
  · exact hnormalize _ htable
  · obtain hfield | ⟨field, -, hprepare⟩ := Except.bind_eq_error_iff.1 h
    · cases field with
      | none => cases hfield
      | some token => exact hnormalize token (Except.map_eq_error_iff.1 hfield)
    · obtain ⟨token, rfl⟩ | ⟨fault, rfl⟩ := refusal_of_prepare hprepare
      · exact .identifier token
      · exact .argument fault

/-- Without a plan, the reason is the name, an identifier or an argument. -/
theorem rejects_of_plan (h : plan style name args = .error e) : e.Rejects := by
  obtain hparse | ⟨operation, -, h⟩ := Except.bind_eq_error_iff.1 h
  · rw [Operation.eq_invalidOperationName_of_parse hparse]
    exact .name name
  · split at h
    -- Without a table, all that is left to check is that there are no arguments.
    · split at h
      · cases h
      · rw [← Except.error.inj h]
        exact .argument _
    · obtain hprepare | ⟨prepared, -, h⟩ := Except.bind_eq_error_iff.1 h
      · exact rejects_of_prepareNamed hprepare
      · cases h

theorem serves_of_prepareNamed {verb : Verb} {table : String} {field : Option String}
    {prepared : Prepared} (h : prepareNamed verb table field args = .ok prepared) :
    (prepared.request style).Serves verb := by
  obtain ⟨table, -, h⟩ := Except.bind_eq_ok_iff.1 h
  obtain ⟨field, -, hprepare⟩ := Except.bind_eq_ok_iff.1 h
  rw [← (describes_of_prepare style hprepare).verb_eq]
  rcases prepared with ⟨_ | _ | _ | _, params⟩
  · exact .get _ params
  · exact .insert _ params
  · exact .update _ params
  · exact .delete _ params

/-- A plan is a call that the verb of the operation may make. -/
theorem serves_of_plan (h : plan style name args = .ok request) :
    ∃ operation, Operation.parse name = .ok operation ∧ request.Serves operation.verb := by
  obtain ⟨operation, hparse, h⟩ := Except.bind_eq_ok_iff.1 h
  refine ⟨operation, hparse, ?_⟩
  cases operation with
  | lastInsertId =>
    simp only [Operation.table?] at h
    split at h
    · rw [← Except.ok.inj h]
      exact .lastInsertId
    · cases h
  | get | insert | update | delete =>
    obtain ⟨prepared, hprepared, h⟩ := Except.bind_eq_ok_iff.1 h
    rw [← Except.ok.inj h]
    exact serves_of_prepareNamed hprepared

/-! ## One step, and a run -/

/-- What one step owes to the connection and to its caller. -/
structure OneCallAtMost (c : Connection σ) (st : Step σ) : Prop where
  /-- The step is what the call does on the connection itself. -/
  run_eq : st.call.run c st.before = (st.answer, st.after)
  length_le : st.requests.length ≤ 1
  /-- No call is made exactly by the steps that are refused. -/
  refused_iff : st.requests = [] ↔ ∃ e, st.answer = .error e ∧ e.Rejects
  unchanged : st.requests = [] → st.after = st.before
  /-- Otherwise one call that fits the name is made, and its reply becomes the answer. -/
  called : st.requests ≠ [] → ∃ operation request reply,
    Operation.parse st.call.operation = .ok operation ∧
      operation.spelling = st.call.operation ∧
      st.requests = [request] ∧ request.Serves operation.verb ∧
      c.reply request st.before = (reply, st.after) ∧ Reply.Becomes reply st.answer
  /-- The rows of a lookup come out as they were replied. -/
  records_eq : ∀ request ∈ st.requests, ∀ rows,
    (c.reply request st.before).1 = .ok (.rows rows) →
      ∃ outcome, st.answer = .ok outcome ∧ outcome.records = rows
  /-- A database error is the failure of a call, and of nothing else. -/
  database_iff : ∀ code message, st.answer = .error (.database code message) ↔
    ∃ request ∈ st.requests, (c.reply request st.before).1 = .error ⟨code, message⟩

/-- A refused operation asks nothing. -/
theorem oneCallAtMost_of_plan_error
    (h : plan (c.style s) call.operation call.args = .error e) :
    OneCallAtMost c (step c call s) := by
  have hrejects := rejects_of_plan h
  rw [step_of_plan_error h]
  refine ⟨invoke_of_plan_error h, Nat.zero_le 1, ?_, fun _ => rfl, ?_, ?_, ?_⟩
  · exact ⟨fun _ => ⟨e, rfl, hrejects⟩, fun _ => rfl⟩
  · exact fun hne => absurd rfl hne
  · exact fun request hmem => absurd hmem List.not_mem_nil
  · intro code message
    constructor
    · intro hanswer
      cases Except.error.inj hanswer
      cases hrejects
    · rintro ⟨request, hmem, -⟩
      exact absurd hmem List.not_mem_nil

/-- A planned operation makes the planned call, and answers with what it replies. -/
theorem oneCallAtMost_of_plan_ok
    (h : plan (c.style s) call.operation call.args = .ok request) :
    OneCallAtMost c (step c call s) := by
  obtain ⟨operation, hparse, hserves⟩ := serves_of_plan h
  obtain ⟨hafter, hbecomes⟩ := Request.run_becomes c request s
  rw [step_of_plan_ok h]
  refine ⟨invoke_of_plan_ok h, Nat.le_refl 1, ?_, ?_, ?_, ?_, ?_⟩
  · constructor
    · exact fun hnil => absurd hnil (List.cons_ne_nil request [])
    · rintro ⟨e, hanswer, hrejects⟩
      exact absurd hrejects (Request.not_rejects_of_run hanswer)
  · exact fun hnil => absurd hnil (List.cons_ne_nil request [])
  · intro _
    exact ⟨operation, request, (c.reply request s).1, hparse, Operation.spelling_of_parse hparse,
      rfl, hserves, Prod.ext rfl hafter.symm, hbecomes⟩
  · intro made hmade rows hreply
    obtain rfl := List.mem_singleton.1 hmade
    exact Reply.records_of_becomes (hreply ▸ hbecomes)
  · intro code message
    simp only [List.mem_singleton, exists_eq_left]
    exact Reply.database_iff_of_becomes hbecomes code message

theorem oneCallAtMost_step (c : Connection σ) (call : Call) (s : σ) :
    OneCallAtMost c (step c call s) := by
  cases h : plan (c.style s) call.operation call.args with
  | error e => exact oneCallAtMost_of_plan_error h
  | ok request => exact oneCallAtMost_of_plan_ok h

/-- In a run of any calls on any connection, each step starts where the one before it ended, makes
one call at most, and answers with what that call replied. -/
theorem at_most_one_call (c : Connection σ) (calls : List Call) (s : σ) :
    (trace c calls s).map Step.call = calls ∧
      (∀ st ∈ (trace c calls s).head?, st.before = s) ∧
      (trace c calls s).IsChain (fun st next => next.before = st.after) ∧
      ∀ st ∈ trace c calls s, OneCallAtMost c st := by
  -- For every state, since the calls behind the first one start from where its step ends.
  induction calls generalizing s with
  | nil => exact ⟨rfl, nofun, .nil, nofun⟩
  | cons call calls ih =>
    obtain ⟨hcalls, hhead, hchain, hsteps⟩ := ih (step c call s).after
    refine ⟨congrArg (call :: ·) hcalls, ?_, ?_, ?_⟩
    · rintro st hst
      obtain rfl := Option.some.inj hst
      rfl
    · exact hchain.cons hhead
    · exact List.forall_mem_cons.2 ⟨oneCallAtMost_step c call s, hsteps⟩

/-- A refused call, and a lookup behind it that finds two rows. -/
theorem at_most_one_call_recorded :
    ∃ st ∈ trace Recorder.connection
        [⟨"insertUser", []⟩, ⟨"getUserById", [.scalar (.integer 7)]⟩]
        { rows := [default, default] },
      st.requests = [.query "SELECT * FROM user WHERE id = ?" [.integer 7]] ∧
        st.answer = .ok (.recordSet [default, default]) ∧ OneCallAtMost Recorder.connection st := by
  have hmem : step Recorder.connection ⟨"getUserById", [.scalar (.integer 7)]⟩
      { rows := [default, default] } ∈ trace Recorder.connection
        [⟨"insertUser", []⟩, ⟨"getUserById", [.scalar (.integer 7)]⟩]
        { rows := [default, default] } := .tail _ (.head _)
  exact ⟨_, hmem, by decide, by decide, (at_most_one_call _ _ _).2.2.2 _ hmem⟩

end Dispatch

end CrudByName
