import CrudByName.Connection.Wrapping
import CrudByName.Proofs.Dispatch.Trace

/-!
# Wrapping changes nothing

A session runs calls on a connection, and between the calls the connection may be changed in any
way: its spelling of placeholders, its answers, its failures.  An `Event` is one of the two.  This
module compares a session on a wrapped connection with the same session on the connection inside.

One connection carries another (`Connection.Carries`) if its states hold those of the other, and it
does there what the other does.  Each layer of a wrapping keeps this (`Carries.lent`,
`Carries.boxed`), so a wrapped connection carries what it wraps at any depth (`Wrapping.carries`).
A carrying connection answers a call alike (`Carries.run_call`), since the plan reads the connection
through the spelling only; and by induction over the events it runs a session alike
(`Carries.session_eq`).

What the connection inside is asked is seen in the log that it keeps when it is watched.  The log of
a session is what its steps ask, one step after the other (`session_watched`).
-/

namespace CrudByName

/-! ## Carrying a connection -/

/-- One connection does what another one does, on states that hold those of the other. -/
structure Connection.Carries (outer : Connection τ) (inner : Connection σ) (hold : σ → τ) :
    Prop where
  style_eq (s : σ) : outer.style (hold s) = inner.style s
  execute_eq (sql : String) (params : List Value) (s : σ) :
    outer.execute sql params (hold s) = (inner.execute sql params s).map id hold
  query_eq (sql : String) (params : List Value) (s : σ) :
    outer.query sql params (hold s) = (inner.query sql params s).map id hold
  lastInsertId_eq (s : σ) : outer.lastInsertId (hold s) = (inner.lastInsertId s).map id hold

/-! ## Sessions -/

/-- A part of a session: a call, or a change of the connection. -/
inductive Event (σ : Type) where
  | invoke (call : Call)
  | change (f : σ → σ)

namespace Event

variable {σ τ : Type}

/-- The same call, or what stands for the change on states of another type. -/
def map (lift : (σ → σ) → τ → τ) : Event σ → Event τ
  | invoke call => .invoke call
  | change f => .change (lift f)

/-- A change of a watched connection leaves its log alone. -/
def watched : Event σ → Event (σ × List Request) :=
  map fun f => Prod.map f id

end Event

namespace Dispatch

/-- The answers of a session, and the state it ends in. -/
def session (c : Connection σ) : List (Event σ) → σ → List (Except CrudError Outcome) × σ
  | [], s => ([], s)
  | .invoke call :: events, s =>
    let (answer, s) := call.run c s
    (session c events s).map (answer :: ·) id
  | .change f :: events, s => session c events (f s)

/-- The steps of a session. -/
def history (c : Connection σ) : List (Event σ) → σ → List (Step σ)
  | [], _ => []
  | .invoke call :: events, s => step c call s :: history c events (step c call s).after
  | .change f :: events, s => history c events (f s)

end Dispatch

namespace Connection.Carries

variable {σ τ : Type} {outer : Connection τ} {inner : Connection σ} {hold : σ → τ}

theorem lent (h : Carries outer inner hold) : Carries outer.lent inner fun s => ⟨hold s⟩ where
  style_eq := h.style_eq
  execute_eq sql params s := congrArg (Prod.map id Lent.mk) (h.execute_eq sql params s)
  query_eq sql params s := congrArg (Prod.map id Lent.mk) (h.query_eq sql params s)
  lastInsertId_eq s := congrArg (Prod.map id Lent.mk) (h.lastInsertId_eq s)

theorem boxed (h : Carries outer inner hold) : Carries outer.boxed inner fun s => ⟨hold s⟩ where
  style_eq := h.style_eq
  execute_eq sql params s := congrArg (Prod.map id Boxed.mk) (h.execute_eq sql params s)
  query_eq sql params s := congrArg (Prod.map id Boxed.mk) (h.query_eq sql params s)
  lastInsertId_eq s := congrArg (Prod.map id Boxed.mk) (h.lastInsertId_eq s)

theorem run_request (h : Carries outer inner hold) (request : Request) (s : σ) :
    request.run outer (hold s) = (request.run inner s).map id hold := by
  cases request with
  | execute sql params => simp only [Request.run, h.execute_eq, Request.outcome_map]
  | query sql params => simp only [Request.run, h.query_eq, Request.outcome_map]
  | lastInsertId => simp only [Request.run, h.lastInsertId_eq, Request.outcome_map]

/-- The plan of a call is the same, since it depends on the spelling of placeholders only; and so is
what comes of it. -/
theorem run_call (h : Carries outer inner hold) (call : Call) (s : σ) :
    call.run outer (hold s) = (call.run inner s).map id hold := by
  simp only [Call.run, Dispatch.invoke, h.style_eq]
  cases Dispatch.plan (inner.style s) call.operation call.args with
  | error e => rfl
  | ok request => exact h.run_request request s

/-- If changes are made to what is held, a session is answered alike, and the states it ends in
hold one another as before. -/
theorem session_eq (h : Carries outer inner hold) {lift : (σ → σ) → τ → τ}
    (hlift : ∀ f s, lift f (hold s) = hold (f s)) (events : List (Event σ)) (s : σ) :
    Dispatch.session outer (events.map (Event.map lift)) (hold s) =
      (Dispatch.session inner events s).map id hold := by
  -- For every state, since what is behind a call or a change starts from the state it leaves.
  induction events generalizing s with
  | nil => rfl
  | cons event events ih =>
    cases event with
    | invoke call =>
      have hcall : call.run outer (hold s) = ((call.run inner s).1, hold (call.run inner s).2) :=
        h.run_call call s
      simp only [List.map_cons, Event.map, Dispatch.session, hcall, ih, Prod.map, id]
    | change f =>
      simp only [List.map_cons, Event.map, Dispatch.session, hlift, ih]

end Connection.Carries

namespace Wrapping

variable {σ : Type}

/-- A change of the innermost connection, made through all the layers around it. -/
def alter (f : σ → σ) : (w : Wrapping) → w.State σ → w.State σ
  | direct, s => f s
  | lent inside, s => ⟨inside.alter f s.inner⟩
  | boxed inside, s => ⟨inside.alter f s.inner⟩

theorem alter_wrap (f : σ → σ) (s : σ) (w : Wrapping) : w.alter f (w.wrap s) = w.wrap (f s) := by
  induction w with
  | direct => rfl
  | lent inside ih => exact congrArg Lent.mk ih
  | boxed inside ih => exact congrArg Boxed.mk ih

/-- The same part of a session, for the connection in its layers. -/
def event (w : Wrapping) : Event σ → Event (w.State σ) :=
  .map fun f => w.alter f

/-- Whatever the layers are, they carry the connection inside. -/
theorem carries (c : Connection σ) (w : Wrapping) :
    (w.connection c).Carries c fun s => w.wrap s := by
  induction w with
  | direct => exact ⟨fun _ => rfl, fun _ _ _ => rfl, fun _ _ _ => rfl, fun _ => rfl⟩
  | lent inside ih => exact ih.lent
  | boxed inside ih => exact ih.boxed

end Wrapping

namespace Dispatch

variable {σ : Type}

/-! ## What a session asks -/

theorem run_eq_step (c : Connection σ) (call : Call) (s : σ) :
    call.run c s = ((step c call s).answer, (step c call s).after) :=
  (oneCallAtMost_step c call s).run_eq

/-- A call on a watched connection does its step, and logs what the step asks. -/
theorem run_watched (c : Connection σ) (call : Call) (s : σ) (log : List Request) :
    call.run c.watched (s, log) =
      ((step c call s).answer, (step c call s).after, log ++ (step c call s).requests) := by
  cases h : plan (c.style s) call.operation call.args with
  | error e =>
    have hrun : call.run c.watched (s, log) = (.error e, s, log) := invoke_of_plan_error h
    rw [hrun, step_of_plan_error h, List.append_nil]
  | ok request =>
    have hrun : call.run c.watched (s, log) = request.run c.watched (s, log) := invoke_of_plan_ok h
    rw [hrun, step_of_plan_ok h, Request.run_watched]
    rfl

/-- The log of a session is what its steps ask, in order; watching changes nothing else. -/
theorem session_watched (c : Connection σ) (events : List (Event σ)) (s : σ)
    (log : List Request) :
    session c.watched (events.map Event.watched) (s, log) =
      ((session c events s).1, (session c events s).2,
        log ++ (history c events s).flatMap Step.requests) := by
  induction events generalizing s log with
  | nil => simp only [List.map_nil, session, history, List.flatMap_nil, List.append_nil]
  | cons event events ih =>
    cases event with
    | invoke call =>
      simp only [List.map_cons, Event.watched, Event.map, session, history, run_watched,
        run_eq_step c, List.flatMap_cons, ← List.append_assoc]
      rw [← Event.watched, ih]
      rfl
    | change f => exact ih (f s) log

theorem answers_history (c : Connection σ) (events : List (Event σ)) (s : σ) :
    (history c events s).map Step.answer = (session c events s).1 := by
  induction events generalizing s with
  | nil => rfl
  | cons event events ih =>
    cases event with
    | invoke call =>
      simp only [history, session, run_eq_step c, List.map_cons, ih, Prod.map]
    | change f => exact ih (f s)

theorem exists_of_mem_history {c : Connection σ} {events : List (Event σ)} {s : σ} {st : Step σ}
    (h : st ∈ history c events s) : ∃ call before, st = step c call before := by
  induction events generalizing s with
  | nil => cases h
  | cons event events ih =>
    cases event with
    | invoke call =>
      obtain rfl | hrest := List.mem_cons.1 h
      · exact ⟨call, s, rfl⟩
      · exact ih hrest
    | change f => exact ih h

/-- What a step asks is planned with the spelling that the connection has at the time. -/
theorem plan_of_mem_requests {c : Connection σ} {call : Call} {s : σ} {request : Request}
    (h : request ∈ (step c call s).requests) :
    plan (c.style s) call.operation call.args = .ok request := by
  cases hplan : plan (c.style s) call.operation call.args with
  | error e =>
    rw [step_of_plan_error hplan] at h
    cases h
  | ok planned =>
    rw [step_of_plan_ok hplan] at h
    rw [List.mem_singleton.1 h]

end Dispatch

/-! ## Sessions on wrapped connections -/

namespace Wrapping

open Dispatch

variable {σ : Type}

/-- What a wrapping owes to a session on the connection inside. -/
structure Transparent (w : Wrapping) (c : Connection σ) (events : List (Event σ)) (s : σ) :
    Prop where
  /-- Placeholders are spelled as the connection inside spells them in its present state. -/
  style_eq (t : w.State σ) : (w.connection c).style t = c.style (w.unwrap t)
  /-- Every call is answered alike, and the connection inside ends in the same state. -/
  session_eq : session (w.connection c) (events.map w.event) (w.wrap s) =
    (session c events s).map id fun s => w.wrap s
  /-- If the connection inside is watched, it logs what the steps on it alone ask, in order. -/
  asked_eq (log : List Request) :
    session (w.connection c.watched) (events.map fun e => w.event e.watched) (w.wrap (s, log)) =
      ((history c events s).map Step.answer,
        w.wrap ((session c events s).2, log ++ (history c events s).flatMap Step.requests))
  /-- Each of these steps asks what is planned with the spelling of the moment. -/
  plan_eq : ∀ st ∈ history c events s, ∀ request ∈ st.requests,
    plan (c.style st.before) st.call.operation st.call.args = .ok request

/-- A session on a wrapped connection is the session on the connection inside, at any depth, for any
connection, and however it is changed between the calls. -/
theorem wrapping_changes_nothing (w : Wrapping) (c : Connection σ) (events : List (Event σ))
    (s : σ) : w.Transparent c events s where
  style_eq t := by
    have hstyle := (w.carries c).style_eq (w.unwrap t)
    rwa [w.wrap_unwrap] at hstyle
  session_eq := (w.carries c).session_eq (fun f s => w.alter_wrap f s) events s
  asked_eq log := by
    have hsession := (w.carries c.watched).session_eq (fun f s => w.alter_wrap f s)
      (events.map Event.watched) (s, log)
    rw [List.map_map, session_watched, ← answers_history] at hsession
    exact hsession
  plan_eq := by
    intro st hst request hrequest
    obtain ⟨call, before, rfl⟩ := exists_of_mem_history hst
    exact plan_of_mem_requests hrequest

-- A layer that forwards the calls but not the spelling of placeholders asks something else.
example :
    let events : List (Event Recorder) := [.change fun r => { r with style := .dollar },
      .invoke ⟨"getUserById", [.scalar (.integer 7)]⟩]
    (session Recorder.connection events {}).2.log.map Request.sql =
        ["SELECT * FROM user WHERE id = $1"] ∧
      (session Recorder.connection.plain events {}).2.log.map Request.sql =
        ["SELECT * FROM user WHERE id = ?"] := by
  decide +kernel

end Wrapping

end CrudByName
