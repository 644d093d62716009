import CrudByName.Dispatch
import CrudByName.Proofs.Call.Reading
import CrudByName.Proofs.Database.Operations

/-!
# Operations that fail

An operation that fails leaves the database as it was, at whatever stage it fails: before the
connection is asked anything, when its statement is read or resolved, or when rows have been
changed already (`failure_undone`).  Nothing remains of the rows that were changed, since a command
gives a fault or a database and never both.

There is one exception, and only an insert meets it (`isInsert_of_full`).  When no id is left for a
new row, the database undoes the open transaction along with the insert, if there is one.
-/

namespace CrudByName

namespace Database

open Command (Denotes Readable WritesSome)

/-! ## What is left of a database -/

/-- The error when no id is left for a new row. -/
def fullError : CrudError :=
  .database 13 "database or disk is full"

/-- What an operation that fails leaves of a database. -/
structure Failed (e : CrudError) (db db' : Database) : Prop where
  same : e ≠ fullError ∨ db.autocommit = true → db' = db
  undone : e = fullError → db' = db.undone

theorem undone_of_autocommit {db : Database} (h : db.autocommit = true) : db.undone = db := by
  obtain ⟨tables, lastInsertId, before, machine⟩ := db
  have hbefore : before = none := Option.isNone_iff_eq_none.1 h
  rw [hbefore]
  rfl

namespace Failed

variable {e : CrudError} {db db' : Database}

theorem of_cases (hother : e ≠ fullError → db' = db) (hfull : e = fullError → db' = db.undone) :
    Failed e db db' where
  same h := by
    by_cases he : e = fullError
    · rw [hfull he, undone_of_autocommit (h.resolve_left (not_not_intro he))]
    · exact hother he
  undone := hfull

theorem of_rejects (he : e.Rejects) (db : Database) : Failed e db db := by
  refine of_cases (fun _ => rfl) fun hfull => ?_
  rw [hfull] at he
  cases he

end Failed

/-! ## Calls -/

theorem eq_full_of_code {sql : List Char} {fault : Fault} (h : (fault.report sql).code = 13) :
    fault = .full := by
  cases fault with
  | full => rfl
  | _ => exact absurd h (by simp [Fault.report, placed, clientCode])

/-- The error tells that no id was left. -/
theorem ofBackend_report_iff {sql : List Char} {fault : Fault} :
    CrudError.ofBackend (fault.report sql) = fullError ↔ fault = .full := by
  constructor
  · intro h
    exact eq_full_of_code (CrudError.database.inj h).1
  · rintro rfl
    rfl

section

variable {access : Access} {db db' : Database} {e : CrudError} {α : Type}

theorem error_of_outcome {shape : α → Outcome} {answer : Except BackendError α × Database}
    (h : Request.outcome shape answer = (.error e, db')) :
    ∃ error, answer = (.error error, db') ∧ e = .ofBackend error := by
  obtain ⟨error | x, db₁⟩ := answer
  · cases h
    exact ⟨error, rfl, rfl⟩
  · cases h

theorem fault_of_call {part : Answer → α} {sql : String} {params : List Value}
    {error : BackendError} (h : call access part db sql params = (.error error, db')) :
    ∃ fault, runText access db sql.toList params = .error fault ∧
      error = fault.report sql.toList ∧ db' = db.afterFault fault := by
  unfold call at h
  split at h
  · cases h
  · rename_i fault hfault
    cases h
    exact ⟨fault, hfault, rfl, rfl⟩

theorem failed_of_call {part : Answer → α} {sql : String} {params : List Value}
    {error : BackendError} (h : call access part db sql params = (.error error, db')) :
    Failed (.ofBackend error) db db' := by
  obtain ⟨fault, -, rfl, rfl⟩ := fault_of_call h
  refine .of_cases (fun hother => afterFault_of_ne_full (fun hfull => ?_) db) fun hfull => ?_
  · exact hother (ofBackend_report_iff.2 hfull)
  · rw [ofBackend_report_iff.1 hfull]
    rfl

theorem failed_of_run {request : Request}
    (h : request.run (connection access) db = (.error e, db')) : Failed e db db' := by
  cases request with
  | execute sql params =>
    obtain ⟨error, hcall, rfl⟩ := error_of_outcome h
    exact failed_of_call hcall
  | query sql params =>
    obtain ⟨error, hcall, rfl⟩ := error_of_outcome h
    exact failed_of_call hcall
  | lastInsertId => cases h

end

/-! ## Commands that cannot lack an id -/

/-- Fails, if at all, for another reason than that no id is left. -/
def NotFull {α : Type} (x : Except Fault α) : Prop :=
  x ≠ .error .full

section

variable {access : Access} {db : Database} {α β : Type} {t : Table}

theorem NotFull.bind {x : Except Fault α} {f : α → Except Fault β} (hx : NotFull x)
    (hf : ∀ a, NotFull (f a)) : NotFull (x >>= f) := by
  intro h
  rcases Except.bind_eq_error_iff.1 h with h | ⟨a, -, h⟩
  · exact hx h
  · exact hf a h

theorem notFull_ok (a : α) : NotFull (.ok a) :=
  nofun

theorem NotFull.foldlM {f : β → α → Except Fault β} (hf : ∀ b a, NotFull (f b a)) (b : β)
    (as : List α) : NotFull (as.foldlM f b) := by
  induction as generalizing b with
  | nil => exact nofun
  | cons a as ih =>
    rw [List.foldlM_cons]
    exact (hf b a).bind ih

theorem notFull_findTable (access : Access) (db : Database) (n : Name) :
    NotFull (findTable access db n) := by
  unfold findTable
  split <;> exact nofun

theorem notFull_missing (name : String) :
    NotFull (throw (Catalog.missing name) : Except Fault α) := by
  unfold Catalog.missing
  split <;> exact nofun

theorem notFull_resolveTable (access : Access) (db : Database) (n : Name) :
    NotFull (resolveTable access db n) := by
  refine (notFull_findTable access db n).bind fun found => ?_
  split
  · exact nofun
  · exact nofun
  · exact notFull_missing n.text

theorem notFull_resolveChanging (access : Access) (db : Database) (n : Name) :
    NotFull (resolveChanging access db n) := by
  refine (notFull_findTable access db n).bind fun found => ?_
  split
  · exact nofun
  · exact nofun
  · exact notFull_missing n.text

theorem notFull_resolveFilter (t : Table) (m : Machine) (filter : Filter) :
    NotFull (t.resolveFilter m filter) := by
  unfold Table.resolveFilter
  split
  · exact nofun
  · exact nofun
  · split <;> exact nofun

theorem notFull_resolve (t : Table) (n : Name) : NotFull (t.resolve .noColumn n) := by
  unfold Table.resolve
  split <;> exact nofun

theorem notFull_resolveEach (t : Table) (changes : List (Name × Operand)) :
    NotFull (changes.mapM fun c => t.resolve .noColumn c.1) := by
  intro h
  obtain ⟨change, -, hchange⟩ := List.exists_of_mapM_eq_error h
  exact notFull_resolve t change.1 hchange

theorem notFull_checkParams (needed : Nat) (params : List Cell) :
    NotFull (checkParams needed params) := by
  unfold checkParams
  split <;> exact nofun

theorem notFull_checkWritable (access : Access) : NotFull (checkWritable access) := by
  cases access <;> exact nofun

theorem notFull_checkRow (t : Table) (self : Option Int64) (touched : Nat → Bool) (r : Row) :
    NotFull (t.checkRow self touched r) := by
  have htaken : t.idTaken ≠ .full := by
    unfold Table.idTaken
    split <;> exact nofun
  have hrepeated : ∀ c : Column, c.repeated t.name ≠ .full := by
    intro c
    unfold Column.repeated
    split <;> exact nofun
  unfold Table.checkRow
  split
  · exact nofun
  · split
    · exact fun h => htaken (Except.error.inj h)
    · split
      · exact fun h => hrepeated _ (Except.error.inj h)
      · exact nofun

theorem notFull_changed (t : Table) (cells : List (Field × Cell)) (r : Row) :
    NotFull (t.changed cells r) := by
  have hid : NotFull (Table.changedId cells r) := by
    unfold Table.changedId
    split
    · exact nofun
    · split <;> exact nofun
  exact hid.bind fun id => nofun

/-- An update gives no new ids of its own. -/
theorem notFull_update (t : Table) (p : Row → Bool) (cells : List (Field × Cell)) :
    NotFull (t.update p cells) := by
  refine NotFull.bind (NotFull.foldlM (fun t r => ?_) t _) fun last => nofun
  exact (notFull_changed t _ r).bind fun new => (notFull_checkRow t _ _ new).bind fun _ => nofun

variable {params : List Cell} {needed : Nat} {n : Name} {filter : Filter}

theorem notFull_runSelect : NotFull (runSelect access db params needed n filter) := by
  refine (notFull_resolveTable access db n).bind fun t => ?_
  refine (notFull_resolveFilter t db.machine filter).bind fun found => ?_
  exact (notFull_checkParams needed params).bind fun _ => notFull_ok _

theorem notFull_runUpdate {changes : List (Name × Operand)} :
    NotFull (runUpdate access db params needed n changes filter) := by
  refine (notFull_resolveChanging access db n).bind fun t => ?_
  refine (notFull_resolveEach t changes).bind fun fields => ?_
  refine (notFull_resolveFilter t db.machine filter).bind fun found => ?_
  refine (notFull_checkParams needed params).bind fun _ => ?_
  refine (notFull_checkWritable access).bind fun _ => ?_
  exact (notFull_update t _ _).bind fun _ => notFull_ok _

theorem notFull_runDelete : NotFull (runDelete access db params needed n filter) := by
  refine (notFull_resolveChanging access db n).bind fun t => ?_
  refine (notFull_resolveFilter t db.machine filter).bind fun found => ?_
  refine (notFull_checkParams needed params).bind fun _ => ?_
  exact (notFull_checkWritable access).bind fun _ => notFull_ok _

/-- Of the commands that a statement can be, only an insert can lack an id. -/
theorem notFull_run {s : Statement} {c : Command} (hc : Denotes s c)
    (hs : ∀ table columns, s ≠ .insert table columns) : NotFull (run access db params c) := by
  cases hc with
  | select hn hsubject => exact notFull_runSelect
  | insert hn hnames => exact absurd rfl (hs _ _)
  | update hn hchanges hsubject => exact notFull_runUpdate
  | delete hn hsubject => exact notFull_runDelete

end

/-! ## Operations -/

section

variable {access : Access} {db db' : Database} {name text : String} {args : List Argument}
  {e : CrudError}

theorem notFull_runText {s : Statement} (hs : WritesSome s)
    (hother : ∀ table columns, s ≠ .insert table columns) (access : Access) (db : Database)
    (params : List Value) : NotFull (runText access db (s.text .indexed).toList params) := by
  by_cases hr : Readable s
  · obtain ⟨c, hc, htext⟩ := runText_of_readable hs hr
    rw [htext]
    exact notFull_run hc hother
  · obtain ⟨place, htext⟩ := runText_of_not_readable hs hr
    rw [htext]
    exact fun h => unexpectedAt_ne_full place (Except.error.inj h)

/-- A statement that does not insert fails, if at all, for another reason. -/
theorem ne_fullError_of_request {p : Prepared}
    (h : (p.request .indexed).run (connection access) db = (.error e, db'))
    (hs : WritesSome p.statement) (hother : ∀ table columns, p.statement ≠ .insert table columns) :
    e ≠ fullError := by
  have hcall : ∀ {α : Type} {part : Answer → α} {error : BackendError},
      call access part db (p.statement.text .indexed) p.params = (.error error, db') →
        CrudError.ofBackend error ≠ fullError := by
    intro α part error hcall hfull
    obtain ⟨fault, hfault, rfl, -⟩ := fault_of_call hcall
    rw [ofBackend_report_iff.1 hfull] at hfault
    exact notFull_runText hs hother access db p.params hfault
  unfold Prepared.request at h
  split at h
  · obtain ⟨error, hquery, rfl⟩ := error_of_outcome h
    exact hcall hquery
  · obtain ⟨error, hexecute, rfl⟩ := error_of_outcome h
    exact hcall hexecute

/-- Only an insert finds that no id is left. -/
theorem isInsert_of_full
    (h : Dispatch.invoke (connection access) name args db = (.error fullError, db')) :
    ∃ table data, name = "insert" ++ table ∧ args = [.fields data] := by
  cases hplan : Dispatch.plan .indexed name args with
  | error refusal =>
    rw [Dispatch.invoke_of_plan_error (c := connection access) hplan] at h
    cases h
    cases Dispatch.rejects_of_plan hplan
  | ok request =>
    rw [Dispatch.invoke_of_plan_ok (c := connection access) hplan] at h
    obtain ⟨operation, hparse, rfl | ⟨table, field, prepared, hprepares, rfl⟩⟩ :=
      Dispatch.of_plan hplan
    · cases h
    · obtain ⟨-, rfl⟩ := Operation.parse_eq_ok_iff.1 hparse
      generalize hverb : operation.verb = verb at hprepares
      cases hprepares with
      | get key value => exact absurd rfl (ne_fullError_of_request h trivial nofun)
      | delete key value => exact absurd rfl (ne_fullError_of_request h trivial nofun)
      | insert hcolumns =>
        cases operation with
        | insert token => exact ⟨token, _, rfl, rfl⟩
        | _ => cases hverb
      | update key value hcolumns =>
        exact absurd rfl (ne_fullError_of_request h (writesSome_of_columnsAt hcolumns) nofun)

theorem failed_of_invoke (h : Dispatch.invoke (connection access) name args db = (.error e, db')) :
    Failed e db db' := by
  cases hplan : Dispatch.plan .indexed name args with
  | error refusal =>
    rw [Dispatch.invoke_of_plan_error (c := connection access) hplan] at h
    cases h
    exact .of_rejects (Dispatch.rejects_of_plan hplan) db
  | ok request =>
    rw [Dispatch.invoke_of_plan_ok (c := connection access) hplan] at h
    exact failed_of_run h

/-- A line that fails cannot be read, or its call fails. -/
theorem of_line (h : Line.run (connection access) text db = (.error e, db')) :
    (e.Rejects ∧ db' = db) ∨ ∃ call, Call.parse text = .ok call ∧
      Dispatch.invoke (connection access) call.operation call.args db = (.error e, db') := by
  cases hparse : Call.parse text with
  | error refusal =>
    rw [Line.run_of_parse_error hparse] at h
    cases h
    obtain ⟨fault, rfl⟩ := Call.refuses_parse text _ hparse
    exact .inl ⟨.argument fault, rfl⟩
  | ok call =>
    rw [Line.run_of_parse_ok hparse] at h
    obtain ⟨hanswer, rfl⟩ := Prod.mk.inj h
    exact .inr ⟨call, rfl, Prod.ext (Except.map_eq_error_iff.1 hanswer) rfl⟩

theorem failed_of_line (h : Line.run (connection access) text db = (.error e, db')) :
    Failed e db db' := by
  obtain ⟨hrejects, rfl⟩ | ⟨call, -, hcall⟩ := of_line h
  · exact .of_rejects hrejects db'
  · exact failed_of_invoke hcall

theorem isInsert_of_line_full
    (h : Line.run (connection access) text db = (.error fullError, db')) :
    ∃ table data, Call.parse text = .ok ⟨"insert" ++ table, [.fields data]⟩ := by
  obtain ⟨hrejects, -⟩ | ⟨⟨operation, args⟩, hparse, hcall⟩ := of_line h
  · cases hrejects
  · obtain ⟨table, data, rfl, rfl⟩ := isInsert_of_full hcall
    exact ⟨table, data, hparse⟩

end

/-- An operation or a line that fails leaves the database as it was.  The one exception is an insert
that finds no id left, and outside of a transaction it is none. -/
theorem failure_undone (access : Access) (db : Database) :
    (∀ name args e db', Dispatch.invoke (connection access) name args db = (.error e, db') →
      Failed e db db' ∧ (e = fullError →
        ∃ table data, name = "insert" ++ table ∧ args = [.fields data])) ∧
    ∀ text e db', Line.run (connection access) text db = (.error e, db') →
      Failed e db db' ∧ (e = fullError →
        ∃ table data, Call.parse text = .ok ⟨"insert" ++ table, [.fields data]⟩) := by
  refine ⟨fun name args e db' h => ⟨failed_of_invoke h, ?_⟩,
    fun text e db' h => ⟨failed_of_line h, ?_⟩⟩
  · rintro rfl
    exact isInsert_of_full h
  · rintro rfl
    exact isInsert_of_line_full h

/-- The first of two people has got the new id when the second one cannot get it too. -/
theorem failure_undone_people :
    let change : List Argument :=
      [.scalar (.text "ann"), .fields (Record.ofList [("id", .integer 5)])]
    Dispatch.invoke (connection .full) "updatePeopleByName" change people =
        (.error (.database 1555 "UNIQUE constraint failed: people.id"),
          (Dispatch.invoke (connection .full) "updatePeopleByName" change people).2) ∧
      (Dispatch.invoke (connection .full) "updatePeopleByName" change people).2 = people := by
  intro change
  have hfails : Dispatch.invoke (connection .full) "updatePeopleByName" change people =
      (.error (.database 1555 "UNIQUE constraint failed: people.id"),
        (Dispatch.invoke (connection .full) "updatePeopleByName" change people).2) :=
    Prod.ext (by decide +kernel) rfl
  have hfailed := ((failure_undone .full people).1 _ _ _ _ hfails).1
  exact ⟨hfails, hfailed.same (.inl (by decide))⟩

/-- A failure can change something: an insert finds no id left, and what was changed before in the
transaction is undone. -/
theorem failure_undone_part :
    ∃ db db', Reachable db ∧ db.autocommit = false ∧
      (db.table? "t").map (fun t => t.rows.map Row.id) = some [5, 9223372036854775807] ∧
      Dispatch.invoke (connection .full) "insertT" [.fields (Record.ofList [("id", .null)])] db =
        (.error fullError, db') ∧
      db'.autocommit = true ∧
      (db'.table? "t").map (fun t => t.rows.map Row.id) = some [9223372036854775807] := by
  have hcounting : Reachable (counting 9223372036854775807) :=
    reachable_counting 9223372036854775807 (by decide +kernel)
  have hinserted := (hcounting.batch .full "BEGIN").execute .full
    "INSERT INTO t (id) VALUES (?1)" [.integer 5]
  refine ⟨_, _, hinserted, ?_, ?_, Prod.ext ?_ rfl, ?_, ?_⟩
  all_goals decide +kernel

end Database

end CrudByName
