import CrudByName.Proofs.Database.Commands
import CrudByName.Proofs.Database.States
import CrudByName.Proofs.Dispatch.Convention
import CrudByName.Proofs.Json.Members

/-!
# Operations on a database

What the operations come to on a database, from their names and arguments to its tables.

An operation is planned as a statement, and the database reads the text of that as a command; so
the call is either what the command does, or a fault that leaves the database alone
(`runText_of_readable`, `runText_of_not_readable`).  The lookups of get, update and delete put their
value at different positions, and yet find the same rows: those that meet `Table.meets`.
-/

namespace CrudByName

namespace Database

open Command (Denotes Compared Readable WritesSome isPlain isKey)

/-! ## Fields -/

namespace Table

variable {t : Table} {name : String} {field : Field} {c : Column} {i : Nat}

/-- A field has the name of its column, or it is the id under a name that needs no column. -/
theorem of_field? (h : t.field? name = some field) :
    (∃ c i, t.columns[i]? = some c ∧ sameName c.name name = true ∧ field = fieldOf c i) ∨
      field = .id ∧ foldCase name ∈ idNames := by
  unfold field? at h
  split at h
  · rename_i c i hfound
    have hmem := List.mem_of_find?_eq_some hfound
    have hname := List.find?_some hfound
    exact .inl ⟨c, i, List.mk_mem_zipIdx_iff_getElem?.1 hmem, hname, (Option.some.inj h).symm⟩
  · split at h
    · rename_i hid
      exact .inr ⟨(Option.some.inj h).symm, by simpa using hid⟩
    · cases h

/-- No two columns have one name. -/
theorem Shaped.index_eq (ht : t.Shaped) {c' : Column} {j : Nat} (hc : t.columns[i]? = some c)
    (hc' : t.columns[j]? = some c') (hsame : sameName c.name c'.name = true) : i = j :=
  List.index_eq_of_pairwise ht.names hc hc' (by simp [hsame]) (by simp [sameName_comm, hsame])

/-- A column is found by its name. -/
theorem Shaped.field?_eq (ht : t.Shaped) (hc : t.columns[i]? = some c)
    (hname : sameName c.name name = true) : t.field? name = some (fieldOf c i) := by
  have hmem : (c, i) ∈ t.columns.zipIdx := List.mk_mem_zipIdx_iff_getElem?.2 hc
  unfold field?
  split
  · rename_i c' j hfound
    have hc' : t.columns[j]? = some c' :=
      List.mk_mem_zipIdx_iff_getElem?.1 (List.mem_of_find?_eq_some hfound)
    have hname' := List.find?_some hfound
    have hsame : sameName c.name c'.name = true := by
      rw [sameName_congr hname, sameName_comm]
      exact hname'
    obtain rfl := ht.index_eq hc hc' hsame
    rw [hc] at hc'
    cases hc'
    rfl
  · rename_i hnone
    exact absurd hname (List.find?_eq_none.1 hnone (c, i) hmem)

/-! ## Records -/

theorem Shaped.nodup_columnNames (ht : t.Shaped) : t.columnNames.Nodup := by
  refine List.pairwise_map.2 (ht.names.imp fun {a b} hab heq => ?_)
  rw [heq, sameName_refl] at hab
  cases hab

section

variable {r : Row}

theorem length_shown (hr : r.Fits t.columns) : (r.shown t.columns).length = t.columns.length := by
  rw [Row.shown, List.length_zipWith, ← hr.length_eq, Nat.min_self]

/-- The record of a row has one field for each column. -/
theorem Shaped.record_eq (ht : t.Shaped) (hr : r.Fits t.columns) :
    t.record r = ⟨t.columnNames.zip ((r.shown t.columns).map Cell.toValue)⟩ := by
  have hlength : t.columnNames.length ≤ ((r.shown t.columns).map Cell.toValue).length := by
    rw [columnNames, List.length_map, List.length_map, length_shown hr]
  rw [record, Record.ofList_eq_collapse, Json.collapse_of_nodup]
  rw [List.map_fst_zip hlength]
  exact ht.nodup_columnNames

theorem Shaped.names_record (ht : t.Shaped) (hr : r.Fits t.columns) :
    (t.record r).names = t.columnNames := by
  rw [ht.record_eq hr, Record.names, List.map_fst_zip]
  rw [columnNames, List.length_map, List.length_map, length_shown hr]

/-- The record of a row has what the row shows in a column. -/
theorem Shaped.get?_record (ht : t.Shaped) (hr : r.Fits t.columns) (hc : t.columns[i]? = some c)
    {cell : Cell} (hcell : (r.shown t.columns)[i]? = some cell) :
    (t.record r).get? c.name = some cell.toValue := by
  have hname : t.columnNames[i]? = some c.name := by
    rw [columnNames, List.getElem?_map, hc, Option.map_some]
  have hvalue : ((r.shown t.columns).map Cell.toValue)[i]? = some cell.toValue := by
    rw [List.getElem?_map, hcell, Option.map_some]
  have hfield := List.getElem?_zip_eq_some (z := (c.name, cell.toValue)) |>.2 ⟨hname, hvalue⟩
  have hmem : (c.name, cell.toValue) ∈ (t.record r).fields := by
    rw [ht.record_eq hr]
    exact List.mem_of_getElem? hfield
  have hdistinct : (t.record r).names.Nodup := by
    rw [ht.names_record hr]
    exact ht.nodup_columnNames
  exact (Json.lookup_eq_some_iff_of_nodup hdistinct).2 hmem

end

end Table

/-! ## Lookups -/

/-- Whether a lookup by a column and a value finds a row.  A few words are no columns there,
whatever the columns are called, but cells of their own. -/
def Table.meets (t : Table) (m : Machine) (key : Identifier) (v : Value) (r : Row) : Bool :=
  match constantOf? key.name.toList with
  | some k => (k.cell m).equals (Cell.ofValue v).settled
  | none => (t.field? key.name).any fun field => t.selects field (Cell.ofValue v).settled r

/-- The table that a lookup sees under a name: one of the tables, or a catalog. -/
def visible? (db : Database) (name : String) : Option Table :=
  (db.table? name).or (Catalog.named? db.tables name)

section

variable {access : Access} {db db' : Database} {t : Table} {table key : Identifier}
  {field : Field} {v : Value}

theorem visible?_of_table? {name : String} (h : db.table? name = some t) :
    db.visible? name = some t := by
  rw [visible?, h]
  rfl

theorem resolveTable_eq {n : Name} (haccess : access ≠ .unreadable)
    (h : db.visible? n.text = some t) : resolveTable access db n = .ok t := by
  have hfind : findTable access db n = .ok (db.table? n.text) := if_neg haccess
  simp only [resolveTable, hfind, bind, Except.bind]
  unfold visible? at h
  cases htable : db.table? n.text with
  | some t' =>
    rw [htable] at h
    cases h
    rfl
  | none =>
    rw [htable, Option.none_or] at h
    rw [h]
    rfl

theorem resolveChanging_eq {n : Name} (h : db.table? n.text = some t) :
    resolveChanging .full db n = .ok t := by
  have hfind : findTable .full db n = .ok (db.table? n.text) := rfl
  simp only [resolveChanging, hfind, h, bind, Except.bind]
  rfl

/-- What is compared decides which rows are found, whatever position the value has. -/
theorem exists_lookup {s : Subject} (m : Machine) (wanted : Operand) (params : List Cell)
    (v : Value) (hs : Compared key s) (hfield : t.field? key.name = some field)
    (hwanted : wanted.cell params = (Cell.ofValue v).settled) :
    ∃ l, t.resolveFilter m (.equal s wanted) = .ok l ∧ t.finds params l = t.meets m key v := by
  cases hs with
  | @column n hkey hn =>
    refine ⟨.byField field wanted, ?_, ?_⟩
    · simp only [Table.resolveFilter, hn, hfield]
    · funext r
      simp only [Table.finds, Table.meets, hkey, hfield, hwanted, Option.any_some]
  | @constant k hkey =>
    refine ⟨.byCell (k.cell m) wanted, rfl, ?_⟩
    funext r
    simp only [Table.finds, Table.meets, hkey, hwanted]

theorem run_select {c : Command} (hc : Denotes (.select table key) c)
    (haccess : access ≠ .unreadable) (ht : db.visible? table.name = some t)
    (hfield : t.field? key.name = some field) (v : Value) :
    run access db [Cell.ofValue v] c =
      .ok (.rows ((t.rows.filter (t.meets db.machine key v)).map t.record), db) := by
  cases hc with
  | @select _ _ n s hn hs =>
    rw [← hn] at ht
    obtain ⟨l, hl, hfinds⟩ := exists_lookup db.machine (.param 1) [Cell.ofValue v] v hs hfield rfl
    have htable := resolveTable_eq haccess ht
    simp only [run, runSelect, htable, hl, bind, Except.bind]
    rw [hfinds]
    rfl

theorem run_delete {c : Command} (hc : Denotes (.delete table key) c)
    (ht : db.table? table.name = some t) (hfield : t.field? key.name = some field) (v : Value) :
    run .full db [Cell.ofValue v] c =
      .ok (.count (t.rows.filter (t.meets db.machine key v)).length,
        db.setTable { t with rows := t.rows.filter fun r => !t.meets db.machine key v r }) := by
  cases hc with
  | @delete _ _ n s hn hs =>
    rw [← hn] at ht
    obtain ⟨l, hl, hfinds⟩ := exists_lookup db.machine (.param 1) [Cell.ofValue v] v hs hfield rfl
    have htable := resolveChanging_eq ht
    simp only [run, runDelete, htable, hl, bind, Except.bind]
    rw [hfinds]
    rfl

/-! ## Writing by position -/

/-- The columns of a statement with the fields that they are. -/
def FieldsOf (t : Table) (columns : List Identifier) (fields : List Field) : Prop :=
  List.Forall₂ (fun (c : Identifier) f => t.field? c.name = some f) columns fields

/-- Values as the database takes them in. -/
def taken (values : List Value) : List Cell :=
  values.map fun v => (Cell.ofValue v).settled

theorem settled_taken (fields : List Field) (values : List Value) :
    Settled (fields.zip (taken values)) :=
  Table.settled_zip fields (List.forall_mem_map.2 fun _ _ => Cell.settled_settled _)

theorem Table.resolve_eq_ok_iff {missing : String → Fault} {n : Name} :
    t.resolve missing n = .ok field ↔ t.field? n.text = some field := by
  unfold Table.resolve
  cases t.field? n.text <;> simp

theorem fieldsOf_of_mapM {ι : Type} (name : ι → Name) {missing : String → Fault}
    {columns : List Identifier} {xs : List ι} {fields : List Field}
    (hnames : List.Forall₂ (fun (c : Identifier) x => (name x).text = c.name) columns xs)
    (h : (xs.mapM fun x => t.resolve missing (name x)) = .ok fields) :
    FieldsOf t columns fields := by
  have hfields := List.mapM_eq_ok_iff.1 h
  clear h
  induction hnames generalizing fields with
  | nil =>
    cases hfields
    exact .nil
  | cons hname _ ih =>
    obtain ⟨f, rest, hf, hrest, rfl⟩ := List.forall₂_cons_left_iff.1 hfields
    rw [Table.resolve_eq_ok_iff, hname] at hf
    exact .cons hf (ih hrest)

/-- The placeholders from one on stand for the first parameters. -/
theorem map_param_cell (values more : List Value) :
    ((List.range' 1 values.length).map fun n =>
      (Operand.param n).cell ((values ++ more).map Cell.ofValue)) = taken values := by
  refine List.ext_getElem (by simp [taken]) fun i hi _ => ?_
  have hlt : i < values.length := by simpa using hi
  have hparam : ((values ++ more).map Cell.ofValue)[i]? = some (Cell.ofValue values[i]) := by
    rw [List.getElem?_map, List.getElem?_append_left hlt, List.getElem?_eq_getElem hlt]
    rfl
  simp only [taken, Operand.cell, List.getElem_map, List.getElem_range', Nat.one_mul,
    Nat.add_sub_cancel_left, hparam, Option.getD_some]

/-- What an insert finds and writes. -/
theorem of_run_insert {columns : List Identifier} {values : List Value} {c : Command} {a : Answer}
    (hc : Denotes (.insert table columns) c) (hvalues : values.length = columns.length)
    (h : run access db (values.map Cell.ofValue) c = .ok (a, db')) :
    ∃ t fields id t' noted, db.table? table.name = some t ∧ FieldsOf t columns fields ∧
      t.insert (db.usedId t) db.machine (fields.zip (taken values)) = .ok (id, t') ∧
      (db.setTable t').noteId t' id = .ok noted ∧ a = .count 1 ∧ db' = noted.afterInsert id := by
  cases hc with
  | @insert _ _ n names hn hnames =>
    obtain ⟨t, fields, id, t', noted, ht, hfields, hinsert, hnoted, ha, hdb⟩ := of_runInsert h
    rw [hn] at ht
    have hcells := map_param_cell values []
    rw [List.append_nil, hvalues] at hcells
    rw [List.map_map, Function.comp_def, hcells] at hinsert
    exact ⟨t, fields, id, t', noted, ht, fieldsOf_of_mapM (fun m => m) hnames hfields, hinsert,
      hnoted, ha, hdb⟩

/-- What an update finds and writes.  The lookup value is the last parameter. -/
theorem of_run_update {columns : List Identifier} {values : List Value} {c : Command} {a : Answer}
    (hc : Denotes (.update table columns key) c) (hvalues : values.length = columns.length)
    (h : run access db ((values ++ [v]).map Cell.ofValue) c = .ok (a, db'))
    (ht : db.table? table.name = some t) (hfield : t.field? key.name = some field) :
    ∃ fields count t', FieldsOf t columns fields ∧
      t.update (t.meets db.machine key v) (fields.zip (taken values)) = .ok (count, t') ∧
      a = .count count ∧ db' = db.setTable t' := by
  cases hc with
  | @update _ _ _ n s changes hn hchanges hs =>
    obtain ⟨t₁, fields, found, count, t', ht₁, hfields, hfound, hupdate, ha, hdb⟩ := of_runUpdate h
    rw [hn, ht] at ht₁
    cases ht₁
    have hnames : List.Forall₂ (fun (c : Identifier) (x : Name × Operand) => x.1.text = c.name)
        columns changes := by
      rw [← List.zipIdx_map_fst 0 columns, List.forall₂_map_left_iff]
      exact hchanges.imp fun _ _ hpc => hpc.1
    have hcells : changes.map (fun c => c.2.cell ((values ++ [v]).map Cell.ofValue)) =
        taken values := by
      rw [← map_param_cell values [v], hvalues, ← Command.map_zipIdx_succ]
      exact (List.map_eq_map_of_forall₂ hchanges fun p c hpc => by rw [hpc.2]).symm
    have hwanted : (Operand.param (columns.length + 1)).cell ((values ++ [v]).map Cell.ofValue) =
        (Cell.ofValue v).settled := by
      rw [← hvalues]
      simp [Operand.cell]
    obtain ⟨l, hl, hfinds⟩ := exists_lookup db.machine _ _ v hs hfield hwanted
    rw [hl] at hfound
    cases hfound
    rw [hcells, hfinds] at hupdate
    exact ⟨fields, count, t', fieldsOf_of_mapM Prod.fst hnames hfields, hupdate, ha, hdb⟩

end

/-! ## Writing by name -/

/-- Whether a key of a field map is that of a name, in any case of letters. -/
def Spells (key name : String) : Prop :=
  ∃ column, Identifier.normalize key = .ok column ∧ sameName name column.name = true

/-- Whether a field map has a value for the column of that name. -/
def Sets (set : Record) (name : String) : Prop :=
  ∃ key ∈ set.names, Spells key name

/-- Whether a field map has a value for the ids of a table, under any of their names. -/
def SetsId (t : Table) (set : Record) : Prop :=
  ∃ key ∈ set.names, ∃ column, Identifier.normalize key = .ok column ∧
    t.field? column.name = some .id

section

variable {t : Table} {set : Record} {columns : List (Identifier × Value)} {fields : List Field}
  {cells : List Cell} {i position : Nat} {c : Column}

/-- Every field that is written is that of a key of the map. -/
theorem exists_key_of_mem (hcolumns : (Argument.fields set).columnsAt position = .ok columns)
    (hfields : FieldsOf t (columns.map Prod.fst) fields) {field : Field} (h : field ∈ fields) :
    ∃ key ∈ set.names, ∃ column, Identifier.normalize key = .ok column ∧
      t.field? column.name = some field := by
  obtain ⟨-, hgo, -⟩ := (columnsAt_eq_ok_iff position).1 hcolumns
  have hkeys := keysName_of_goesTo hgo
  obtain ⟨column, hcolumn, hfield⟩ := List.exists_mem_of_forall₂ hfields.flip h
  obtain ⟨key, hkey, hnormal⟩ := (hkeys.mem_iff column).1 hcolumn
  exact ⟨key, hkey, column, hnormal, hfield⟩

/-- A column that no key names is not written. -/
theorem cell_not_mem (hcolumns : (Argument.fields set).columnsAt position = .ok columns)
    (hfields : FieldsOf t (columns.map Prod.fst) fields) (hc : t.columns[i]? = some c)
    (hset : ¬ Sets set c.name) : Field.cell i ∉ fields := by
  intro hmem
  obtain ⟨key, hkey, column, hnormal, hfield⟩ := exists_key_of_mem hcolumns hfields hmem
  rcases Table.of_field? hfield with ⟨c', j, hc', hname, hij⟩ | ⟨hid, -⟩
  · unfold Table.fieldOf at hij
    split at hij
    · cases hij
    · cases hij
      rw [hc] at hc'
      cases hc'
      exact hset ⟨key, hkey, column, hnormal, hname⟩
  · cases hid

/-- Nothing is given for a field that is not written. -/
theorem given?_eq_none {field : Field} (h : field ∉ fields) :
    Table.given? (fields.zip cells) field = none := by
  rw [Table.given?, List.lookup_eq_none_iff]
  intro p hp
  have hmem : p.1 ∈ fields := (List.of_mem_zip hp).1
  rw [bne_iff_ne]
  rintro rfl
  exact h hmem

theorem given?_reverse_eq_none_iff {written : List (Field × Cell)} {field : Field} :
    Table.given? written.reverse field = none ↔ Table.given? written field = none := by
  simp only [Table.given?, List.lookup_eq_none_iff, List.mem_reverse]

end

/-! ## From a text to a command -/

section

variable {access : Access} {db db' : Database} {s : Statement} {α : Type} {part : Answer → α}
  {params : List Value}

theorem toList_text (s : Statement) : (s.text .indexed).toList = s.chars .indexed := by
  rw [Statement.text, String.toList_ofList]

theorem call_of_ok {sql : String} {a : Answer}
    (h : runText access db sql.toList params = .ok (a, db')) (part : Answer → α) :
    call access part db sql params = (.ok (part a), db') := by
  simp only [call, h]

/-- A statement that can be read is run as its command. -/
theorem runText_of_readable (hs : WritesSome s) (hr : Readable s) :
    ∃ c, Denotes s c ∧ ∀ access db params,
      runText access db (s.text .indexed).toList params =
        run access db (params.map Cell.ofValue) c := by
  obtain ⟨c, hparse, hc⟩ := (Command.parse_chars hs).1 hr
  refine ⟨c, hc, fun access db params => ?_⟩
  rw [toList_text, runText, hparse]
  rfl

theorem unexpectedAt_ne_full (place : List Lexeme) : Command.unexpectedAt place ≠ .full := by
  unfold Command.unexpectedAt Command.faultAt
  split
  · exact nofun
  · split <;> exact nofun

/-- A statement that cannot be read fails where it goes wrong. -/
theorem runText_of_not_readable (hs : WritesSome s) (hr : ¬ Readable s) :
    ∃ place, ∀ access db params, runText access db (s.text .indexed).toList params =
      .error (Command.unexpectedAt place) := by
  obtain ⟨place, hparse⟩ := (Command.parse_chars hs).2 hr
  refine ⟨place, fun access db params => ?_⟩
  rw [toList_text]
  exact Except.bind_eq_error_iff.2 (.inl hparse)

/-- A statement that cannot be read leaves the database alone. -/
theorem call_of_not_readable (hs : WritesSome s) (hr : ¬ Readable s) (access : Access)
    (part : Answer → α) (db : Database) (params : List Value) :
    ∃ e, call access part db (s.text .indexed) params = (.error e, db) := by
  obtain ⟨place, htext⟩ := runText_of_not_readable hs hr
  simp only [call, htext, afterFault_of_ne_full (unexpectedAt_ne_full place)]
  exact ⟨_, rfl⟩

/-- A call that succeeds has run the command of its statement. -/
theorem of_call {x : α} (hs : WritesSome s)
    (h : call access part db (s.text .indexed) params = (.ok x, db')) :
    Readable s ∧ ∃ c a, Denotes s c ∧ run access db (params.map Cell.ofValue) c = .ok (a, db') ∧
      x = part a := by
  by_cases hr : Readable s
  · obtain ⟨c, hc, htext⟩ := runText_of_readable hs hr
    simp only [call, htext] at h
    split at h
    · rename_i a db₁ hrun
      cases h
      exact ⟨hr, c, a, hc, hrun, rfl⟩
    · cases h
  · obtain ⟨e, hcall⟩ := call_of_not_readable hs hr access part db params
    rw [hcall] at h
    cases h

theorem of_outcome {shape : α → Outcome} {o : Outcome}
    {answer : Except BackendError α × Database}
    (h : Request.outcome shape answer = (.ok o, db')) :
    ∃ x, answer = (.ok x, db') ∧ o = shape x := by
  obtain ⟨_ | x, db₁⟩ := answer
  · cases h
  · cases h
    exact ⟨x, rfl, rfl⟩

end

/-! ## Operations by name -/

/-- A table token and a field token with the identifiers that they are normalized to. -/
structure Names (tableToken fieldToken : String) (table key : Identifier) : Prop where
  tokens : Operation.Tokens tableToken fieldToken
  table : Identifier.normalize tableToken = .ok table
  key : Identifier.normalize fieldToken = .ok key

section

variable {access : Access} {db db' : Database} {tableToken fieldToken : String}
  {table key : Identifier} {t : Table} {field : Field} {v : Value} {set : Record} {o : Outcome}

theorem Names.field_eq (h : Names tableToken fieldToken table key) :
    (some fieldToken).mapM Identifier.normalize = .ok (some key) :=
  Except.map_eq_ok_iff.2 ⟨key, h.key, rfl⟩

section

variable {operation : Operation} {token : String} {lookup : Option Identifier}

/-- An operation that is prepared makes the call of its statement. -/
theorem invoke_of_prepare_ok (hnamed : operation.Named) (htoken : operation.table? = some token)
    (htable : Identifier.normalize token = .ok table)
    (hlookup : operation.field?.mapM Identifier.normalize = .ok lookup) {p : Prepared}
    (args : List Argument) (hprepare : prepare operation.verb table lookup args = .ok p)
    (access : Access) (db : Database) :
    Dispatch.invoke (connection access) operation.spelling args db =
      (p.request .indexed).run (connection access) db := by
  have hplan := Dispatch.plan_spelling hnamed htoken htable hlookup args .indexed
  rw [hprepare] at hplan
  exact Dispatch.invoke_of_plan_ok (c := connection access) hplan

/-- An operation that is refused leaves the database alone. -/
theorem invoke_of_prepare_error (hnamed : operation.Named)
    (htoken : operation.table? = some token) (htable : Identifier.normalize token = .ok table)
    (hlookup : operation.field?.mapM Identifier.normalize = .ok lookup) {e : CrudError}
    (args : List Argument) (hprepare : prepare operation.verb table lookup args = .error e)
    (access : Access) (db : Database) :
    Dispatch.invoke (connection access) operation.spelling args db = (.error e, db) := by
  have hplan := Dispatch.plan_spelling hnamed htoken htable hlookup args .indexed
  rw [hprepare] at hplan
  exact Dispatch.invoke_of_plan_error (c := connection access) hplan

end

theorem invoke_get (h : Names tableToken fieldToken table key) (access : Access) (db : Database)
    (v : Value) :
    Dispatch.invoke (connection access) ("get" ++ tableToken ++ "By" ++ fieldToken) [.scalar v] db =
      Request.outcome .ofRows
        (call access Answer.records db ((Statement.select table key).text .indexed) [v]) :=
  invoke_of_prepare_ok (.get h.tokens) rfl h.table h.field_eq [.scalar v] rfl access db

theorem invoke_delete (h : Names tableToken fieldToken table key) (access : Access) (db : Database)
    (v : Value) :
    Dispatch.invoke (connection access) ("delete" ++ tableToken ++ "By" ++ fieldToken)
        [.scalar v] db =
      Request.outcome .affectedCount
        (call access Answer.touched db ((Statement.delete table key).text .indexed) [v]) :=
  invoke_of_prepare_ok (.delete h.tokens) rfl h.table h.field_eq [.scalar v] rfl access db

/-- An update is a call for the columns of its field map, if that has some. -/
theorem invoke_update (h : Names tableToken fieldToken table key) (access : Access) (db : Database)
    (v : Value) (set : Record) :
    Dispatch.invoke (connection access) ("update" ++ tableToken ++ "By" ++ fieldToken)
        [.scalar v, .fields set] db =
      match (Argument.fields set).columnsAt 2 with
      | .error e => (.error e, db)
      | .ok columns => Request.outcome .affectedCount
        (call access Answer.touched db
          ((Statement.update table (columns.map Prod.fst) key).text .indexed)
          (columns.map Prod.snd ++ [v])) := by
  cases hcolumns : (Argument.fields set).columnsAt 2 with
  | error e =>
    have herror : prepareUpdate table key [.scalar v, .fields set] = .error e :=
      Except.bind_eq_error_iff.2 (.inr ⟨v, rfl, Except.bind_eq_error_iff.2 (.inl hcolumns)⟩)
    exact invoke_of_prepare_error (.update h.tokens) rfl h.table h.field_eq
      [.scalar v, .fields set] herror access db
  | ok columns =>
    have hok : prepareUpdate table key [.scalar v, .fields set] =
        .ok ⟨.update table (columns.map Prod.fst) key, columns.map Prod.snd ++ [v]⟩ :=
      Except.bind_eq_ok_iff.2 ⟨v, rfl, Except.bind_eq_ok_iff.2 ⟨columns, hcolumns, rfl⟩⟩
    exact invoke_of_prepare_ok (.update h.tokens) rfl h.table h.field_eq
      [.scalar v, .fields set] hok access db

theorem invoke_insert (hne : tableToken ≠ "") (htable : Identifier.normalize tableToken = .ok table)
    (access : Access) (db : Database) (data : Record) :
    Dispatch.invoke (connection access) ("insert" ++ tableToken) [.fields data] db =
      match (Argument.fields data).columnsAt 1 with
      | .error e => (.error e, db)
      | .ok columns => Request.outcome .affectedCount
        (call access Answer.touched db
          ((Statement.insert table (columns.map Prod.fst)).text .indexed)
          (columns.map Prod.snd)) := by
  cases hcolumns : (Argument.fields data).columnsAt 1 with
  | error e =>
    have herror : prepareInsert table [.fields data] = .error e :=
      Except.bind_eq_error_iff.2 (.inl hcolumns)
    exact invoke_of_prepare_error (.insert hne) rfl htable rfl [.fields data] herror access db
  | ok columns =>
    have hok : prepareInsert table [.fields data] =
        .ok ⟨.insert table (columns.map Prod.fst), columns.map Prod.snd⟩ :=
      Except.bind_eq_ok_iff.2 ⟨columns, hcolumns, rfl⟩
    exact invoke_of_prepare_ok (.insert hne) rfl htable rfl [.fields data] hok access db

/-! ## What the operations do -/

theorem get_eq (h : Names tableToken fieldToken table key) (hplain : isPlain table = true)
    (hkey : isKey key = true) (haccess : access ≠ .unreadable)
    (ht : db.visible? table.name = some t) (hfield : t.field? key.name = some field) (v : Value) :
    Dispatch.invoke (connection access) ("get" ++ tableToken ++ "By" ++ fieldToken) [.scalar v] db =
      (.ok (.ofRows ((t.rows.filter (t.meets db.machine key v)).map t.record)), db) := by
  obtain ⟨c, hc, htext⟩ := runText_of_readable (s := .select table key) trivial ⟨hplain, hkey⟩
  have hrun := run_select hc haccess ht hfield v
  have hcall := call_of_ok ((htext access db [v]).trans hrun) Answer.records
  rw [invoke_get h, hcall]
  rfl

theorem delete_eq (h : Names tableToken fieldToken table key) (hplain : isPlain table = true)
    (hkey : isKey key = true) (ht : db.table? table.name = some t)
    (hfield : t.field? key.name = some field) (v : Value) :
    Dispatch.invoke (connection .full) ("delete" ++ tableToken ++ "By" ++ fieldToken)
        [.scalar v] db =
      (.ok (.affectedCount (t.rows.filter (t.meets db.machine key v)).length),
        db.setTable { t with rows := t.rows.filter fun r => !t.meets db.machine key v r }) := by
  obtain ⟨c, hc, htext⟩ := runText_of_readable (s := .delete table key) trivial ⟨hplain, hkey⟩
  have hrun := run_delete hc ht hfield v
  have hcall := call_of_ok ((htext .full db [v]).trans hrun) Answer.touched
  rw [invoke_delete h, hcall]
  rfl

/-- The columns of a field map, which has a value for each of them. -/
theorem writesSome_of_columnsAt {r : Record} {position : Nat} {columns : List (Identifier × Value)}
    (h : (Argument.fields r).columnsAt position = .ok columns) : columns.map Prod.fst ≠ [] := by
  obtain ⟨hne, hgo, -⟩ := (columnsAt_eq_ok_iff position).1 h
  rintro hnil
  rw [List.map_eq_nil_iff] at hnil
  rw [hnil, List.forall₂_nil_right_iff] at hgo
  exact hne hgo

/-- What an update that succeeds has done. -/
theorem of_update (h : Names tableToken fieldToken table key)
    (ht : db.table? table.name = some t) (hfield : t.field? key.name = some field)
    (hupdate : Dispatch.invoke (connection access)
      ("update" ++ tableToken ++ "By" ++ fieldToken) [.scalar v, .fields set] db = (.ok o, db')) :
    ∃ columns fields count t', (Argument.fields set).columnsAt 2 = .ok columns ∧
      FieldsOf t (columns.map Prod.fst) fields ∧
      t.update (t.meets db.machine key v) (fields.zip (taken (columns.map Prod.snd))) =
        .ok (count, t') ∧
      o = .affectedCount count ∧ db' = db.setTable t' := by
  rw [invoke_update h] at hupdate
  split at hupdate
  · cases hupdate
  · rename_i columns hcolumns
    obtain ⟨x, hcall, rfl⟩ := of_outcome hupdate
    have hsome : WritesSome (.update table (columns.map Prod.fst) key) :=
      writesSome_of_columnsAt hcolumns
    obtain ⟨-, c, a, hc, hrun, rfl⟩ := of_call hsome hcall
    have hlength : (columns.map Prod.snd).length = (columns.map Prod.fst).length := by
      rw [List.length_map, List.length_map]
    obtain ⟨fields, count, t', hfields, hchanged, rfl, rfl⟩ :=
      of_run_update hc hlength hrun ht hfield
    exact ⟨columns, fields, count, t', hcolumns, hfields, hchanged, rfl, rfl⟩

/-- What an insert that succeeds has done. -/
theorem of_insert {data : Record} (hne : tableToken ≠ "")
    (htable : Identifier.normalize tableToken = .ok table)
    (hinsert : Dispatch.invoke (connection access) ("insert" ++ tableToken) [.fields data] db =
      (.ok o, db')) :
    isPlain table = true ∧ ∃ columns t fields id t' noted,
      (Argument.fields data).columnsAt 1 = .ok columns ∧ db.table? table.name = some t ∧
      FieldsOf t (columns.map Prod.fst) fields ∧
      t.insert (db.usedId t) db.machine (fields.zip (taken (columns.map Prod.snd))) =
        .ok (id, t') ∧
      (db.setTable t').noteId t' id = .ok noted ∧ o = .affectedCount 1 ∧
      db' = noted.afterInsert id := by
  rw [invoke_insert hne htable] at hinsert
  split at hinsert
  · cases hinsert
  · rename_i columns hcolumns
    obtain ⟨x, hcall, rfl⟩ := of_outcome hinsert
    have hsome : WritesSome (.insert table (columns.map Prod.fst)) :=
      writesSome_of_columnsAt hcolumns
    obtain ⟨hreadable, c, a, hc, hrun, rfl⟩ := of_call hsome hcall
    have hlength : (columns.map Prod.snd).length = (columns.map Prod.fst).length := by
      rw [List.length_map, List.length_map]
    obtain ⟨t, fields, id, t', noted, ht, hfields, hadded, hnoted, rfl, rfl⟩ :=
      of_run_insert hc hlength hrun
    exact ⟨hreadable.1, columns, t, fields, id, t', noted, hcolumns, ht, hfields, hadded, hnoted,
      rfl, rfl⟩

/-! ## Names that are not read -/

/-- Whether a lookup by these names can be read. -/
def CanBeNamed (table key : Identifier) : Prop :=
  isPlain table = true ∧ isKey key = true

/-- Get, delete and update by these names fail, and leave the database as it is. -/
structure LookupsFail (access : Access) (db : Database) (tableToken fieldToken : String)
    (v : Value) : Prop where
  get : ∃ e, Dispatch.invoke (connection access) ("get" ++ tableToken ++ "By" ++ fieldToken)
    [.scalar v] db = (.error e, db)
  delete : ∃ e, Dispatch.invoke (connection access) ("delete" ++ tableToken ++ "By" ++ fieldToken)
    [.scalar v] db = (.error e, db)
  update : ∀ set, ∃ e,
    Dispatch.invoke (connection access) ("update" ++ tableToken ++ "By" ++ fieldToken)
      [.scalar v, .fields set] db = (.error e, db)

/-- A lookup whose table or column is taken for another word fails. -/
theorem lookups_fail (h : Names tableToken fieldToken table key) (hno : ¬ CanBeNamed table key)
    (access : Access) (db : Database) (v : Value) :
    LookupsFail access db tableToken fieldToken v := by
  refine ⟨?_, ?_, fun set => ?_⟩
  · obtain ⟨e, hcall⟩ := call_of_not_readable (s := .select table key) trivial hno access
      Answer.records db [v]
    rw [invoke_get h, hcall]
    exact ⟨_, rfl⟩
  · obtain ⟨e, hcall⟩ := call_of_not_readable (s := .delete table key) trivial hno access
      Answer.touched db [v]
    rw [invoke_delete h, hcall]
    exact ⟨_, rfl⟩
  · rw [invoke_update h]
    cases hcolumns : (Argument.fields set).columnsAt 2 with
    | error e => exact ⟨e, rfl⟩
    | ok columns =>
      have hsome : WritesSome (.update table (columns.map Prod.fst) key) :=
        writesSome_of_columnsAt hcolumns
      have hreadable : ¬ Readable (.update table (columns.map Prod.fst) key) :=
        fun hr => hno ⟨hr.1, hr.2.2⟩
      obtain ⟨e, hcall⟩ := call_of_not_readable hsome hreadable access Answer.touched db
        (columns.map Prod.snd ++ [v])
      dsimp only
      rw [hcall]
      exact ⟨_, rfl⟩

end

/-! ## People by their names -/

theorem names_people : Names "People" "Name" ⟨"people", by decide⟩ ⟨"name", by decide⟩ :=
  ⟨⟨by decide, by decide, by decide +kernel⟩, by decide +kernel, by decide +kernel⟩

theorem canBeNamed_people : CanBeNamed ⟨"people", by decide⟩ ⟨"name", by decide⟩ :=
  ⟨by decide +kernel, by decide +kernel⟩

end Database

end CrudByName
