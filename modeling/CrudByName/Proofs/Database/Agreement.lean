import CrudByName.Proofs.Database.Operations

/-!
# Get, update and delete find the same rows

A lookup by a column and a value finds the same rows whether they are read, changed or dropped
(`lookups_agree`).  A get returns them, a delete drops them and no other row, an update changes them
and no other row; and either of the two counts them.

There are names for which no lookup can be read, since the table or the column is taken for another
word of the language.  Then every one of the three fails.  A field map can change the id of a row,
and so its key, under a name that is none of the columns; and a row with another id can come to
stand elsewhere (`Updated`).
-/

namespace CrudByName

namespace Database

/-! ## What an update changes -/

section

variable {t : Table} {r : Row} {i : Nat} {c : Column}

/-- A row keeps what no change is given for; the key column shows the id. -/
theorem shown_of_changed {given : List (Field × Cell)} {new : Row} (hr : r.Fits t.columns)
    (hchanged : t.changed given r = .ok new) (hc : t.columns[i]? = some c)
    (hid : c.isKey = true → new.id = r.id) (hgiven : Table.given? given (.cell i) = none) :
    (new.shown t.columns)[i]? = (r.shown t.columns)[i]? := by
  obtain ⟨-, hcells⟩ := Table.of_changed hchanged
  obtain ⟨cell, hcell, -⟩ := List.exists_getElem?_of_forall₂ hr hc
  have hzip : (t.columns.zip r.cells)[i]? = some (c, cell) :=
    List.getElem?_zip_eq_some.2 ⟨hc, hcell⟩
  have hkept : new.cells[i]? = some cell := by
    rw [hcells, Table.changedCells, List.getElem?_map, List.getElem?_zipIdx, hzip]
    simp only [Option.map_some, Nat.zero_add, hgiven]
  rw [Row.shown, Row.shown, List.getElem?_zipWith, List.getElem?_zipWith, hkept, hcell, hc]
  by_cases hkey : c.isKey = true
  · simp only [hkey, if_true, hid hkey]
  · simp only [hkey, Bool.false_eq_true, if_false]

end

/-! ## The rows that are found -/

/-- What an update of the selected rows leaves in a table. -/
structure Updated (t t' : Table) (set : Record) (selected : Row → Bool) : Prop where
  same : t' = { t with rows := t'.rows }
  /-- The selected rows are changed, each by itself; no row is lost and none is added. -/
  rows : ∃ change : Row → Row,
    t'.rows.Perm (t.rows.map fun r => if selected r = true then change r else r) ∧
      -- A row with another id may have another place.
      (¬ SetsId t set →
        t'.rows = t.rows.map fun r => if selected r = true then change r else r) ∧
      ∀ r ∈ t.rows, selected r = true → ∀ (i : Nat) (c : Column), t.columns[i]? = some c →
        ¬ Sets set c.name → (c.isKey = true → ¬ SetsId t set) →
          ((change r).shown t.columns)[i]? = (r.shown t.columns)[i]?

/-- What get, update and delete by one column and one value do, where they find the selected
rows. -/
structure LookupsAgree (db : Database) (tableToken fieldToken : String) (table : Identifier)
    (t : Table) (v : Value) (selected : Row → Bool) : Prop where
  /-- A get returns the selected rows. -/
  get : Dispatch.invoke (connection .full) ("get" ++ tableToken ++ "By" ++ fieldToken)
    [.scalar v] db = (.ok (.ofRows ((t.rows.filter selected).map t.record)), db)
  /-- A delete counts them and leaves the others, of which the same lookup finds none. -/
  delete : ∃ db',
    Dispatch.invoke (connection .full) ("delete" ++ tableToken ++ "By" ++ fieldToken)
        [.scalar v] db = (.ok (.affectedCount (t.rows.filter selected).length), db') ∧
      db'.table? table.name = some { t with rows := t.rows.filter fun r => !selected r } ∧
      Dispatch.invoke (connection .full) ("get" ++ tableToken ++ "By" ++ fieldToken)
        [.scalar v] db' = (.ok .noRows, db') ∧
      Dispatch.invoke (connection .full) ("delete" ++ tableToken ++ "By" ++ fieldToken)
        [.scalar v] db' = (.ok (.affectedCount 0), db')
  /-- An update that succeeds counts them, and changes no other row. -/
  update : ∀ set o db',
    Dispatch.invoke (connection .full) ("update" ++ tableToken ++ "By" ++ fieldToken)
        [.scalar v, .fields set] db = (.ok o, db') →
      o = .affectedCount (t.rows.filter selected).length ∧
        ∃ t', db'.table? table.name = some t' ∧ Updated t t' set selected

section

variable {db db' : Database} {tableToken fieldToken : String} {table key : Identifier} {t : Table}
  {field : Field} {v : Value} {set : Record} {o : Outcome}

/-- What an update that succeeds leaves in its table. -/
theorem updated_of_update (hdb : db.WellFormed) (h : Names tableToken fieldToken table key)
    (ht : db.table? table.name = some t) (hfield : t.field? key.name = some field)
    (hupdate : Dispatch.invoke (connection .full)
      ("update" ++ tableToken ++ "By" ++ fieldToken) [.scalar v, .fields set] db = (.ok o, db')) :
    o = .affectedCount (t.rows.filter (t.meets db.machine key v)).length ∧
      ∃ t', db'.table? table.name = some t' ∧ Updated t t' set (t.meets db.machine key v) := by
  obtain ⟨columns, fields, count, t', hcolumns, hfields, hchanged, rfl, rfl⟩ :=
    of_update h ht hfield hupdate
  have hstored := hdb.stored ht
  obtain ⟨rfl, hrewrites⟩ := Table.rewrites_of_update hstored.toWellFormed
    (settled_taken fields (columns.map Prod.snd)) hchanged
  have hid : ¬ SetsId t set →
      Table.given? (fields.zip (taken (columns.map Prod.snd))).reverse .id = none :=
    fun hset => given?_reverse_eq_none_iff.2
      (given?_eq_none fun hmem => hset (exists_key_of_mem hcolumns hfields hmem))
  refine ⟨rfl, t', table?_setTable ht (by rw [hrewrites.same]), hrewrites.same,
    t.rewritten (fields.zip (taken (columns.map Prod.snd))).reverse, hrewrites.perm,
    fun hset => hrewrites.rows_eq hstored.toWellFormed (hid hset), ?_⟩
  intro r hr hselected i c hc hnot hkey
  have hnew := hrewrites.changed r hr hselected
  exact shown_of_changed (hstored.fits r hr) hnew hc
    (fun hisKey => Table.rewritten_id (hid (hkey hisKey)) t r)
    (given?_reverse_eq_none_iff.2 (given?_eq_none (cell_not_mem hcolumns hfields hc hnot)))

/-- Behind a delete the same lookup finds nothing. -/
theorem lookups_after_delete (hdb : db.WellFormed) (h : Names tableToken fieldToken table key)
    (hnamed : CanBeNamed table key) (ht : db.table? table.name = some t)
    (hfield : t.field? key.name = some field) (v : Value) :
    let db' := db.setTable { t with rows := t.rows.filter fun r => !t.meets db.machine key v r }
    Dispatch.invoke (connection .full) ("get" ++ tableToken ++ "By" ++ fieldToken)
        [.scalar v] db' = (.ok .noRows, db') ∧
      Dispatch.invoke (connection .full) ("delete" ++ tableToken ++ "By" ++ fieldToken)
        [.scalar v] db' = (.ok (.affectedCount 0), db') := by
  intro db'
  obtain ⟨hplain, hkey⟩ := hnamed
  let left : Table := { t with rows := t.rows.filter fun r => !t.meets db.machine key v r }
  have hleft : db'.table? table.name = some left := table?_setTable ht rfl
  have hmeets : left.meets db'.machine key v = t.meets db.machine key v := rfl
  have hnone : left.rows.filter (left.meets db'.machine key v) = [] := by
    rw [hmeets, List.filter_eq_nil_iff]
    intro r hr
    simpa using (List.mem_filter.1 hr).2
  have hall : left.rows.filter (fun r => !left.meets db'.machine key v r) = left.rows := by
    rw [hmeets, List.filter_eq_self]
    exact fun r hr => (List.mem_filter.1 hr).2
  have hdb' : db'.WellFormed := by
    have hstored := hdb.stored ht
    exact wellFormed_setTable hdb (hstored.of_rows rfl
      (Table.wellFormed_filter hstored.toWellFormed fun r => !t.meets db.machine key v r))
  have hget := get_eq h hplain hkey (by decide : Access.full ≠ .unreadable)
    (visible?_of_table? hleft) hfield v
  have hdelete := delete_eq h hplain hkey hleft hfield v
  rw [hnone] at hget hdelete
  rw [hall] at hdelete
  have hself : db'.setTable { left with rows := left.rows } = db' := setTable_self hdb' hleft
  rw [hself] at hdelete
  exact ⟨hget, hdelete⟩

/-- Get, update and delete by one column and one value find the same rows, if the lookup can be read
at all; and if it cannot, each of them fails and leaves the database as it is. -/
theorem lookups_agree (hdb : db.WellFormed) (h : Names tableToken fieldToken table key)
    (ht : db.table? table.name = some t) (hfield : t.field? key.name = some field) (v : Value) :
    (CanBeNamed table key →
        LookupsAgree db tableToken fieldToken table t v (t.meets db.machine key v)) ∧
      (¬ CanBeNamed table key → LookupsFail .full db tableToken fieldToken v) := by
  refine ⟨fun hnamed => ⟨?_, ?_, fun set o db' hupdate => ?_⟩, fun hno => ?_⟩
  · exact get_eq h hnamed.1 hnamed.2 (by decide) (visible?_of_table? ht) hfield v
  · have hdelete := delete_eq h hnamed.1 hnamed.2 ht hfield v
    exact ⟨_, hdelete, table?_setTable ht rfl, lookups_after_delete hdb h hnamed ht hfield v⟩
  · exact updated_of_update hdb h ht hfield hupdate
  · exact lookups_fail h hno .full db v

end

/-- Two people are called Ann. -/
theorem lookups_agree_people :
    ∃ table key t, Names "People" "Name" table key ∧ CanBeNamed table key ∧
      people.table? table.name = some t ∧
      (t.rows.filter (t.meets people.machine key (.text "ann"))).map Row.id = [1, 3] ∧
      LookupsAgree people "People" "Name" table t (.text "ann")
        (t.meets people.machine key (.text "ann")) := by
  have hfield : peopleTable.field? "name" = some (.cell 1) := by decide +kernel
  have hboth := lookups_agree (wellFormed_of_reachable reachable_people) names_people table?_people
    hfield (.text "ann")
  exact ⟨_, _, peopleTable, names_people, canBeNamed_people, table?_people, by decide +kernel,
    hboth.1 canBeNamed_people⟩

/-- A table called by a word of the language, with one row. -/
def ordersTable : Table where
  name := "order"
  columns := [{ name := "id", affinity := .integer, isKey := true }]
  rows := [⟨1, [.null]⟩]
  definition := "CREATE TABLE \"order\" (id INTEGER PRIMARY KEY)"

/-- A database with that table. -/
def orders : Database where
  tables := [ordersTable]
  lastInsertId := 1
  before := none

theorem reachable_orders : Reachable orders := by
  have hcreated := Reachable.empty.batch .full "CREATE TABLE \"order\" (id INTEGER PRIMARY KEY)"
  have hfirst := hcreated.execute .full "INSERT INTO \"order\" (id) VALUES (?1)" [.integer 1]
  exact (congrArg Reachable (by decide +kernel)).mp hfirst

/-- Not every lookup is of that kind: a row gets another key under a name that is none of the
columns, a row cannot be found by any name of its table, and those of a catalog cannot be
dropped. -/
theorem lookups_part :
    (Reachable people ∧ ∃ db,
      Dispatch.invoke (connection .full) "updatePeopleByName"
          [.scalar (.text "bob"), .fields (Record.ofList [("rowid", .integer 7)])] people =
        (.ok (.affectedCount 1), db) ∧
      (Dispatch.invoke (connection .full) "getPeopleByName" [.scalar (.text "bob")] people).1 =
        .ok (.singleRecord (Record.ofList [("id", .integer 2), ("name", .text "bob")])) ∧
      (Dispatch.invoke (connection .full) "getPeopleByName" [.scalar (.text "bob")] db).1 =
        .ok (.singleRecord (Record.ofList [("id", .integer 7), ("name", .text "bob")]))) ∧
    (Reachable orders ∧
      (Dispatch.invoke (connection .full) "getOrderById" [.scalar (.integer 1)] orders).1 =
        .error (.database (-1)
          "near \"order\": syntax error in SELECT * FROM order WHERE id = ?1 at offset 14") ∧
      (Dispatch.invoke (connection .full) "deleteOrderById" [.scalar (.integer 1)] orders).1 =
        .error (.database (-1)
          "near \"order\": syntax error in DELETE FROM order WHERE id = ?1 at offset 12")) ∧
    (Dispatch.invoke (connection .full) "getSqliteMasterByName" [.scalar (.text "people")]
          people).1 =
        .ok (.singleRecord (Record.ofList [("type", .text "table"), ("name", .text "people"),
          ("tbl_name", .text "people"), ("rootpage", .integer 2),
          ("sql", .text "CREATE TABLE people (id INTEGER PRIMARY KEY, name TEXT)")])) ∧
      (Dispatch.invoke (connection .full) "deleteSqliteMasterByName" [.scalar (.text "people")]
          people).1 =
        .error (.database 1 "table sqlite_master may not be modified") := by
  refine ⟨⟨reachable_people, _, Prod.ext ?_ rfl, ?_, ?_⟩, ⟨reachable_orders, ?_, ?_⟩, ?_, ?_⟩
  all_goals decide +kernel

end Database

end CrudByName
