import CrudByName.Proofs.Database.Operations

/-!
# Looking up what was read

A value that a row shows in a column goes back into a lookup by that column.  The lookup finds the
row again unless its cell is null, or text that is not valid UTF-8 (`meets_shown_iff`): the one
equals nothing, and the other is shown as bytes, which no text equals.  This holds in the key, which
shows the id of the row, in the other columns, whatever they convert, and in the catalogs.

Null is found by no lookup (`meets_null`).  So a get by null gives no rows, a delete drops none, and
an update changes none (`NullFindsNothing`).
-/

namespace CrudByName

namespace Database

open Command (isKey isConstant isPlain)

/-! ## The shape of catalogs -/

namespace Catalog

theorem fits_tableCells (t : Table) (page : Nat) (id : Int64) :
    (⟨id, tableCells t page⟩ : Row).Fits columns :=
  .cons ⟨rfl, rfl⟩ (.cons ⟨rfl, rfl⟩ (.cons ⟨rfl, rfl⟩ (.cons ⟨rfl, rfl⟩ (.cons ⟨rfl, rfl⟩ .nil))))

theorem fits_indexCells (t : Table) (page number : Nat) (id : Int64) :
    (⟨id, indexCells t page number⟩ : Row).Fits columns :=
  .cons ⟨rfl, rfl⟩ (.cons ⟨rfl, rfl⟩ (.cons ⟨rfl, rfl⟩ (.cons ⟨rfl, rfl⟩ (.cons ⟨rfl, rfl⟩ .nil))))

theorem fits_cellsFrom {page : Nat} {tables : List Table} {cells : List Cell}
    (h : cells ∈ cellsFrom page tables) (id : Int64) : (⟨id, cells⟩ : Row).Fits columns := by
  induction tables generalizing page with
  | nil => cases h
  | cons t rest ih =>
    rw [cellsFrom, cellsOf, List.cons_append, List.mem_cons, List.mem_append] at h
    rcases h with rfl | hindex | hrest
    · exact fits_tableCells t page id
    · obtain ⟨i, -, rfl⟩ := List.mem_map.1 hindex
      exact fits_indexCells t page (i + 1) id
    · exact ih hrest

theorem names_columns : columns.Pairwise fun a b => sameName a.name b.name = false := by
  decide +kernel

theorem shaped_ofTables (name : String) (tables : List Table) : (ofTables name tables).Shaped where
  names := names_columns
  fits r hr := by
    obtain ⟨⟨cells, i⟩, hcells, rfl⟩ := List.mem_map.1 hr
    exact fits_cellsFrom (List.fst_mem_of_mem_zipIdx hcells) _

theorem shaped_of_named? {tables : List Table} {name : String} {t : Table}
    (h : named? tables name = some t) : t.Shaped := by
  unfold named? at h
  split at h
  · cases h
    exact shaped_ofTables _ _
  · split at h
    · cases h
      exact shaped_ofTables _ _
    · cases h

end Catalog

section

variable {db db' : Database} {t : Table} {key : Identifier} {c : Column} {i : Nat} {r : Row}
  {cell : Cell} {m : Machine}

theorem shaped_of_visible? {name : String} (hdb : db.WellFormed) (h : db.visible? name = some t) :
    t.Shaped := by
  rcases Option.or_eq_some_iff.1 h with htable | ⟨-, hcatalog⟩
  · exact (hdb.stored htable).toShaped
  · exact Catalog.shaped_of_named? hcatalog

/-! ## Lookups by what is shown -/

theorem exists_shown (hr : r.Fits t.columns) (hc : t.columns[i]? = some c) :
    ∃ cell, (r.shown t.columns)[i]? = some cell := by
  have hlt : i < (r.shown t.columns).length := by
    rw [Table.length_shown hr]
    exact (List.getElem?_eq_some_iff.1 hc).1
  exact ⟨_, List.getElem?_eq_getElem hlt⟩

/-- The value that a row shows in a column finds the row, unless its cell does not read back. -/
theorem meets_shown_iff (ht : t.Shaped) (hr : r.Fits t.columns) (hcolumn : isConstant key = false)
    (hc : t.columns[i]? = some c) (hname : sameName c.name key.name = true)
    (hcell : (r.shown t.columns)[i]? = some cell) :
    t.meets m key cell.toValue r = true ↔ cell.ReadsBack := by
  obtain ⟨stored, hstored, hkeeps⟩ := List.exists_getElem?_of_forall₂ hr hc
  have hfield := ht.field?_eq hc hname
  have hnone : constantOf? key.name.toList = none := by
    simpa [isConstant] using hcolumn
  rw [Row.shown, List.getElem?_zipWith, hc, hstored] at hcell
  by_cases hkey : c.isKey = true
  · -- The key shows the id, which is looked for as a row id.
    simp only [hkey, if_true, Option.some.injEq] at hcell
    subst hcell
    rw [Table.fieldOf, if_pos hkey] at hfield
    simp only [Table.meets, hnone, hfield]
    show (some r.id == some r.id) = true ↔ True
    rw [beq_self_eq_true]
    exact ⟨fun _ => trivial, fun _ => rfl⟩
  · simp only [hkey, Bool.false_eq_true, if_false, Option.some.injEq] at hcell
    subst hcell
    rw [Table.fieldOf, if_neg hkey] at hfield
    rw [← Affinity.equals_probe_toValue hkeeps]
    simp only [Table.meets, hnone, hfield, Option.any_some, Table.selects, hc, hstored]

theorem selects_null (t : Table) (field : Field) (r : Row) : t.selects field .null r = false := by
  cases field with
  | id => rfl
  | cell i =>
    unfold Table.selects
    dsimp only
    split
    · rw [Affinity.probe_null, Cell.null_equals]
    · rfl

theorem meets_null (t : Table) (m : Machine) (key : Identifier) (r : Row) :
    t.meets m key .null r = false := by
  have hsettled : (Cell.ofValue .null).settled = .null := rfl
  rw [Table.meets, hsettled]
  cases constantOf? key.name.toList with
  | some k => exact Cell.equals_null (k.cell m)
  | none =>
    dsimp only
    cases t.field? key.name with
    | none => rfl
    | some field => exact selects_null t field r

end

/-! ## Lookups by null -/

section

variable {access : Access} {db db' : Database} {tableToken fieldToken : String}
  {table key : Identifier} {t t' : Table} {field : Field} {o : Outcome} {set : Record}
  {params : List Cell} {a : Answer}

/-- What is dropped from is a table that the database holds. -/
theorem exists_table_of_delete (h : Names tableToken fieldToken table key) {v : Value}
    (hdelete : Dispatch.invoke (connection access) ("delete" ++ tableToken ++ "By" ++ fieldToken)
      [.scalar v] db = (.ok o, db')) : ∃ t, db.table? table.name = some t := by
  rw [invoke_delete h] at hdelete
  obtain ⟨x, hcall, -⟩ := of_outcome hdelete
  obtain ⟨-, c, a, hc, hrun, -⟩ := of_call (s := .delete table key) trivial hcall
  cases hc with
  | delete hn _ =>
    obtain ⟨t, -, ht, -⟩ := of_runDelete hrun
    exact ⟨t, hn ▸ ht⟩

/-- What is changed is a table that the database holds. -/
theorem exists_table_of_update (h : Names tableToken fieldToken table key) {v : Value}
    (hupdate : Dispatch.invoke (connection access) ("update" ++ tableToken ++ "By" ++ fieldToken)
      [.scalar v, .fields set] db = (.ok o, db')) : ∃ t, db.table? table.name = some t := by
  rw [invoke_update h] at hupdate
  split at hupdate
  · cases hupdate
  · rename_i columns hcolumns
    obtain ⟨x, hcall, -⟩ := of_outcome hupdate
    have hsome : Command.WritesSome (.update table (columns.map Prod.fst) key) :=
      writesSome_of_columnsAt hcolumns
    obtain ⟨-, c, a, hc, hrun, -⟩ := of_call hsome hcall
    cases hc with
    | update hn _ _ =>
      obtain ⟨t, -, -, -, -, ht, -⟩ := of_runUpdate hrun
      exact ⟨t, hn ▸ ht⟩

theorem update_none {p : Row → Bool} {cells : List (Field × Cell)} {n : Nat}
    (hp : ∀ r ∈ t.rows, p r = false) (h : t.update p cells = .ok (n, t')) : n = 0 ∧ t' = t := by
  have hnone : t.rows.filter p = [] :=
    List.filter_eq_nil_iff.2 fun r hr => by rw [hp r hr]; exact Bool.false_ne_true
  unfold Table.update at h
  rw [hnone] at h
  cases h
  exact ⟨rfl, rfl⟩

/-- Get, delete and update by null find no row, whatever the table holds. -/
structure NullFindsNothing (db : Database) (tableToken fieldToken : String) : Prop where
  get : Dispatch.invoke (connection .full) ("get" ++ tableToken ++ "By" ++ fieldToken)
    [.scalar .null] db = (.ok .noRows, db)
  delete : ∀ o db', Dispatch.invoke (connection .full)
    ("delete" ++ tableToken ++ "By" ++ fieldToken) [.scalar .null] db = (.ok o, db') →
      o = .affectedCount 0 ∧ db' = db
  update : ∀ set o db', Dispatch.invoke (connection .full)
    ("update" ++ tableToken ++ "By" ++ fieldToken) [.scalar .null, .fields set] db = (.ok o, db') →
      o = .affectedCount 0 ∧ db' = db

theorem nullFindsNothing (hdb : db.WellFormed) (h : Names tableToken fieldToken table key)
    (hnamed : CanBeNamed table key) (ht : db.visible? table.name = some t)
    (hfield : t.field? key.name = some field) : NullFindsNothing db tableToken fieldToken := by
  have hnone : t.rows.filter (t.meets db.machine key .null) = [] :=
    List.filter_eq_nil_iff.2 fun r _ => by rw [meets_null]; exact Bool.false_ne_true
  -- A table that is changed is the one that the lookup sees.
  have hseen : ∀ t', db.table? table.name = some t' → db.table? table.name = some t := by
    intro t' ht'
    rw [visible?_of_table? ht'] at ht
    rw [ht', ht]
  refine ⟨?_, fun o db' hdelete => ?_, fun set o db' hupdate => ?_⟩
  · have hget := get_eq h hnamed.1 hnamed.2 (by decide : Access.full ≠ .unreadable) ht hfield .null
    rw [hnone] at hget
    exact hget
  · obtain ⟨t', ht'⟩ := exists_table_of_delete h hdelete
    have htable := hseen t' ht'
    have hall : t.rows.filter (fun r => !t.meets db.machine key .null r) = t.rows :=
      List.filter_eq_self.2 fun r _ => by rw [meets_null]; rfl
    rw [delete_eq h hnamed.1 hnamed.2 htable hfield, hnone, hall] at hdelete
    cases hdelete
    exact ⟨rfl, setTable_self hdb htable⟩
  · obtain ⟨t', ht'⟩ := exists_table_of_update h hupdate
    have htable := hseen t' ht'
    obtain ⟨columns, fields, count, t', -, -, hchanged, rfl, rfl⟩ :=
      of_update h htable hfield hupdate
    obtain ⟨rfl, rfl⟩ := update_none (fun r _ => meets_null t db.machine key r) hchanged
    exact ⟨rfl, setTable_self hdb htable⟩

end

/-! ## Both together -/

section

variable {db : Database} {tableToken fieldToken : String} {table key : Identifier} {t : Table}
  {c : Column} {i : Nat}

/-- A lookup by the value that a row shows finds the row unless its cell is null, or text that is
not valid; and a lookup by null finds no row at all. -/
theorem lookup_by_shown (hdb : db.WellFormed) (h : Names tableToken fieldToken table key)
    (hnamed : CanBeNamed table key) (ht : db.visible? table.name = some t)
    (hc : t.columns[i]? = some c) (hname : sameName c.name key.name = true) :
    (isConstant key = false → ∀ r ∈ t.rows, ∃ cell, (r.shown t.columns)[i]? = some cell ∧
      (t.record r).get? c.name = some cell.toValue ∧
      Dispatch.invoke (connection .full) ("get" ++ tableToken ++ "By" ++ fieldToken)
          [.scalar cell.toValue] db =
        (.ok (.ofRows ((t.rows.filter (t.meets db.machine key cell.toValue)).map t.record)), db) ∧
      (t.meets db.machine key cell.toValue r = true ↔ cell.ReadsBack)) ∧
    NullFindsNothing db tableToken fieldToken := by
  have hshaped := shaped_of_visible? hdb ht
  have hfield := hshaped.field?_eq hc hname
  refine ⟨fun hcolumn r hr => ?_, nullFindsNothing hdb h hnamed ht hfield⟩
  have hfits := hshaped.fits r hr
  obtain ⟨cell, hcell⟩ := exists_shown hfits hc
  exact ⟨cell, hcell, hshaped.get?_record hfits hc hcell,
    get_eq h hnamed.1 hnamed.2 (by decide) ht hfield cell.toValue,
    meets_shown_iff hshaped hfits hcolumn hc hname hcell⟩

end

/-- The first of the people is found by the name that it shows. -/
theorem lookup_by_shown_people :
    ∃ key, Names "People" "Name" ⟨"people", by decide⟩ key ∧
      (peopleTable.record (nameRow 1 "ann")).get? "name" = some (.text "ann") ∧
      peopleTable.meets people.machine key (.text "ann") (nameRow 1 "ann") = true ∧
      NullFindsNothing people "People" "Name" := by
  have hcolumn : peopleTable.columns[1]? = some { name := "name", affinity := .text } := rfl
  obtain ⟨hfound, hnull⟩ := lookup_by_shown (wellFormed_of_reachable reachable_people)
    names_people canBeNamed_people (visible?_of_table? table?_people) hcolumn (sameName_refl _)
  obtain ⟨cell, hcell, hshown, -, hmeets⟩ := hfound (by decide +kernel) (nameRow 1 "ann") (.head _)
  obtain rfl : Cell.text "ann".toUTF8 = cell := Option.some.inj hcell
  rw [Cell.toValue_text] at hshown hmeets
  exact ⟨_, names_people, hshown, hmeets.2 (String.isValidUTF8 "ann"), hnull⟩

/-- Not every column can be looked up by: its name can be another word on the left of a comparison,
one that equals nothing or one that is not due. -/
theorem lookup_by_shown_part :
    (∃ db, Reachable db ∧
      (Dispatch.invoke (connection .full) "getTByName" [.scalar (.text "a")] db).1 =
        .ok (.singleRecord (Record.ofList [("null", .integer 1), ("name", .text "a")])) ∧
      (Dispatch.invoke (connection .full) "getTByNull" [.scalar (.integer 1)] db).1 =
        .ok .noRows) ∧
    (∃ db, Reachable db ∧
      (Dispatch.invoke (connection .full) "getTByName" [.scalar (.text "a")] db).1 =
        .ok (.singleRecord (Record.ofList [("order", .integer 1), ("name", .text "a")])) ∧
      (Dispatch.invoke (connection .full) "getTByOrder" [.scalar (.integer 1)] db).1 =
        .error (.database (-1)
          "near \"order\": syntax error in SELECT * FROM t WHERE order = ?1 at offset 22")) := by
  have hreachable : ∀ key, Reachable (keyedBy key) → Reachable
      ((connection .full).execute "INSERT INTO t (name) VALUES (?1)" [.text "a"] (keyedBy key)).2 :=
    fun key hkey => hkey.execute .full _ _
  refine ⟨⟨_, hreachable "null" (reachable_keyedBy _ ?_), ?_, ?_⟩,
    _, hreachable "order" (reachable_keyedBy _ ?_), ?_, ?_⟩
  all_goals decide +kernel

end Database

end CrudByName
