import CrudByName.Database.Schema
import CrudByName.Proofs.Database.Tables
import Mathlib.Data.List.Pairwise

/-!
# The states of a database

`Database.Reachable` is every state that an empty database can come to: by a text of statements, by
single statements with parameters, by failures of either, and when it is closed and opened again.
In each of them the database is `Database.WellFormed`, and so are the tables that a rollback would
bring back (`wellFormed_of_reachable`).

The commands are taken apart first: `of_runSelect`, `of_runInsert`, `of_runUpdate` and
`of_runDelete` say what a command that succeeds has found and what it leaves.  Each then keeps the
database well formed because the table that it puts back is well formed (`wellFormed_setTable`).
One table needs care: that of the used ids gets its rows without a check (`Sequence.noted`), so its
columns must be those it was created with.
-/

namespace CrudByName

namespace Database

/-! ## Names -/

theorem sameName_iff {a b : String} : sameName a b = true ↔ foldCase a = foldCase b :=
  beq_iff_eq

theorem sameName_refl (a : String) : sameName a a = true :=
  sameName_iff.2 rfl

theorem sameName_comm (a b : String) : sameName a b = sameName b a :=
  Bool.eq_iff_iff.2 (by rw [sameName_iff, sameName_iff, eq_comm])

theorem sameName_congr {a b : String} (h : sameName a b = true) (c : String) :
    sameName a c = sameName b c := by
  rw [sameName, sameName, sameName_iff.1 h]

/-! ## Tables of a database -/

/-- A table that a database can hold.  That of the used ids has always the columns that it was
created with. -/
structure Table.Stored (t : Table) : Prop extends Table.WellFormed t where
  sequence : sameName t.name Sequence.name = true → t.columns = Sequence.empty.columns

theorem Table.Stored.of_rows {t t' : Table} (h : t.Stored) (hsame : t' = { t with rows := t'.rows })
    (ht' : t'.WellFormed) : t'.Stored where
  toWellFormed := ht'
  sequence := by
    rw [hsame]
    exact h.sequence

/-- Tables that a database can hold together: no two have one name. -/
structure Holdable (tables : List Table) : Prop where
  stored : ∀ t ∈ tables, t.Stored
  names : tables.Pairwise fun a b => sameName a.name b.name = false

/-- A database that can hold its tables, and also those from before an open transaction. -/
structure WellFormed (db : Database) : Prop where
  tables : Holdable db.tables
  before : ∀ tables ∈ db.before, Holdable tables

section

variable {db : Database} {t t' : Table} {name : String}

theorem of_table? (h : db.table? name = some t) : t ∈ db.tables ∧ sameName t.name name = true := by
  unfold table? at h
  have hname := List.find?_some h
  exact ⟨List.mem_of_find?_eq_some h, hname⟩

theorem WellFormed.stored (hdb : db.WellFormed) (h : db.table? name = some t) : t.Stored :=
  hdb.tables.stored t (of_table? h).1

/-- A table is the only one with its name. -/
theorem Holdable.eq_of_sameName {tables : List Table} (h : Holdable tables) (ht : t ∈ tables)
    (ht' : t' ∈ tables) (hname : sameName t.name t'.name = true) : t = t' := by
  by_contra hne
  have hsymm : Std.Symm fun a b : Table => sameName a.name b.name = false :=
    ⟨fun a b hab => by rw [sameName_comm, hab]⟩
  have hdiffer := h.names.forall ht ht' hne
  rw [hname] at hdiffer
  cases hdiffer

/-! ## Putting a table back -/

theorem foldCase_replaced (t other : Table) :
    foldCase (if sameName other.name t.name then t else other).name = foldCase other.name := by
  split
  · rename_i h
    exact (sameName_iff.1 h).symm
  · rfl

/-- A table that is put back stands where one of its name stood. -/
theorem table?_setTable_eq (db : Database) (t : Table) (name : String) :
    (db.setTable t).table? name = (db.table? name).map fun other =>
      if sameName other.name t.name then t else other := by
  have hfound : ((fun other : Table => sameName other.name name) ∘ fun other =>
      if sameName other.name t.name then t else other) =
        fun other => sameName other.name name := by
    funext other
    rw [Function.comp_apply, sameName, foldCase_replaced, sameName]
  rw [table?, setTable, replaceTable, List.find?_map, hfound]
  rfl

theorem table?_setTable (h : db.table? name = some t) (hname : t'.name = t.name) :
    (db.setTable t').table? name = some t' := by
  rw [table?_setTable_eq, h, Option.map_some, hname, if_pos (sameName_refl t.name)]

/-- The other tables stay as they are. -/
theorem table?_setTable_of_ne (db : Database) (h : sameName t.name name = false) :
    (db.setTable t).table? name = db.table? name := by
  rw [table?_setTable_eq]
  cases hfound : db.table? name with
  | none => rfl
  | some other =>
    have hne : ¬ sameName other.name t.name = true := by
      intro hsame
      rw [← sameName_congr hsame, (of_table? hfound).2] at h
      cases h
    rw [Option.map_some, if_neg hne]

/-- A table that is put back as it was changes nothing. -/
theorem setTable_self (hdb : db.WellFormed) (h : db.table? name = some t) : db.setTable t = db := by
  have hsame : replaceTable t db.tables = db.tables := by
    unfold replaceTable
    conv => rhs; rw [← List.map_id db.tables]
    refine List.map_congr_left fun other hother => ?_
    split
    · rename_i hname
      exact (hdb.tables.eq_of_sameName hother (of_table? h).1 hname).symm
    · rfl
  rw [setTable, hsame]

theorem wellFormed_setTable (hdb : db.WellFormed) (ht : t.Stored) : (db.setTable t).WellFormed where
  tables := {
    stored := by
      intro other hother
      obtain ⟨old, hold, rfl⟩ := List.mem_map.1 hother
      split
      · exact ht
      · exact hdb.tables.stored old hold
    names := by
      refine List.pairwise_map.2 (hdb.tables.names.imp fun {a b} hab => ?_)
      rw [sameName, foldCase_replaced, foldCase_replaced]
      exact hab }
  before := hdb.before

/-! ## Beginnings and ends -/

theorem wellFormed_empty : empty.WellFormed where
  tables := ⟨(fun _ h => by cases h), List.Pairwise.nil⟩
  before _ h := by cases h

theorem wellFormed_undone (hdb : db.WellFormed) : db.undone.WellFormed where
  tables := by
    rw [undone]
    cases hbefore : db.before with
    | none => exact hdb.tables
    | some tables => exact hdb.before tables hbefore
  before _ h := by cases h

theorem wellFormed_afterFault (hdb : db.WellFormed) (fault : Fault) :
    (db.afterFault fault).WellFormed := by
  by_cases h : fault = .full
  · rw [h]
    exact wellFormed_undone hdb
  · rw [afterFault_of_ne_full h]
    exact hdb

/-! ## Ids that were used -/

/-- The id behind the largest one. -/
def Table.idBehind (t : Table) : Int :=
  match t.largestId? with
  | some n => n + 1
  | none => 1

theorem Table.nextId_eq (t : Table) (used : Int) (draws : List UInt64) :
    t.nextId used draws =
      if t.autoincrements then
        if max t.idBehind (used + 1) < 2 ^ 63 then .ok (Int64.ofInt (max t.idBehind (used + 1)))
        else .error .full
      else if t.idBehind < 2 ^ 63 then .ok (Int64.ofInt t.idBehind)
      else
        match t.drawnId? draws with
        | some id => .ok id
        | none => .error .full :=
  rfl

theorem Table.lt_idBehind {r : Row} (hr : r ∈ t.rows) : r.id.toInt < t.idBehind := by
  have hmem : r.id.toInt ∈ t.rows.map fun r => r.id.toInt := List.mem_map_of_mem hr
  unfold Table.idBehind
  cases hlargest : t.largestId? with
  | none =>
    rw [Table.largestId?, List.max?_eq_none_iff] at hlargest
    rw [hlargest] at hmem
    cases hmem
  | some n =>
    obtain ⟨-, hmax⟩ := List.max?_eq_some_iff.1 hlargest
    exact Int.lt_add_one_of_le (hmax _ hmem)

/-- An id behind the largest one is new. -/
theorem Table.fresh_of_idBehind {n : Int} (hle : t.idBehind ≤ n) (hlt : n < 2 ^ 63) :
    ∀ r ∈ t.rows, r.id ≠ Int64.ofInt n := by
  intro r hr heq
  have hless := Table.lt_idBehind hr
  have hlow : -2 ^ 63 ≤ n := by
    have hleast := Int64.le_toInt r.id
    omega
  rw [heq, Int64.toInt_ofInt_of_le hlow hlt] at hless
  omega

theorem Table.fresh_of_drawnId? {draws : List UInt64} {id : Int64}
    (h : t.drawnId? draws = some id) : ∀ r ∈ t.rows, r.id ≠ id := by
  have hfree := List.find?_some h
  intro r hr heq
  simp only [Bool.not_eq_true', List.any_eq_false, beq_iff_eq] at hfree
  exact hfree r hr heq

/-- A new row that asks for no id gets one that no row has. -/
theorem Table.fresh_of_nextId {used : Int} {draws : List UInt64} {id : Int64}
    (h : t.nextId used draws = .ok id) : ∀ r ∈ t.rows, r.id ≠ id := by
  rw [Table.nextId_eq] at h
  split at h
  · split at h
    · rename_i hlt
      cases h
      exact Table.fresh_of_idBehind (Int.le_max_left _ _) hlt
    · cases h
  · split at h
    · rename_i hlt
      cases h
      exact Table.fresh_of_idBehind (Int.le_refl _) hlt
    · split at h
      · rename_i found hfound
        cases h
        exact Table.fresh_of_drawnId? hfound
      · cases h

/-- The row of a table among the used ids. -/
theorem fits_sequenceRow (hcolumns : t.columns = Sequence.empty.columns) (id : Int64)
    (table : String) (n : Int) :
    (⟨id, Sequence.newCells table n⟩ : Row).Fits t.columns := by
  rw [hcolumns]
  exact .cons ⟨rfl, rfl⟩ (.cons ⟨rfl, rfl⟩ .nil)

/-- What can be noted of an id: nothing new, a larger number in the row of the table, or a row for a
table that had none. -/
theorem of_noted {draws : List UInt64} {table : String} {n : Int}
    (h : Sequence.noted t draws table n = .ok t') :
    t' = t ∨
      (∃ r, t.rows.find? (Sequence.isFor table) = some r ∧
        t' = { t with rows := t.rows.map fun other =>
          if other.id = r.id then { other with cells := Sequence.newCells table n } else other }) ∨
      ∃ id, t.nextId 0 draws = .ok id ∧
        t' = t.addRow ⟨id, Sequence.newCells table (max 0 n)⟩ := by
  unfold Sequence.noted at h
  cases hfound : t.rows.find? (Sequence.isFor table) with
  | some r =>
    rw [hfound] at h
    dsimp only at h
    split at h
    · cases h
      exact .inr (.inl ⟨r, rfl, rfl⟩)
    · cases h
      exact .inl rfl
  | none =>
    rw [hfound] at h
    obtain ⟨id, hid, rfl⟩ := Except.map_eq_ok_iff.1 h
    exact .inr (.inr ⟨id, hid, rfl⟩)

theorem wellFormed_noted {draws : List UInt64} {table : String} {n : Int} (ht : t.WellFormed)
    (hcolumns : t.columns = Sequence.empty.columns)
    (h : Sequence.noted t draws table n = .ok t') : t'.WellFormed := by
  rcases of_noted h with rfl | ⟨r, -, rfl⟩ | ⟨id, hid, rfl⟩
  · exact ht
  · exact {
      names := ht.names
      fits := by
        intro other hother
        obtain ⟨old, hold, rfl⟩ := List.mem_map.1 hother
        split
        · exact fits_sequenceRow hcolumns _ table n
        · exact ht.fits old hold
      oneKey := ht.oneKey
      ordered := by
        refine List.pairwise_map.2 (ht.ordered.imp fun {a b} hlt => ?_)
        have hid : ∀ other : Row, (if other.id = r.id then
            { other with cells := Sequence.newCells table n } else other).id = other.id := by
          intro other
          split <;> rfl
        rw [hid, hid]
        exact hlt }
  · exact Table.wellFormed_addRow ht (fits_sequenceRow hcolumns id table _)
      (Table.fresh_of_nextId hid)

theorem noted_same {draws : List UInt64} {table : String} {n : Int}
    (h : Sequence.noted t draws table n = .ok t') : t' = { t with rows := t'.rows } := by
  rcases of_noted h with rfl | ⟨r, -, rfl⟩ | ⟨id, -, rfl⟩ <;> rfl

/-- An id is noted in the table of the used ids, if at all. -/
theorem of_noteId {db' : Database} {id : Int64} (h : db.noteId t id = .ok db') :
    db' = db ∨ ∃ sequence sequence', t.autoincrements = true ∧
      db.table? Sequence.name = some sequence ∧
      Sequence.noted sequence db.machine.draws t.name id.toInt = .ok sequence' ∧
      db' = db.setTable sequence' := by
  unfold noteId at h
  split at h
  · rename_i sequence hauto hfound
    obtain ⟨sequence', hnoted, rfl⟩ := Except.map_eq_ok_iff.1 h
    exact .inr ⟨sequence, sequence', hauto, hfound, hnoted, rfl⟩
  · cases h
    exact .inl rfl

theorem wellFormed_noteId {db' : Database} {id : Int64} (hdb : db.WellFormed)
    (h : db.noteId t id = .ok db') : db'.WellFormed := by
  rcases of_noteId h with rfl | ⟨sequence, sequence', -, hfound, hnoted, rfl⟩
  · exact hdb
  · have hstored := hdb.stored hfound
    have hcolumns := hstored.sequence (of_table? hfound).2
    exact wellFormed_setTable hdb (hstored.of_rows (noted_same hnoted)
      (wellFormed_noted hstored.toWellFormed hcolumns hnoted))

end

/-! ## What a command does -/

section

variable {access : Access} {db db' : Database} {params : List Cell} {needed : Nat} {n : Name}
  {a : Answer} {t : Table}

theorem of_findTable {found : Option Table} (h : findTable access db n = .ok found) :
    found = db.table? n.text := by
  unfold findTable at h
  split at h
  · cases h
  · exact (Except.ok.inj h).symm

/-- What is going to be changed is a table that the database holds. -/
theorem of_resolveChanging (h : resolveChanging access db n = .ok t) :
    db.table? n.text = some t := by
  obtain ⟨found, hfound, h⟩ := Except.bind_eq_ok_iff.1 h
  obtain rfl := of_findTable hfound
  split at h
  · rename_i hsome
    cases h
    exact hsome
  · cases h
  · cases h

theorem of_runSelect {filter : Filter}
    (h : runSelect access db params needed n filter = .ok (a, db')) : db' = db := by
  obtain ⟨t, -, h⟩ := Except.bind_eq_ok_iff.1 h
  obtain ⟨found, -, h⟩ := Except.bind_eq_ok_iff.1 h
  obtain ⟨⟨⟩, -, h⟩ := Except.bind_eq_ok_iff.1 h
  cases h
  rfl

theorem of_runInsert {columns : List Name} {cells : List Operand}
    (h : runInsert access db params needed n columns cells = .ok (a, db')) :
    ∃ t fields id t' noted, db.table? n.text = some t ∧
      columns.mapM (t.resolve fun c => .noColumnIn n.text c) = .ok fields ∧
      t.insert (db.usedId t) db.machine (fields.zip (cells.map (·.cell params))) =
        .ok (id, t') ∧
      (db.setTable t').noteId t' id = .ok noted ∧ a = .count 1 ∧ db' = noted.afterInsert id := by
  obtain ⟨t, ht, h⟩ := Except.bind_eq_ok_iff.1 h
  obtain ⟨fields, hfields, h⟩ := Except.bind_eq_ok_iff.1 h
  obtain ⟨⟨⟩, -, h⟩ := Except.bind_eq_ok_iff.1 h
  obtain ⟨⟨⟩, -, h⟩ := Except.bind_eq_ok_iff.1 h
  obtain ⟨⟨⟩, -, h⟩ := Except.bind_eq_ok_iff.1 h
  obtain ⟨⟨id, t'⟩, hinsert, h⟩ := Except.bind_eq_ok_iff.1 h
  obtain ⟨noted, hnoted, h⟩ := Except.bind_eq_ok_iff.1 h
  cases h
  exact ⟨t, fields, id, t', noted, of_resolveChanging ht, hfields, hinsert, hnoted, rfl, rfl⟩

theorem of_runUpdate {changes : List (Name × Operand)} {filter : Filter}
    (h : runUpdate access db params needed n changes filter = .ok (a, db')) :
    ∃ t fields found count t', db.table? n.text = some t ∧
      (changes.mapM fun c => t.resolve .noColumn c.1) = .ok fields ∧
      t.resolveFilter db.machine filter = .ok found ∧
      t.update (t.finds params found) (fields.zip (changes.map (·.2.cell params))) =
        .ok (count, t') ∧
      a = .count count ∧ db' = db.setTable t' := by
  obtain ⟨t, ht, h⟩ := Except.bind_eq_ok_iff.1 h
  obtain ⟨fields, hfields, h⟩ := Except.bind_eq_ok_iff.1 h
  obtain ⟨found, hfound, h⟩ := Except.bind_eq_ok_iff.1 h
  obtain ⟨⟨⟩, -, h⟩ := Except.bind_eq_ok_iff.1 h
  obtain ⟨⟨⟩, -, h⟩ := Except.bind_eq_ok_iff.1 h
  obtain ⟨⟨count, t'⟩, hupdate, h⟩ := Except.bind_eq_ok_iff.1 h
  cases h
  exact ⟨t, fields, found, count, t', of_resolveChanging ht, hfields, hfound, hupdate, rfl, rfl⟩

theorem of_runDelete {filter : Filter}
    (h : runDelete access db params needed n filter = .ok (a, db')) :
    ∃ t found, db.table? n.text = some t ∧ t.resolveFilter db.machine filter = .ok found ∧
      a = .count (t.delete (t.finds params found)).1 ∧
      db' = db.setTable (t.delete (t.finds params found)).2 := by
  obtain ⟨t, ht, h⟩ := Except.bind_eq_ok_iff.1 h
  obtain ⟨found, hfound, h⟩ := Except.bind_eq_ok_iff.1 h
  obtain ⟨⟨⟩, -, h⟩ := Except.bind_eq_ok_iff.1 h
  obtain ⟨⟨⟩, -, h⟩ := Except.bind_eq_ok_iff.1 h
  cases h
  exact ⟨t, found, of_resolveChanging ht, hfound, rfl, rfl⟩

theorem of_createTable {columns : List ColumnDef} {definition : String}
    (h : createTable access db n columns definition = .ok db') :
    Catalog.isReserved n.text = false ∧ db.table? n.text = none ∧
      columnFault? n.text [] columns = none ∧
      db' = db.addTable {
        name := n.text
        columns := columns.map ColumnDef.column
        rows := []
        definition := definition } := by
  unfold createTable at h
  by_cases hreserved : Catalog.isReserved n.text = true
  · rw [if_pos hreserved] at h
    cases h
  · rw [if_neg hreserved] at h
    obtain ⟨found, htable, h⟩ := Except.bind_eq_ok_iff.1 h
    by_cases hfound : found.isSome = true
    · rw [if_pos hfound] at h
      cases h
    · rw [if_neg hfound] at h
      dsimp only [] at h
      cases hfault : columnFault? n.text [] columns with
      | some fault =>
        rw [hfault] at h
        cases h
      | none =>
        rw [hfault] at h
        obtain ⟨⟨⟩, -, h⟩ := Except.bind_eq_ok_iff.1 h
        cases h
        rw [of_findTable htable, Option.not_isSome_iff_eq_none] at hfound
        exact ⟨by simpa using hreserved, hfound, rfl, rfl⟩

/-! ## A new table -/

/-- The row id is a primary key. -/
theorem ColumnDef.keys_ne_nil {c : ColumnDef} (h : c.isRowId = true) : c.keys ≠ [] := by
  intro hnone
  rw [ColumnDef.isRowId, hnone, List.any_nil] at h
  cases h

/-- A primary key stands behind no other one. -/
theorem ColumnDef.not_keyed {c : ColumnDef} {table : String} {keyed : Bool} (hkeys : c.keys ≠ [])
    (h : c.keyFault? table keyed = none) : keyed = false := by
  unfold ColumnDef.keyFault? at h
  split at h
  · rename_i hnone
    exact absurd hnone hkeys
  · cases keyed with
    | false => rfl
    | true => cases h

/-- Columns that can stand behind others: no name stands twice, and there is one primary key at
most. -/
theorem pairwise_of_columnFault {table : String} {taken columns : List ColumnDef}
    (h : columnFault? table taken columns = none)
    (htaken : taken.Pairwise fun a b =>
      sameName a.name.text b.name.text = false ∧ ¬ (a.keys ≠ [] ∧ b.keys ≠ [])) :
    (taken ++ columns).Pairwise fun a b =>
      sameName a.name.text b.name.text = false ∧ ¬ (a.keys ≠ [] ∧ b.keys ≠ []) := by
  induction columns generalizing taken with
  | nil => rwa [List.append_nil]
  | cons c rest ih =>
    unfold columnFault? at h
    split at h
    · cases h
    · rename_i hname
      split at h
      · cases h
      · rename_i hkey
        have hnext := ih h <| List.pairwise_append.2 ⟨htaken, List.pairwise_singleton _ _, by
          intro b hb c' hc'
          obtain rfl := List.mem_singleton.1 hc'
          refine ⟨?_, fun ⟨hbkeys, hckeys⟩ => ?_⟩
          · by_contra hsame
            exact hname (List.any_eq_true.2 ⟨b, hb, by simpa using hsame⟩)
          · have hnot := List.any_eq_false.1 (ColumnDef.not_keyed hckeys hkey) b hb
            simp [hbkeys] at hnot⟩
        rwa [List.append_assoc] at hnext

theorem wellFormed_of_columnFault {table definition : String} {columns : List ColumnDef}
    (h : columnFault? table [] columns = none) :
    (⟨table, columns.map ColumnDef.column, [], definition⟩ : Table).WellFormed := by
  have hpairs := pairwise_of_columnFault h List.Pairwise.nil
  rw [List.nil_append] at hpairs
  exact {
    names := List.pairwise_map.2 (hpairs.imp fun hab => hab.1)
    fits := fun r hr => by cases hr
    oneKey := by
      refine List.pairwise_map.2 (hpairs.imp fun {a b} hab hkeys => hab.2 ?_)
      exact ⟨ColumnDef.keys_ne_nil hkeys.1, ColumnDef.keys_ne_nil hkeys.2⟩
    ordered := List.Pairwise.nil }

/-- The name of the table of used ids is reserved. -/
theorem isReserved_of_sequence {name : String} (h : sameName name Sequence.name = true) :
    Catalog.isReserved name = true := by
  rw [Catalog.isReserved, sameName_iff.1 h]
  decide

theorem stored_sequence : Sequence.empty.Stored where
  names := by decide
  fits r hr := by cases hr
  oneKey := by decide
  ordered := List.Pairwise.nil
  sequence _ := rfl

theorem not_sameName_of_table? {name : String} (h : db.table? name = none) :
    ∀ a ∈ db.tables, sameName a.name name = false := by
  intro a ha
  have hnot := List.find?_eq_none.1 h a ha
  simpa using hnot

theorem wellFormed_addTable (hdb : db.WellFormed) (ht : t.WellFormed)
    (hreserved : Catalog.isReserved t.name = false) (hnew : db.table? t.name = none) :
    (db.addTable t).WellFormed := by
  have hne : sameName t.name Sequence.name = false := by
    by_contra hsame
    rw [isReserved_of_sequence (by simpa using hsame)] at hreserved
    cases hreserved
  have hstored : t.Stored := ⟨ht, fun hsame => by rw [hne] at hsame; cases hsame⟩
  refine ⟨?_, hdb.before⟩
  by_cases hsequence : (t.autoincrements && (db.table? Sequence.name).isNone) = true
  · have hnone : db.table? Sequence.name = none := by
      rw [Bool.and_eq_true, Option.isNone_iff_eq_none] at hsequence
      exact hsequence.2
    simp only [addTable, hsequence, if_true]
    constructor
    · intro other hother
      simp only [List.mem_append, List.mem_cons, List.not_mem_nil, or_false] at hother
      rcases hother with hold | rfl | rfl
      · exact hdb.tables.stored other hold
      · exact hstored
      · exact stored_sequence
    · refine List.pairwise_append.2
        ⟨hdb.tables.names, List.pairwise_pair.2 hne, fun a ha b hb => ?_⟩
      simp only [List.mem_cons, List.not_mem_nil, or_false] at hb
      rcases hb with rfl | rfl
      · exact not_sameName_of_table? hnew a ha
      · exact not_sameName_of_table? hnone a ha
  · simp only [addTable, hsequence, Bool.false_eq_true, if_false]
    constructor
    · intro other hother
      simp only [List.mem_append, List.mem_singleton] at hother
      rcases hother with hold | rfl
      · exact hdb.tables.stored other hold
      · exact hstored
    · refine List.pairwise_append.2
        ⟨hdb.tables.names, List.pairwise_singleton _ _, fun a ha b hb => ?_⟩
      obtain rfl := List.mem_singleton.1 hb
      exact not_sameName_of_table? hnew a ha

/-! ## Every command keeps a database well formed -/

theorem settled_operands (params : List Cell) (fields : List Field) (operands : List Operand) :
    Settled (fields.zip (operands.map (·.cell params))) := by
  refine Table.settled_zip fields (List.forall_mem_map.2 fun o _ => ?_)
  cases o with
  | param n => exact Cell.settled_settled _
  | literal c => exact Cell.settled_settled _

theorem wellFormed_runInsert {columns : List Name} {cells : List Operand} (hdb : db.WellFormed)
    (h : runInsert access db params needed n columns cells = .ok (a, db')) : db'.WellFormed := by
  obtain ⟨t, fields, id, t', noted, ht, -, hinsert, hnoted, -, rfl⟩ := of_runInsert h
  have hstored := hdb.stored ht
  have ht' :=
    Table.wellFormed_insert hstored.toWellFormed (settled_operands params fields cells) hinsert
  have hsame : t' = { t with rows := t'.rows } := by
    obtain ⟨-, -, rfl⟩ := Table.of_insert hinsert
    rfl
  have hwell := wellFormed_noteId (wellFormed_setTable hdb (hstored.of_rows hsame ht')) hnoted
  exact ⟨hwell.tables, hwell.before⟩

theorem wellFormed_runUpdate {changes : List (Name × Operand)} {filter : Filter}
    (hdb : db.WellFormed)
    (h : runUpdate access db params needed n changes filter = .ok (a, db')) :
    db'.WellFormed := by
  obtain ⟨t, fields, found, count, t', ht, -, -, hupdate, -, rfl⟩ := of_runUpdate h
  have hstored := hdb.stored ht
  have hsettled : Settled (fields.zip (changes.map (·.2.cell params))) := by
    have hmap := settled_operands params fields (changes.map Prod.snd)
    rwa [List.map_map] at hmap
  obtain ⟨-, hrewrites⟩ := Table.rewrites_of_update hstored.toWellFormed hsettled hupdate
  exact wellFormed_setTable hdb (hstored.of_rows hrewrites.same hrewrites.wellFormed)

theorem wellFormed_runDelete {filter : Filter} (hdb : db.WellFormed)
    (h : runDelete access db params needed n filter = .ok (a, db')) : db'.WellFormed := by
  obtain ⟨t, found, ht, -, -, rfl⟩ := of_runDelete h
  have hstored := hdb.stored ht
  exact wellFormed_setTable hdb (hstored.of_rows rfl
    (Table.wellFormed_filter hstored.toWellFormed fun r => !t.finds params found r))

theorem wellFormed_run {c : Command} (hdb : db.WellFormed)
    (h : run access db params c = .ok (a, db')) : db'.WellFormed := by
  cases c with
  | select n filter =>
    rw [of_runSelect h]
    exact hdb
  | insert n columns cells => exact wellFormed_runInsert hdb h
  | update n changes filter => exact wellFormed_runUpdate hdb h
  | delete n filter => exact wellFormed_runDelete hdb h
  | create n columns definition =>
    obtain ⟨made, hmade, heq⟩ := Except.map_eq_ok_iff.1 h
    cases heq
    obtain ⟨hreserved, hnew, hfault, rfl⟩ := of_createTable hmade
    exact wellFormed_addTable hdb (wellFormed_of_columnFault hfault) hreserved hnew
  | beginTransaction =>
    simp only [run] at h
    split at h
    · cases h
      refine ⟨hdb.tables, fun tables htables => ?_⟩
      cases htables
      exact hdb.tables
    · cases h
  | commit =>
    simp only [run] at h
    split at h
    · cases h
    · cases h
      exact ⟨hdb.tables, fun _ htables => by cases htables⟩
  | rollback =>
    simp only [run] at h
    split at h
    · cases h
    · rename_i tables hbefore
      cases h
      exact ⟨hdb.before tables hbefore, fun _ htables => by cases htables⟩

/-- One call by text, whether it succeeds or not. -/
theorem wellFormed_call {α : Type} {part : Answer → α} (hdb : db.WellFormed) (sql : String)
    (params : List Value) : (call access part db sql params).2.WellFormed := by
  unfold call
  split
  · rename_i answer db' hrun
    obtain ⟨c, -, hrun⟩ := Except.bind_eq_ok_iff.1 hrun
    cases c with
    | none =>
      cases hrun
      exact hdb
    | some c => exact wellFormed_run hdb hrun
  · exact wellFormed_afterFault hdb _

theorem wellFormed_runStatements {text : List Char} {statements : List (List Lexeme)}
    (hdb : db.WellFormed) : (runStatements access text db statements).2.WellFormed := by
  induction statements generalizing db text with
  | nil => exact hdb
  | cons s more ih =>
    unfold runStatements
    split
    · exact wellFormed_afterFault hdb _
    · rename_i next hnext
      apply ih
      obtain ⟨c, -, hnext⟩ := Except.bind_eq_ok_iff.1 hnext
      cases c with
      | none =>
        cases hnext
        exact hdb
      | some c =>
        obtain ⟨⟨a, next⟩, hrun, heq⟩ := Except.bind_eq_ok_iff.1 hnext
        cases heq
        exact wellFormed_run hdb hrun

/-! ## Reachable states -/

/-- The states that an empty database can come to by the statements that are carried out here. -/
inductive Reachable : Database → Prop where
  | empty : Reachable empty
  /-- A text of statements, of which one may fail and end it. -/
  | batch {db : Database} (h : Reachable db) (access : Access) (sql : String) :
      Reachable (executeBatch access sql db).2
  | execute {db : Database} (h : Reachable db) (access : Access) (sql : String)
      (params : List Value) : Reachable ((connection access).execute sql params db).2
  | query {db : Database} (h : Reachable db) (access : Access) (sql : String)
      (params : List Value) : Reachable ((connection access).query sql params db).2
  | reopened {db : Database} (h : Reachable db) : Reachable db.reopened
  /-- Time goes by, and other random numbers come. -/
  | within {db : Database} (h : Reachable db) (m : Machine) : Reachable (db.within m)

theorem wellFormed_of_reachable (h : Reachable db) : db.WellFormed := by
  induction h with
  | empty => exact wellFormed_empty
  | batch _ access sql ih => exact wellFormed_runStatements ih
  | execute _ access sql params ih => exact wellFormed_call ih sql params
  | query _ access sql params ih => exact wellFormed_call ih sql params
  | reopened _ ih =>
    have hundone := wellFormed_undone ih
    exact ⟨hundone.tables, hundone.before⟩
  | within _ m ih => exact ⟨ih.tables, ih.before⟩

end

/-! ## Three databases -/

/-- A person by number and name. -/
def nameRow (id : Int64) (name : String) : Row :=
  ⟨id, [.null, .text name.toUTF8]⟩

/-- Three people, two of whom have one name. -/
def peopleTable : Table where
  name := "people"
  columns := [{ name := "id", affinity := .integer, isKey := true },
    { name := "name", affinity := .text }]
  rows := [nameRow 1 "ann", nameRow 2 "bob", nameRow 3 "ann"]
  definition := "CREATE TABLE people (id INTEGER PRIMARY KEY, name TEXT)"

/-- A database with the people. -/
def people : Database where
  tables := [peopleTable]
  lastInsertId := 3
  before := none

theorem table?_people : people.table? "people" = some peopleTable := by
  decide +kernel

theorem reachable_people : Reachable people := by
  have hcreated := Reachable.empty.batch .full
    "CREATE TABLE people (id INTEGER PRIMARY KEY, name TEXT)"
  have hfirst := hcreated.execute .full "INSERT INTO people (name) VALUES (?1)" [.text "ann"]
  have hsecond := hfirst.execute .full "INSERT INTO people (name) VALUES (?1)" [.text "bob"]
  have hthird := hsecond.execute .full "INSERT INTO people (name) VALUES (?1)" [.text "ann"]
  exact (congrArg Reachable (by decide +kernel)).mp hthird

/-- A table that counts its ids, with one row. -/
def countingTable (id : Int64) : Table where
  name := "t"
  columns := [{ name := "id", affinity := .integer, isKey := true, autoincrement := true }]
  rows := [⟨id, [.null]⟩]
  definition := "CREATE TABLE t (id INTEGER PRIMARY KEY AUTOINCREMENT)"

/-- A database with that table, and the id noted. -/
def counting (id : Int64) : Database where
  tables := [countingTable id,
    { Sequence.empty with rows := [⟨1, Sequence.newCells "t" id.toInt⟩] }]
  lastInsertId := id
  before := none

theorem reachable_counting (id : Int64)
    (h : ((connection .full).execute "INSERT INTO t (id) VALUES (?1)" [.integer id]
      (executeBatch .full "CREATE TABLE t (id INTEGER PRIMARY KEY AUTOINCREMENT)" empty).2).2 =
        counting id) : Reachable (counting id) := by
  have hcreated := Reachable.empty.batch .full
    "CREATE TABLE t (id INTEGER PRIMARY KEY AUTOINCREMENT)"
  have hfirst := hcreated.execute .full "INSERT INTO t (id) VALUES (?1)" [.integer id]
  rwa [h] at hfirst

/-- A table without rows, whose key has that name. -/
def keyedTable (key : String) : Table where
  name := "t"
  columns := [{ name := key, affinity := .integer, isKey := true },
    { name := "name", affinity := .text }]
  rows := []
  definition := "CREATE TABLE t (" ++ quotedName key ++ " INTEGER PRIMARY KEY, name TEXT)"

/-- A database with that table. -/
def keyedBy (key : String) : Database where
  tables := [keyedTable key]
  lastInsertId := 0
  before := none

theorem reachable_keyedBy (key : String)
    (h : (executeBatch .full
      ("CREATE TABLE t (" ++ quotedName key ++ " INTEGER PRIMARY KEY, name TEXT)") empty).2 =
        keyedBy key) : Reachable (keyedBy key) := by
  rw [← h]
  exact .batch .empty .full _

end Database

end CrudByName
