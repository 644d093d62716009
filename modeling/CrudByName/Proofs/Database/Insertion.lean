import CrudByName.Proofs.Database.Operations

/-!
# A row that was inserted is found by its id

An insert that succeeds adds one row and leaves the others as they are (`Inserted`).  The id of the
row is the last one given, and a lookup by the key finds the row under it: what was given stands in
the columns that it was given for, and in the others what they have by themselves, which is their
default or null (`RoundTrip`).  `insert_round_trip` says so of every state that a database can come
to.

Values come back as they were if they suit their columns (`Suits`), but for truth values, which are
kept as numbers (`readBack`).  What an insert notes among the used ids is the one thing that it
changes outside of its table, and there it leaves the rows of other tables alone.
-/

namespace CrudByName

namespace Database

open Command (isKey isConstant)

/-! ## Values in columns -/

/-- A value that comes back from a column of that affinity. -/
inductive Suits : Affinity → Value → Prop where
  | null (a : Affinity) : Suits a .null
  | integer (n : Int64) : Suits .integer (.integer n)
  | boolean (b : Bool) : Suits .integer (.boolean b)
  | text (s : String) : Suits .text (.text s)
  | blob (bytes : ByteArray) : Suits .blob (.blob bytes)

/-- The value that comes back; a truth value is kept as a number. -/
def readBack : Value → Value
  | .boolean b => .integer (if b then 1 else 0)
  | v => v

theorem toValue_store {a : Affinity} {v : Value} (h : Suits a v) :
    (a.store (Cell.ofValue v).settled).toValue = readBack v := by
  cases h with
  | null => cases a <;> rfl
  | integer n => rfl
  | boolean b => rfl
  | text s => exact Cell.toValue_text s
  | blob bytes => rfl

/-- A value other than null that suits the key is a row id. -/
theorem exists_rowId_of_suits {v : Value} (h : Suits .integer v) (hnull : v ≠ .null) :
    ∃ n, (Cell.ofValue v).settled.rowId? = some n ∧ (Cell.ofValue v).settled ≠ .null ∧
      readBack v = .integer n := by
  cases h with
  | null => exact absurd rfl hnull
  | integer n => exact ⟨n, rfl, nofun, rfl⟩
  | boolean b => exact ⟨if b then 1 else 0, rfl, nofun, rfl⟩

/-! ## Columns and the fields that they are -/

theorem toLower_of_isTail {c : Char} (h : Identifier.isTail c) : c.toLower = c := by
  refine dif_neg ?_
  rintro ⟨hlow, hhigh⟩
  have hlow' : 65 ≤ c.toNat := hlow
  have hhigh' : c.toNat ≤ 90 := hhigh
  simp only [Identifier.isTail, Identifier.isLower, Identifier.isDigit, Bool.or_eq_true,
    Bool.and_eq_true, decide_eq_true_eq, beq_iff_eq] at h
  rcases h with (⟨ha, -⟩ | ⟨-, hnine⟩) | rfl
  · have ha' : 97 ≤ c.toNat := ha
    omega
  · have hnine' : c.toNat ≤ 57 := hnine
    omega
  · exact absurd hhigh' (by decide)

/-- An identifier has no capital letters. -/
theorem foldCase_identifier (i : Identifier) : foldCase i.name = i.name := by
  have hlower : ∀ c ∈ i.name.toList, c.toLower = id c := fun c hc =>
    toLower_of_isTail (List.all_eq_true.1 (Words.all_isTail_of_isSafe i.safe) c hc)
  rw [foldCase, List.map_congr_left hlower, List.map_id, String.ofList_toList]

/-- Whether a name is that of one of the columns, and not only another name for the ids. -/
def Table.HasColumn (t : Table) (name : String) : Prop :=
  ∃ c ∈ t.columns, sameName c.name name = true

section

variable {t : Table} {f : Field}

theorem Table.WellFormed.key_index_eq (ht : t.WellFormed) {i j : Nat} {c c' : Column}
    (hc : t.columns[i]? = some c) (hc' : t.columns[j]? = some c') (hkey : c.isKey = true)
    (hkey' : c'.isKey = true) : i = j :=
  List.index_eq_of_pairwise ht.oneKey hc hc' (fun h => h ⟨hkey, hkey'⟩) fun h => h ⟨hkey', hkey⟩

/-- No two columns are one field. -/
theorem Table.WellFormed.fieldOf_inj (ht : t.WellFormed) {i j : Nat} {c c' : Column}
    (hc : t.columns[i]? = some c) (hc' : t.columns[j]? = some c')
    (h : fieldOf c i = fieldOf c' j) : i = j := by
  unfold fieldOf at h
  by_cases hkey : c.isKey = true
  · by_cases hkey' : c'.isKey = true
    · exact ht.key_index_eq hc hc' hkey hkey'
    · rw [if_pos hkey, if_neg hkey'] at h
      cases h
  · by_cases hkey' : c'.isKey = true
    · rw [if_neg hkey, if_pos hkey'] at h
      cases h
    · rw [if_neg hkey, if_neg hkey'] at h
      cases h
      rfl

/-- No two names of columns are one field. -/
theorem Table.WellFormed.identifier_inj (ht : t.WellFormed) {a b : Identifier}
    (ha : t.HasColumn a.name) (hb : t.HasColumn b.name) (hfa : t.field? a.name = some f)
    (hfb : t.field? b.name = some f) : a = b := by
  obtain ⟨c, hc, hca⟩ := ha
  obtain ⟨c', hc', hcb⟩ := hb
  obtain ⟨i, hi⟩ := List.mem_iff_getElem?.1 hc
  obtain ⟨j, hj⟩ := List.mem_iff_getElem?.1 hc'
  rw [ht.field?_eq hi hca] at hfa
  rw [ht.field?_eq hj hcb, ← hfa] at hfb
  obtain rfl := ht.fieldOf_inj hj hi (Option.some.inj hfb)
  rw [hi] at hj
  cases hj
  rw [sameName_iff, foldCase_identifier] at hca hcb
  cases a
  cases b
  congr 1
  exact hca.symm.trans hcb

theorem Table.WellFormed.nodup_fields (ht : t.WellFormed) {columns : List Identifier}
    {fields : List Field} (hfields : FieldsOf t columns fields) (hnodup : columns.Nodup)
    (hcolumns : ∀ column ∈ columns, t.HasColumn column.name) : fields.Nodup := by
  induction hfields with
  | nil => exact List.nodup_nil
  | @cons column f columns fields hf hfields ih =>
    obtain ⟨hnot, hnodup⟩ := List.nodup_cons.1 hnodup
    obtain ⟨hcolumn, hcolumns⟩ := List.forall_mem_cons.1 hcolumns
    refine List.nodup_cons.2 ⟨fun hmem => hnot ?_, ih hnodup hcolumns⟩
    obtain ⟨other, hother, hfield⟩ := List.exists_mem_of_forall₂ hfields.flip hmem
    rw [ht.identifier_inj hcolumn (hcolumns other hother) hf hfield]
    exact hother

end

/-! ## What is written -/

theorem Table.given?_of_mem {written : List (Field × Cell)} {field : Field} {cell : Cell}
    (hnodup : (written.map Prod.fst).Nodup) (h : (field, cell) ∈ written) :
    Table.given? written field = some cell := by
  obtain ⟨before, after, rfl⟩ := List.append_of_mem h
  rw [List.map_append, List.map_cons, List.nodup_middle, List.nodup_cons] at hnodup
  refine List.lookup_eq_some_iff.2 ⟨before, after, rfl, fun p hp => ?_⟩
  have hmem : p.1 ∈ before.map Prod.fst := List.mem_map_of_mem hp
  rw [bne_iff_ne]
  rintro rfl
  exact hnodup.1 (List.mem_append_left _ hmem)

/-- The fields that are written, with their cells. -/
def written (columns : List (Identifier × Value)) (fields : List Field) : List (Field × Cell) :=
  fields.zip (taken (columns.map Prod.snd))

theorem settled_written (columns : List (Identifier × Value)) (fields : List Field) :
    Settled (written columns fields) :=
  settled_taken fields _

/-- A field map whose keys are names of columns, with values that suit them. -/
def Fitting (t : Table) (data : Record) : Prop :=
  ∀ p ∈ data.fields, ∃ c ∈ t.columns, Spells p.1 c.name ∧ Suits c.affinity p.2

section

variable {t t' : Table} {data : Record} {columns : List (Identifier × Value)} {fields : List Field}
  {i position : Nat} {c : Column} {p : String × Value} {used : Int} {draws : List UInt64}
  {id : Int64}

/-- What is given for a column is written into its field. -/
theorem mem_written (ht : t.Shaped)
    (hcolumns : (Argument.fields data).columnsAt position = .ok columns)
    (hfields : FieldsOf t (columns.map Prod.fst) fields) (hp : p ∈ data.fields)
    (hc : t.columns[i]? = some c) (hspells : Spells p.1 c.name) :
    (Table.fieldOf c i, (Cell.ofValue p.2).settled) ∈ written columns fields := by
  obtain ⟨-, hgo, -⟩ := (columnsAt_eq_ok_iff position).1 hcolumns
  obtain ⟨j, hj⟩ := List.mem_iff_getElem?.1 hp
  obtain ⟨⟨column, v⟩, hcolumn, hnormal, hv⟩ := List.exists_getElem?_of_forall₂ hgo hj
  dsimp only at hnormal hv
  have hname : (columns.map Prod.fst)[j]? = some column := by
    rw [List.getElem?_map, hcolumn, Option.map_some]
  obtain ⟨field, hfield, hresolved⟩ := List.exists_getElem?_of_forall₂ hfields hname
  obtain ⟨other, hother, hsame⟩ := hspells
  obtain rfl : other = column := Except.ok.inj (hother.symm.trans hnormal)
  rw [ht.field?_eq hc hsame] at hresolved
  have hcell : (taken (columns.map Prod.snd))[j]? = some (Cell.ofValue p.2).settled := by
    rw [taken, List.map_map, List.getElem?_map, hcolumn, hv]
    rfl
  have hboth := List.getElem?_zip_eq_some (z := (Table.fieldOf c i, (Cell.ofValue p.2).settled))
    |>.2 ⟨hresolved ▸ hfield, hcell⟩
  exact List.mem_of_getElem? hboth

/-- Each field is written once. -/
theorem nodup_written (ht : t.WellFormed) (hdata : Fitting t data)
    (hcolumns : (Argument.fields data).columnsAt position = .ok columns)
    (hfields : FieldsOf t (columns.map Prod.fst) fields) :
    ((written columns fields).map Prod.fst).Nodup := by
  obtain ⟨-, hgo, hnodup⟩ := (columnsAt_eq_ok_iff position).1 hcolumns
  have hnames : ∀ column ∈ columns.map Prod.fst, t.HasColumn column.name := by
    intro column hcolumn
    obtain ⟨key, hkey, hnormal⟩ := ((keysName_of_goesTo hgo).mem_iff column).1 hcolumn
    obtain ⟨p, hp, rfl⟩ := List.mem_map.1 hkey
    obtain ⟨c, hc, ⟨other, hother, hsame⟩, -⟩ := hdata p hp
    obtain rfl : other = column := Except.ok.inj (hother.symm.trans hnormal)
    exact ⟨c, hc, hsame⟩
  have hlength : fields.length ≤ (taken (columns.map Prod.snd)).length := by
    rw [← hfields.length_eq, taken, List.length_map, List.length_map, List.length_map]
  rw [written, List.map_fst_zip hlength]
  exact ht.nodup_fields hfields hnodup hnames

/-- The values that are given for a column all suit it, for there is only one such column. -/
theorem suits_of_spells (ht : t.Shaped) (hdata : Fitting t data) (hp : p ∈ data.fields)
    (hc : t.columns[i]? = some c) (hspells : Spells p.1 c.name) : Suits c.affinity p.2 := by
  obtain ⟨c', hc', ⟨column', hcolumn', hsame'⟩, hsuits⟩ := hdata p hp
  obtain ⟨column, hcolumn, hsame⟩ := hspells
  obtain rfl : column' = column := Except.ok.inj (hcolumn'.symm.trans hcolumn)
  obtain ⟨j, hj⟩ := List.mem_iff_getElem?.1 hc'
  have hboth : sameName c'.name c.name = true := by
    rw [sameName_congr hsame', sameName_comm]
    exact hsame
  obtain rfl := ht.index_eq hj hc hboth
  rw [hc] at hj
  cases hj
  exact hsuits

/-- What a new row shows: its id in the key, and elsewhere what is given for the column, or what the
column has by itself. -/
theorem shown_new (m : Machine) (cells : List (Field × Cell)) (id : Int64)
    (hc : t.columns[i]? = some c) :
    ((⟨id, t.newCells m cells⟩ : Row).shown t.columns)[i]? =
      some (if c.isKey then .integer id else c.newCell m (Table.given? cells (.cell i))) := by
  rw [Row.shown, List.getElem?_zipWith, Table.newCells, List.getElem?_map, List.getElem?_zipIdx,
    hc]
  simp

/-- An id that is asked for is the one that is given. -/
theorem id_of_asked {asked : Cell} (hnull : asked ≠ .null)
    (h : t.idFor used draws (some asked) = .ok id) : asked.rowId? = some id := by
  unfold Table.idFor at h
  split at h
  · rename_i hasked
    cases hasked
  · rename_i hasked
    cases hasked
    exact absurd rfl hnull
  · rename_i c _ hasked
    cases hasked
    split at h
    · rename_i n hn
      cases h
      exact hn
    · cases h

/-- The lookup of an id that a new row has finds that row alone. -/
theorem filter_addRow {r : Row} (p : Row → Bool) (hfresh : ∀ other ∈ t.rows, other.id ≠ r.id)
    (hp : ∀ other, p other = true ↔ other.id = r.id) : (t.addRow r).rows.filter p = [r] := by
  have hrows : (t.addRow r).rows.Perm (r :: t.rows) := Table.perm_insertInOrder r t.rows
  have hothers : t.rows.filter p = [] :=
    List.filter_eq_nil_iff.2 fun other hother h => hfresh other hother ((hp other).1 h)
  have hfilter := hrows.filter p
  rw [List.filter_cons_of_pos ((hp r).2 rfl), hothers] at hfilter
  exact List.perm_singleton.1 hfilter

end

/-! ## What an insert leaves alone -/

section

variable {db noted : Database} {t t' : Table} {id : Int64}

/-- What is noted among the used ids touches no other table, and nothing is noted for a table
without autoincrement. -/
theorem table?_noteId_of_ne (h : db.noteId t id = .ok noted) {name : String}
    (hne : t.autoincrements = true → sameName Sequence.name name = false) :
    noted.table? name = db.table? name := by
  rcases of_noteId h with rfl | ⟨sequence, sequence', hauto, hfound, hnoted, rfl⟩
  · rfl
  · refine table?_setTable_of_ne db ?_
    rw [noted_same hnoted, sameName_congr (of_table? hfound).2]
    exact hne hauto

/-- The rows of other tables stay among the used ids. -/
theorem mem_noted {draws : List UInt64} {table : String} {n : Int} (ht : t.WellFormed)
    (h : Sequence.noted t draws table n = .ok t') {r : Row} (hr : r ∈ t.rows)
    (hother : Sequence.isFor table r = false) : r ∈ t'.rows := by
  rcases of_noted h with rfl | ⟨found, hfound, rfl⟩ | ⟨id, -, rfl⟩
  · exact hr
  · have hne : r.id ≠ found.id := by
      intro hid
      have hnodup := Table.nodup_ids ht.ordered
      obtain rfl := List.inj_on_of_nodup_map hnodup hr (List.mem_of_find?_eq_some hfound) hid
      have hfor := List.find?_some hfound
      rw [hother] at hfor
      cases hfor
    exact List.mem_map.2 ⟨r, hr, if_neg hne⟩
  · exact Table.mem_insertInOrder.2 (.inr hr)

theorem exists_sequence_of_noteId (hdb : db.WellFormed) (h : db.noteId t id = .ok noted)
    {sequence : Table} (hsequence : db.table? Sequence.name = some sequence) :
    ∃ sequence', noted.table? Sequence.name = some sequence' ∧
      ∀ r ∈ sequence.rows, Sequence.isFor t.name r = false → r ∈ sequence'.rows := by
  rcases of_noteId h with rfl | ⟨found, sequence', -, hfound, hnoted, rfl⟩
  · exact ⟨sequence, hsequence, fun r hr _ => hr⟩
  · rw [hsequence] at hfound
    cases hfound
    refine ⟨sequence', table?_setTable hsequence (by rw [noted_same hnoted]), fun r hr hother => ?_⟩
    exact mem_noted (hdb.stored hsequence).toWellFormed hnoted hr hother

theorem before_noteId (h : db.noteId t id = .ok noted) : noted.before = db.before := by
  rcases of_noteId h with rfl | ⟨_, _, -, -, -, rfl⟩ <;> rfl

end

/-- What an insert of a row leaves in a database: one row more, and the rest as it was. -/
structure Inserted (db db' : Database) (t t' : Table) (new : Row) : Prop where
  same : t' = { t with rows := t'.rows }
  fresh : ∀ r ∈ t.rows, r.id ≠ new.id
  rows : t'.rows.Perm (new :: t.rows)
  order : t.rows.Sublist t'.rows
  others : ∀ name, sameName t.name name = false →
    (t.autoincrements = true → sameName Sequence.name name = false) →
      db'.table? name = db.table? name
  sequence : ∀ sequence, db.table? Sequence.name = some sequence →
    ∃ sequence', db'.table? Sequence.name = some sequence' ∧
      ∀ r ∈ sequence.rows, Sequence.isFor t.name r = false → r ∈ sequence'.rows
  before : db'.before = db.before

/-- A table with a key is not that of the used ids. -/
theorem sequence_ne_of_key {t : Table} {c : Column} (ht : t.Stored) (hc : c ∈ t.columns)
    (hkey : c.isKey = true) : sameName t.name Sequence.name = false := by
  by_contra hsame
  rw [ht.sequence (by simpa using hsame)] at hc
  have hnone : ∀ c ∈ Sequence.empty.columns, c.isKey = false := by decide
  rw [hnone c hc] at hkey
  cases hkey

section

variable {db noted : Database} {t : Table} {c : Column} {name : String}

/-- A row with an id that no row had is added, and the id is noted. -/
theorem inserted_addRow (hdb : db.WellFormed) (ht : db.table? name = some t) (hc : c ∈ t.columns)
    (hkey : c.isKey = true) {new : Row} (hfits : new.Fits t.columns)
    (hfresh : ∀ r ∈ t.rows, r.id ≠ new.id) {id : Int64}
    (hnoted : (db.setTable (t.addRow new)).noteId (t.addRow new) id = .ok noted) :
    (noted.afterInsert id).table? name = some (t.addRow new) ∧
      Inserted db (noted.afterInsert id) t (t.addRow new) new := by
  have hstored := hdb.stored ht
  have hne := sequence_ne_of_key hstored hc hkey
  have hname := (of_table? ht).2
  have hsequence : sameName Sequence.name name = false := by
    rw [sameName_comm, ← sameName_congr hname]
    exact hne
  have hstored' : (t.addRow new).Stored := hstored.of_rows rfl
    (Table.wellFormed_addRow hstored.toWellFormed hfits hfresh)
  have hset : (db.setTable (t.addRow new)).table? name = some (t.addRow new) :=
    table?_setTable ht rfl
  refine ⟨?_, rfl, hfresh, Table.perm_insertInOrder new t.rows,
    Table.sublist_insertInOrder new t.rows, fun other hother hauto => ?_,
    fun sequence hs => ?_, ?_⟩
  · exact (table?_noteId_of_ne hnoted fun _ => hsequence).trans hset
  · exact (table?_noteId_of_ne hnoted hauto).trans (table?_setTable_of_ne db hother)
  · have hs' : (db.setTable (t.addRow new)).table? Sequence.name = some sequence :=
      (table?_setTable_of_ne (t := t.addRow new) db hne).trans hs
    exact exists_sequence_of_noteId (wellFormed_setTable hdb hstored') hnoted hs'
  · have hbefore := before_noteId hnoted
    exact hbefore

end

/-! ## The round trip -/

/-- What is found of a row behind its insert, which leads from `db` to `db'`: `k` is the id of the
row and `r` its record. -/
structure RoundTrip (db db' : Database) (tableToken fieldToken : String) (key : Identifier)
    (t : Table) (c : Column) (data : Record) (k : Int64) (r : Record) : Prop where
  lastId : Dispatch.invoke (connection .full) "lastInsertId" [] db' = (.ok (.generatedId k), db')
  /-- The key has to be read as a column on the left of a comparison. -/
  get : isKey key = true → isConstant key = false →
    Dispatch.invoke (connection .full) ("get" ++ tableToken ++ "By" ++ fieldToken)
      [.scalar (.integer k)] db' = (.ok (.singleRecord r), db')
  names : r.names = t.columnNames
  id : r.get? c.name = some (.integer k)
  given : ∀ p ∈ data.fields, ∀ other ∈ t.columns, other.isKey = false → Spells p.1 other.name →
    r.get? other.name = some (readBack p.2)
  /-- An id that was asked for is the one that was given. -/
  asked : ∀ p ∈ data.fields, Spells p.1 c.name → p.2 ≠ .null → readBack p.2 = .integer k
  /-- A column that nothing was given for has its default, which is null if there is none. -/
  others : ∀ other ∈ t.columns, other.isKey = false → ¬ Sets data other.name →
    r.get? other.name = some (other.initial db.machine).toValue

theorem invoke_lastInsertId (access : Access) (db : Database) :
    Dispatch.invoke (connection access) "lastInsertId" [] db =
      (.ok (.generatedId db.lastInsertId), db) := by
  have hplan : Dispatch.plan .indexed "lastInsertId" [] = .ok .lastInsertId := by decide
  exact Dispatch.invoke_of_plan_ok (c := connection access) hplan

/-- The id that is looked for is that of the row. -/
theorem meets_id {t : Table} {key : Identifier} (hcolumn : isConstant key = false)
    (hfield : t.field? key.name = some .id) (m : Machine) (k : Int64) (r : Row) :
    t.meets m key (.integer k) r = true ↔ r.id = k := by
  have hnone : constantOf? key.name.toList = none := by
    simpa [isConstant] using hcolumn
  simp only [Table.meets, hnone, hfield]
  show (some k == some r.id) = true ↔ r.id = k
  rw [beq_iff_eq, Option.some.injEq, eq_comm]

section

variable {t : Table} {data : Record} {columns : List (Identifier × Value)} {fields : List Field}
  {i position : Nat} {c : Column} {p : String × Value} {used : Int}
  {draws : List UInt64} {k : Int64}

/-- The record of a new row in a column that is not the key. -/
theorem get?_new (ht : t.Shaped) (m : Machine) {cells : List (Field × Cell)}
    (hcells : Settled cells) (k : Int64) (hc : t.columns[i]? = some c) (hkey : c.isKey = false) :
    (t.record ⟨k, t.newCells m cells⟩).get? c.name =
      some (c.newCell m (Table.given? cells (.cell i))).toValue := by
  have hcell := shown_new m cells k hc
  rw [hkey] at hcell
  exact ht.get?_record (Table.fits_newCells m hcells) hc hcell

theorem get?_new_of_spells (ht : t.WellFormed) (m : Machine) (hdata : Fitting t data)
    (hcolumns : (Argument.fields data).columnsAt position = .ok columns)
    (hfields : FieldsOf t (columns.map Prod.fst) fields) (k : Int64) (hp : p ∈ data.fields)
    (hc : t.columns[i]? = some c) (hkey : c.isKey = false) (hspells : Spells p.1 c.name) :
    (t.record ⟨k, t.newCells m (written columns fields)⟩).get? c.name = some (readBack p.2) := by
  have hmem := mem_written ht.toShaped hcolumns hfields hp hc hspells
  rw [Table.fieldOf, hkey] at hmem
  have hgiven : Table.given? (written columns fields) (.cell i) =
      some (Cell.ofValue p.2).settled :=
    Table.given?_of_mem (nodup_written ht hdata hcolumns hfields) hmem
  have hsuits := suits_of_spells ht.toShaped hdata hp hc hspells
  rw [get?_new ht.toShaped m (settled_written columns fields) k hc hkey, hgiven, Column.newCell,
    toValue_store hsuits]

theorem get?_new_of_not_sets (ht : t.Shaped) (m : Machine)
    (hcolumns : (Argument.fields data).columnsAt position = .ok columns)
    (hfields : FieldsOf t (columns.map Prod.fst) fields) (k : Int64)
    (hc : t.columns[i]? = some c) (hkey : c.isKey = false) (hset : ¬ Sets data c.name) :
    (t.record ⟨k, t.newCells m (written columns fields)⟩).get? c.name =
      some (c.initial m).toValue := by
  have hgiven : Table.given? (written columns fields) (.cell i) = none :=
    given?_eq_none (cell_not_mem hcolumns hfields hc hset)
  rw [get?_new ht m (settled_written columns fields) k hc hkey, hgiven, Column.newCell]

/-- A value other than null that is given for the key is the id that the row gets. -/
theorem readBack_of_asked (ht : t.WellFormed) (hdata : Fitting t data)
    (hcolumns : (Argument.fields data).columnsAt position = .ok columns)
    (hfields : FieldsOf t (columns.map Prod.fst) fields)
    (hid : t.idFor used draws (Table.given? (written columns fields).reverse .id) = .ok k)
    (hp : p ∈ data.fields) (hc : t.columns[i]? = some c)
    (hkey : c.isKey = true ∧ c.affinity = .integer) (hspells : Spells p.1 c.name)
    (hnull : p.2 ≠ .null) : readBack p.2 = .integer k := by
  have hmem := mem_written ht.toShaped hcolumns hfields hp hc hspells
  rw [Table.fieldOf, if_pos hkey.1] at hmem
  have hnodup : ((written columns fields).reverse.map Prod.fst).Nodup := by
    rw [List.map_reverse, List.nodup_reverse]
    exact nodup_written ht hdata hcolumns hfields
  rw [Table.given?_of_mem hnodup (List.mem_reverse.2 hmem)] at hid
  have hsuits := suits_of_spells ht.toShaped hdata hp hc hspells
  rw [hkey.2] at hsuits
  obtain ⟨n, hn, hcell, hvalue⟩ := exists_rowId_of_suits hsuits hnull
  rw [id_of_asked hcell hid] at hn
  cases hn
  exact hvalue

end

section

variable {db db' : Database} {tableToken fieldToken : String} {table key : Identifier} {t : Table}
  {c : Column} {data : Record} {o : Outcome}

/-- An insert that succeeds counts one row, which is the only one that changed; and the row is found
by its id, with what was given for its columns. -/
theorem insert_round_trip (hdb : Reachable db) (h : Names tableToken fieldToken table key)
    (ht : db.table? table.name = some t) (hc : c ∈ t.columns)
    (hkey : c.isKey = true ∧ c.affinity = .integer) (hname : sameName c.name key.name = true)
    (hdata : Fitting t data)
    (hinsert : Dispatch.invoke (connection .full) ("insert" ++ tableToken) [.fields data] db =
      (.ok o, db')) :
    o = .affectedCount 1 ∧ ∃ t' new, db'.table? table.name = some t' ∧
      Inserted db db' t t' new ∧
      RoundTrip db db' tableToken fieldToken key t c data new.id (t.record new) := by
  have hwell := wellFormed_of_reachable hdb
  have hstored := hwell.stored ht
  obtain ⟨hplain, columns, t₀, fields, k, t', noted, hcolumns, ht₀, hfields, hadded, hnoted, rfl,
    rfl⟩ := of_insert h.tokens.table_ne h.table hinsert
  rw [ht] at ht₀
  cases ht₀
  obtain ⟨hk, hfresh, rfl⟩ := Table.of_insert hadded
  obtain ⟨i, hi⟩ := List.mem_iff_getElem?.1 hc
  let new : Row := ⟨k, t.newCells db.machine (written columns fields)⟩
  have hfits : new.Fits t.columns := Table.fits_newCells db.machine (settled_written columns fields)
  obtain ⟨ht', hinserted⟩ := inserted_addRow hwell ht hc hkey.1 hfits hfresh hnoted
  have hfield : t.field? key.name = some .id := by
    rw [hstored.field?_eq hi hname, Table.fieldOf, if_pos hkey.1]
  refine ⟨rfl, _, new, ht', hinserted, ?_, fun hleft hcolumn => ?_, hstored.names_record hfits, ?_,
    fun p hp other hother hnot hspells => ?_, fun p hp hspells hnull => ?_,
    fun other hother hnot hset => ?_⟩
  · exact invoke_lastInsertId .full _
  · have hmeets : ∀ other, (t.addRow new).meets (noted.afterInsert k).machine key (.integer k)
        other = true ↔ other.id = new.id :=
      fun other => meets_id hcolumn hfield _ k other
    have hget := get_eq h hplain hleft (by decide : Access.full ≠ .unreadable)
      (visible?_of_table? ht') hfield (.integer k)
    rw [filter_addRow _ hfresh hmeets] at hget
    exact hget
  · have hcell := shown_new db.machine (written columns fields) k hi
    rw [if_pos hkey.1] at hcell
    exact hstored.get?_record hfits hi hcell
  · obtain ⟨j, hj⟩ := List.mem_iff_getElem?.1 hother
    exact get?_new_of_spells hstored.toWellFormed db.machine hdata hcolumns hfields k hp hj hnot hspells
  · exact readBack_of_asked hstored.toWellFormed hdata hcolumns hfields hk hp hi hkey hspells hnull
  · obtain ⟨j, hj⟩ := List.mem_iff_getElem?.1 hother
    exact get?_new_of_not_sets hstored.toShaped db.machine hcolumns hfields k hj hnot hset

end

/-- A fourth person. -/
theorem insert_round_trip_people :
    ∃ data db' t' new key,
      Dispatch.invoke (connection .full) "insertPeople" [.fields data] people =
        (.ok (.affectedCount 1), db') ∧
      data = Record.ofList [("name", .text "eve")] ∧
      db'.table? "people" = some t' ∧ Inserted people db' peopleTable t' new ∧
      RoundTrip people db' "People" "Id" key peopleTable
        { name := "id", affinity := .integer, isKey := true } data new.id
        (peopleTable.record new) := by
  let data := Record.ofList [("name", .text "eve")]
  have htokens : Operation.Tokens "People" "Id" := ⟨by decide, by decide, by decide⟩
  have hnames : Names "People" "Id" ⟨"people", by decide⟩ ⟨"id", by decide⟩ :=
    ⟨htokens, by decide, by decide⟩
  have hdata : Fitting peopleTable data := by
    intro p hp
    obtain rfl := List.mem_singleton.1 hp
    exact ⟨_, .tail _ (.head _), ⟨⟨"name", by decide⟩, by decide, sameName_refl _⟩, .text "eve"⟩
  have hinsert : Dispatch.invoke (connection .full) "insertPeople" [.fields data] people =
      (.ok (.affectedCount 1),
        (Dispatch.invoke (connection .full) "insertPeople" [.fields data] people).2) :=
    Prod.ext (by decide +kernel) rfl
  obtain ⟨-, t', new, ht', hinserted, htrip⟩ := insert_round_trip reachable_people hnames
    table?_people (.head _) ⟨rfl, rfl⟩ (sameName_refl _) hdata hinsert
  exact ⟨data, _, t', new, _, hinsert, rfl, ht', hinserted, htrip⟩

/-- Not every row is found by its id: the key can have a name that is another word on the left of a
comparison.  Not every column that nothing is given for is null, for it can have a default.  And not
every row stays as it was: one of the used ids can change. -/
theorem round_trip_part :
    (∃ db db', Reachable db ∧
      Dispatch.invoke (connection .full) "insertT" [.fields (Record.ofList [("name", .text "a")])]
          db = (.ok (.affectedCount 1), db') ∧
      (Dispatch.invoke (connection .full) "getTById" [.scalar (.integer 1)] db').1 =
        .ok (.singleRecord (Record.ofList
          [("id", .integer 1), ("n", .integer 5), ("name", .text "a")]))) ∧
    (Reachable (keyedBy "null") ∧ ∃ db,
      Dispatch.invoke (connection .full) "insertT" [.fields (Record.ofList [("name", .text "a")])]
          (keyedBy "null") = (.ok (.affectedCount 1), db) ∧
      (Dispatch.invoke (connection .full) "lastInsertId" [] db).1 = .ok (.generatedId 1) ∧
      (Dispatch.invoke (connection .full) "getTByNull" [.scalar (.integer 1)] db).1 =
        .ok .noRows) ∧
    (Reachable (keyedBy "order") ∧ ∃ db,
      Dispatch.invoke (connection .full) "insertT" [.fields (Record.ofList [("name", .text "a")])]
          (keyedBy "order") = (.ok (.affectedCount 1), db) ∧
      (Dispatch.invoke (connection .full) "lastInsertId" [] db).1 = .ok (.generatedId 1) ∧
      (Dispatch.invoke (connection .full) "getTByOrder" [.scalar (.integer 1)] db).1 =
        .error (.database (-1)
          "near \"order\": syntax error in SELECT * FROM t WHERE order = ?1 at offset 22")) ∧
    (Reachable (counting 1) ∧ ∃ db,
      Dispatch.invoke (connection .full) "insertT" [.fields (Record.ofList [("id", .null)])]
          (counting 1) = (.ok (.affectedCount 1), db) ∧
      (Dispatch.invoke (connection .full) "getSqliteSequenceByName" [.scalar (.text "t")]
          (counting 1)).1 =
        .ok (.singleRecord (Record.ofList [("name", .text "t"), ("seq", .integer 1)])) ∧
      (Dispatch.invoke (connection .full) "getSqliteSequenceByName" [.scalar (.text "t")] db).1 =
        .ok (.singleRecord (Record.ofList [("name", .text "t"), ("seq", .integer 2)]))) := by
  have hcreated := Reachable.empty.batch .full
    "CREATE TABLE t (id INTEGER PRIMARY KEY, n INTEGER DEFAULT 5, name TEXT)"
  refine ⟨⟨_, _, hcreated, Prod.ext ?_ rfl, ?_⟩,
    ⟨reachable_keyedBy _ ?_, _, Prod.ext ?_ rfl, ?_, ?_⟩,
    ⟨reachable_keyedBy _ ?_, _, Prod.ext ?_ rfl, ?_, ?_⟩,
    reachable_counting 1 ?_, _, Prod.ext ?_ rfl, ?_, ?_⟩
  all_goals decide +kernel

end Database

end CrudByName
