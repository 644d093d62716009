import CrudByName.Connection
import CrudByName.Database.Catalog
import CrudByName.Database.Command
import CrudByName.Database.Sequence

/-!
# The database

A `Database` is a list of tables, the id of the last insert, and, while a transaction is open, the
tables as they were when it began.  `Database.run` carries out one command and gives an answer with
the new database, or a fault; a fault comes without a database, so that a command which fails has
changed nothing.  What a fault does to a transaction is said apart (`Database.afterFault`): only
when no id is left for a new row, an open transaction is undone.

A command is first resolved against the tables: the table is looked up, then the columns it names,
those of an insert or of the changes before that of the lookup.  Only then are the parameters
counted and, if the connection may write at all (`Access`), rows touched.

`Database.connection` drives a database by text, with positions behind question marks as
placeholders.  `Database.executeBatch` runs all statements of a text and stops at the first that
fails.

## Which databases there are

The tables of a database were made by the creations that `CrudByName.Database.Command` reads: their
columns can have any type, a primary key, defaults, and cells that must not be null or must not
repeat.  There are no foreign keys, conditions on rows, collations, clauses that resolve a conflict,
further indexes, views or triggers, and nothing limits the size of a file.  What a database with
such things does is not said here.  In particular a fault leaves no part of a statement behind and
ends no transaction, except where no id is left, because a constraint always aborts its statement.

What a command asks of its surroundings is part of the state (`Machine`), and `Database.within`
changes it: the moment, which is the same all through a command, and random numbers.
-/

namespace CrudByName

namespace Database

/-- The machine behind an insert, which has had its share of random numbers. -/
def Machine.afterInsert (m : Machine) : Machine :=
  { m with draws := m.draws.drop Table.drawLimit }

end Database

/-- Tables, the last id given by an insert, and the tables before an open transaction; and the
machine it all runs on. -/
structure Database where
  tables : List Database.Table
  lastInsertId : Int64
  before : Option (List Database.Table)
  machine : Database.Machine := {}
  deriving DecidableEq

namespace Database

/-- What a connection may do with a database. -/
inductive Access where
  | full
  | readOnly
  /-- No journal can be kept beside its file, which is noticed when something is to be written. -/
  | withoutJournal
  /-- Its file is none of a database, which is noticed when a table is due. -/
  | unreadable
  deriving DecidableEq, Repr

/-- A new database. -/
def empty : Database where
  tables := []
  lastInsertId := 0
  before := none

/-- The database on another machine, or at another moment. -/
def within (db : Database) (m : Machine) : Database :=
  { db with machine := m }

/-- Whether no transaction is open. -/
def autocommit (db : Database) : Bool :=
  db.before.isNone

/-- The table of a name. -/
def table? (db : Database) (name : String) : Option Table :=
  db.tables.find? fun t => sameName t.name name

/-- Puts a table in the place of the one of that name. -/
def replaceTable (t : Table) (tables : List Table) : List Table :=
  tables.map fun other => if sameName other.name t.name then t else other

/-- The database with a table in the place of the one of its name. -/
def setTable (db : Database) (t : Table) : Database :=
  { db with tables := replaceTable t db.tables }

/-- Undoes an open transaction. -/
def undone (db : Database) : Database :=
  { db with tables := db.before.getD db.tables, before := none }

/-- The database as the next connection finds it: an open transaction is undone, and no insert has
been made yet. -/
def reopened (db : Database) : Database :=
  { db.undone with lastInsertId := 0 }

/-- The database after a command has failed.  As no constraint can say what becomes of a conflict
and no file has a limit, a transaction is undone for one reason only, which is that no id is
left. -/
def afterFault (db : Database) : Fault → Database
  | .full => db.undone
  | _ => db

theorem afterFault_of_ne_full {fault : Fault} (h : fault ≠ .full) (db : Database) :
    db.afterFault fault = db := by
  cases fault with
  | full => exact absurd rfl h
  | _ => rfl

/-! ## Resolving names -/

/-- Looks for a table, if the database can be read. -/
def findTable (access : Access) (db : Database) (n : Name) : Except Fault (Option Table) :=
  if access = .unreadable then .error .noDatabase else .ok (db.table? n.text)

/-- The table of a name, or a catalog. -/
def resolveTable (access : Access) (db : Database) (n : Name) : Except Fault Table := do
  match ← findTable access db n, Catalog.named? db.tables n.text with
  | some t, _ | none, some t => return t
  | none, none => throw (Catalog.missing n.text)

/-- The table of a name that is going to be changed, which a catalog cannot be. -/
def resolveChanging (access : Access) (db : Database) (n : Name) : Except Fault Table := do
  match ← findTable access db n, Catalog.named? db.tables n.text with
  | some t, _ => return t
  | none, some t => throw (.notModified t.name)
  | none, none => throw (Catalog.missing n.text)

/-- The field of a name, or the given fault. -/
def Table.resolve (t : Table) (missing : String → Fault) (n : Name) : Except Fault Field :=
  match t.field? n.text with
  | some field => .ok field
  | none => .error (missing n.text)

/-- The cell that a name stands for in a comparison, where no column is called by it: a truth value
for a word, text for a name in double quotes. -/
def Name.cell? (n : Name) : Option Cell :=
  match n.written.toList.head? with
  | some '"' => some (.text n.text.toUTF8)
  | some '[' | some '\x60' => none
  | _ =>
    if sameName n.text "true" then some (.integer 1)
    else if sameName n.text "false" then some (.integer 0)
    else none

/-- Which rows a lookup finds, as far as that is known without the parameters. -/
inductive Lookup where
  | all
  | byField (field : Field) (wanted : Operand)
  /-- All rows or none: those for which a cell, the same for all, is what is looked for. -/
  | byCell (cell : Cell) (wanted : Operand)
  deriving DecidableEq

/-- The lookup of a condition. -/
def Table.resolveFilter (t : Table) (m : Machine) : Filter → Except Fault Lookup
  | .all => .ok .all
  | .equal (.constant k) wanted => .ok (.byCell (k.cell m) wanted)
  | .equal (.column n) wanted =>
    match t.field? n.text, n.cell? with
    | some field, _ => .ok (.byField field wanted)
    | none, some cell => .ok (.byCell cell wanted)
    | none, none => .error (.noColumnAt n.text n.left)

/-- The cell of an operand, as the database takes it in. -/
def Operand.cell (params : List Cell) : Operand → Cell
  | .param n => ((params[n - 1]?).getD .null).settled
  | .literal c => c.settled

/-- Whether a lookup finds a row. -/
def Table.finds (t : Table) (params : List Cell) (l : Lookup) (r : Row) : Bool :=
  match l with
  | .all => true
  | .byField field wanted => t.selects field (wanted.cell params) r
  | .byCell cell wanted => cell.equals (wanted.cell params)

/-! ## Running commands -/

/-- What a command gives: records, or a number of rows. -/
inductive Answer where
  | rows (records : List Record)
  | count (n : Nat)
  deriving DecidableEq

/-- Counts the parameters of a command. -/
def checkParams (needed : Nat) (params : List Cell) : Except Fault Unit :=
  if params.length = needed then .ok ()
  else .error (.parameterCount (min params.length (needed + 1)) needed)

/-- Counts the cells that are given for columns. -/
def checkCells (columns : List Name) (cells : List Operand) : Except Fault Unit :=
  if cells.length = columns.length then .ok ()
  else .error (.cellCount cells.length columns.length)

/-- Refuses to write where that is not allowed. -/
def checkWritable (access : Access) : Except Fault Unit :=
  match access with
  | .readOnly => .error .readOnly
  | .withoutJournal => .error .noJournal
  | .full | .unreadable => .ok ()

/-! ## New tables -/

namespace ColumnDef

/-- The primary keys that a column is said to be, each of them descending or not and with
autoincrement or not. -/
def keys (c : ColumnDef) : List (Bool × Bool) :=
  c.constraints.filterMap fun
    | .primaryKey descending autoincrement => some (descending, autoincrement)
    | _ => none

/-- Whether a key, descending or not, makes a column the row id.  An ascending one does, where the
type is one word and no other. -/
def keysRowId (c : ColumnDef) (descending : Bool) : Bool :=
  upper c.type.toList = "INTEGER".toList && !descending

/-- Whether a column is the row id. -/
def isRowId (c : ColumnDef) : Bool :=
  c.keys.any fun (descending, _) => c.keysRowId descending

/-- The last of the defaults that a column has. -/
def default? (c : ColumnDef) : Option Constant :=
  (c.constraints.filterMap fun
    | .default k => some k
    | _ => none).getLast?

/-- The column of a definition. -/
def column (c : ColumnDef) : Column where
  name := c.name.text
  affinity := Affinity.ofType (upper c.type.toList)
  isKey := c.isRowId
  autoincrement := c.keys.any Prod.snd
  isPrimary := !c.keys.isEmpty && !c.isRowId
  notNull := c.constraints.contains .notNull
  unique := c.constraints.contains .unique
  default := c.default?.getD (.literal .null)

/-- The fault of the primary keys that a column is said to be, where one may stand before it. -/
def keyFault? (table : String) (keyed : Bool) (c : ColumnDef) : Option Fault :=
  match c.keys with
  | [] => none
  | (descending, autoincrement) :: more =>
    if keyed then some (.keyTwice table)
    else if autoincrement && !c.keysRowId descending then some .autoincrementRefused
    else if more ≠ [] then some (.keyTwice table)
    else none

end ColumnDef

/-- The fault of the first column that cannot stand behind those before it: one of them has its
name, or it is a key that it cannot be. -/
def columnFault? (table : String) (before : List ColumnDef) : List ColumnDef → Option Fault
  | [] => none
  | c :: rest =>
    if before.any fun b => sameName b.name.text c.name.text then some (.columnTwice c.name.text)
    else
      match c.keyFault? table (before.any fun b => !b.keys.isEmpty) with
      | some fault => some fault
      | none => columnFault? table (before ++ [c]) rest

/-- Adds a table, and with the first one that has autoincrement the table of used ids. -/
def addTable (db : Database) (t : Table) : Database :=
  let needsSequence := t.autoincrements && (db.table? Sequence.name).isNone
  { db with tables := db.tables ++ t :: if needsSequence then [Sequence.empty] else [] }

/-- Creates a table without rows. -/
def createTable (access : Access) (db : Database) (n : Name) (columns : List ColumnDef)
    (definition : String) : Except Fault Database := do
  if Catalog.isReserved n.text then throw (.reservedName n.text)
  if (← findTable access db n).isSome then throw (.tableExists n.written n.left)
  match columnFault? n.text [] columns with
  | some fault => throw fault
  | none =>
    checkWritable access
    return db.addTable {
      name := n.text
      columns := columns.map ColumnDef.column
      rows := []
      definition := definition }

/-! ## Rows -/

/-- The largest id that was ever used in a table, as far as that is kept. -/
def usedId (db : Database) (t : Table) : Int :=
  match db.table? Sequence.name with
  | some sequence => Sequence.used sequence t.name
  | none => 0

/-- Notes that an id was used in a table. -/
def noteId (db : Database) (t : Table) (id : Int64) : Except Fault Database :=
  match t.autoincrements, db.table? Sequence.name with
  | true, some sequence =>
    (Sequence.noted sequence db.machine.draws t.name id.toInt).map db.setTable
  | _, _ => .ok db

/-- The database behind an insert under that id. -/
def afterInsert (db : Database) (id : Int64) : Database :=
  { db with lastInsertId := id, machine := db.machine.afterInsert }

/-- Looks rows up. -/
def runSelect (access : Access) (db : Database) (params : List Cell) (needed : Nat) (n : Name)
    (filter : Filter) : Except Fault (Answer × Database) := do
  let t ← resolveTable access db n
  let found ← t.resolveFilter db.machine filter
  checkParams needed params
  return (.rows ((t.rows.filter (t.finds params found)).map t.record), db)

/-- Adds a row. -/
def runInsert (access : Access) (db : Database) (params : List Cell) (needed : Nat) (n : Name)
    (columns : List Name) (cells : List Operand) : Except Fault (Answer × Database) := do
  let t ← resolveChanging access db n
  let fields ← columns.mapM (t.resolve fun c => .noColumnIn n.text c)
  checkCells columns cells
  checkParams needed params
  checkWritable access
  let (id, t) ← t.insert (db.usedId t) db.machine (fields.zip (cells.map (·.cell params)))
  let noted ← (db.setTable t).noteId t id
  return (.count 1, noted.afterInsert id)

/-- Changes rows. -/
def runUpdate (access : Access) (db : Database) (params : List Cell) (needed : Nat) (n : Name)
    (changes : List (Name × Operand)) (filter : Filter) : Except Fault (Answer × Database) := do
  let t ← resolveChanging access db n
  let fields ← changes.mapM fun c => t.resolve .noColumn c.1
  let found ← t.resolveFilter db.machine filter
  checkParams needed params
  checkWritable access
  let (count, t) ← t.update (t.finds params found) (fields.zip (changes.map (·.2.cell params)))
  return (.count count, db.setTable t)

/-- Drops rows. -/
def runDelete (access : Access) (db : Database) (params : List Cell) (needed : Nat) (n : Name)
    (filter : Filter) : Except Fault (Answer × Database) := do
  let t ← resolveChanging access db n
  let found ← t.resolveFilter db.machine filter
  checkParams needed params
  checkWritable access
  let (count, t) := t.delete (t.finds params found)
  return (.count count, db.setTable t)

/-- Carries out a command. -/
def run (access : Access) (db : Database) (params : List Cell) (c : Command) :
    Except Fault (Answer × Database) :=
  match c with
  | .select n filter => runSelect access db params c.paramCount n filter
  | .insert n columns cells => runInsert access db params c.paramCount n columns cells
  | .update n changes filter => runUpdate access db params c.paramCount n changes filter
  | .delete n filter => runDelete access db params c.paramCount n filter
  | .create n columns definition =>
    (createTable access db n columns definition).map fun db => (.count 0, db)
  | .beginTransaction =>
    if db.autocommit then .ok (.count 0, { db with before := some db.tables })
    else .error .openTransaction
  | .commit =>
    if db.autocommit then .error (.noTransaction "commit")
    else .ok (.count 0, { db with before := none })
  | .rollback =>
    match db.before with
    | none => .error (.noTransaction "rollback")
    | some tables => .ok (.count 0, { db with tables := tables, before := none })

/-! ## Running text -/

/-- Runs the first statement of a text. -/
def runText (access : Access) (db : Database) (sql : List Char) (params : List Value) :
    Except Fault (Answer × Database) := do
  match ← Command.parse sql with
  | none => return (.count 0, db)
  | some c => run access db (params.map Cell.ofValue) c

/-- Runs one statement of a text, with null for all parameters. -/
def runStatement (access : Access) (text : List Char) (db : Database) (s : List Lexeme) :
    Except Fault Database := do
  match ← Command.ofStatement text s with
  | none => return db
  | some c => return (← run access db (List.replicate c.paramCount .null) c).2

/-- Runs statements one after the other, up to the first that fails.  The text is what follows the
statements run so far, and is what a fault points into. -/
def runStatements (access : Access) (text : List Char) (db : Database) :
    List (List Lexeme) → Except BackendError Unit × Database
  | [] => (.ok (), db)
  | s :: more =>
    match runStatement access text db s with
    | .error fault => (.error (fault.report text), db.afterFault fault)
    | .ok db => runStatements access (Lexeme.after text s) db more

/-- Runs all statements of a text, up to the first that fails. -/
def executeBatch (access : Access) (sql : String) (db : Database) :
    Except BackendError Unit × Database :=
  runStatements access sql.toList db (Lexeme.statements (Lexeme.scan sql.toList))

/-! ## The connection -/

/-- How many rows were touched. -/
def Answer.touched : Answer → Nat
  | .rows _ => 0
  | .count n => n

/-- The rows that were found. -/
def Answer.records : Answer → List Record
  | .rows rs => rs
  | .count _ => []

/-- Answers a call with a part of the answer. -/
def call (access : Access) (part : Answer → α) (db : Database) (sql : String)
    (params : List Value) : Except BackendError α × Database :=
  match runText access db sql.toList params with
  | .ok (answer, db) => (.ok (part answer), db)
  | .error fault => (.error (fault.report sql.toList), db.afterFault fault)

/-- The connection to a database. -/
def connection (access : Access) : Connection Database where
  style _ := .indexed
  execute sql params db := call access Answer.touched db sql params
  query sql params db := call access Answer.records db sql params
  lastInsertId db := (.ok db.lastInsertId, db)

end Database

end CrudByName
