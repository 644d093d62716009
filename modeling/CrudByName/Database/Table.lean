import CrudByName.Database.Affinity
import CrudByName.Database.Fault
import CrudByName.Record

/-!
# Tables

A `Table` has columns and rows; the rows stand in the order of their ids.  A column may be the key,
which is the row id itself.  So a name leads to a `Field`, the id or a cell: the name of a column,
or one of the names that every table has for its ids.  A primary key of another type is a column
like the others, in which no cell may repeat.

One predicate, `Table.selects`, decides which rows a lookup finds, whatever is then done with them.
An insert or update goes through `Table.checkRow`, which checks a row against the constraints before
it is let in: a missing value first, then the id, then the columns whose cells may not repeat, the
last of them first.  An update works from row to row (`Table.update`), and as the result of a step
is a table or a fault, a fault on the way leaves nothing behind.

A new row that asks for no id gets the one behind the largest.  When there is none behind it, ids
are drawn at random, a hundred at most, until one is free (`Table.drawnId?`).  The random numbers
are given.
-/

namespace CrudByName

namespace Database

/-- One column of a table. -/
structure Column where
  name : String
  affinity : Affinity
  /-- Whether it is the row id. -/
  isKey : Bool := false
  autoincrement : Bool := false
  /-- Whether it is a primary key of its own, and not the row id. -/
  isPrimary : Bool := false
  notNull : Bool := false
  unique : Bool := false
  /-- What a row is given that is given nothing. -/
  default : Constant := .literal .null
  deriving DecidableEq

/-- Whether no cell of the column may repeat, which an index watches over. -/
def Column.isIndexed (c : Column) : Bool :=
  c.unique || c.isPrimary

/-- The cell of a column in a row that is given nothing for it. -/
def Column.initial (c : Column) (m : Machine) : Cell :=
  c.affinity.store (c.default.cell m).settled

/-- The cell of a column in a new row: what is given for it, converted, or else what it has by
itself. -/
def Column.newCell (c : Column) (m : Machine) (given : Option Cell) : Cell :=
  match given with
  | some new => c.affinity.store new
  | none => c.initial m

/-- The fault of a cell that stands in another row as well. -/
def Column.repeated (c : Column) (table : String) : Fault :=
  if c.isPrimary then .keyTaken table c.name else .notUnique table c.name

/-- A row: its id, and a cell for every column, of which that of the key does not count. -/
structure Row where
  id : Int64
  cells : List Cell
  deriving DecidableEq

/-- A table, with the text that defines it. -/
structure Table where
  name : String
  columns : List Column
  rows : List Row
  definition : String
  deriving DecidableEq

/-- A part of a row that has a name. -/
inductive Field where
  | id
  | cell (index : Nat)
  deriving DecidableEq, Repr

/-- Names are compared without regard to the case of ASCII letters. -/
def foldCase (s : String) : String :=
  String.ofList (s.toList.map Char.toLower)

/-- Whether two names are one. -/
def sameName (a b : String) : Bool :=
  foldCase a == foldCase b

/-! ## Reading rows -/

/-- The cells of a row as they are seen, the key among them. -/
def Row.shown (columns : List Column) (r : Row) : List Cell :=
  List.zipWith (fun c cell => if c.isKey then .integer r.id else cell) columns r.cells

namespace Table

/-- The names for ids that need no column. -/
def idNames : List String :=
  ["rowid", "oid", "_rowid_"]

/-- The field of a column. -/
def fieldOf (c : Column) (index : Nat) : Field :=
  if c.isKey then .id else .cell index

/-- The field of that name; a column goes before another name for ids. -/
def field? (t : Table) (name : String) : Option Field :=
  match t.columns.zipIdx.find? fun (c, _) => sameName c.name name with
  | some (c, i) => some (fieldOf c i)
  | none => if idNames.contains (foldCase name) then some .id else none

/-- The names of the columns, in their order. -/
def columnNames (t : Table) : List String :=
  t.columns.map Column.name

/-- The cells of a row under the names of the columns. -/
def record (t : Table) (r : Row) : Record :=
  Record.ofList (t.columnNames.zip ((r.shown t.columns).map Cell.toValue))

/-! ## Looking up -/

/-- Whether a field of a row is what is looked for.  An id is found by a whole number only. -/
def selects (t : Table) (field : Field) (wanted : Cell) (r : Row) : Bool :=
  match field with
  | .id => wanted.rowId? == some r.id
  | .cell i =>
    match t.columns[i]?, r.cells[i]? with
    | some c, some cell => (c.affinity.probe wanted).equals cell
    | _, _ => false

/-! ## Constraints -/

/-- The fault of an id that another row has. -/
def idTaken (t : Table) : Fault :=
  match t.columns.find? Column.isKey with
  | some c => .keyTaken t.name c.name
  | none => .idTaken t.name

/-- The first of the given columns that may not be null and is. -/
def nullColumn? (t : Table) (touched : Nat → Bool) (r : Row) : Option Column :=
  ((t.columns.zip r.cells).zipIdx.find? fun ((c, cell), i) =>
    touched i && c.notNull && !c.isKey && cell.isNull).map (·.1.1)

/-- Whether a row other than `self` holds the cell. -/
def heldElsewhere (t : Table) (self : Option Int64) (i : Nat) (cell : Cell) : Bool :=
  t.rows.any fun r => some r.id != self && ((r.cells[i]?).getD .null).equals cell

/-- The last column that may not repeat a cell and would. -/
def repeatedColumn? (t : Table) (self : Option Int64) (r : Row) : Option Column :=
  ((t.columns.zip r.cells).zipIdx.reverse.find? fun ((c, cell), i) =>
    c.isIndexed && !c.isKey && t.heldElsewhere self i cell).map (·.1.1)

/-- Lets a row in, in the place of the row `self` if there is one.  Only touched columns can have
become null. -/
def checkRow (t : Table) (self : Option Int64) (touched : Nat → Bool) (r : Row) :
    Except Fault Unit :=
  match t.nullColumn? touched r with
  | some c => .error (.nullIn t.name c.name)
  | none =>
    if some r.id ≠ self ∧ t.rows.any (fun other => other.id == r.id) then
      .error t.idTaken
    else
      match t.repeatedColumn? self r with
      | some c => .error (c.repeated t.name)
      | none => .ok ()

/-! ## Changing rows -/

/-- Puts a row in its place by id. -/
def insertInOrder (r : Row) : List Row → List Row
  | [] => [r]
  | s :: rest => if r.id < s.id then r :: s :: rest else s :: insertInOrder r rest

/-- Whether the table remembers all ids that were ever used in it. -/
def autoincrements (t : Table) : Bool :=
  t.columns.any Column.autoincrement

/-- The largest id of the rows, if there are any. -/
def largestId? (t : Table) : Option Int :=
  (t.rows.map fun r => r.id.toInt).max?

/-- How often an id is drawn at random. -/
def drawLimit : Nat := 100

/-- The id that a random number stands for, which is not in the upper half. -/
def drawn (n : UInt64) : Int64 :=
  Int64.ofNat (n.toNat % 2 ^ 62 + 1)

/-- The first id of those drawn that no row has.  When no random numbers are left, they are zero. -/
def drawnId? (t : Table) (draws : List UInt64) : Option Int64 :=
  ((List.range drawLimit).map fun i => drawn ((draws[i]?).getD 0)).find? fun id =>
    !t.rows.any fun r => r.id == id

/-- The id of a new row that asks for none.  It follows the largest one, with autoincrement also all
that were ever used.  When there is none above, a table with autoincrement is full, and another
takes one that is drawn. -/
def nextId (t : Table) (used : Int) (draws : List UInt64) : Except Fault Int64 :=
  let after : Int := match t.largestId? with
    | some n => n + 1
    | none => 1
  if t.autoincrements then
    let next := max after (used + 1)
    if next < 2 ^ 63 then .ok (Int64.ofInt next) else .error .full
  else if after < 2 ^ 63 then .ok (Int64.ofInt after)
  else
    match t.drawnId? draws with
    | some id => .ok id
    | none => .error .full

/-- The id of a new row. -/
def idFor (t : Table) (used : Int) (draws : List UInt64) (asked : Option Cell) :
    Except Fault Int64 :=
  match asked with
  | none | some .null => t.nextId used draws
  | some c =>
    match c.rowId? with
    | some id => .ok id
    | none => .error .mismatch

/-- The cell given for a field, the first of several. -/
def given? (cells : List (Field × Cell)) (field : Field) : Option Cell :=
  cells.lookup field

/-- The cells of a new row. -/
def newCells (t : Table) (m : Machine) (cells : List (Field × Cell)) : List Cell :=
  t.columns.zipIdx.map fun (c, i) => c.newCell m (given? cells (.cell i))

/-- The table with one row more. -/
def addRow (t : Table) (r : Row) : Table :=
  { t with rows := insertInOrder r t.rows }

/-- Adds a row, and gives its id; `used` is the largest id that was ever used.  Of several cells for
a column the first counts, of several for the id the last. -/
def insert (t : Table) (used : Int) (m : Machine) (cells : List (Field × Cell)) :
    Except Fault (Int64 × Table) := do
  let id ← t.idFor used m.draws (given? cells.reverse .id)
  let row : Row := ⟨id, t.newCells m cells⟩
  t.checkRow none (fun _ => true) row
  return (id, t.addRow row)

/-- The id of a row that is given another one. -/
def changedId (cells : List (Field × Cell)) (r : Row) : Except Fault Int64 :=
  match given? cells .id with
  | none => .ok r.id
  | some c =>
    match c.rowId? with
    | some id => .ok id
    | none => .error .mismatch

/-- A row with some of its cells replaced. -/
def changed (t : Table) (cells : List (Field × Cell)) (r : Row) : Except Fault Row := do
  let id ← changedId cells r
  return ⟨id, (t.columns.zip r.cells).zipIdx.map fun ((c, cell), i) =>
    match given? cells (.cell i) with
    | some new => c.affinity.store new
    | none => cell⟩

/-- Replaces a row by another, which may have a different id. -/
def replaceRow (t : Table) (old : Int64) (new : Row) : Table :=
  { t with rows := insertInOrder new (t.rows.filter fun r => r.id != old) }

/-- Changes one row, if the constraints allow it. -/
def updateRow (cells : List (Field × Cell)) (t : Table) (r : Row) : Except Fault Table := do
  let new ← t.changed cells r
  t.checkRow (some r.id) (fun i => (given? cells (.cell i)).isSome) new
  return t.replaceRow r.id new

/-- Changes the rows that meet `p`, one after the other, and counts them.  Of several cells for a
field the last counts. -/
def update (t : Table) (p : Row → Bool) (cells : List (Field × Cell)) :
    Except Fault (Nat × Table) := do
  let found := t.rows.filter p
  let t ← found.foldlM (updateRow cells.reverse) t
  return (found.length, t)

/-- Drops the rows that meet `p`, and counts them. -/
def delete (t : Table) (p : Row → Bool) : Nat × Table :=
  ((t.rows.filter p).length, { t with rows := t.rows.filter fun r => !p r })

end Table

end Database

end CrudByName
