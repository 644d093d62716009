import CrudByName.Database.Table

/-!
# The catalog

A database describes itself in a table that can be looked up but not changed: the catalog.  It has a
row for every table, in the order in which they were created, and behind it one for every index that
stands for a column without repetitions.  A row tells on which page of the file its object begins;
the first page is that of the catalog itself.

There is another catalog for temporary tables, of which there are none.

Some further names stand for tables that are functions, such as those of pragmas.  They hold no rows
of their own and are not described here; a lookup in one of them is not carried out.
-/

namespace CrudByName

namespace Database

namespace Catalog

/-- The columns of a catalog. -/
def columns : List Column :=
  [("type", .text), ("name", .text), ("tbl_name", .text), ("rootpage", .integer),
    ("sql", .text)].map fun (name, affinity) => {
      name := name
      affinity := affinity }

/-- A text as a cell. -/
def textCell (s : String) : Cell :=
  .text s.toUTF8

/-- A page as a cell. -/
def pageCell (page : Nat) : Cell :=
  .integer (Int64.ofNat page)

/-- How many indexes a table has. -/
def indexCount (t : Table) : Nat :=
  (t.columns.filter Column.isIndexed).length

/-- The cells of a table. -/
def tableCells (t : Table) (page : Nat) : List Cell :=
  [textCell "table", textCell t.name, textCell t.name, pageCell page, textCell t.definition]

/-- The cells of an index, which are counted from one. -/
def indexCells (t : Table) (page number : Nat) : List Cell :=
  let name := s!"sqlite_autoindex_{t.name}_" ++ Decimal.natText number
  [textCell "index", textCell name, textCell t.name, pageCell (page + number), .null]

/-- The cells of a table and its indexes, which begin on that page and those that follow. -/
def cellsOf (t : Table) (page : Nat) : List (List Cell) :=
  tableCells t page :: (List.range (indexCount t)).map fun i => indexCells t page (i + 1)

/-- The cells of tables that begin on that page. -/
def cellsFrom : (page : Nat) → List Table → List (List Cell)
  | _, [] => []
  | page, t :: rest => cellsOf t page ++ cellsFrom (page + 1 + indexCount t) rest

/-- A catalog of that name. -/
def ofTables (name : String) (tables : List Table) : Table where
  name := name
  columns := columns
  rows := (cellsFrom 2 tables).zipIdx.map fun (cells, i) => ⟨Int64.ofNat (i + 1), cells⟩
  definition := ""

/-- The catalog of a name, if it is one of its names in any case of letters. -/
def named? (tables : List Table) (name : String) : Option Table :=
  if ["sqlite_master", "sqlite_schema"].any (sameName name) then
    some (ofTables "sqlite_master" tables)
  else if ["sqlite_temp_master", "sqlite_temp_schema"].any (sameName name) then
    some (ofTables "sqlite_temp_master" [])
  else none

/-- Whether a name is reserved for the tables of the database itself. -/
def isReserved (name : String) : Bool :=
  "sqlite_".toList.isPrefixOf (foldCase name).toList

/-- Whether a name can be that of a table which is a function. -/
def isFunction (name : String) : Bool :=
  "pragma_".toList.isPrefixOf (foldCase name).toList ||
    ["json_each", "json_tree", "dbstat", "fts3tokenize"].any (sameName name)

/-- The fault where no table has a name. -/
def missing (name : String) : Fault :=
  if isFunction name then .unsupportedTable name else .noTable name

end Catalog

end Database

end CrudByName
