import CrudByName.Outcome
import CrudByName.Text.Columns

/-!
# Outcomes as text

An outcome is shown as a count, as the last id, or as a grid of its records.  A `Grid` has an
optional header and rows of cells; every column is as wide as its widest line and every row as high
as its highest cell.  The header of a grid of records is the names of the first record, and each
record fills its row with its values from left to right (`Grid.ofRecords`).
-/

namespace CrudByName

/-- Cells in rows, under a header if there is one. -/
structure Grid where
  header : Option (List String)
  rows : List (List String)
  deriving DecidableEq, Repr

namespace Grid

/-- A cell by its lines. -/
abbrev Cell := List (List Char)

/-- The cell of a text. -/
def cellOf (s : String) : Cell :=
  Text.lines s.toList

/-- All rows of a grid, the header first. -/
def allRows (g : Grid) : List (List String) :=
  g.header.toList ++ g.rows

/-- How many columns a grid has: as many as its longest row. -/
def columnCount (g : Grid) : Nat :=
  (g.allRows.map List.length).foldl max 0

/-- A row with a cell for every column; missing ones are empty. -/
def filled (count : Nat) (row : List String) : List Cell :=
  (row ++ List.replicate (count - row.length) "").map cellOf

/-- How wide a cell is; an empty one takes up a column as well. -/
def cellWidth (c : Cell) : Nat :=
  (c.map Text.width).foldl max 1

/-- The width of each column. -/
def columnWidths (count : Nat) (rows : List (List Cell)) : List Nat :=
  rows.foldl (fun widths row => List.zipWith (fun w c => max w (cellWidth c)) widths row)
    (List.replicate count 1)

/-! ## Lines -/

/-- A line across the grid. -/
def rule (left stroke cross right : Char) (widths : List Nat) : List Char :=
  left :: [cross].intercalate (widths.map fun w => List.replicate (w + 2) stroke) ++ [right]

/-- A line filled up to a width, with a blank on either side. -/
def padded (width : Nat) (line : List Char) : List Char :=
  ' ' :: line ++ List.replicate (width - Text.width line + 1) ' '

/-- One line of a row. -/
def rowLine (widths : List Nat) (cells : List Cell) (i : Nat) : List Char :=
  '│' :: ['┆'].intercalate
    (List.zipWith (fun w cell => padded w (cell.getD i [])) widths cells) ++ ['│']

/-- The lines of a row, as many as its highest cell has. -/
def rowLines (widths : List Nat) (cells : List Cell) : List (List Char) :=
  (List.range ((cells.map List.length).foldl max 0)).map (rowLine widths cells)

/-- The lines of a grid. -/
def render (g : Grid) : List (List Char) :=
  let count := g.columnCount
  let header := g.header.map (filled count)
  let rows := g.rows.map (filled count)
  let widths := columnWidths count (header.toList ++ rows)
  let headerLines := match header with
    | some cells => rowLines widths cells ++ [rule '╞' '═' '╪' '╡' widths]
    | none => []
  rule '┌' '─' '┬' '┐' widths :: headerLines ++
    [rule '├' '╌' '┼' '┤' widths].intercalate (rows.map (rowLines widths)) ++
    [rule '└' '─' '┴' '┘' widths]

/-- The grid of records. -/
def ofRecords (records : List Record) : Grid where
  header := records.head?.map Record.names
  rows := records.map fun r => r.values.map Value.display

end Grid

/-! ## Outcomes -/

/-- A grid of records with their number under it. -/
def showRecords (records : List Record) : List Char :=
  let noun := if records.length = 1 then "row" else "rows"
  ((Grid.ofRecords records).render.flatMap fun line => line ++ ['\n']) ++
    s!"({Decimal.natText records.length} {noun})\n".toList

/-- The text of an outcome. -/
def Outcome.show : Outcome → String
  | noRows => "(no rows)\n"
  | singleRecord r => String.ofList (showRecords [r])
  | recordSet rs => String.ofList (showRecords rs)
  | affectedCount n => s!"{Decimal.natText n} row(s) affected\n"
  | generatedId id => s!"last insert id: {Decimal.intText id.toInt}\n"

end CrudByName
