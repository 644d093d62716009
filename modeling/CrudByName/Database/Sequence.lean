import CrudByName.Database.Table

/-!
# Ids that were used

The largest id that was ever used in a table with autoincrement is kept in a table of its own, in a
row under the name of the table.  It is a table like any other once it is there, so that its cells
may be anything; what is read from a cell is the whole number at its front (`Sequence.number`).

`Sequence.used` reads the number for a table, and `Sequence.noted` notes a new id: a number that it
exceeds is replaced, and one that is missing gets a row.
-/

namespace CrudByName

namespace Database

namespace Sequence

/-- The name of the table. -/
def name : String := "sqlite_sequence"

/-- The table before any id was used. -/
def empty : Table where
  name := name
  columns := ["name", "seq"].map fun column => {
    name := column
    affinity := .blob }
  rows := []
  definition := "CREATE TABLE sqlite_sequence(name,seq)"

/-! ## Numbers -/

/-- The nearest integer of sixty-four bits. -/
def clamped (n : Int) : Int :=
  max (-2 ^ 63) (min n (2 ^ 63 - 1))

/-- The whole number at the front of a text, and zero if there is none. -/
def numberAtFront (s : List Char) : Int :=
  let (negative, s) := NumberText.sign (s.dropWhile NumberText.isBlank)
  let n : Int := Decimal.ofDigits (s.takeWhile Decimal.isDigit)
  clamped (if negative then -n else n)

/-- The whole part of a double. -/
def wholePart (x : Float) : Int :=
  match Binary64.view x with
  | .nan => 0
  | .infinite negative => if negative then -2 ^ 63 else 2 ^ 63 - 1
  | .finite negative mantissa exponent =>
    let n : Int := (mantissa * 2 ^ exponent.toNat / 2 ^ (-exponent).toNat : Nat)
    clamped (if negative then -n else n)

/-- A cell as a whole number. -/
def number : Cell → Int
  | .null => 0
  | .integer n => n.toInt
  | .real x => wholePart x
  | .text bytes | .blob bytes => numberAtFront (bytes.data.toList.map fun b => Char.ofNat b.toNat)

/-! ## Rows -/

/-- Whether a row is that of a table. -/
def isFor (table : String) (r : Row) : Bool :=
  match r.cells with
  | cell :: _ => cell == .text table.toUTF8
  | [] => false

/-- The number in the row of a table. -/
def numberIn (r : Row) : Int :=
  number ((r.cells[1]?).getD .null)

/-- The largest id that was used in a table. -/
def used (t : Table) (table : String) : Int :=
  ((t.rows.find? (isFor table)).map numberIn).getD 0

theorem used_empty (table : String) : used empty table = 0 :=
  rfl

/-- The cells of the row of a table. -/
def newCells (table : String) (n : Int) : List Cell :=
  [.text table.toUTF8, .integer (Int64.ofInt n)]

/-- Notes that an id was used.  A row that is missing asks for an id of its own. -/
def noted (t : Table) (draws : List UInt64) (table : String) (id : Int) : Except Fault Table :=
  match t.rows.find? (isFor table) with
  | some r =>
    if numberIn r < id then
      .ok { t with rows := t.rows.map fun other =>
          if other.id = r.id then { other with cells := newCells table id } else other }
    else .ok t
  | none => (t.nextId 0 draws).map fun row => t.addRow ⟨row, newCells table (max 0 id)⟩

end Sequence

end Database

end CrudByName
