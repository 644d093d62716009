import CrudByName.Value

/-!
# Stored cells

A `Cell` is what a database keeps in one place of a row.  Text is kept as bytes, which need not be
valid UTF-8.  `Cell.ofValue` binds a value and `Cell.toValue` reads a cell; a truth value is bound
as zero or one, and text that is not valid UTF-8 is read as bytes.

`Cell.equals` is the equality of lookups.  Null equals nothing, not even null; numbers are compared
by their size whatever their class; text and bytes are compared within their class, byte by byte.

A `Constant` stands for a cell that is the same for all rows of a command.  It can be the moment,
which the `Machine` tells that the database runs on.
-/

namespace CrudByName

namespace Database

/-- What a row holds in one column. -/
inductive Cell where
  | null
  | integer (n : Int64)
  | real (x : Float)
  | text (bytes : ByteArray)
  | blob (bytes : ByteArray)
  deriving DecidableEq, Inhabited

namespace Cell

/-! ## Values in and out -/

/-- The cell that a value is bound as. -/
def ofValue : Value → Cell
  | .null => null
  | .integer n => integer n
  | .real x => real x
  | .text s => text s.toUTF8
  | .boolean b => integer (if b then 1 else 0)
  | .blob bytes => blob bytes

/-- The value that a cell is read as. -/
def toValue : Cell → Value
  | null => .null
  | integer n => .integer n
  | real x => .real x
  | text bytes =>
    match String.fromUTF8? bytes with
    | some s => .text s
    | none => .blob bytes
  | blob bytes => .blob bytes

/-- The cell as the database takes it in: it knows no NaN and keeps null instead. -/
def settled : Cell → Cell
  | real x => if x.isNaN then null else real x
  | c => c

/-- Whether a cell is null. -/
def isNull : Cell → Bool
  | null => true
  | _ => false

/-! ## Equality -/

/-- Whether two cells are equal for a lookup. -/
def equals : Cell → Cell → Bool
  | integer m, integer n => m == n
  | integer m, real x => Binary64.toInt? x == some m.toInt
  | real x, integer n => Binary64.toInt? x == some n.toInt
  | real x, real y => x == y
  | text a, text b => a == b
  | blob a, blob b => a == b
  | _, _ => false

theorem equals_null (c : Cell) : c.equals null = false := by
  cases c <;> rfl

theorem null_equals (c : Cell) : null.equals c = false := by
  cases c <;> rfl

end Cell

/-! ## Constants -/

/-- What a database asks of the machine that it runs on. -/
structure Machine where
  /-- The date, year first. -/
  date : String := "1970-01-01"
  /-- The time of the day. -/
  time : String := "00:00:00"
  /-- The random numbers to come, of which each insert that succeeds uses up a share. -/
  draws : List UInt64 := []
  deriving DecidableEq

/-- A cell, given as it is or as the date, the time, or both of them. -/
inductive Constant where
  | literal (c : Cell)
  | date
  | time
  | dateAndTime
  deriving DecidableEq

/-- The cell of a constant. -/
def Constant.cell (m : Machine) : Constant → Cell
  | .literal c => c
  | .date => .text m.date.toUTF8
  | .time => .text m.time.toUTF8
  | .dateAndTime => .text (m.date ++ " " ++ m.time).toUTF8

end Database

end CrudByName
