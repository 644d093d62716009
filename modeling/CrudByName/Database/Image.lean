import CrudByName.Database.Store
import CrudByName.Json.Codec

/-!
# The image of a database

A database is kept between runs as a JSON text, its image: the tables with their columns and rows.
A double is written by its bits and bytes in hexadecimal, so that nothing is lost.  Only what is
committed is in the image (`Database.image`), and a text that is no image gives no database
(`Database.ofImage?`).
-/

namespace CrudByName

namespace Database

/-! ## Writing -/

/-- The eight bytes of a double, the highest first. -/
def bytesOfReal (x : Float) : List UInt8 :=
  (List.range 8).map fun i => UInt8.ofNat (x.toBits.toNat / 256 ^ (7 - i))

/-- The image of a cell; each class has a key of its own. -/
def Cell.image : Cell → Json
  | null => .null
  | integer n => .tagged "integer" (.ofInt n.toInt)
  | real x => .tagged "real" (.string (String.ofList (Hex.encodeList (bytesOfReal x))))
  | text bytes => .tagged "text" (.string (Hex.encode bytes))
  | blob bytes => .tagged "blob" (.string (Hex.encode bytes))

/-- The image of a constant, which for a cell is its own. -/
def Constant.image : Constant → Json
  | .literal c => c.image
  | .date => .string "date"
  | .time => .string "time"
  | .dateAndTime => .string "date and time"

/-- The name of an affinity. -/
def Affinity.name : Affinity → String
  | integer => "INTEGER"
  | numeric => "NUMERIC"
  | real => "REAL"
  | text => "TEXT"
  | blob => "BLOB"

/-- The image of a column. -/
def Column.image (c : Column) : Json :=
  .array [.string c.name, .string c.affinity.name, .bool c.isKey, .bool c.autoincrement,
    .bool c.isPrimary, .bool c.notNull, .bool c.unique, c.default.image]

/-- The image of a row, with its id in front. -/
def Row.image (r : Row) : Json :=
  .array (.ofInt r.id.toInt :: r.cells.map Cell.image)

/-- The image of a table. -/
def Table.image (t : Table) : Json :=
  .array [.string t.name, .string t.definition, .array (t.columns.map Column.image),
    .array (t.rows.map Row.image)]

/-- The image of what is committed. -/
def image (db : Database) : String :=
  (Json.tagged "tables" (.array (db.undone.tables.map Table.image))).text

/-! ## Reading -/

/-- The double of eight bytes. -/
def realOfBytes? (bytes : ByteArray) : Option Float :=
  if bytes.size = 8 then
    some (Float.ofBits (UInt64.ofNat (bytes.data.toList.foldl (fun n b => 256 * n + b.toNat) 0)))
  else none

/-- The cell of an image. -/
def Cell.ofImage? : Json → Option Cell
  | .null => some .null
  | .object [("integer", .number (.integer n))] => (int64? n).map .integer
  | .object [("real", .string s)] => ((Hex.decode s).bind realOfBytes?).map .real
  | .object [("text", .string s)] => (Hex.decode s).map .text
  | .object [("blob", .string s)] => (Hex.decode s).map .blob
  | _ => none

/-- The constant of an image. -/
def Constant.ofImage? : Json → Option Constant
  | .string "date" => some .date
  | .string "time" => some .time
  | .string "date and time" => some .dateAndTime
  | image => (Cell.ofImage? image).map .literal

/-- The affinity of a name. -/
def Affinity.ofName? (s : String) : Option Affinity :=
  [integer, numeric, real, text, blob].find? fun a => a.name == s

/-- The column of an image. -/
def Column.ofImage? : Json → Option Column
  | .array [.string name, .string affinity, .bool isKey, .bool autoincrement, .bool isPrimary,
      .bool notNull, .bool unique, default] => do
    let affinity ← Affinity.ofName? affinity
    let default ← Constant.ofImage? default
    return {
      name := name
      affinity := affinity
      isKey := isKey
      autoincrement := autoincrement
      isPrimary := isPrimary
      notNull := notNull
      unique := unique
      default := default }
  | _ => none

/-- A row with a cell for every one of so many columns. -/
def Row.ofImage? (width : Nat) : Json → Option Row
  | .array (.number (.integer id) :: cells) => do
    let id ← int64? id
    let cells ← cells.mapM Cell.ofImage?
    if cells.length = width then some ⟨id, cells⟩ else none
  | _ => none

/-- The table of an image. -/
def Table.ofImage? : Json → Option Table
  | .array [.string name, .string definition, .array columns, .array rows] => do
    let columns ← columns.mapM Column.ofImage?
    let rows ← rows.mapM (Row.ofImage? columns.length)
    return { name := name, columns := columns, rows := rows, definition := definition }
  | _ => none

/-- The database of an image, without an open transaction. -/
def ofImage? (text : String) : Option Database :=
  match Json.read text.toList with
  | .ok (.object [("tables", .array tables)]) =>
    (tables.mapM Table.ofImage?).map fun tables => { empty with tables := tables }
  | _ => none

end Database

end CrudByName
