import CrudByName.Error

/-!
# What a database refuses

Every cause for which the database refuses a statement, with its code and wording.  A fault that
points into the text of the statement carries the number of bytes left there, like a fault of a
JSON text, and is reported with that text (`Fault.report`) under the code of errors that are not
the database's own.

`Fault.unsupported` and `Fault.unsupportedTable` are of another kind.  They stop at what SQL has and
is not carried out here, so that nothing is said about it, not even that it is an error.
-/

namespace CrudByName

namespace Database

/-- Why a statement was not carried out. -/
inductive Fault where
  | unexpected (near : String) (left : Nat)
  | unrecognized (token : String) (left : Nat)
  | incomplete
  | noTable (table : String)
  | noColumn (column : String)
  | noColumnAt (column : String) (left : Nat)
  | noColumnIn (table column : String)
  | tableExists (table : String) (left : Nat)
  | columnTwice (column : String)
  | keyTwice (table : String)
  | autoincrementRefused
  | reservedName (table : String)
  | notModified (table : String)
  | cellCount (given needed : Nat)
  | parameterCount (given needed : Nat)
  | mismatch
  | full
  | nullIn (table column : String)
  | keyTaken (table column : String)
  | idTaken (table : String)
  | notUnique (table column : String)
  | openTransaction
  | noTransaction (ending : String)
  | cannotOpen (address : String)
  | zeroByte (position : Nat)
  | noHost (host : String)
  | noMode (kind mode : String)
  | modeRefused (kind mode : String)
  | noFileSystem (name : String)
  | noDatabase
  | noJournal
  | readOnly
  /-- A stop, at something that SQL may have there and that is not carried out. -/
  | unsupported (near : String) (left : Nat)
  /-- A stop, at a table that is a function and holds no rows of its own. -/
  | unsupportedTable (table : String)
  deriving DecidableEq, Repr

/-- The code of an error that the database did not report itself. -/
def clientCode : Int := -1

/-- A fault that points to a place of the text. -/
def placed (sql : List Char) (what : String) (left : Nat) : BackendError :=
  let offset := Json.byteCount sql - left
  ⟨clientCode, s!"{what} in {String.ofList sql} at offset {Decimal.natText offset}"⟩

/-- A fault as it is reported for a text, with its code and message. -/
def Fault.report (sql : List Char) : Fault → BackendError
  | unexpected near left => placed sql s!"near \"{near}\": syntax error" left
  | unrecognized token left => placed sql s!"unrecognized token: \"{token}\"" left
  | incomplete => ⟨1, "incomplete input"⟩
  | noTable table => ⟨1, s!"no such table: {table}"⟩
  | noColumn column => ⟨1, s!"no such column: {column}"⟩
  | noColumnAt column left => placed sql s!"no such column: {column}" left
  | noColumnIn table column => ⟨1, s!"table {table} has no column named {column}"⟩
  | tableExists table left => placed sql s!"table {table} already exists" left
  | columnTwice column => ⟨1, s!"duplicate column name: {column}"⟩
  | keyTwice table => ⟨1, s!"table \"{table}\" has more than one primary key"⟩
  | autoincrementRefused => ⟨1, "AUTOINCREMENT is only allowed on an INTEGER PRIMARY KEY"⟩
  | reservedName table => ⟨1, s!"object name reserved for internal use: {table}"⟩
  | notModified table => ⟨1, s!"table {table} may not be modified"⟩
  | cellCount given needed =>
    ⟨1, Decimal.natText given ++ " values for " ++ Decimal.natText needed ++ " columns"⟩
  | parameterCount given needed =>
    let given := Decimal.natText given
    ⟨clientCode, s!"Wrong number of parameters passed to query. Got {given}, needed " ++
      Decimal.natText needed⟩
  | mismatch => ⟨20, "datatype mismatch"⟩
  | full => ⟨13, "database or disk is full"⟩
  | nullIn table column => ⟨1299, s!"NOT NULL constraint failed: {table}.{column}"⟩
  | keyTaken table column => ⟨1555, s!"UNIQUE constraint failed: {table}.{column}"⟩
  | idTaken table => ⟨2579, s!"UNIQUE constraint failed: {table}.rowid"⟩
  | notUnique table column => ⟨2067, s!"UNIQUE constraint failed: {table}.{column}"⟩
  | openTransaction => ⟨1, "cannot start a transaction within a transaction"⟩
  | noTransaction ending => ⟨1, s!"cannot {ending} - no transaction is active"⟩
  | cannotOpen address => ⟨14, s!"unable to open database file: {address}"⟩
  | zeroByte position =>
    ⟨clientCode, s!"nul byte found in provided data at position: {Decimal.natText position}"⟩
  | noHost host => ⟨1, s!"invalid uri authority: {host}"⟩
  | noMode kind mode => ⟨1, s!"no such {kind} mode: {mode}"⟩
  | modeRefused kind mode => ⟨3, s!"{kind} mode not allowed: {mode}"⟩
  | noFileSystem name => ⟨1, s!"no such vfs: {name}"⟩
  | noDatabase => ⟨26, "file is not a database"⟩
  | noJournal => ⟨14, "unable to open database file"⟩
  | readOnly => ⟨8, "attempt to write a readonly database"⟩
  | unsupported near left => placed sql s!"near \"{near}\": not supported" left
  | unsupportedTable table => ⟨clientCode, s!"not supported: {table}"⟩

end Database

end CrudByName
