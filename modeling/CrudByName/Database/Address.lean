import CrudByName.Database.Fault
import CrudByName.Text.Hex

/-!
# Addresses of databases

A database is opened by its address: the path of a file, or a URI that starts with `file:`.  A URI
has a path in which bytes may be written by a percent sign and two hexadecimal digits, and behind a
question mark options between ampersands.  The options say how the database may be used
(`Address.Mode`); a later mode may only narrow an earlier one.  Everything behind a number sign is
dropped.

An address with an empty path, or with the path `:memory:`, is that of a database in memory.
-/

namespace CrudByName

namespace Database

/-- How a file is opened. -/
inductive Address.Mode where
  | readOnly
  | readWrite
  | readWriteCreate
  | memory
  deriving DecidableEq, Repr

/-- Where a database is and how it is opened. -/
structure Address where
  path : List UInt8
  mode : Address.Mode := .readWriteCreate
  /-- Whether the file is promised not to change. -/
  immutable : Bool := false
  /-- Whether files are kept in memory. -/
  filesInMemory : Bool := false
  deriving DecidableEq, Repr

namespace Address

/-! ## Parts of a URI -/

/-- The byte of an ASCII character. -/
def byte (c : Char) : UInt8 :=
  UInt8.ofNat c.toNat

/-- A byte that is written as a hexadecimal digit. -/
def digit? (b : UInt8) : Option Nat :=
  Hex.value? (Char.ofNat b.toNat)

/-- The bytes that a part of a URI stands for; a zero byte ends them. -/
def decode : List UInt8 → List UInt8
  | [] => []
  | [b] => [b]
  | [a, b] => [a, b]
  | p :: a :: b :: rest =>
    match digit? a, digit? b with
    | some high, some low =>
      if p = byte '%' then
        if 16 * high + low = 0 then []
        else UInt8.ofNat (16 * high + low) :: decode rest
      else p :: decode (a :: b :: rest)
    | _, _ => p :: decode (a :: b :: rest)

/-- What stands before the first of a byte, and what stands behind it. -/
def cut (b : UInt8) (s : List UInt8) : List UInt8 × List UInt8 :=
  (s.takeWhile (· ≠ b), (s.dropWhile (· ≠ b)).drop 1)

/-- An option by its name and value. -/
abbrev Setting : Type :=
  List UInt8 × List UInt8

/-- The options of a query; those without a name do not count. -/
def settings (query : List UInt8) : List Setting :=
  (((query.splitOnP (· == byte '&')).map fun s =>
    let (name, value) := cut (byte '=') s
    (decode name, decode value)).filter fun (name, _) => name ≠ [])

/-- The bytes of a text. -/
def bytesOf (s : String) : List UInt8 :=
  s.toUTF8.data.toList

/-- Bytes as a text, for a message. -/
def textOf (bytes : List UInt8) : String :=
  (String.fromUTF8? ⟨bytes.toArray⟩).getD "\uFFFD"

/-! ## Options -/

/-- The mode of a word. -/
def Mode.ofText? (s : List UInt8) : Option Mode :=
  if s = bytesOf "ro" then some .readOnly
  else if s = bytesOf "rw" then some .readWrite
  else if s = bytesOf "rwc" then some .readWriteCreate
  else if s = bytesOf "memory" then some .memory
  else none

/-- Whether a mode may follow another. -/
def Mode.allows : Mode → Mode → Bool
  | .readOnly, new => new = .readOnly || new = .memory
  | .readWrite, new => new ≠ .readWriteCreate
  | .readWriteCreate, _ | .memory, _ => true

/-- A word for yes or no in the value of an option. -/
def isOn (value : List UInt8) : Bool :=
  let s := value.map fun b => (Char.ofNat b.toNat).toLower
  match s with
  | [] => false
  | c :: _ =>
    if Decimal.isDigit c then
      let n := Decimal.ofDigits (s.takeWhile Decimal.isDigit)
      n < 2 ^ 31 && n % 256 ≠ 0
    else s = "on".toList || s = "yes".toList || s = "true".toList

/-- The kinds of file systems; the last one keeps files in memory. -/
def fileSystems : List String :=
  ["unix", "unix-none", "unix-dotfile", "unix-excl", "memdb"]

/-- Follows one option. -/
def follow (a : Address) : Setting → Except Fault Address
  | (name, value) =>
    if name = bytesOf "mode" then
      match Mode.ofText? value with
      | none => .error (.noMode "access" (textOf value))
      | some mode =>
        if a.mode.allows mode then .ok { a with mode := mode }
        else .error (.modeRefused "access" (textOf value))
    else if name = bytesOf "cache" ∧ value ≠ bytesOf "shared" ∧ value ≠ bytesOf "private" then
      .error (.noMode "cache" (textOf value))
    else .ok a

/-- The value of the first option of that name. -/
def valueOf? (name : String) (options : List Setting) : Option (List UInt8) :=
  options.lookup (bytesOf name)

/-- Chooses the file system; the last one named counts. -/
def withFileSystem (options : List Setting) (a : Address) : Except Fault Address :=
  match valueOf? "vfs" options.reverse with
  | none => .ok a
  | some value =>
    if fileSystems.any fun s => bytesOf s = value then
      .ok { a with filesInMemory := value = bytesOf "memdb" }
    else .error (.noFileSystem (textOf value))

/-! ## Reading -/

/-- Drops the host of a URI, which must be this one. -/
def withoutHost (s : List UInt8) : Except Fault (List UInt8) :=
  if (bytesOf "//").isPrefixOf s then
    let host := (s.drop 2).takeWhile (· ≠ byte '/')
    if host = [] ∨ host = bytesOf "localhost" then .ok (s.drop (2 + host.length))
    else .error (.noHost (textOf host))
  else .ok s

/-- Reads what is behind the scheme of a URI. -/
def ofUri (s : List UInt8) : Except Fault Address := do
  let s ← withoutHost s
  let (path, query) := cut (byte '?') (cut (byte '#') s).1
  let options := settings query
  let start : Address := {
    path := decode path
    immutable := ((valueOf? "immutable" options).map isOn).getD false }
  let a ← options.foldlM follow start
  withFileSystem options a

/-- The position of the first zero byte. -/
def zeroByte? (s : List UInt8) : Option Nat :=
  s.findIdx? (· == 0)

/-- Reads an address. -/
def read (text : String) : Except Fault Address :=
  let s := bytesOf text
  match zeroByte? s with
  | some i => .error (.zeroByte i)
  | none =>
    if (bytesOf "file:").isPrefixOf s then ofUri (s.drop 5)
    else .ok { path := s }

/-- Whether the database is in a file that is kept in memory. -/
def isFileInMemory (a : Address) : Bool :=
  a.filesInMemory && a.mode != .memory && a.path != [] && a.path != bytesOf ":memory:"

/-- Whether the database is in memory only. -/
def isInMemory (a : Address) : Bool :=
  a.mode = .memory || a.filesInMemory || a.path = [] || a.path = bytesOf ":memory:"

end Address

end Database

end CrudByName
