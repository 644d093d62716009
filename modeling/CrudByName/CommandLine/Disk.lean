import CrudByName.Database.Address
import CrudByName.Database.Store

/-!
# Files

A `Disk` is the files that have been written, each at its `Place`.  Apart from the working
directory, those above it, the root and the directory for temporary files there are no directories,
so that a path into another one cannot be opened.

A path is followed part by part (`Disk.place?`): a part that is empty or a single point stays where
it is, two points lead one directory up, and every other part leads to a name, which need not be
there.  Only a file cannot be passed through.

`Disk.openDatabase` opens the database of an address.  One in memory is empty and is not put back.
A file that is missing is made, unless the address asks for one that is there; one that holds
something else gives a database that cannot be read.  Beside a file with a very long name there is
no room for the name of a journal, so that nothing can be written to it.
-/

namespace CrudByName

/-- Where a path starts: so many directories above the working directory, or at the root. -/
inductive Place.Base where
  | working (above : Nat)
  | root
  deriving DecidableEq, Repr

/-- A place in the directories: the names that lead to it, the innermost first. -/
structure Place where
  base : Place.Base
  names : List (List UInt8)
  deriving DecidableEq, Repr

namespace Place

/-- The working directory. -/
def working : Place :=
  ⟨.working 0, []⟩

/-- The place of a name in a directory. -/
def child (p : Place) (name : List UInt8) : Place :=
  { p with names := name :: p.names }

/-- The place of a file in the working directory. -/
def file (name : String) : Place :=
  working.child (Database.Address.bytesOf name)

/-- The directory above; the root is above itself. -/
def parent (p : Place) : Place :=
  match p.names, p.base with
  | _ :: names, _ => { p with names := names }
  | [], .working n => ⟨.working (n + 1), []⟩
  | [], .root => p

theorem parent_child (p : Place) (name : List UInt8) : (p.child name).parent = p :=
  rfl

/-- The directories that are there. -/
def isDirectory (p : Place) : Bool :=
  match p.names, p.base with
  | [], _ => true
  | [name], .root => name == Database.Address.bytesOf "tmp"
  | _, _ => false

/-- Whether a file can be at a place. -/
def admitsFile (p : Place) : Bool :=
  p.parent.isDirectory && !p.isDirectory

end Place

/-- What a file holds; one without anything is an empty database. -/
inductive Content where
  | database (db : Database)
  | text (s : String)
  deriving DecidableEq

/-- The files that have been written, and the machine that they are on. -/
structure Disk where
  files : List (Place × Content) := []
  machine : Database.Machine := {}
  deriving DecidableEq

namespace Disk

/-! ## Files -/

/-- What the file at a place holds. -/
def content? (d : Disk) (p : Place) : Option Content :=
  d.files.lookup p

/-- Whether there is a file at a place. -/
def has (d : Disk) (p : Place) : Bool :=
  (d.content? p).isSome

/-- Writes a file. -/
def put (d : Disk) (p : Place) (content : Content) : Disk :=
  { d with files := (p, content) :: d.files.filter fun (other, _) => other != p }

theorem content?_put (d : Disk) (p : Place) (content : Content) :
    (d.put p content).content? p = some content := by
  simp [put, content?]

/-- The text of a file, which a database with tables is not. -/
def Content.text? : Content → Option String
  | .text s => some s
  | .database db => if db.tables = [] then some "" else none

/-! ## Paths -/

/-- The longest name of a file, in bytes. -/
def longestName : Nat := 255

/-- The byte of a point. -/
def point : UInt8 :=
  Database.Address.byte '.'

/-- The byte that separates the parts of a path. -/
def slash : UInt8 :=
  Database.Address.byte '/'

/-- Follows one part of a path. -/
def step (d : Disk) (p : Place) (part : List UInt8) : Option Place :=
  if part = [] ∨ part = [point] then some p
  else if part = [point, point] then some p.parent
  else if d.has p ∨ longestName < part.length then none
  else some (p.child part)

/-- The place that a path leads to. -/
def place? (d : Disk) (path : List UInt8) : Option Place :=
  let start : Place := if path.head? = some slash then ⟨.root, []⟩ else .working
  (path.splitOnP (· == slash)).foldlM d.step start

/-! ## Databases -/

/-- An open database, what may be done with it, and the place of its file if it has one. -/
structure Opened where
  place : Option Place
  access : Database.Access
  database : Database

/-- What may be done with the database of an address. -/
def accessOf (a : Database.Address) : Database.Access :=
  if a.mode = .readOnly then .readOnly
  else if a.immutable && (!a.isInMemory || a.isFileInMemory) then .readOnly
  else .full

/-- What the name of a journal adds to that of its file. -/
def journalEnding : String := "-journal"

/-- Whether a file at a place leaves room for the name of its journal. -/
def admitsJournal (p : Place) : Bool :=
  (p.names.headD []).length + journalEnding.utf8ByteSize ≤ longestName

/-- What may be done with a file at a place. -/
def accessAt (a : Database.Address) (p : Place) : Database.Access :=
  match accessOf a with
  | .full => if admitsJournal p then .full else .withoutJournal
  | access => access

/-- What may be done with what a file holds, and the database in it as a new connection finds it. -/
def contentOpened (access : Database.Access) : Content → Database.Access × Database
  | .database db => (access, db.reopened)
  | .text s => (if s = "" then access else .unreadable, Database.empty)

/-- Opens the file at a place. -/
def openPlace? (d : Disk) (a : Database.Address) (p : Place) : Option Opened :=
  match d.content? p with
  | some content =>
    let (access, db) := contentOpened (accessAt a p) content
    some ⟨some p, access, db⟩
  | none =>
    if a.mode = .readWriteCreate ∧ p.admitsFile then
      some ⟨some p, accessAt a p, Database.empty⟩
    else none

/-- Opens the database of an address, if there can be one. -/
def openAddress? (d : Disk) (a : Database.Address) : Option Opened :=
  if a.isInMemory then some ⟨none, accessOf a, Database.empty⟩
  else (d.place? a.path).bind (d.openPlace? a)

/-- Opens the database of the text of an address, on this machine. -/
def openDatabase (d : Disk) (address : String) : Except BackendError Opened :=
  match Database.Address.read address with
  | .error fault => .error (fault.report [])
  | .ok a =>
    match d.openAddress? a with
    | some o => .ok { o with database := o.database.within d.machine }
    | none => .error (Database.Fault.report [] (.cannotOpen address))

/-- Puts the database of an open one back. -/
def close (d : Disk) (o : Opened) (db : Database) : Disk :=
  match o.place with
  | none => d
  | some p => if o.access = .unreadable then d else d.put p (.database db.reopened)

end Disk

end CrudByName
