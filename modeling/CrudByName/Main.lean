import CrudByName.CommandLine.Program
import CrudByName.CommandLine.Session
import CrudByName.Database.Image

/-!
# The command line

Reads the words of the command line, the environment and the files, runs the program, and writes its
report.  A database in a file is kept there as its image.

What a database asks of its machine is looked up when it is opened and for each line of a session
(`Main.machine`).  The moment is read off a file that is written for the purpose.
-/

namespace CrudByName

namespace Main

/-- The variables that are asked for, each after the one it overrides. -/
def variableNames : List String :=
  ["dynacrud_database", "dynacrud_log_level", "dynacrud_history",
    "DYNACRUD_DATABASE", "DYNACRUD_LOG_LEVEL", "DYNACRUD_HISTORY"]

/-- The bytes of a file, if it is there. -/
def bytesOf? (path : String) : IO (Option ByteArray) := do
  try
    return some (← IO.FS.readBinFile path)
  catch
    | .noFileOrDirectory .. => return none
    | e => throw e

/-- The first of some configuration files that is there. -/
def configFile : List String → IO (Option ConfigFile)
  | [] => return none
  | path :: more => do
    match ← bytesOf? path with
    | some bytes => return some ⟨path, String.fromUTF8? bytes⟩
    | none => configFile more

/-- The variables that are asked for and set. -/
def environment : IO Environment := do
  let found ← variableNames.mapM fun name => do
    return (← IO.getEnv name).map fun text => (name, text)
  return found.filterMap id

/-- Writes one thing that is said. -/
def emit : Emission → IO Unit
  | .out text => do
    (← IO.getStdout).putStr text
    (← IO.getStdout).flush
  | .err line => IO.eprintln line

/-- Writes all that a report says. -/
def write (r : Report) : IO Unit :=
  r.emissions.forM emit

/-! ## The machine -/

/-- A number with at least so many digits. -/
def padded (width n : Nat) : String :=
  let digits := Decimal.natText n
  String.ofList (List.replicate (width - digits.length) '0') ++ digits

/-- A date, given in days since the beginning of 1970.  Years are counted from March, so that a leap
day is the last of its year. -/
def dateText (days : Nat) : String :=
  let days := days + 719468
  let (era, day) := (days / 146097, days % 146097)
  let year := (day - day / 1460 + day / 36524 - day / 146096) / 365
  let day := day - (365 * year + year / 4 - year / 100)
  let month := (5 * day + 2) / 153
  let ofMonth := day - (153 * month + 2) / 5 + 1
  let (year, month) := if month < 10 then (year, month + 3) else (year + 1, month - 9)
  padded 4 (400 * era + year) ++ "-" ++ padded 2 month ++ "-" ++ padded 2 ofMonth

/-- A time of the day, given in seconds. -/
def timeText (seconds : Nat) : String :=
  padded 2 (seconds / 3600) ++ ":" ++ padded 2 (seconds / 60 % 60) ++ ":" ++
    padded 2 (seconds % 60)

/-- The seconds since the beginning of 1970. -/
def secondsNow : IO Nat := do
  let (_, path) ← IO.FS.createTempFile
  let seconds := (← path.metadata).modified.sec.toNat
  IO.FS.removeFile path
  return seconds

/-- Random numbers for one insert. -/
def draws : IO (List UInt64) := do
  let bytes ← IO.getRandomBytes (8 * Database.Table.drawLimit).toUSize
  return (List.range Database.Table.drawLimit).map fun i =>
    ((bytes.extract (8 * i) (8 * i + 8)).data.toList).foldl
      (fun n b => 256 * n + b.toUInt64) 0

/-- What a database asks of the machine, as it is now. -/
def machine : IO Database.Machine := do
  let seconds ← secondsNow
  return {
    date := dateText (seconds / 86400)
    time := timeText (seconds % 86400)
    draws := ← draws }

/-! ## Files -/

/-- The path of a file, with every part that leads back taken out. -/
def pathOf? (a : Database.Address) : Option String := do
  let place ← Disk.place? {} a.path
  let names ← place.names.mapM fun name => String.fromUTF8? ⟨name.toArray⟩
  let path := "/".intercalate names.reverse
  match place.base with
  | .root => return "/" ++ path
  | .working n => return String.join (List.replicate n "../") ++ path

/-- What a file holds, if it is there. -/
def contentOf? (path : String) : IO (Option Content) := do
  return (← bytesOf? path).map fun bytes =>
    match String.fromUTF8? bytes with
    | none => .text "\uFFFD"
    | some text =>
      match Database.ofImage? text with
      | some db => .database db
      | none => .text text

/-- An open database, what may be done with it, and the path of its file if it has one. -/
structure Opened where
  path : Option String
  access : Database.Access
  database : Database

/-- The error of a file that cannot be opened. -/
def cannotOpen (address : String) : Except BackendError Opened :=
  .error (Database.Fault.report [] (.cannotOpen address))

/-- Opens what a file holds. -/
def openContent (a : Database.Address) (path : String) (content : Content) : Opened :=
  let (access, db) := Disk.contentOpened (Disk.accessOf a) content
  ⟨some path, access, db⟩

/-- Opens the database in a file; one that is not there yet is made, if that is allowed. -/
def openFile (address : String) (a : Database.Address) : IO (Except BackendError Opened) := do
  let some path := pathOf? a | return cannotOpen address
  try
    match ← contentOf? path with
    | some content => return .ok (openContent a path content)
    | none =>
      if a.mode ≠ .readWriteCreate then return cannotOpen address
      IO.FS.writeFile path ""
      return .ok (openContent a path (.text ""))
  catch _ => return cannotOpen address

/-- Opens the database of an address. -/
def openDatabase (address : String) : IO (Except BackendError Opened) := do
  match Database.Address.read address with
  | .error fault => return .error (fault.report [])
  | .ok a =>
    if a.isInMemory then return .ok ⟨none, Disk.accessOf a, Database.empty⟩
    openFile address a

/-- Puts a database back into its file. -/
def close (o : Opened) (db : Database) : IO Unit := do
  if let some path := o.path then
    if o.access = .full then IO.FS.writeFile path db.image

/-! ## Runs -/

/-- The next line of the input with its line end, or nothing at its end. -/
partial def nextLine (input : IO.FS.Stream) (sofar : ByteArray) : IO ByteArray := do
  let bytes ← input.read 1
  if bytes.isEmpty then return sofar
  if bytes.data.toList = [0x0A] then return sofar ++ bytes
  nextLine input (sofar ++ bytes)

/-- Answers lines until the session or the input ends. -/
partial def converse (input : IO.FS.Stream) (s : Session) : IO Session := do
  if s.status ≠ .going then return s
  let bytes ← nextLine input ByteArray.empty
  let s := { s with database := s.database.within (← machine) }
  let (said, s) := match Input.lines bytes with
    | line :: _ => s.step line
    | [] => s.finish
  said.forM emit
  converse input s

/-- Leaves a history file behind. -/
def keepHistory : IO Unit := do
  if let some home ← IO.getEnv "HOME" then
    let path := home ++ "/.dynacrud_history"
    if (← bytesOf? path).isNone then IO.FS.writeFile path ""

/-- Greets, and answers the input. -/
def session (settings : Settings) (s : Session) : IO (Report × Database) := do
  emit (Program.greeting settings)
  let s ← converse (← IO.getStdin) s
  return (Program.conclude settings s, s.database)

/-- Carries a plan out on the files. -/
def carryOut (p : Program.Plan) : IO Report := do
  p.notices.forM emit
  match ← openDatabase p.settings.database with
  | .error e => return .ofBackend e
  | .ok opened =>
    let db := opened.database.within (← machine)
    let (report, db) ← match Program.begin opened.access p.options db with
      | .done report db => pure (report, db)
      | .session s => session p.settings s
    close opened db
    if report.keepsHistory then keepHistory
    return report

end Main

end CrudByName

/-- Runs the program on the words of its command line, and gives its exit code. -/
def main (words : List String) : IO UInt32 := do
  let i : CrudByName.Invocation := {
    words := words
    environment := ← CrudByName.Main.environment }
  let file ← CrudByName.Main.configFile CrudByName.Program.configPaths
  let report ← match CrudByName.Program.plan i file with
    | .error report => pure report
    | .ok p => CrudByName.Main.carryOut p
  CrudByName.Main.write report
  return UInt32.ofNat report.code
