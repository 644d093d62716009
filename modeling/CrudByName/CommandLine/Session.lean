import CrudByName.CommandLine.Correction
import CrudByName.CommandLine.Report
import CrudByName.Database.Store
import CrudByName.Dispatch

/-!
# Input and sessions

An input is bytes, and its lines are what stands between line feeds (`Input.lines`); the end of
input ends a last line that has bytes, and a line whose bytes are no UTF-8 is no text.

A session reads one line of input after the other and answers each (`Session.step`), until a line
ends it, the input does (`Session.finish`), or a line is no text or cannot be corrected.  A line is
corrected and trimmed and then asks for one thing, its `Wish`: a blank line for nothing, a few fixed
words for help or the end, the word `\sql` with a text behind it for statements, and every other
line is a call.

Calls that are given in advance are answered in the same way (`reply`).
-/

namespace CrudByName

namespace Input

/-- The lines of bytes, given what has been read of the first in reverse. -/
def splitAtFeeds (sofar : List UInt8) : List UInt8 → List (List UInt8)
  | [] => if sofar = [] then [] else [sofar.reverse]
  | b :: rest =>
    if b = 0x0A then sofar.reverse :: splitAtFeeds [] rest else splitAtFeeds (b :: sofar) rest

/-- The text of a line, if it is one. -/
def text? (line : List UInt8) : Option String :=
  String.fromUTF8? ⟨line.toArray⟩

/-- The lines of an input. -/
def lines (input : ByteArray) : List (Option String) :=
  (splitAtFeeds [] input.data.toList).map text?

end Input

/-- Answers a call on a database, with the text or the message to be written. -/
def reply (access : Database.Access) (line : String) (db : Database) :
    Except String String × Database :=
  let (answer, db) := Line.run (Database.connection access) line db
  (answer.mapError CrudError.message, db)

/-- Answers statements on a database. -/
def replyToSql (access : Database.Access) (sql : String) (db : Database) :
    Except String String × Database :=
  let (answer, db) := Database.executeBatch access sql db
  ((answer.map fun _ => "OK\n").mapError BackendError.display, db)

namespace Session

/-! ## Lines -/

/-- What a line asks for. -/
inductive Wish where
  | nothing
  | leave
  | help
  | sql (text : String)
  | call (text : String)
  deriving DecidableEq, Repr

/-- The text behind a word and a space. -/
def behind? : (word s : List Char) → Option (List Char)
  | [], ' ' :: rest => some rest
  | c :: word, d :: rest => if c = d then behind? word rest else none
  | _, _ => none

/-- What a trimmed line asks for. -/
def Wish.ofTrimmed (s : List Char) : Wish :=
  if s = [] then .nothing
  else if s = ['\\', 'q'] ∨ s = "\\quit".toList ∨ s.map Char.toLower = "quit".toList then .leave
  else if s = ['\\', '?'] ∨ s = ['\\', 'h'] ∨ s = "\\help".toList then .help
  else
    match behind? "\\sql".toList s with
    | some text => .sql (String.ofList text)
    | none => .call (String.ofList s)

/-- What a line asks for, if it can be corrected. -/
def Wish.of? (line : String) : Option Wish :=
  (Correction.corrected? line.toList).map fun s => ofTrimmed (Text.trim s)

/-! ## Steps -/

/-- The words that a session begins with. -/
def greeting (database : String) : String :=
  s!"dynacrud - connected to {database}\nType \\? for help, \\q to quit.\n\n"

/-- The help of a session. -/
def help : String :=
  "Calls:\n" ++
  "  getUsersById(7)                       - SELECT by one field\n" ++
  "  insertUsers(\x7b\"name\": \"Alice\"\x7d)        - INSERT one row\n" ++
  "  updateUsersById(7, \x7b\"age\": 31\x7d)       - UPDATE by one field\n" ++
  "  deleteUsersById(7)                    - DELETE by one field\n" ++
  "  lastInsertId()                        - last generated id\n" ++
  "Meta-commands:\n" ++
  "  \\sql <statements>  - Run raw SQL (schema setup)\n" ++
  "  \\?, \\h, \\help      - Show this help\n" ++
  "  \\q, \\quit          - Quit\n"

/-- What is said, by the loop and then by the program, about a line that is no text. -/
def noTextMessage : String :=
  "Io(Error \x7b kind: InvalidData, message: \"stream did not contain valid UTF-8\" \x7d)"

/-- What is said about a line that cannot be corrected. -/
def cutMessage : String :=
  "a backspace would cut a character in two"

/-- How a session stands: it goes on, was left, met a line that is no text, or met one that cannot
be corrected. -/
inductive Status where
  | going
  | left
  | broken
  | failed
  deriving DecidableEq, Repr

end Session

/-- A session: what it may do with its database, the database, whether a line with anything on it
has been entered, and how it stands. -/
structure Session where
  access : Database.Access
  database : Database
  entered : Bool := false
  status : Session.Status := .going
  deriving DecidableEq

namespace Session

/-- Writes a reply and goes on with its database. -/
def answered (s : Session) (r : Except String String × Database) : List Emission × Session :=
  ([.ofReply r.1], { s with database := r.2, entered := true })

/-- Does what a line asks for. -/
def grant (s : Session) : Wish → List Emission × Session
  | .nothing => ([], s)
  | .leave => ([], { s with entered := true, status := .left })
  | .help => ([.out help], { s with entered := true })
  | .sql text => s.answered (replyToSql s.access text s.database)
  | .call text => s.answered (reply s.access text s.database)

/-- Answers a line, which is missing if its bytes are no text. -/
def step (s : Session) (line : Option String) : List Emission × Session :=
  match s.status, line with
  | .going, some line =>
    match Wish.of? line with
    | some wish => s.grant wish
    | none => ([.err cutMessage], { s with status := .failed })
  | .going, none => ([.failure noTextMessage, .failure noTextMessage], { s with status := .broken })
  | _, _ => ([], s)

/-- Ends a session that still goes on when the input ends. -/
def finish (s : Session) : List Emission × Session :=
  match s.status with
  | .going => ([.out "quit\n"], { s with status := .left })
  | _ => ([], s)

/-- Answers lines, one after the other, up to the end of input. -/
def run (s : Session) : List (Option String) → List Emission × Session
  | [] => s.finish
  | line :: lines =>
    let (said, s) := s.step line
    let (more, s) := s.run lines
    (said ++ more, s)

/-- The exit code of a session that has ended. -/
def code (s : Session) : Nat :=
  match s.status with
  | .going | .left => 0
  | .broken => 1
  | .failed => 101

/-- Whether there is a history to keep: the session was left, and not without an entry. -/
def hasHistory (s : Session) : Bool :=
  s.entered && s.status == .left

end Session

end CrudByName
