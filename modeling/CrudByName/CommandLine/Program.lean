import CrudByName.CommandLine.Disk
import CrudByName.CommandLine.LogLevel
import CrudByName.CommandLine.Session
import CrudByName.CommandLine.Settings
import CrudByName.Text.Escaped

/-!
# The program

A run of the program takes its command line, its settings and its input to a `Report`.  It comes in
three parts.

* `Program.plan` reads the command line and finds the settings.
* `Program.begin` prepares the database with the statements of the command line, stopping at the
  first text of them that fails, and then answers the calls of the command line, all of them whether
  or not one fails.  If there are no calls, what is left is a session.
* `Program.serve` answers the input as that session.

`Program.run` puts them together on a disk, where the configuration file is and the history is kept.
The exit code is 2 if there are no settings, and 1 if anything fails after that.
-/

namespace CrudByName

/-- What a run of the program is given, apart from its input and the files. -/
structure Invocation where
  words : List String
  environment : Environment

/-- An error of the database that ends the program, with its parts. -/
def BackendError.details (e : BackendError) : String :=
  let message := Text.escaped e.message
  s!"BackendError \x7b code: {Decimal.intText e.code}, message: {message} \x7d"

/-- A report about an error of the database that ends the program. -/
def Report.ofBackend (e : BackendError) : Report where
  emissions := [.failure e.details]
  code := 1

namespace Program

/-! ## Before the database is opened -/

/-- What is known about a run when its database is about to be opened. -/
structure Plan where
  options : Options
  settings : Settings
  notices : List Emission

/-- What is said about a command line that is not followed. -/
def refuse (r : Refusal) : Report :=
  match r with
  | .helpWanted => { emissions := [.out (r.message ++ "\n")], code := 0 }
  | _ => { emissions := [.err s!"error: {r.message}"], code := 2 }

/-- What is said about a configuration file. -/
def fileNotice (file : Option ConfigFile) : List Emission :=
  file.toList.map fun f => .err s!"Loaded config from: {f.name}"

/-- What is said about the level of the log. -/
def levelNotice (settings : Settings) : List Emission :=
  ((LogLevel.notice? settings.logLevel).map Emission.err).toList

/-- What is said when there are no settings. -/
def rejectSettings (e : SettingsError) : Report where
  emissions := [.failure s!"invalid configuration: {e.message}"]
  code := 2

/-- The options and settings of a run, or what is said if it cannot begin. -/
def plan (i : Invocation) (file : Option ConfigFile) : Except Report Plan :=
  match Options.read i.words with
  | .error r => .error (refuse r)
  | .ok options =>
    match Settings.choose options file i.environment with
    | .error e => .error ((rejectSettings e).after (fileNotice file))
    | .ok settings => .ok {
        options := options
        settings := settings
        notices := fileNotice file ++ levelNotice settings }

/-! ## On an open database -/

/-- Runs texts of statements up to the first that fails. -/
def prepare (access : Database.Access) :
    List String → Database → Except BackendError Unit × Database
  | [], db => (.ok (), db)
  | sql :: more, db =>
    match Database.executeBatch access sql db with
    | (.ok (), db) => prepare access more db
    | (.error e, db) => (.error e, db)

/-- Answers every one of some calls. -/
def replies (access : Database.Access) :
    List String → Database → List (Except String String) × Database
  | [], db => ([], db)
  | line :: lines, db =>
    let (answer, db) := reply access line db
    let (answers, db) := replies access lines db
    (answer :: answers, db)

/-- Whether a reply is an error. -/
def failed : Except String String → Bool
  | .ok _ => false
  | .error _ => true

/-- Answers the calls of a command line. -/
def serveCalls (access : Database.Access) (calls : List String) (db : Database) :
    Report × Database :=
  let (answers, db) := replies access calls db
  ({ emissions := answers.map .ofReply, code := if answers.any failed then 1 else 0 }, db)

/-- How far a run comes without its input. -/
inductive Work where
  | done (report : Report) (db : Database)
  | session (s : Session)

/-- Runs the statements of a command line and then its calls. -/
def begin (access : Database.Access) (options : Options) (db : Database) : Work :=
  match prepare access options.sql db with
  | (.error e, db) => .done (.ofBackend e) db
  | (.ok (), db) =>
    if options.exec = [] then .session { access := access, database := db }
    else
      let (report, db) := serveCalls access options.exec db
      .done report db

/-- What is said when a session begins. -/
def greeting (settings : Settings) : Emission :=
  .out (Session.greeting settings.database)

/-- What a session that has ended adds to the report. -/
def conclude (settings : Settings) (s : Session) : Report where
  emissions := []
  code := s.code
  keepsHistory := settings.history && s.hasHistory

/-- Answers the lines of an input. -/
def serveInput (settings : Settings) (input : List (Option String)) (s : Session) :
    Report × Database :=
  let (said, s) := s.run input
  ((conclude settings s).after (greeting settings :: said), s.database)

/-- A run on an open database. -/
def serve (access : Database.Access) (options : Options) (settings : Settings)
    (input : List (Option String)) (db : Database) : Report × Database :=
  match begin access options db with
  | .done report db => (report, db)
  | .session s => serveInput settings input s

/-! ## On a disk -/

/-- The paths of configuration files; the first that is there counts. -/
def configPaths : List String :=
  ["/etc/dynacrud/dynacrud.toml", "./dynacrud.toml"]

/-- The configuration file of that path, if it is there. -/
def configAt? (disk : Disk) (path : String) : Option ConfigFile := do
  let place ← disk.place? (Database.Address.bytesOf path)
  let content ← disk.content? place
  return ⟨path, Disk.Content.text? content⟩

/-- The configuration file that counts. -/
def configFile? (disk : Disk) : Option ConfigFile :=
  configPaths.findSome? (configAt? disk)

/-- The name of the history in the home directory. -/
def historyName : String := ".dynacrud_history"

/-- The place of the history.  The working directory is the home directory, unless the environment
names another; an empty name leads away from here. -/
def historyPlace? (environment : Environment) (disk : Disk) : Option Place :=
  match environment.lookup "HOME" with
  | none => some (.file historyName)
  | some home =>
    if home = "" then none
    else disk.place? (Database.Address.bytesOf (home ++ "/" ++ historyName))

/-- Writes a history. -/
def keepHistory (environment : Environment) (disk : Disk) : Disk :=
  match historyPlace? environment disk with
  | some place => if place.admitsFile then disk.put place (.text "#V2\n") else disk
  | none => disk

/-- A run that is planned. -/
def carryOut (p : Plan) (environment : Environment) (input : List (Option String)) (disk : Disk) :
    Report × Disk :=
  match disk.openDatabase p.settings.database with
  | .error e => (.ofBackend e, disk)
  | .ok opened =>
    let (report, db) := serve opened.access p.options p.settings input opened.database
    let disk := disk.close opened db
    (report, if report.keepsHistory then keepHistory environment disk else disk)

/-- A run of the program. -/
def run (i : Invocation) (input : List (Option String)) (disk : Disk) : Report × Disk :=
  match plan i (configFile? disk) with
  | .error report => (report, disk)
  | .ok p =>
    let (report, disk) := carryOut p i.environment input disk
    (report.after p.notices, disk)

/-- Whether there is a history in the working directory. -/
def hasHistory (disk : Disk) : Bool :=
  disk.has (.file historyName)

end Program

end CrudByName
