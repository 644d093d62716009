import CrudByName.CommandLine.KeyPath
import CrudByName.CommandLine.Options
import CrudByName.Json.Reader
import CrudByName.Toml.Reader
import CrudByName.Value

/-!
# Settings

There are three settings: the database, the log level, and whether a history is kept.  For each, the
environment is asked first, then the configuration file, and then there is a default; what is found
is converted to text or to a yes or no (`Settings.merged`).  A value that does not convert is an
error, and so is a file that cannot be read, but a value that is overridden is not looked at.  Only
then do the options of the command line come in (`Settings.choose`), so that they never hide an
error.

A setting is found by its name in any case of letters, in the environment behind the prefix
`DYNACRUD_` and in the file in its outermost table.  A key may also be a path that leads into a
setting (`KeyPath`); then the setting is not a single value any more, and does not convert.

A configuration file is a TOML document or a JSON text, and its name says which.  There are further
formats that a configuration can be written in (`Settings.otherFormats`).  Files of these are not
read here: what is said of them is a stop (`SettingsError.unreadFormat`), and not that they are in
error.
-/

namespace CrudByName

/-- A configuration file, and its text if its bytes are one. -/
structure ConfigFile where
  name : String
  text : Option String
  deriving DecidableEq, Repr

/-- A variable of the environment and its value. -/
abbrev Environment : Type :=
  List (String × String)

/-- Why there are no settings. -/
inductive SettingsError where
  | unknownFormat (file : String)
  /-- A stop, at a file of a format that is not read here. -/
  | unreadFormat (file : String)
  | noText (file : String)
  | refused (file text : String) (fault : Toml.Fault)
  | refusedJson (file : String) (fault : Json.Located)
  | noTable (file : String)
  | notText (setting : String)
  | notSwitch (setting : String)
  deriving DecidableEq, Repr

/-- The message of an error. -/
def SettingsError.message : SettingsError → String
  | unknownFormat file => s!"configuration file '{file}' is not of a known format"
  | unreadFormat file => s!"configuration file '{file}' is of a format that is not supported"
  | noText file => s!"{file}: not valid UTF-8"
  | refused file text fault => s!"{file}: " ++ fault.message text.toList
  | refusedJson file fault => s!"{file}: " ++ fault.message
  | noTable file => s!"{file}: the outermost value is not a table"
  | notText setting => s!"'{setting}' must be a text"
  | notSwitch setting => s!"'{setting}' must be true or false"

/-- What the program goes by. -/
structure Settings where
  database : String
  logLevel : String
  history : Bool
  deriving DecidableEq, Repr

namespace Settings

/-! ## Values -/

/-- What a source holds under a key. -/
inductive Given where
  | text (s : String)
  | integer (n : Int)
  | real (x : Float)
  | switch (b : Bool)
  | nothing
  /-- A list or a table, with or without items. -/
  | container (isEmpty : Bool)
  deriving DecidableEq

/-- What an entry of a TOML document gives. -/
def Given.ofToml : Toml.Item → Given
  | .text s | .moment s => .text s
  | .integer n => .integer n
  | .real x => .real x
  | .switch b => .switch b
  | .list _ | .tables _ => .container false
  | .table _ entries => .container entries.isEmpty

/-- A whole number that does not fit into sixty-four bits with a sign is taken as a real. -/
def Given.ofJson : Json → Given
  | .null => .nothing
  | .bool b => .switch b
  | .number (.integer n) =>
    if -2 ^ 63 ≤ n ∧ n < 2 ^ 63 then .integer n else .real (Binary64.ofInt n)
  | .number (.real x) => .real x
  | .string s => .text s
  | .array _ => .container false
  | .object members => .container members.isEmpty

/-! ## Sources -/

/-- The keys of a source and what it holds under them. -/
abbrev Source : Type :=
  List (String × Given)

/-- The endings of files whose formats are not read here. -/
def otherFormats : List String :=
  [".yaml", ".yml", ".ini", ".ron", ".json5"]

/-- Whether a file is called by its format, with a name of its own in front. -/
def hasEnding (ending name : String) : Bool :=
  ending.toList.isSuffixOf name.toList && name.toList != ending.toList

/-- A mark of the byte order in front of a file does not count. -/
def content (text : String) : List Char :=
  Toml.withoutMark text.toList

/-- What a TOML document holds. -/
def tomlSource (file : String) (text : List Char) : Except SettingsError Source :=
  ((Toml.read text).mapError (.refused file (String.ofList text))).map fun entries =>
    entries.map fun (key, item) => (key, .ofToml item)

/-- What a JSON text holds. -/
def jsonSource (file : String) (text : List Char) : Except SettingsError Source :=
  match Json.read text with
  | .error fault => .error (.refusedJson file fault)
  | .ok (.object members) => .ok ((Json.collapse members).map fun (key, j) => (key, .ofJson j))
  | .ok _ => .error (.noTable file)

/-- What a file holds, which has to be of a known format. -/
def fileSource (file : ConfigFile) : Except SettingsError Source :=
  match file.text with
  | none => .error (.noText file.name)
  | some text =>
    if hasEnding ".toml" file.name then tomlSource file.name (content text)
    else if hasEnding ".json" file.name then jsonSource file.name (content text)
    else if otherFormats.any fun ending => hasEnding ending file.name then
      .error (.unreadFormat file.name)
    else .error (.unknownFormat file.name)

/-- What a file holds, if there is one. -/
def optionalSource : Option ConfigFile → Except SettingsError Source
  | none => .ok []
  | some file => fileSource file

/-- A letter in lowercase, as far as that is a letter of ASCII.  Besides the capitals there only the
sign for kelvin has such a one. -/
def lowered (c : Char) : Char :=
  if c = '\u212A' then 'k' else c.toLower

/-- The letters of a name in lowercase. -/
def folded (s : String) : List Char :=
  s.toList.map lowered

/-- What an environment variable is called, in lowercase and up to the name of the setting. -/
def variableStart : List Char :=
  "dynacrud_".toList

/-- The key that a variable is for, in lowercase. -/
def keyOf? (name : String) : Option String :=
  let name := folded name
  if variableStart.isPrefixOf name then some (String.ofList (name.drop variableStart.length))
  else none

/-- What the environment holds. -/
def variableSource (env : Environment) : Source :=
  env.filterMap fun (name, text) => (keyOf? name).map fun key => (key, .text text)

/-! ## Keys -/

/-- The setting that a key leads to, in lowercase, and what it becomes.  A path that goes on behind
its name makes the setting a list or a table. -/
def placed (key : String) (given : Given) : List Char × Given :=
  let path := KeyPath.ofKey key.toList
  (path.root.map lowered, if path.steps = [] then given else .container false)

/-- What is held under a name after one more key.  A table that is empty adds nothing to what is
there. -/
def update (setting : String) (old : Option Given) (entry : String × Given) : Option Given :=
  let (root, given) := placed entry.1 entry.2
  if root = setting.toList then
    match old, given with
    | some held, .container true => some held
    | _, given => some given
  else old

/-- What sources hold for a setting, of which the later ones count. -/
def find? (source : Source) (setting : String) : Option Given :=
  source.foldl (update setting) none

/-! ## Conversion -/

/-- Text for a setting; numbers and switches are taken as they are written. -/
def text? : Given → Option String
  | .text s => some s
  | .integer n => some (Decimal.intText n)
  | .real x => some (Value.real x).display
  | .switch b => some (if b then "true" else "false")
  | .nothing | .container _ => none

/-- A word for yes or no, in any case of letters. -/
def switchOfWord? (s : String) : Option Bool :=
  let s := folded s
  if ["1", "true", "on", "yes"].any (fun w => w.toList == s) then some true
  else if ["0", "false", "off", "no"].any (fun w => w.toList == s) then some false
  else none

/-- A switch; a number is one that is off at zero. -/
def switch? : Given → Option Bool
  | .switch b => some b
  | .integer n => some (n != 0)
  | .real x => some (x != 0.0)
  | .text s => switchOfWord? s
  | .nothing | .container _ => none

/-! ## Merging -/

/-- A setting that is text, with its default. -/
def textSetting (given : Option Given) (setting fallback : String) :
    Except SettingsError String :=
  match given with
  | none => .ok fallback
  | some given =>
    match text? given with
    | some s => .ok s
    | none => .error (.notText setting)

/-- A setting that is a switch, with its default. -/
def switchSetting (given : Option Given) (setting : String) (fallback : Bool) :
    Except SettingsError Bool :=
  match given with
  | none => .ok fallback
  | some given =>
    match switch? given with
    | some b => .ok b
    | none => .error (.notSwitch setting)

/-- The settings of some sources and the defaults. -/
def merged (source : Source) : Except SettingsError Settings := do
  return {
    database := ← textSetting (find? source "database") "database" ":memory:"
    logLevel := ← textSetting (find? source "log_level") "log_level" "warn"
    history := ← switchSetting (find? source "history") "history" true }

/-- The settings under the options of a command line. -/
def overridden (s : Settings) (o : Options) : Settings where
  database := o.database.getD s.database
  logLevel := o.logLevel.getD s.logLevel
  history := s.history && !o.noHistory

/-- The file, and the environment after it. -/
def sources (file : Option ConfigFile) (env : Environment) : Except SettingsError Source :=
  (optionalSource file).map fun source => source ++ variableSource env

/-- The settings of all sources. -/
def choose (o : Options) (file : Option ConfigFile) (env : Environment) :
    Except SettingsError Settings := do
  let source ← sources file env
  return (← merged source).overridden o

end Settings

end CrudByName
