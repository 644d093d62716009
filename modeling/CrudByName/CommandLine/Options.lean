/-!
# Options

The words of a command line are read from left to right (`Options.read`).  A word that begins with
two hyphens names an option in full, one with a single hyphen by its letter.  The value of an option
is attached to it or is the next word, unless that begins with a hyphen and has more to it.  There
are no words besides options and their values, and after two hyphens alone there are not even
options.

An option takes effect when the next one is met, or at the end.  So its value may still be missing,
or be one too many, while an unknown word further on is already refused.
-/

namespace CrudByName

/-- The options that have a value. -/
inductive Key where
  | database
  | sql
  | exec
  | logLevel
  deriving DecidableEq, Repr

/-- What a word of a command line can ask for. -/
inductive Flag where
  | valued (key : Key)
  | noHistory
  | help
  deriving DecidableEq, Repr

/-- Why a command line is not followed. -/
inductive Refusal where
  | missingValue (key : Key)
  | unexpectedValue (flag : Flag)
  | repeated (flag : Flag)
  | unknown (word : String)
  | helpWanted
  deriving DecidableEq, Repr

/-- What a command line asks for. -/
structure Options where
  database : Option String := none
  sql : List String := []
  exec : List String := []
  logLevel : Option String := none
  noHistory : Bool := false
  deriving DecidableEq, Repr

/-! ## Names -/

/-- What an option with a value is called behind two hyphens. -/
def Key.name : Key → String
  | database => "database"
  | sql => "sql"
  | exec => "exec"
  | logLevel => "log-level"

namespace Flag

/-- What an option is called behind two hyphens. -/
def name : Flag → String
  | valued key => key.name
  | noHistory => "no-history"
  | help => "help"

/-- All options, in the order of the help. -/
def all : List Flag :=
  [valued .database, valued .sql, valued .exec, valued .logLevel, noHistory, help]

/-- The option of a name. -/
def ofName? (s : List Char) : Option Flag :=
  all.find? fun f => f.name.toList == s

/-- The option of a letter; not all of them have one. -/
def ofLetter? (c : Char) : Option Flag :=
  if c = 'd' then some (valued .database)
  else if c = 'e' then some (valued .exec)
  else if c = 'l' then some (valued .logLevel)
  else if c = 'h' then some help
  else none

theorem ofName?_name (f : Flag) : ofName? f.name.toList = some f := by
  rcases f with (_ | _ | _ | _) | _ | _ <;> decide +kernel

end Flag

/-! ## Help -/

/-- An option as it is written in the help. -/
def Flag.usage : Flag → String
  | valued .database => "-d, --database <DATABASE>"
  | valued .sql => "    --sql <SQL>"
  | valued .exec => "-e, --exec <EXEC>"
  | valued .logLevel => "-l, --log-level <LOG_LEVEL>"
  | noHistory => "    --no-history"
  | help => "-h, --help"

/-- What the help says about an option. -/
def Flag.purpose : Flag → String
  | valued .database => "Database file (\":memory:\" for a throwaway database)"
  | valued .sql => "Raw SQL to run before any call (schema setup); repeatable"
  | valued .exec => "Call to run, e.g. 'getUsersById(7)'; repeatable. Starts no REPL"
  | valued .logLevel => "Log level (error, warn, info, debug, trace)"
  | noHistory => "Do not read or write the REPL history file"
  | help => "Print help"

/-- A line of the help, with all purposes one below the other. -/
def Flag.helpLine (f : Flag) : String :=
  let width := (Flag.all.map fun g => g.usage.length).foldl max 0
  let gap := String.ofList (List.replicate (width - f.usage.length) ' ')
  "  " ++ f.usage ++ gap ++ "  " ++ f.purpose

/-- The help. -/
def Options.help : String :=
  "\n".intercalate <|
    ["Run getXByY / insertX / updateXByY / deleteXByY calls against SQLite", "",
      "Usage: dynacrud [OPTIONS]", "", "Options:"] ++ Flag.all.map Flag.helpLine

/-- What is said about a command line that is not followed. -/
def Refusal.message : Refusal → String
  | missingValue key => s!"a value is required for '--{key.name}' but none was supplied"
  | unexpectedValue flag => s!"unexpected value for '--{flag.name}'"
  | repeated flag => s!"the argument '--{flag.name}' cannot be used multiple times"
  | unknown word => s!"unexpected argument '{word}'"
  | helpWanted => Options.help

namespace Options

/-! ## Words -/

/-- A word by the way it begins. -/
inductive Word where
  | ending
  | long (body : List Char)
  | short (letter : Char) (rest : List Char)
  | plain
  deriving DecidableEq

/-- How a word begins. -/
def Word.of : List Char → Word
  | ['-', '-'] => .ending
  | '-' :: '-' :: body => .long body
  | '-' :: c :: rest => .short c rest
  | _ => .plain

/-- What stands before the first equals sign, and what after it if there is one. -/
def splitEquals (s : List Char) : List Char × Option (List Char) :=
  (s.takeWhile (· != '='),
    match s.dropWhile (· != '=') with
    | [] => none
    | _ :: value => some value)

/-- The value attached to a letter, which may have an equals sign in front. -/
def attachedToLetter : List Char → Option (List Char)
  | [] => none
  | '=' :: value => some value
  | value => some value

/-! ## Reading -/

/-- How far a command line has been read.  The option last met is held back, together with its
value if that is known. -/
structure Progress where
  options : Options := {}
  pending : Option (Key × Option String) := none
  ended : Bool := false

/-- Lets an option have its effect. -/
def set (o : Options) (key : Key) (value : String) : Except Refusal Options :=
  match key with
  | .sql => .ok { o with sql := o.sql ++ [value] }
  | .exec => .ok { o with exec := o.exec ++ [value] }
  | .database =>
    if o.database.isSome then .error (.repeated (.valued .database))
    else .ok { o with database := some value }
  | .logLevel =>
    if o.logLevel.isSome then .error (.repeated (.valued .logLevel))
    else .ok { o with logLevel := some value }

/-- The options read so far, with the one held back. -/
def settled (p : Progress) : Except Refusal Options :=
  match p.pending with
  | none => .ok p.options
  | some (key, none) => .error (.missingValue key)
  | some (key, some value) => p.options.set key value

/-- Goes on behind an option that has a value, which may still have to come. -/
def meetValued (p : Progress) (key : Key) (attached : Option (List Char)) :
    Except Refusal Progress := do
  let options ← settled p
  match attached with
  | none => return { p with options := options, pending := some (key, none) }
  | some value =>
    return { p with options := ← options.set key (String.ofList value), pending := none }

/-- Goes on behind an option without a value. -/
def meetBare (p : Progress) (flag : Flag) : Except Refusal Progress := do
  let options ← settled p
  match flag with
  | .noHistory =>
    if options.noHistory then throw (.repeated .noHistory)
    return { p with options := { options with noHistory := true }, pending := none }
  | _ => throw .helpWanted

/-- Goes on behind two hyphens and a name. -/
def meetLong (p : Progress) (word : String) (body : List Char) : Except Refusal Progress :=
  let (name, attached) := splitEquals body
  match Flag.ofName? name, attached with
  | none, _ => .error (.unknown word)
  | some (.valued key), attached => meetValued p key attached
  | some flag, some _ => .error (.unexpectedValue flag)
  | some flag, none => meetBare p flag

/-- Goes on behind a hyphen and a letter. -/
def meetShort (p : Progress) (word : String) (letter : Char) (rest : List Char) :
    Except Refusal Progress :=
  match Flag.ofLetter? letter with
  | none => .error (.unknown word)
  | some (.valued key) => meetValued p key (attachedToLetter rest)
  | some flag => meetBare p flag

/-- Takes a word that is no option. -/
def meetPlain (p : Progress) (word : String) : Except Refusal Progress :=
  match p.pending with
  | some (key, none) => .ok { p with pending := some (key, some word) }
  | _ => .error (.unknown word)

/-- Takes the next word.  Behind two hyphens alone no word is expected. -/
def step (p : Progress) (word : String) : Except Refusal Progress :=
  if p.ended then .error (.unknown word)
  else
    match Word.of word.toList with
    | .ending => .ok { p with ended := true }
    | .long body => meetLong p word body
    | .short letter rest => meetShort p word letter rest
    | .plain => meetPlain p word

/-- Reads the words of a command line. -/
def read (words : List String) : Except Refusal Options := do
  settled (← words.foldlM step {})

end Options

end CrudByName
