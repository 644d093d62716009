import CrudByName.Database.Affinity
import CrudByName.Database.Lexeme

/-!
# Commands

The statements that the database carries out: the four shapes on one table, the creation of a
table, and the beginning and end of a transaction.  `Command.ofStatement` reads the lexemes of one
statement, and `Command.parse` the first statement of a text.  Names keep the place where they
stand, for faults that are found later.

A lookup compares a column with a cell.  Where the column is due there may also be a word for a
cell that is the same for all rows, null or the present moment, and some words begin there what is
not carried out.

## What is read of SQL

* A lookup, a change and a removal are about one table, with no condition or with one equality.
* An insert gives one row, with its columns named.
* A cell is a placeholder, a literal of bytes, or one that is cast to text.
* A column of a new table has a name, any type, and constraints: `PRIMARY KEY` in either order and
  with or without `AUTOINCREMENT`, `NULL`, `NOT NULL`, `UNIQUE`, and `DEFAULT` with a literal or the
  present moment.  A constraint may have a name.

SQL has more.  Of columns, these are not read: `CHECK`, `COLLATE`, `REFERENCES`, generated columns,
`ON CONFLICT` behind a constraint, and defaults that are expressions.  Of tables: constraints of the
table, such as foreign keys, and the options `WITHOUT ROWID` and `STRICT`.  Of statements: further
indexes, views, triggers, virtual and temporary tables, their alteration and removal, pragmas,
savepoints, other modes of a transaction, and everything else that a query, an insert, an update or
a delete can have.

So there are two ways of not reading a statement.  Where SQL has nothing to go on with, it is in
error there (`unexpectedAt`): a reserved word stands for a name, or the statement begins with no
word of SQL.  Everywhere else it is only not carried out (`stopAt`), and nothing is said about what
a database would do.
-/

namespace CrudByName

namespace Database

/-- A name in the text of a statement, and how it is written there. -/
structure Name where
  text : String
  written : String
  left : Nat
  deriving DecidableEq, Repr

/-- A cell given by a placeholder, or in the text itself. -/
inductive Operand where
  | param (n : Nat)
  | literal (c : Cell)
  deriving DecidableEq

/-- A constraint behind a column. -/
inductive Constraint where
  | primaryKey (descending autoincrement : Bool)
  | notNull
  | unique
  /-- The cell of a row that is given none. -/
  | default (k : Constant)
  deriving DecidableEq

/-- A column of a table that is created: its type, which can be empty, and its constraints in their
order. -/
structure ColumnDef where
  name : Name
  type : String
  constraints : List Constraint
  deriving DecidableEq

/-- What a lookup compares with a cell. -/
inductive Subject where
  | column (name : Name)
  | constant (k : Constant)
  deriving DecidableEq

/-- The rows of a lookup: all of them, or those with a given cell in a column. -/
inductive Filter where
  | all
  | equal (subject : Subject) (wanted : Operand)
  deriving DecidableEq

/-- One statement. -/
inductive Command where
  | select (table : Name) (filter : Filter)
  | insert (table : Name) (columns : List Name) (cells : List Operand)
  | update (table : Name) (changes : List (Name × Operand)) (filter : Filter)
  | delete (table : Name) (filter : Filter)
  | create (table : Name) (columns : List ColumnDef) (definition : String)
  | beginTransaction
  | commit
  | rollback
  deriving DecidableEq

/-! ## Words -/

/-- A text with ASCII letters as capital ones. -/
def upper (s : List Char) : List Char :=
  s.map Char.toUpper

/-- The words that cannot be names. -/
def reservedWords : List String := [
  "ADD", "ALL", "ALTER", "AND", "AS", "AUTOINCREMENT", "BETWEEN", "CASE", "CHECK", "COLLATE",
  "COMMIT", "CONSTRAINT", "CREATE", "DEFAULT", "DEFERRABLE", "DELETE", "DISTINCT", "DROP", "ELSE",
  "ESCAPE", "EXCEPT", "EXISTS", "FOREIGN", "FROM", "GROUP", "HAVING", "IN", "INDEX", "INSERT",
  "INTERSECT", "INTO", "IS", "ISNULL", "JOIN", "LIMIT", "NOT", "NOTHING", "NOTNULL", "NULL", "ON",
  "OR", "ORDER", "PRIMARY", "REFERENCES", "RETURNING", "SELECT", "SET", "TABLE", "THEN", "TO",
  "TRANSACTION", "UNION", "UNIQUE", "UPDATE", "USING", "VALUES", "WHEN", "WHERE"]

/-- The words that begin an expression which is more than a name. -/
def openingWords : List String :=
  ["CASE", "CAST", "EXISTS", "NOT", "RAISE"]

/-- The words that can be names, but no words of a type or a default. -/
def untypedWords : List String :=
  ["CROSS", "FULL", "GENERATED", "INDEXED", "INNER", "LEFT", "NATURAL", "OUTER", "RIGHT"]

/-- The words that say what becomes of a row which meets a constraint. -/
def resolvingWords : List String :=
  ["ABORT", "FAIL", "IGNORE", "REPLACE", "ROLLBACK"]

/-- The words that begin a statement of SQL. -/
def statementWords : List String := [
  "ALTER", "ANALYZE", "ATTACH", "BEGIN", "COMMIT", "CREATE", "DELETE", "DETACH", "DROP", "END",
  "EXPLAIN", "INSERT", "PRAGMA", "REINDEX", "RELEASE", "REPLACE", "ROLLBACK", "SAVEPOINT",
  "SELECT", "UPDATE", "VACUUM", "VALUES", "WITH"]

/-- Whether a word, in any case of letters, is one of a list. -/
def isOneOf (words : List String) (s : List Char) : Bool :=
  words.contains (String.ofList (upper s))

/-- Whether a word cannot be a name. -/
def isReserved (s : List Char) : Bool :=
  isOneOf reservedWords s

/-- The constant that a word is, whatever the columns are called. -/
def constantOf? (s : List Char) : Option Constant :=
  [("NULL", .literal .null), ("CURRENT_DATE", .date), ("CURRENT_TIME", .time),
    ("CURRENT_TIMESTAMP", .dateAndTime)].lookup (String.ofList (upper s))

namespace Command

/-! ## The grammar -/

/-- A reader of the lexemes of a statement. -/
abbrev Parser (α : Type) : Type :=
  StateT (List Lexeme) (Except Fault) α

/-- The fault at the next lexeme, which is none of the grammar, or an unknown one, or not there. -/
def faultAt (known : String → Nat → Fault) (s : List Lexeme) : Fault :=
  match s with
  | [] => .incomplete
  | l :: _ =>
    match l.token with
    | .unknown t => .unrecognized (String.ofList t) l.left
    | _ => known (String.ofList l.text) l.left

/-- The fault of meeting what SQL does not have there. -/
def unexpectedAt (s : List Lexeme) : Fault :=
  faultAt .unexpected s

/-- The stop at something else than what is read here. -/
def stopAt (s : List Lexeme) : Fault :=
  faultAt .unsupported s

/-- Stops at the next lexeme. -/
def stop : Parser α := fun s => .error (stopAt s)

/-- Stops at one of some words, and refuses everything else. -/
def refuseUnless (words : List String) : Parser α := fun s =>
  match s with
  | ⟨.word t, _, _⟩ :: _ => .error (if isOneOf words t then stopAt s else unexpectedAt s)
  | _ => .error (unexpectedAt s)

/-- A part of a statement that is read as a whole or not at all. -/
def whole (p : Parser α) : Parser α := fun s =>
  match p s with
  | .ok r => .ok r
  | .error _ => .error (stopAt s)

/-- Stops at the end of a statement, where what came before can stand alone. -/
def goesOn : Parser Unit := fun s =>
  match s with
  | [] => .error (.unsupported "" 0)
  | _ :: _ => .ok ((), s)

/-- A word of the grammar, in any case of letters. -/
def keyword (w : String) : Parser Unit := fun s =>
  match s with
  | ⟨.word t, _, _⟩ :: rest =>
    if upper t = w.toList then .ok ((), rest) else .error (stopAt s)
  | _ => .error (stopAt s)

/-- A mark of the grammar. -/
def mark (c : Char) : Parser Unit := fun s =>
  match s with
  | ⟨.mark d, _, _⟩ :: rest => if c = d then .ok ((), rest) else .error (stopAt s)
  | _ => .error (stopAt s)

/-- A name, which is a word that is not reserved or stands in quotes of any kind. -/
def name : Parser Name := fun s =>
  match s with
  | ⟨.word t, written, left⟩ :: rest =>
    if isReserved t then .error (unexpectedAt s)
    else .ok (⟨String.ofList t, String.ofList written, left⟩, rest)
  | ⟨.quoted t, written, left⟩ :: rest | ⟨.literal t, written, left⟩ :: rest =>
    .ok (⟨String.ofList t, String.ofList written, left⟩, rest)
  | _ => .error (stopAt s)

/-- Whether the next lexeme is that word; if so, it is taken. -/
def optional (w : String) : Parser Bool := fun s =>
  match s with
  | ⟨.word t, _, _⟩ :: rest =>
    if upper t = w.toList then .ok (true, rest) else .ok (false, s)
  | _ => .ok (false, s)

/-- Whether the next lexeme is that mark; if so, it is taken. -/
def optionalMark (c : Char) : Parser Bool := fun s =>
  match s with
  | ⟨.mark d, _, _⟩ :: rest => if c = d then .ok (true, rest) else .ok (false, s)
  | _ => .ok (false, s)

/-- A literal of bytes as text, or a placeholder. -/
def operand : Parser Operand := fun s =>
  match s with
  | ⟨.param n, _, _⟩ :: rest => .ok (.param n, rest)
  | ⟨.bytes b, _, _⟩ :: rest => .ok (.literal (.blob ⟨b.toArray⟩), rest)
  | _ =>
    (do
      keyword "CAST"
      mark '('
      match ← get with
      | ⟨.bytes b, _, _⟩ :: rest =>
        set rest
        keyword "AS"
        keyword "TEXT"
        mark ')'
        return .literal (.text ⟨b.toArray⟩)
      | _ => stop : Parser Operand) s

/-- One or more items with commas between them.  There are at most as many as lexemes. -/
def separated (item : Parser α) : (atMost : Nat) → Parser (List α)
  | 0 => return [← item]
  | n + 1 => fun s =>
    match item s with
    | .error e => .error e
    | .ok (first, ⟨.mark ',', _, _⟩ :: rest) =>
      match separated item n rest with
      | .error e => .error e
      | .ok (more, rest) => .ok (first :: more, rest)
    | .ok (first, rest) => .ok ([first], rest)

/-- A list of items with commas between them. -/
def list (item : Parser α) : Parser (List α) := fun s =>
  separated item s.length s

/-- The left side of a comparison. -/
def subject : Parser Subject := fun s =>
  match s with
  | ⟨.word t, _, _⟩ :: rest =>
    match constantOf? t with
    | some k => .ok (.constant k, rest)
    | none =>
      if isOneOf openingWords t then
        -- There is no expression between such a word and a sign of equality.
        match rest with
        | ⟨.mark '=', _, _⟩ :: _ => .error (unexpectedAt rest)
        | _ => .error (stopAt rest)
      else (Subject.column <$> name) s
  | ⟨.quoted _, _, _⟩ :: _ => (Subject.column <$> name) s
  | _ => .error (stopAt s)

/-- The condition of a lookup, if it has one. -/
def filter : Parser Filter := do
  if ← optional "WHERE" then
    let subject ← subject
    goesOn
    mark '='
    return .equal subject (← operand)
  else return .all

/-- A column and the cell that it is given. -/
def change : Parser (Name × Operand) := do
  let column ← name
  mark '='
  return (column, ← operand)

/-! ## Columns of a new table -/

/-- Whether a word has no meaning of its own behind the name of a column. -/
def isFreeWord (t : List Char) : Bool :=
  !isReserved t && !isOneOf untypedWords t

/-- Whether a lexeme is a word of a type. -/
def isTypeWord (l : Lexeme) : Bool :=
  match l.token with
  | .word t => isFreeWord t
  | .quoted _ | .literal _ => true
  | _ => false

/-- A number among the sizes of a type, as it is written. -/
def size : Parser (List Char) := do
  let sign ← if ← optionalMark '-' then pure ['-'] else do
    let _ ← optionalMark '+'
    pure []
  match ← get with
  | ⟨.number ds, _, _⟩ :: rest =>
    if (NumberText.parts? ds).isSome then
      set rest
      return sign ++ ds
    else stop
  | _ => stop

/-- The sizes behind the words of a type, of which there are two at most. -/
def sizes : Parser (List Char) := do
  if ← optionalMark '(' then
    let first ← size
    let more ← if ← optionalMark ',' then pure [',' :: (← size)] else pure []
    mark ')'
    return '(' :: (first :: more).flatten ++ [')']
  else return []

/-- The text of a type: that of its words with a blank between them, or what stands between the
quotes of its only one. -/
def typeText (words : List Lexeme) (sizes : List Char) : List Char :=
  match words, sizes with
  | [⟨.quoted (c :: t), _, _⟩], [] | [⟨.literal (c :: t), _, _⟩], [] => c :: t
  | _, _ => [' '].intercalate (words.map Lexeme.text) ++ sizes

/-- The type of a column, which can be left out. -/
def type : Parser String := fun s =>
  let words := s.takeWhile isTypeWord
  (do
    set (s.drop words.length)
    let sizes ← if words = [] then pure [] else sizes
    return String.ofList (typeText words sizes) : Parser String) s

/-- A number as a default, if it is written in decimal digits. -/
def numberDefault (negative : Bool) : Parser Constant := fun s =>
  match s with
  | ⟨.number ds, _, _⟩ :: rest =>
    match NumberText.parts? ds with
    | some p => .ok (.literal { p with negative := negative }.number, rest)
    | none => .error (stopAt s)
  | _ => .error (stopAt s)

/-- A literal as a default, or the moment.  A word that is none of SQL is text, like a name in
quotes. -/
def default : Parser Constant := fun s =>
  match s with
  | ⟨.word t, _, _⟩ :: rest =>
    match constantOf? t with
    | some k => .ok (k, rest)
    | none =>
      if upper t = "TRUE".toList then .ok (.literal (.integer 1), rest)
      else if upper t = "FALSE".toList then .ok (.literal (.integer 0), rest)
      else if isFreeWord t then .ok (.literal (.text (String.ofList t).toUTF8), rest)
      else .error (stopAt s)
  | ⟨.quoted t, _, _⟩ :: rest | ⟨.literal t, _, _⟩ :: rest =>
    .ok (.literal (.text (String.ofList t).toUTF8), rest)
  | ⟨.bytes b, _, _⟩ :: rest => .ok (.literal (.blob ⟨b.toArray⟩), rest)
  | ⟨.mark '-', _, _⟩ :: rest => numberDefault true rest
  | ⟨.mark '+', _, _⟩ :: rest => numberDefault false rest
  | _ => numberDefault false s

/-- Whether a key is a descending one. -/
def descending : Parser Bool := do
  if ← optional "DESC" then return true
  else
    let _ ← optional "ASC"
    return false

/-- The constraints behind a column, in any order.  That a column may be null is none, and neither
is the name of the next one. -/
def constraints : (atMost : Nat) → Parser (List Constraint)
  | 0 => return []
  | n + 1 => do
    if ← optional "PRIMARY" then
      keyword "KEY"
      let order ← descending
      let autoincrement ← optional "AUTOINCREMENT"
      return .primaryKey order autoincrement :: (← constraints n)
    else if ← optional "NOT" then
      keyword "NULL"
      return .notNull :: (← constraints n)
    else if ← optional "NULL" then constraints n
    else if ← optional "UNIQUE" then return .unique :: (← constraints n)
    else if ← optional "DEFAULT" then return .default (← default) :: (← constraints n)
    else if ← optional "CONSTRAINT" then
      let _ ← name
      constraints n
    else return []

/-- A column of a new table. -/
def columnDef : Parser ColumnDef := fun s =>
  (do
    let column ← name
    let type ← type
    let constraints ← constraints s.length
    return { name := column, type := type, constraints := constraints } : Parser ColumnDef) s

/-- What follows the word for a creation. -/
def creation : Parser Command := do
  keyword "TABLE"
  let table ← name
  mark '('
  let columns ← list columnDef
  mark ')'
  return .create table columns ""

/-! ## Statements -/

/-- A statement, by its first word. -/
def statement : Parser Command := do
  if ← optional "SELECT" then
    mark '*'
    goesOn
    keyword "FROM"
    let table ← name
    return .select table (← filter)
  else if ← optional "INSERT" then
    keyword "INTO"
    let table ← name
    mark '('
    let columns ← list name
    mark ')'
    keyword "VALUES"
    mark '('
    let cells ← list operand
    mark ')'
    return .insert table columns cells
  else if ← optional "UPDATE" then
    if ← optional "OR" then refuseUnless resolvingWords
    let table ← name
    keyword "SET"
    let changes ← list change
    return .update table changes (← filter)
  else if ← optional "DELETE" then
    keyword "FROM"
    let table ← name
    return .delete table (← filter)
  else if ← optional "CREATE" then whole creation
  else if ← optional "BEGIN" then
    let _ ← optional "TRANSACTION"
    return .beginTransaction
  else if ← optional "COMMIT" then
    let _ ← optional "TRANSACTION"
    return .commit
  else if ← optional "END" then
    let _ ← optional "TRANSACTION"
    return .commit
  else if ← optional "ROLLBACK" then
    let _ ← optional "TRANSACTION"
    return .rollback
  else refuseUnless statementWords

/-- The text that defines a table, from the lexemes of the statement that creates it.  The first two
words are always written in the same way. -/
def definition (text : List Char) (s : List Lexeme) : String :=
  "CREATE TABLE " ++
    String.ofList (Lexeme.span text ((s.drop 2).takeWhile fun l => !l.endsStatement))

/-- A command that keeps its definition, if it has one. -/
def defined (c : Command) (definition : String) : Command :=
  match c with
  | .create table columns _ => .create table columns definition
  | c => c

/-- The command of one statement of a text, which is nothing more than its semicolon if there is
none. -/
def ofStatement (text : List Char) (s : List Lexeme) : Except Fault (Option Command) :=
  match s with
  | [] => .ok none
  | l :: more =>
    if l.endsStatement ∧ more = [] then .ok none
    else
      match statement s with
      | .error e => .error e
      | .ok (c, []) => .ok (some (c.defined (definition text s)))
      | .ok (c, l :: rest) =>
        if l.endsStatement then .ok (some (c.defined (definition text s)))
        else .error (stopAt (l :: rest))

/-- The first statement of a text; a text without one has no command. -/
def parse (sql : List Char) : Except Fault (Option Command) :=
  match Lexeme.statements (Lexeme.scan sql) with
  | [] => .ok none
  | s :: _ => ofStatement sql s

end Command

/-! ## Parameters -/

/-- The positions of the placeholders in an operand. -/
def Operand.params : Operand → List Nat
  | .param n => [n]
  | .literal _ => []

/-- The positions of the placeholders in a condition. -/
def Filter.params : Filter → List Nat
  | .all => []
  | .equal _ wanted => wanted.params

/-- The positions of all placeholders of a command. -/
def Command.params : Command → List Nat
  | .select _ filter | .delete _ filter => filter.params
  | .insert _ _ cells => cells.flatMap Operand.params
  | .update _ changes filter => changes.flatMap (·.2.params) ++ filter.params
  | .create .. | .beginTransaction | .commit | .rollback => []

/-- How many parameters a command needs: the largest position of a placeholder. -/
def Command.paramCount (c : Command) : Nat :=
  c.params.foldl max 0

end Database

end CrudByName
