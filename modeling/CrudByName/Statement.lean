import CrudByName.Identifier
import CrudByName.Operation

/-!
# Statements

A `Statement` is one of four shapes over identifiers.  Its text (`Statement.chars`) is made of
fixed words, identifiers and placeholders only; values never enter it and travel beside it in
`Prepared.params`, in the order of the placeholders.

A placeholder is spelled in one of three styles (`PlaceholderStyle`): a bare question mark, or the
position behind a question mark or a dollar sign.

`prepare` turns a verb, a table, an optional lookup field and the arguments into a prepared
statement.  It checks, in this order, that the verb has a shape with or without a field, the number
of arguments, the kind of each, that a field map is not empty, and last its names from left to
right: each has to normalize, and no two may fall on one column (`columnsOf`).
-/

namespace CrudByName

/-! ## Placeholders -/

/-- How a connection spells its positional placeholders. -/
inductive PlaceholderStyle where
  | question
  | indexed
  | dollar
  deriving DecidableEq, Repr

namespace PlaceholderStyle

instance : Inhabited PlaceholderStyle := ⟨question⟩

/-- The placeholder of the parameter at `position`, counted from one. -/
def chars (style : PlaceholderStyle) (position : Nat) : List Char :=
  match style with
  | question => ['?']
  | indexed => '?' :: Decimal.digits position
  | dollar => '$' :: Decimal.digits position

/-- The text of the placeholder at `position`. -/
def placeholder (style : PlaceholderStyle) (position : Nat) : String :=
  String.ofList (style.chars position)

end PlaceholderStyle

/-! ## Statements -/

/-- A statement on one table. -/
inductive Statement where
  | select (table key : Identifier)
  | insert (table : Identifier) (columns : List Identifier)
  | update (table : Identifier) (columns : List Identifier) (key : Identifier)
  | delete (table key : Identifier)
  deriving DecidableEq

namespace Statement

/-! ## Text -/

/-- Texts with a comma and a blank between them. -/
def commaSeparated (parts : List (List Char)) : List Char :=
  [',', ' '].intercalate parts

/-- The placeholders of positions `first`, `first + 1`, … as many as there are columns. -/
def marks (style : PlaceholderStyle) (first count : Nat) : List (List Char) :=
  (List.range' first count).map style.chars

/-- A column with the placeholder of its value. -/
def assignment (style : PlaceholderStyle) (column : Identifier) (position : Nat) : List Char :=
  column.name.toList ++ " = ".toList ++ style.chars position

/-- Columns with the placeholders of their values, counted from one. -/
def assignments (style : PlaceholderStyle) (columns : List Identifier) : List (List Char) :=
  columns.zipIdx.map fun (column, i) => assignment style column (i + 1)

/-- The text of a statement. -/
def chars (style : PlaceholderStyle) : Statement → List Char
  | select table key =>
    "SELECT * FROM ".toList ++ table.name.toList ++ " WHERE ".toList ++ assignment style key 1
  | delete table key =>
    "DELETE FROM ".toList ++ table.name.toList ++ " WHERE ".toList ++ assignment style key 1
  | insert table columns =>
    "INSERT INTO ".toList ++ table.name.toList ++ " (".toList ++
      commaSeparated (columns.map (·.name.toList)) ++ ") VALUES (".toList ++
      commaSeparated (marks style 1 columns.length) ++ ")".toList
  | update table columns key =>
    "UPDATE ".toList ++ table.name.toList ++ " SET ".toList ++
      commaSeparated (assignments style columns) ++ " WHERE ".toList ++
      assignment style key (columns.length + 1)

/-- The text of a statement as a string. -/
def text (style : PlaceholderStyle) (s : Statement) : String :=
  String.ofList (s.chars style)

/-- A select hands back rows and every other statement a count. -/
def returnsRows : Statement → Bool
  | select .. => true
  | _ => false

/-- How many values a statement needs. -/
def paramCount : Statement → Nat
  | select .. | delete .. => 1
  | insert _ columns => columns.length
  | update _ columns _ => columns.length + 1

end Statement

/-- A statement with the values of its placeholders. -/
structure Prepared where
  statement : Statement
  params : List Value
  deriving DecidableEq

/-! ## Checking arguments -/

/-- The value of a scalar argument. -/
def Argument.scalarAt (position : Nat) : Argument → Except CrudError Value
  | .scalar v => .ok v
  | .fields _ => .error (.invalidArgument (.notScalar position))

/-- The columns of a list of named values, none of them in `taken` and none named twice. -/
def columnsOf (taken : List Identifier) :
    List (String × Value) → Except CrudError (List (Identifier × Value))
  | [] => .ok []
  | (name, value) :: rest =>
    match Identifier.normalize name with
    | .error e => .error e
    | .ok column =>
      if column ∈ taken then .error (.invalidArgument (.repeatedColumn name column.name))
      else
        match columnsOf (column :: taken) rest with
        | .error e => .error e
        | .ok columns => .ok ((column, value) :: columns)

/-- The columns of a field map, which may not be empty. -/
def Argument.columnsAt (position : Nat) :
    Argument → Except CrudError (List (Identifier × Value))
  | .scalar _ => .error (.invalidArgument (.notFields position))
  | .fields r =>
    if r.isEmpty then .error (.invalidArgument (.noFields position)) else columnsOf [] r.fields

/-! ## Preparing -/

/-- A lookup by one value. -/
def prepareKeyed (verb : Verb) (statement : Statement) (args : List Argument) :
    Except CrudError Prepared :=
  match args with
  | [lookup] => do
    let value ← lookup.scalarAt 1
    return ⟨statement, [value]⟩
  | _ => .error (.invalidArgument (.arity verb 1 args.length))

/-- Prepares an insert of one field map. -/
def prepareInsert (table : Identifier) (args : List Argument) : Except CrudError Prepared :=
  match args with
  | [data] => do
    let columns ← data.columnsAt 1
    return ⟨.insert table (columns.map Prod.fst), columns.map Prod.snd⟩
  | _ => .error (.invalidArgument (.arity .insert 1 args.length))

/-- Prepares an update: the value to look up by, and the changes. -/
def prepareUpdate (table key : Identifier) (args : List Argument) : Except CrudError Prepared :=
  match args with
  | [lookup, changes] => do
    let value ← lookup.scalarAt 1
    let columns ← changes.columnsAt 2
    return ⟨.update table (columns.map Prod.fst) key, columns.map Prod.snd ++ [value]⟩
  | _ => .error (.invalidArgument (.arity .update 2 args.length))

/-- Prepares the statement of a verb. -/
def prepare (verb : Verb) (table : Identifier) (field : Option Identifier)
    (args : List Argument) : Except CrudError Prepared :=
  match verb, field with
  | .get, some key => prepareKeyed .get (.select table key) args
  | .delete, some key => prepareKeyed .delete (.delete table key) args
  | .insert, none => prepareInsert table args
  | .update, some key => prepareUpdate table key args
  | _, _ => .error (.invalidArgument (.noShape verb table.name))

end CrudByName
