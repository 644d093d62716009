import CrudByName.Decimal.Digits

/-!
# What a TOML document holds

An `Item` is a value of a document, and a table is a list of items under distinct names.  A document
is built up line by line, and what may still be added to a table depends on how it came to be: its
`Standing`.

* A table written in one piece is closed.
* A header opens a table, once; the tables on its way may be there before it or come about with it.
* A dotted key enters the tables on its way, unless a header has opened them, and puts its value
  into a table that dotted keys have made.
* A header in double brackets adds a part to a list of tables; from then on the way leads into the
  last part.

A document that is refused has a `Fault`.  A fault of the text carries the number of characters that
were left when reading stopped, so that a reader only has to look at what it has in front of it.
`Fault.message` turns it into a line.
-/

namespace CrudByName

namespace Toml

/-! ## Faults -/

/-- Why a document is refused. -/
inductive Fault where
  | unexpected (left : Nat)
  | repeated (key : String)
  | tooDeep
  | noMoment
  deriving DecidableEq, Repr

/-- The line that holds the last characters of a document, counted from one. -/
def lineOf (document : List Char) (left : Nat) : Nat :=
  ((document.take (document.length - left)).filter (· == '\n')).length + 1

/-- The wording of a fault. -/
def Fault.message (document : List Char) : Fault → String
  | unexpected left => s!"syntax error on line " ++ Decimal.natText (lineOf document left)
  | repeated key => s!"duplicate key '{key}'"
  | tooDeep => "values are nested too deeply"
  | noMoment => "a table with the mark of moments does not hold one"

/-! ## Items -/

/-- How a table came to be. -/
inductive Standing where
  /-- It was written in one piece. -/
  | closed
  /-- It has a header of its own. -/
  | opened
  /-- It lies on the way of a header. -/
  | passed
  /-- It lies on the way of a dotted key. -/
  | dotted
  deriving DecidableEq, Repr

/-- A value of a document.  A date or time is known by its text alone. -/
inductive Item where
  | text (s : String)
  | integer (n : Int)
  | real (x : Float)
  | switch (b : Bool)
  | moment (text : String)
  | list (items : List Item)
  | table (standing : Standing) (entries : List (String × Item))
  | tables (parts : List (List (String × Item)))

/-- The items of a table by their names. -/
abbrev Entries : Type :=
  List (String × Item)

namespace Entries

/-- Replaces the item of that name, or adds one. -/
def alter (key : String) (change : Option Item → Except Fault Item) :
    Entries → Except Fault Entries
  | [] => (change none).map fun item => [(key, item)]
  | (name, item) :: rest =>
    if name = key then (change (some item)).map fun item => (name, item) :: rest
    else (alter key change rest).map fun rest => (name, item) :: rest

/-- Changes the table at the end of a path.  Missing tables come about with the standing `way`. -/
def within (way : Standing) (change : Standing → Entries → Except Fault Entries) :
    List String → Standing → Entries → Except Fault Entries
  | [], standing, entries => change standing entries
  | key :: path, _, entries =>
    alter key (fun item =>
      match item with
      | none => (within way change path way []).map (.table way)
      | some (.table standing inner) =>
        if standing = .closed ∨ (way = .dotted ∧ standing = .opened) then .error (.repeated key)
        else (within way change path standing inner).map (.table standing)
      | some (.tables parts) =>
        match parts.reverse with
        | [] => .error (.repeated key)
        | last :: earlier =>
          (within way change path .opened last).map fun last =>
            .tables (earlier.reverse ++ [last])
      | some _ => .error (.repeated key)) entries

/-- Adds an item under a dotted key, given as its path and its last name. -/
def put (path : List String) (name : String) (item : Item) (standing : Standing)
    (entries : Entries) : Except Fault Entries :=
  within .dotted (fun standing entries =>
    if path ≠ [] ∧ standing ≠ .dotted then .error (.repeated name)
    else
      alter name (fun old =>
        match old with
        | none => .ok item
        | some _ => .error (.repeated name)) entries) path standing entries

/-- Opens the table of a header. -/
def openTable (path : List String) (name : String) : Entries → Except Fault Entries :=
  within .passed (fun _ => alter name fun old =>
    match old with
    | none => .ok (.table .opened [])
    | some (.table .passed inner) => .ok (.table .opened inner)
    | some _ => .error (.repeated name)) path .opened

/-- Adds a part for a header in double brackets. -/
def openPart (path : List String) (name : String) : Entries → Except Fault Entries :=
  within .passed (fun _ => alter name fun old =>
    match old with
    | none => .ok (.tables [[]])
    | some (.tables parts) => .ok (.tables (parts ++ [[]]))
    | some _ => .error (.repeated name)) path .opened

/-- Adds an item below the header of that path. -/
def putBelow (header path : List String) (name : String) (item : Item) :
    Entries → Except Fault Entries :=
  within .passed (put path name item) header .opened

end Entries

end Toml

end CrudByName
