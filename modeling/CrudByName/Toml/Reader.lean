import CrudByName.Toml.Marked
import CrudByName.Toml.Number
import CrudByName.Toml.Quoted

/-!
# Reading a TOML document

A document is read line by line.  A line is blank, or opens a table, or puts a value under a key;
in each case a comment may follow.  `Toml.read` gives the items of the outermost table.

Arrays and tables written in one piece may stand in one another, `depthLimit` deep at most; inside
an array there may be line ends and comments anywhere, inside such a table none.
-/

namespace CrudByName

namespace Toml

/-- How deep values may stand in one another, and how many parts a key may have. -/
def depthLimit : Nat := 79

/-- A reader of a document takes a part off its front. -/
abbrev Reader (α : Type) : Type :=
  StateT (List Char) (Except Fault) α

namespace Reader

/-! ## Marks and blanks -/

/-- Refuses what is next. -/
def refuse : Reader α := fun s => .error (.unexpected s.length)

/-- A mark that is due. -/
def mark (c : Char) : Reader Unit := fun s =>
  match s with
  | d :: rest => if c = d then .ok ((), rest) else .error (.unexpected s.length)
  | [] => .error (.unexpected 0)

/-- Whether that character is next; if so, it is taken. -/
def optional (c : Char) : Reader Bool := fun s =>
  match s with
  | d :: rest => .ok (if c = d then (true, rest) else (false, s))
  | [] => .ok (false, s)

/-- Blanks, if there are any. -/
def blanks : Reader Unit := fun s =>
  .ok ((), s.dropWhile isBlank)

/-- The next character, which is not taken. -/
def next? : Reader (Option Char) := fun s =>
  .ok (s.head?, s)

/-- A comment, if there is one. -/
def comment : Reader Unit := fun s =>
  match s with
  | '#' :: rest => .ok ((), rest.dropWhile isPrintable)
  | _ => .ok ((), s)

/-- The end of a line or of the document, behind blanks and a comment. -/
def lineEnd : Reader Unit := do
  blanks
  comment
  fun s =>
    match s with
    | [] => .ok ((), [])
    | _ =>
      match Quoted.lineEnd? s with
      | some rest => .ok ((), rest)
      | none => .error (.unexpected s.length)

/-- Blanks, comments and line ends, over at most so many lines. -/
def space : (atMost : Nat) → Reader Unit
  | 0 => blanks
  | n + 1 => do
    blanks
    comment
    fun s =>
      match Quoted.lineEnd? s with
      | some rest => space n rest
      | none => .ok ((), s)

/-- Blanks, comments and line ends. -/
def anySpace : Reader Unit := fun s =>
  space s.length s

/-! ## Keys -/

/-- The characters of a key without quotes. -/
def inBareKey (c : Char) : Bool :=
  Decimal.isDigit c || ('a' ≤ c && c ≤ 'z') || ('A' ≤ c && c ≤ 'Z') || c == '-' || c == '_'

/-- One part of a key: a string on one line, or letters, digits, hyphens and underscores. -/
def keyPart : Reader String := fun s =>
  match Quoted.oneLine? s with
  | some (.ok (name, rest)) => .ok (String.ofList name, rest)
  | some (.error fault) => .error fault
  | none =>
    match s.takeWhile inBareKey with
    | [] => .error (.unexpected s.length)
    | name => .ok (String.ofList name, s.dropWhile inBareKey)

/-- The parts of a key, with points between them. -/
def keyParts : (atMost : Nat) → Reader (List String)
  | 0 => refuse
  | n + 1 => do
    blanks
    let first ← keyPart
    blanks
    if ← optional '.' then return first :: (← keyParts n)
    else return [first]

/-- A key as its path and its last name. -/
def key : Reader (List String × String) := do
  let parts ← keyParts depthLimit
  match parts.reverse with
  | last :: path => return (path.reverse, last)
  | [] => refuse

/-! ## Values -/

/-- Items with commas between them up to a closing mark, and perhaps one more comma before it. -/
def items (item : Reader Item) (close : Char) : (atMost : Nat) → Reader (List Item)
  | 0 => refuse
  | n + 1 => do
    anySpace
    if ← optional close then return []
    let first ← item
    anySpace
    if ← optional ',' then return first :: (← items item close n)
    mark close
    return [first]

/-- A key with its value. -/
def member (item : Reader Item) : Reader ((List String × String) × Item) := do
  let k ← key
  mark '='
  blanks
  let i ← item
  blanks
  return (k, i)

/-- Keys and values with commas between them, up to a closing brace. -/
def members (item : Reader Item) : (atMost : Nat) → Reader (List ((List String × String) × Item))
  | 0 => refuse
  | n + 1 => do
    let first ← member item
    if ← optional ',' then return first :: (← members item n)
    mark '\x7d'
    return [first]

/-- A table written in one piece, from behind its opening brace. -/
def inlineTable (item : Reader Item) : Reader Item := do
  blanks
  if ← optional '\x7d' then return .table .closed []
  let all ← fun s => members item s.length s
  let entries ← all.foldlM
    (fun entries ((path, name), item) => Entries.put path name item .opened entries) []
  return .table .closed entries

/-- A word that stands for a value. -/
def keyword (word : String) (item : Item) : Reader Item := fun s =>
  match Number.word? word.toList s with
  | some rest => .ok (item, rest)
  | none => .error (.unexpected s.length)

/-- A value that holds no others. -/
def scalar : Reader Item := fun s =>
  match Quoted.read? s with
  | some (.ok (text, rest)) => .ok (.text (String.ofList text), rest)
  | some (.error fault) => .error fault
  | none =>
    match s with
    | 't' :: _ => keyword "true" (.switch true) s
    | 'f' :: _ => keyword "false" (.switch false) s
    | _ =>
      match Moment.read? .bare s, Number.read? s with
      | some (text, rest), _ => .ok (.moment text, rest)
      | none, some (item, rest) => .ok (item, rest)
      | none, none => .error (.unexpected s.length)

/-- A value in which others stand at most so many deep. -/
def value : (depth : Nat) → Reader Item
  | 0 => do
    match ← next? with
    | some '[' | some '\x7b' => fun _ => .error .tooDeep
    | _ => scalar
  | depth + 1 => do
    match ← next? with
    | some '[' =>
      mark '['
      return .list (← fun s => items (value depth) ']' (s.length + 1) s)
    | some '\x7b' =>
      mark '\x7b'
      inlineTable (value depth)
    | _ => scalar

/-! ## Documents -/

/-- The outermost table, and the header that lines belong to. -/
structure Draft where
  entries : Entries
  header : List String

/-- A line that opens a table. -/
def headerLine (d : Draft) : Reader Draft := do
  mark '['
  let isPart ← optional '['
  let (path, name) ← key
  mark ']'
  if isPart then mark ']'
  lineEnd
  let entries ← if isPart then Entries.openPart path name d.entries
    else Entries.openTable path name d.entries
  return ⟨entries, path ++ [name]⟩

/-- A line with a key and its value. -/
def keyLine (d : Draft) : Reader Draft := do
  let ((path, name), item) ← member (value depthLimit)
  lineEnd
  return ⟨← Entries.putBelow d.header path name item d.entries, d.header⟩

/-- One line of a document. -/
def line (d : Draft) : Reader Draft := do
  blanks
  match ← next? with
  | some '[' => headerLine d
  | some '#' | some '\n' | some '\r' | none =>
    lineEnd
    return d
  | _ => keyLine d

/-- The lines of a document, of which there are at most as many as characters. -/
def lines : (atMost : Nat) → Draft → List Char → Except Fault Entries
  | 0, d, _ => .ok d.entries
  | _, d, [] => .ok d.entries
  | n + 1, d, s =>
    match line d s with
    | .ok (d, rest) => lines n d rest
    | .error fault => .error fault

end Reader

/-- A mark of the byte order in front of a document does not count. -/
def withoutMark : List Char → List Char
  | '\uFEFF' :: rest => rest
  | s => s

/-- Reads a document. -/
def read (document : List Char) : Except Fault Entries :=
  let s := withoutMark document
  (Reader.lines s.length ⟨[], []⟩ s).bind Entries.stated

end Toml

end CrudByName
