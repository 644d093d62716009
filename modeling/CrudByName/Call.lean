import CrudByName.Error
import CrudByName.Json.Reader
import CrudByName.Operation
import CrudByName.Text.Blank

/-!
# Calls

A call is an operation name and its arguments, written as `name` or `name(arguments)`.  The
arguments are JSON values separated by commas: an object is a field map, everything else a scalar.
`Call.parse` trims the text, drops final semicolons, takes the name and the text up to the closing
parenthesis apart, and reads what stands between the parentheses as the inside of one JSON array.
`Call.text` writes a call.

A JSON value that is neither an object nor an array converts to a value by `Value.ofJson`; integers
that do not fit and containers have none.  Repeated members of an object are collapsed before they
are converted.
-/

namespace CrudByName

/-! ## From JSON to arguments -/

/-- The value of a JSON value; a container is none, and neither is an integer of more than
sixty-four bits. -/
def Value.ofJson (j : Json) : Except CrudError Value :=
  match j with
  | .null => .ok .null
  | .bool b => .ok (.boolean b)
  | .number (.integer n) =>
    match int64? n with
    | some i => .ok (.integer i)
    | none => .error (.invalidArgument (.integerRange n))
  | .number (.real x) => .ok (.real x)
  | .string s => .ok (.text s)
  | .array _ | .object _ => .error (.invalidArgument (.nested j.collapsed.text))

/-- The fields of an object, in order. -/
def fieldsOfMembers (members : List (String × Json)) : Except CrudError (List (String × Value)) :=
  members.mapM fun (name, j) => (Value.ofJson j).map fun v => (name, v)

/-- The argument of a JSON value: an object is a field map, with the last value of a repeated
name. -/
def Argument.ofJson (j : Json) : Except CrudError Argument :=
  match j with
  | .object members => do
    let fields ← fieldsOfMembers (Json.collapse members)
    return .fields (Record.ofList fields)
  | j => (Value.ofJson j).map .scalar

/-- An operation name and its arguments. -/
structure Call where
  operation : String
  args : List Argument
  deriving DecidableEq

namespace Call

/-! ## The parts of a call -/

/-- The letters and digits of an operation name. -/
def isNameChar (c : Char) : Bool :=
  ('0' ≤ c && c ≤ '9') || ('a' ≤ c && c ≤ 'z') || ('A' ≤ c && c ≤ 'Z')

/-- A call without the blanks around it and the semicolons at its end. -/
def bare (text : List Char) : List Char :=
  Text.dropEndWhile (· == ';') (Text.trim text)

/-- What stands in front of a closing parenthesis, blanks after it aside. -/
def beforeParenthesis? (s : List Char) : Option (List Char) :=
  match (Text.trimEnd s).reverse with
  | ')' :: inside => some inside.reverse
  | _ => none

/-- The name of a call, and what stands between its parentheses if it has any. -/
def parts? (s : List Char) : Option (List Char × Option (List Char)) :=
  let s := Json.skipBlanks s
  let name := s.takeWhile isNameChar
  if name = [] then none
  else
    match Json.skipBlanks (s.dropWhile isNameChar) with
    | [] => some (name, none)
    | '(' :: rest => (beforeParenthesis? rest).map fun inside => (name, some inside)
    | _ => none

/-! ## Parsing -/

/-- The arguments written between the parentheses; blanks alone are none. -/
def argsOf (inside : List Char) : Except CrudError (List Argument) :=
  if Text.allBlank inside then .ok []
  else
    match Json.read ('[' :: inside ++ [']']) with
    | .error fault => .error (.invalidArgument (.badList fault))
    | .ok (.array items) => items.mapM Argument.ofJson
    | .ok j => (Argument.ofJson j).map fun a => [a]

/-- The call of a text, or why it is none. -/
def parseChars (text : List Char) : Except CrudError Call :=
  let s := bare text
  match parts? s with
  | none => .error (.invalidArgument (.unreadableCall (String.ofList s)))
  | some (name, inside) =>
    match argsOf (inside.getD []) with
    | .error e => .error e
    | .ok args => .ok ⟨String.ofList name, args⟩

/-- Reads a call. -/
def parse (text : String) : Except CrudError Call :=
  parseChars text.toList

end Call

/-! ## Writing -/

/-- The JSON value of a value. -/
def Value.toJson : Value → Json
  | .null => .null
  | .integer n => .number (.integer n.toInt)
  | .real x => .number (.real x)
  | .text s => .string s
  | .boolean b => .bool b
  | .blob bytes => .string (Hex.encode bytes)

/-- The JSON value of an argument. -/
def Argument.toJson : Argument → Json
  | .scalar v => v.toJson
  | .fields r => .object (r.fields.map fun (name, v) => (name, v.toJson))

namespace Call

/-- A call with its arguments in parentheses.  Bytes have no JSON form and are written as text. -/
def chars (c : Call) : List Char :=
  c.operation.toList ++ '(' :: Json.commaJoined (c.args.map fun a => a.toJson.chars) ++ [')']

/-- The text of a call. -/
def text (c : Call) : String :=
  String.ofList c.chars

end Call

end CrudByName
