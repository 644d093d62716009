import CrudByName.Decimal.Notation
import CrudByName.Members
import CrudByName.Text.Hex

/-!
# JSON values

`Json` is a JSON text without its layout.  An object keeps its members as they were written, in
order and with repeated names; `Json.members` collapses them, a later member taking the place and
not the position of an earlier one of the same name.  A number is an integer as long as it was
written as one and fits into sixty-four bits with or without a sign, and a double otherwise.
-/

namespace CrudByName

/-- A number of a JSON text. -/
inductive Json.Number where
  | integer (n : Int)
  | real (x : Float)
  deriving DecidableEq

/-- A JSON value. -/
inductive Json where
  | null
  | bool (b : Bool)
  | number (n : Json.Number)
  | string (s : String)
  | array (items : List Json)
  | object (members : List (String × Json))

namespace Json

/-- Whether a value is a container, which no parameter can hold. -/
def isNested : Json → Bool
  | array _ | object _ => true
  | _ => false

/-! ## Members by name -/

/-- One member for each name: the position of its first occurrence, the value of its last. -/
def collapse (members : List (String × α)) : List (String × α) :=
  members.foldl (fun ms m => Members.put m.1 m.2 ms) []

mutual

/-- Collapses every object inside a value. -/
def collapsed : Json → Json
  | array items => array (collapsedItems items)
  | object members => object (collapse (collapsedMembers members))
  | j => j

/-- Collapses every object inside some items. -/
def collapsedItems : List Json → List Json
  | [] => []
  | v :: rest => v.collapsed :: collapsedItems rest

/-- Collapses every object inside some members, but not the members themselves. -/
def collapsedMembers : List (String × Json) → List (String × Json)
  | [] => []
  | (name, v) :: rest => (name, v.collapsed) :: collapsedMembers rest

end

/-! ## Writing -/

/-- The escape of a character inside a string, if it has one. -/
def escape (c : Char) : List Char :=
  if c = '"' then ['\\', '"']
  else if c = '\\' then ['\\', '\\']
  else if c = '\x08' then ['\\', 'b']
  else if c = '\x0c' then ['\\', 'f']
  else if c = '\n' then ['\\', 'n']
  else if c = '\r' then ['\\', 'r']
  else if c = '\t' then ['\\', 't']
  else if c.toNat < 0x20 then ['\\', 'u', '0', '0'] ++ Hex.byte c.toUInt8
  else [c]

/-- A string between quotes. -/
def quoted (s : List Char) : List Char :=
  '"' :: s.flatMap escape ++ ['"']

/-- Texts with commas between them. -/
def commaJoined (parts : List (List Char)) : List Char :=
  [','].intercalate parts

/-- The text of a number. -/
def Number.chars : Number → List Char
  | integer n => Decimal.signed n
  | real x => Decimal.jsonNumber.write x

mutual

/-- The text of a value, without blanks. -/
def chars : Json → List Char
  | null => "null".toList
  | bool true => "true".toList
  | bool false => "false".toList
  | number n => n.chars
  | string s => quoted s.toList
  | array items => '[' :: commaJoined (charsOfItems items) ++ [']']
  | object members => '{' :: commaJoined (charsOfMembers members) ++ ['}']

/-- The texts of items. -/
def charsOfItems : List Json → List (List Char)
  | [] => []
  | v :: rest => v.chars :: charsOfItems rest

/-- The texts of members. -/
def charsOfMembers : List (String × Json) → List (List Char)
  | [] => []
  | (name, v) :: rest => (quoted name.toList ++ ':' :: v.chars) :: charsOfMembers rest

end

/-- The text of a value as a string. -/
def text (j : Json) : String :=
  String.ofList j.chars

end Json

end CrudByName
