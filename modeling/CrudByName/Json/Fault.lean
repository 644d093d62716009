import CrudByName.Decimal.Digits

/-!
# Why a JSON text is refused, and where

A reader that meets a text it cannot go on with gives a `Fault`: the cause, and how many bytes of
the text were left when it stopped.  Counting from the end needs no knowledge of what came before,
so that a reader only has to look at what it has in front of it.  A fault is `seen` at a byte that
was looked at and not taken, which then counts as read, or `reached` after the last byte taken.

`Fault.locate` turns the count into a line and a column, a column being the bytes since the last
line feed.
-/

namespace CrudByName

namespace Json

/-- Why a text is no JSON text. -/
inductive Cause where
  | endInValue
  | endInList
  | endInObject
  | endInString
  | expectedValue
  | expectedIdent
  | expectedColon
  | expectedCommaOrBracket
  | expectedCommaOrBrace
  | keyMustBeString
  | trailingComma
  | trailingCharacters
  | recursionLimit
  | invalidNumber
  | numberRange
  | controlCharacter
  | invalidEscape
  | loneSurrogate
  | unpairedSurrogate
  deriving DecidableEq, Repr

/-- The wording of a cause. -/
def Cause.message : Cause → String
  | endInValue => "EOF while parsing a value"
  | endInList => "EOF while parsing a list"
  | endInObject => "EOF while parsing an object"
  | endInString => "EOF while parsing a string"
  | expectedValue => "expected value"
  | expectedIdent => "expected ident"
  | expectedColon => "expected \x60:\x60"
  | expectedCommaOrBracket => "expected \x60,\x60 or \x60]\x60"
  | expectedCommaOrBrace => "expected \x60,\x60 or \x60\x7d\x60"
  | keyMustBeString => "key must be a string"
  | trailingComma => "trailing comma"
  | trailingCharacters => "trailing characters"
  | recursionLimit => "recursion limit exceeded"
  | invalidNumber => "invalid number"
  | numberRange => "number out of range"
  | controlCharacter => "control character (\\u0000-\\u001F) found while parsing a string"
  | invalidEscape => "invalid escape"
  | loneSurrogate => "lone leading surrogate in hex escape"
  | unpairedSurrogate => "unexpected end of hex escape"

/-- The number of bytes of a text in UTF-8. -/
def byteCount (s : List Char) : Nat :=
  s.foldl (fun n c => n + c.utf8Size) 0

/-- A cause, and the number of bytes left where it was met. -/
structure Fault where
  cause : Cause
  left : Nat
  deriving DecidableEq, Repr

/-- At the next byte, which counts as read. -/
def Fault.seen (cause : Cause) (rest : List Char) : Fault :=
  ⟨cause, byteCount rest - 1⟩

/-- After the last byte taken. -/
def Fault.reached (cause : Cause) (rest : List Char) : Fault :=
  ⟨cause, byteCount rest⟩

/-! ## Lines and columns -/

/-- A cause with its line and column, both counted in the whole text. -/
structure Located where
  cause : Cause
  line : Nat
  column : Nat
  deriving DecidableEq, Repr

/-- The line and column reached after a number of bytes. -/
def position : List Char → (bytes line column : Nat) → Nat × Nat
  | [], _, line, column => (line, column)
  | c :: rest, bytes, line, column =>
    if bytes = 0 then (line, column)
    else if c = '\n' then position rest (bytes - 1) (line + 1) 0
    else position rest (bytes - c.utf8Size) line (column + min bytes c.utf8Size)

/-- The line and column of a fault. -/
def Fault.locate (text : List Char) (f : Fault) : Located :=
  let (line, column) := position text (byteCount text - f.left) 1 0
  ⟨f.cause, line, column⟩

/-- The wording of a cause with its place. -/
def Located.message (l : Located) : String :=
  s!"{l.cause.message} at line {Decimal.natText l.line} column {Decimal.natText l.column}"

end Json

end CrudByName
