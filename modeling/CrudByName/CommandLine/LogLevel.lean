import CrudByName.Decimal.Digits

/-!
# Log levels

A log level is chosen by its name, in any case of ASCII letters, or by its number from one to five,
which may have a plus sign and zeros in front.  Any other text means `warn`, and then there is a
notice to say so (`notice?`).
-/

namespace CrudByName

/-- How much is logged, from least to most. -/
inductive LogLevel where
  | error
  | warn
  | info
  | debug
  | trace
  deriving DecidableEq, Repr

namespace LogLevel

/-- All levels. -/
def all : List LogLevel :=
  [error, warn, info, debug, trace]

/-- The name of a level. -/
def name : LogLevel → String
  | error => "ERROR"
  | warn => "WARN"
  | info => "INFO"
  | debug => "DEBUG"
  | trace => "TRACE"

/-- The number that may stand for a level. -/
def number : LogLevel → Nat
  | error => 1
  | warn => 2
  | info => 3
  | debug => 4
  | trace => 5

/-! ## Reading -/

/-- The level of a name, in any case of letters. -/
def ofName? (s : List Char) : Option LogLevel :=
  all.find? fun l => l.name.toList == s.map Char.toUpper

/-- A number without the plus sign in front. -/
def withoutPlus : List Char → List Char
  | '+' :: rest => rest
  | s => s

/-- The level of a number. -/
def ofNumber? (s : List Char) : Option LogLevel :=
  let ds := withoutPlus s
  if ds ≠ [] ∧ ds.all Decimal.isDigit then all.find? fun l => l.number == Decimal.ofDigits ds
  else none

/-- The level that a text chooses. -/
def read? (text : String) : Option LogLevel :=
  (ofName? text.toList).or (ofNumber? text.toList)

/-- The level that a text means. -/
def ofText (text : String) : LogLevel :=
  (read? text).getD warn

/-- What is said about a text that chooses no level. -/
def notice? (text : String) : Option String :=
  if (read? text).isSome then none else some s!"Unknown log level '{text}', using 'warn'"

theorem ofName?_name (l : LogLevel) : ofName? l.name.toList = some l := by
  cases l <;> decide +kernel

end LogLevel

end CrudByName
