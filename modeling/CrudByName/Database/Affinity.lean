import CrudByName.Database.Cell

/-!
# Column affinities

A column prefers a class of cells and converts what it is given, if nothing is lost on the way
(`Affinity.store`).  An integer, numeric or real column takes text that is a number as a number, an
integer or numeric column takes a real without a fraction as an integer, and a real column takes an
integer as a real.  A text column takes numbers as text.  Everything else is kept as it came.

Which class it is follows from the type that a column is declared with, by the words that occur in
it (`Affinity.ofType`): a type can be any words, or none.

A lookup converts the value that is looked for in the same direction (`Affinity.probe`), but leaves
the class of numbers alone, since they compare by size anyway.

`NumberText.read` reads the text of a number: blanks around it, a sign, digits with a point among
them, at least one digit in all, and an exponent.
-/

namespace CrudByName

namespace Database

/-! ## Text that is a number -/

namespace NumberText

/-- The blanks that may stand around a number. -/
def isBlank (c : Char) : Bool :=
  c == ' ' || (0x09 ≤ c.toNat && c.toNat ≤ 0x0D)

/-- The parts of a number's text. -/
structure Parts where
  negative : Bool
  whole : List Char
  fraction : Option (List Char)
  exponent : Option Int

/-- Whether a minus sign is in front, and what follows the sign. -/
def sign (s : List Char) : Bool × List Char :=
  match s with
  | '-' :: rest => (true, rest)
  | '+' :: rest => (false, rest)
  | _ => (false, s)

/-- The number of some digits, or ten thousand if it has another digit when it has come to that. -/
def cappedNumber (ds : List Char) : Nat :=
  ds.foldl (fun n c => if n < 10000 then 10 * n + Decimal.digitValue c else 10000) 0

/-- The exponent that makes up all of the text, blanks after it aside. -/
def exponent? (s : List Char) : Option (Option Int) :=
  match s.dropWhile isBlank with
  | [] => some none
  | _ =>
    match s with
    | c :: rest =>
      if c = 'e' ∨ c = 'E' then
        let (negative, rest) := sign rest
        let ds := rest.takeWhile Decimal.isDigit
        if ds ≠ [] ∧ (rest.dropWhile Decimal.isDigit).all isBlank then
          let n : Int := cappedNumber ds
          some (some (if negative then -n else n))
        else none
      else none
    | [] => none

/-- The parts of a text that is a number. -/
def parts? (s : List Char) : Option Parts :=
  let (negative, s) := sign (s.dropWhile isBlank)
  let whole := s.takeWhile Decimal.isDigit
  match s.dropWhile Decimal.isDigit with
  | '.' :: rest =>
    let fraction := rest.takeWhile Decimal.isDigit
    if whole = [] ∧ fraction = [] then none
    else (exponent? (rest.dropWhile Decimal.isDigit)).map fun e =>
      ⟨negative, whole, some fraction, e⟩
  | rest =>
    if whole = [] then none
    else (exponent? rest).map fun e => ⟨negative, whole, none, e⟩

/-- Whether there is neither a point nor an exponent. -/
def Parts.isInteger (p : Parts) : Bool :=
  p.fraction.isNone && p.exponent.isNone

/-- The double for a number. -/
def Parts.toFloat (p : Parts) : Float :=
  Decimal.stepwiseFloat p.negative p.whole (p.fraction.getD []) (p.exponent.getD 0)

/-- The number of some parts: a sixty-four bit integer if it is written as one and there is one, and
else a double. -/
def Parts.number (p : Parts) : Cell :=
  let magnitude : Int := Decimal.ofDigits p.whole
  match if p.isInteger then int64? (if p.negative then -magnitude else magnitude) else none with
  | some n => .integer n
  | none => .real p.toFloat

end NumberText

/-- A sixty-four bit integer that is not the least one. -/
def exactInteger? (x : Float) : Option Int64 :=
  match Binary64.toInt? x with
  | some n => if -2 ^ 63 < n ∧ n < 2 ^ 63 then some (Int64.ofInt n) else none
  | none => none

/-- A real without a fraction as an integer. -/
def Cell.integral : Cell → Cell
  | real x =>
    match exactInteger? x with
    | some n => integer n
    | none => real x
  | c => c

/-- The number that a text is, if it is one. -/
def NumberText.read (bytes : ByteArray) : Option Cell :=
  (parts? (bytes.data.toList.map fun b => Char.ofNat b.toNat)).map fun p => p.number.integral

/-- Text that is a number as that number. -/
def Cell.numeric : Cell → Cell
  | text bytes => (NumberText.read bytes).getD (text bytes)
  | c => c

/-- A number as text. -/
def Cell.textual : Cell → Cell
  | integer n => text (Decimal.intText n.toInt).toUTF8
  | real x => text (String.ofList (Decimal.sqlText.write x)).toUTF8
  | c => c

/-! ## Affinities -/

/-- The class of cells that a column prefers. -/
inductive Affinity where
  | integer
  | numeric
  | real
  | text
  | blob
  deriving DecidableEq, Repr

namespace Affinity

/-- Whether a word occurs in a type, at any place. -/
def mentions (word : List Char) : (type : List Char) → Bool
  | [] => word.isEmpty
  | c :: rest => word.isPrefixOf (c :: rest) || mentions word rest

/-- The affinity of a declared type, given in capital letters.  A type that mentions several of the
words goes by the first rule that fits. -/
def ofType (type : List Char) : Affinity :=
  let mentionsOneOf (words : List String) : Bool := words.any fun w => mentions w.toList type
  if mentionsOneOf ["INT"] then integer
  else if mentionsOneOf ["CHAR", "CLOB", "TEXT"] then text
  else if mentionsOneOf ["BLOB"] || type.isEmpty then blob
  else if mentionsOneOf ["REAL", "FLOA", "DOUB"] then real
  else numeric

/-- The cell that a column keeps when it is given one. -/
def store (a : Affinity) (c : Cell) : Cell :=
  match a with
  | integer | numeric => c.numeric.integral
  | real =>
    match c.numeric.integral with
    | .integer n => .real (Binary64.ofInt n.toInt)
    | c => c
  | text => c.textual
  | blob => c

/-- The cell that is looked for in a column. -/
def probe (a : Affinity) (c : Cell) : Cell :=
  match a with
  | integer | numeric | real => c.numeric
  | text => c.textual
  | blob => c

end Affinity

/-- The row id that a cell stands for, if it is a whole number. -/
def Cell.rowId? (c : Cell) : Option Int64 :=
  match Affinity.integer.store c with
  | integer n => some n
  | _ => none

end Database

end CrudByName
