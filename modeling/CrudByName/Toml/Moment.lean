import CrudByName.Decimal.Digits

/-!
# Dates and times of a TOML document

A date, a time of day, or both, and then perhaps the offset from Greenwich.  Only moments of the
calendar are read.  `Moment.read?` gives the text of the moment in its one written form: a `T`
between date and time, at most nine digits of a second and no zeros at their end, and no negative
offset of nothing.

How late an hour may be and how large an offset depends on where the moment stands
(`Moment.Limits`): a little more is allowed where it is written as text (`Moment.ofText?`).
-/

namespace CrudByName

namespace Toml

namespace Moment

/-- Which times of day and offsets are moments. -/
structure Limits where
  latestHour : Nat
  /-- Whether an offset of so many hours and minutes is small enough. -/
  offset : (hours minutes : Nat) → Bool

/-- The limits of a moment that stands in a document as it is. -/
def Limits.bare : Limits where
  latestHour := 23
  offset hours minutes := hours ≤ 23 && minutes ≤ 59

/-- The limits of a moment that is written as text. -/
def Limits.written : Limits where
  latestHour := 24
  offset hours minutes := 60 * hours + minutes ≤ 60 * 24

/-- So many digits as a number, and what follows. -/
def number? (width : Nat) (s : List Char) : Option (Nat × List Char) :=
  let ds := s.take width
  if ds.length = width ∧ ds.all Decimal.isDigit then some (Decimal.ofDigits ds, s.drop width)
  else none

/-- What follows a mark, if that is next. -/
def mark? (c : Char) : List Char → Option (List Char)
  | d :: rest => if c = d then some rest else none
  | [] => none

/-- A number with zeros in front. -/
def padded (width n : Nat) : List Char :=
  let ds := Decimal.digits n
  List.replicate (width - ds.length) '0' ++ ds

/-! ## Dates -/

/-- Whether a year is a leap year. -/
def isLeap (year : Nat) : Bool :=
  year % 4 == 0 && (year % 100 != 0 || year % 400 == 0)

/-- How many days a month has. -/
def daysIn (year month : Nat) : Nat :=
  if month = 2 then if isLeap year then 29 else 28
  else if month = 4 ∨ month = 6 ∨ month = 9 ∨ month = 11 then 30
  else 31

/-- A date, and what follows it. -/
def date? (s : List Char) : Option (List Char × List Char) := do
  let (year, s) ← number? 4 s
  let s ← mark? '-' s
  let (month, s) ← number? 2 s
  let s ← mark? '-' s
  let (day, s) ← number? 2 s
  if 1 ≤ month ∧ month ≤ 12 ∧ 1 ≤ day ∧ day ≤ daysIn year month then
    return (padded 4 year ++ '-' :: padded 2 month ++ '-' :: padded 2 day, s)
  else none

/-! ## Times -/

/-- The digits behind the point of a second, as they are written. -/
def secondPart (s : List Char) : List Char × List Char :=
  match s with
  | '.' :: rest =>
    let ds := rest.takeWhile Decimal.isDigit
    if ds = [] then ([], s)
    else
      let kept := ((ds.take 9).reverse.dropWhile (· == '0')).reverse
      (if kept = [] then [] else '.' :: kept, rest.dropWhile Decimal.isDigit)
  | _ => ([], s)

/-- Two numbers of two digits with a colon between them. -/
def clock? (s : List Char) : Option ((Nat × Nat) × List Char) := do
  let (hours, s) ← number? 2 s
  let s ← mark? ':' s
  let (minutes, s) ← number? 2 s
  return ((hours, minutes), s)

/-- Hours and minutes as they are written. -/
def clockText (hours minutes : Nat) : List Char :=
  padded 2 hours ++ ':' :: padded 2 minutes

/-- A time of day, and what follows it. -/
def time? (limits : Limits) (s : List Char) : Option (List Char × List Char) := do
  let ((hour, minute), s) ← clock? s
  let s ← mark? ':' s
  let (second, s) ← number? 2 s
  if hour ≤ limits.latestHour ∧ minute ≤ 59 ∧ second ≤ 60 then
    let (part, s) := secondPart s
    return (clockText hour minute ++ ':' :: padded 2 second ++ part, s)
  else none

/-- Hours and minutes from Greenwich, behind their sign. -/
def distance? (limits : Limits) (sign : Char) (s : List Char) : Option (List Char × List Char) := do
  let ((hours, minutes), s) ← clock? s
  if limits.offset hours minutes then
    let all := 60 * hours + minutes
    return ((if all = 0 then '+' else sign) :: clockText (all / 60) (all % 60), s)
  else none

/-- An offset from Greenwich, and what follows it. -/
def offset? (limits : Limits) (s : List Char) : Option (List Char × List Char) :=
  match s with
  | 'Z' :: rest | 'z' :: rest => some (['Z'], rest)
  | '+' :: rest => distance? limits '+' rest
  | '-' :: rest => distance? limits '-' rest
  | _ => none

/-- What may stand between date and time. -/
def isSeparator (c : Char) : Bool :=
  c == 'T' || c == 't' || c == ' '

/-- The time behind a date, with its offset. -/
def timeBehind? (limits : Limits) (s : List Char) : Option (List Char × List Char) :=
  match s with
  | c :: rest =>
    if isSeparator c then
      (time? limits rest).map fun (time, rest) =>
        let (offset, rest) := (offset? limits rest).getD ([], rest)
        ('T' :: time ++ offset, rest)
    else none
  | [] => none

/-- The moment at the front of a text, and what follows it. -/
def read? (limits : Limits) (s : List Char) : Option (String × List Char) :=
  match date? s with
  | some (date, s) =>
    let (time, s) := (timeBehind? limits s).getD ([], s)
    some (String.ofList (date ++ time), s)
  | none => (time? limits s).map fun (time, s) => (String.ofList time, s)

/-- The moment that a text is. -/
def ofText? (s : String) : Option String :=
  match read? .written s.toList with
  | some (moment, []) => some moment
  | _ => none

end Moment

end Toml

end CrudByName
