import CrudByName.Decimal.Binary64
import CrudByName.Text.Hex
import CrudByName.Toml.Item

/-!
# Numbers of a TOML document

Whole numbers are written in decimal, or with a letter behind a zero in base sixteen, eight or two,
and have to fit into sixty-four bits.  A number with a fraction or an exponent is a double, and so
are `inf` and `nan`.  Single underscores may stand between digits.
-/

namespace CrudByName

namespace Toml

namespace Number

/-- Digits of a kind, and underscores that are followed by one. -/
def moreDigits (p : Char → Bool) : List Char → List Char × List Char
  | '_' :: c :: rest =>
    if p c then
      let (ds, rest) := moreDigits p rest
      (c :: ds, rest)
    else ([], '_' :: c :: rest)
  | c :: rest =>
    if p c then
      let (ds, rest) := moreDigits p rest
      (c :: ds, rest)
    else ([], c :: rest)
  | [] => ([], [])

/-- A run of digits, which begins with one. -/
def digits? (p : Char → Bool) : List Char → Option (List Char × List Char)
  | c :: rest =>
    if p c then
      let (ds, rest) := moreDigits p rest
      some (c :: ds, rest)
    else none
  | [] => none

/-- Whether a minus sign is in front, and what follows the sign. -/
def sign : List Char → Bool × List Char
  | '-' :: rest => (true, rest)
  | '+' :: rest => (false, rest)
  | s => (false, s)

/-- The digits of a whole number in decimal; a zero stands alone. -/
def whole? (s : List Char) : Option (List Char × List Char) :=
  match s with
  | '0' :: rest => some (['0'], rest)
  | _ => digits? Decimal.isDigit s

/-- The digits behind a point. -/
def fraction? : List Char → Option (List Char × List Char)
  | '.' :: rest => digits? Decimal.isDigit rest
  | _ => none

/-- The exponent, with the number of its digits kept within reason. -/
def exponent? (s : List Char) : Option (Int × List Char) :=
  match s with
  | c :: rest =>
    if c = 'e' ∨ c = 'E' then
      let (negative, rest) := sign rest
      (digits? Decimal.isDigit rest).map fun (ds, rest) =>
        let n : Int := min (Decimal.ofDigits ds) 100000
        (if negative then -n else n, rest)
    else none
  | [] => none

/-! ## Items -/

/-- A whole number, if sixty-four bits can hold it. -/
def integer? (negative : Bool) (magnitude : Nat) : Option Item :=
  let n : Int := if negative then -(magnitude : Int) else magnitude
  if -2 ^ 63 ≤ n ∧ n < 2 ^ 63 then some (.integer n) else none

/-- A double.  A positive number that no finite double is near to is refused. -/
def real? (negative : Bool) (ds : List Char) (exponent : Int) : Option Item :=
  let x := Binary64.ofDecimal false (Decimal.ofDigits ds) exponent
  if Binary64.isFinite x ∨ negative then some (.real (if negative then -x else x)) else none

/-- A number in another base, from behind its letter. -/
def based? (base : Nat) (s : List Char) : Option (Item × List Char) :=
  let isDigit (c : Char) : Bool := match Hex.value? c with
    | some d => d < base
    | none => false
  (digits? isDigit s).bind fun (ds, rest) =>
    let n := ds.foldl (fun n c => base * n + (Hex.value? c).getD 0) 0
    (integer? false n).map fun item => (item, rest)

/-- The rest of a word. -/
def word? : List Char → List Char → Option (List Char)
  | [], s => some s
  | c :: word, d :: s => if c = d then word? word s else none
  | _ :: _, [] => none

/-- Infinity with a sign. -/
def infinity (negative : Bool) : Item :=
  .real (if negative then -(1.0 / 0.0) else 1.0 / 0.0)

/-- A number in decimal behind its sign. -/
def decimal? (negative : Bool) (s : List Char) : Option (Item × List Char) :=
  (whole? s).bind fun (whole, rest) =>
    match rest with
    | '.' :: _ =>
      (fraction? rest).bind fun (fraction, rest) =>
        let (exponent, rest) := (exponent? rest).getD (0, rest)
        (real? negative (whole ++ fraction) (exponent - fraction.length)).map fun item =>
          (item, rest)
    | _ =>
      match exponent? rest with
      | some (exponent, rest) => (real? negative whole exponent).map fun item => (item, rest)
      | none => (integer? negative (Decimal.ofDigits whole)).map fun item => (item, rest)

/-- The number at the front of a text, and what follows it. -/
def read? (s : List Char) : Option (Item × List Char) :=
  match s with
  | '0' :: 'x' :: rest => based? 16 rest
  | '0' :: 'o' :: rest => based? 8 rest
  | '0' :: 'b' :: rest => based? 2 rest
  | _ =>
    let (negative, s) := sign s
    match word? ['i', 'n', 'f'] s, word? ['n', 'a', 'n'] s with
    | some rest, _ => some (infinity negative, rest)
    | _, some rest => some (.real (0.0 / 0.0), rest)
    | none, none => decimal? negative s

end Number

end Toml

end CrudByName
