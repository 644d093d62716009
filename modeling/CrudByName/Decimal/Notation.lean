import CrudByName.Decimal.Shortest
import CrudByName.Decimal.Stepwise

/-!
# Writing a double

A `Layout` is the set of decisions of one output format: how digits are chosen, where positional
notation ends, whether a whole number keeps a point, how an exponent is spelled, and what stands
for the values that are no numbers.  `Layout.write` is the one printer; the formats of this library
are the values `plain`, `jsonNumber` and `sqlText` below.
-/

namespace CrudByName

namespace Decimal

/-- How the digits of a double are chosen. -/
inductive Selection where
  | shortest (tie : Tie)
  | stepwise (places : Nat)
  deriving DecidableEq, Repr

/-- The decisions of an output format for doubles. -/
structure Layout where
  selection : Selection
  /-- Whether a decimal point at this position, counted from the first digit, is written in place
  rather than with an exponent. -/
  positional : Int → Bool
  /-- Whether a whole number written in place ends in a point and a zero. -/
  keepsPoint : Bool
  /-- Whether a single digit before an exponent is followed by a point and a zero. -/
  keepsPointBeforeExponent : Bool
  /-- The least number of digits of an exponent. -/
  exponentWidth : Nat
  /-- Whether negative zero keeps its sign. -/
  signsZero : Bool
  nan : String
  infinity : String
  negativeInfinity : String

/-- The digits that are chosen for a double, given by its parts. -/
def Selection.choose (selection : Selection) (mantissa : Nat) (exponent : Int) : Scaled :=
  match selection with
  | .shortest tie => Decimal.shortest tie mantissa exponent
  | .stepwise places => stepwiseDigits places mantissa exponent

/-- A run of zeros. -/
def zeros (n : Nat) : List Char :=
  List.replicate n '0'

/-- Puts the point after `point` of the digits, filling up with zeros on either side. -/
def placePoint (keepsPoint : Bool) (ds : List Char) (point : Int) : List Char :=
  if point ≤ 0 then '0' :: '.' :: zeros (-point).toNat ++ ds
  else if (ds.length : Int) ≤ point then
    ds ++ zeros (point - ds.length).toNat ++ if keepsPoint then ['.', '0'] else []
  else ds.take point.toNat ++ '.' :: ds.drop point.toNat

/-- One digit, the others behind a point, and the exponent with its sign. -/
def placeExponent (keepsPoint : Bool) (width : Nat) (ds : List Char) (point : Int) : List Char :=
  let fraction := match ds.drop 1 with
    | [] => if keepsPoint then ['.', '0'] else []
    | rest => '.' :: rest
  let exponent := digits (point - 1).natAbs
  ds.take 1 ++ fraction ++ 'e' :: (if point - 1 < 0 then '-' else '+') ::
    zeros (width - exponent.length) ++ exponent

/-- Writes a double that is not negative, given by its parts. -/
def Layout.magnitude (l : Layout) (mantissa : Nat) (exponent : Int) : List Char :=
  if mantissa = 0 then placePoint l.keepsPoint ['0'] 1
  else
    let d := l.selection.choose mantissa exponent
    let ds := digits d.significand
    let point := ds.length + d.exponent
    if l.positional point then placePoint l.keepsPoint ds point
    else placeExponent l.keepsPointBeforeExponent l.exponentWidth ds point

/-- Writes a double. -/
def Layout.write (l : Layout) (x : Float) : List Char :=
  match Binary64.view x with
  | .nan => l.nan.toList
  | .infinite negative => (if negative then l.negativeInfinity else l.infinity).toList
  | .finite negative mantissa exponent =>
    let sign := negative && (mantissa ≠ 0 || l.signsZero)
    (if sign then ['-'] else []) ++ l.magnitude mantissa exponent

/-! ## The formats -/

/-- Values as shown to a reader: the shortest digits, never an exponent, no point on a whole
number. -/
def plain : Layout where
  selection := .shortest .up
  positional _ := true
  keepsPoint := false
  keepsPointBeforeExponent := false
  exponentWidth := 1
  signsZero := true
  nan := "NaN"
  infinity := "inf"
  negativeInfinity := "-inf"

/-- Numbers of a JSON text: the shortest digits, positional from `0.00001` up to sixteen digits
before the point.  JSON has no spelling for the values that are no numbers. -/
def jsonNumber : Layout where
  selection := .shortest .even
  positional point := -5 < point && point ≤ 16
  keepsPoint := true
  keepsPointBeforeExponent := false
  exponentWidth := 1
  signsZero := true
  nan := "null"
  infinity := "null"
  negativeInfinity := "null"

/-- A number that a text column takes in: fifteen digits, reached in steps, positional from `0.0001`
up to fifteen digits before the point, and always with a point. -/
def sqlText : Layout where
  selection := .stepwise 15
  positional point := -4 < point && point ≤ 15
  keepsPoint := true
  keepsPointBeforeExponent := true
  exponentWidth := 2
  signsZero := false
  nan := "NaN"
  infinity := "Inf"
  negativeInfinity := "-Inf"

end Decimal

end CrudByName
