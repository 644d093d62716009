import CrudByName.Decimal.Digits

/-!
# Shortest decimals for a double

For a positive double `m · 2 ^ q`, `shortest` takes the fewest digits that read back as the same
double, and among those the value nearest to it; a tie goes as the caller says.

It works on the grid of multiples of a power of ten, in exact arithmetic on natural numbers.
`Fraction` holds the value and the two ends of the interval that rounds to it over one denominator,
and `Fraction.onGrid` moves all three to a grid, where only comparisons are left.
-/

namespace CrudByName

namespace Decimal

/-- Which of two equally near neighbours is taken. -/
inductive Tie where
  | even
  | up
  deriving DecidableEq, Repr

/-! ## The value and its interval -/

/-- A value between the ends of the interval of numbers that round to it, all over one
denominator.  `closed` says whether the ends themselves round to it. -/
structure Fraction where
  low : Nat
  value : Nat
  high : Nat
  denominator : Nat
  closed : Bool

/-- The interval of `mantissa · 2 ^ exponent`.  Below a power of two the next double is nearer, so
that the interval is narrower on that side. -/
def Fraction.ofBinary (mantissa : Nat) (exponent : Int) : Fraction :=
  let below := if mantissa = 2 ^ 52 ∧ exponent > -1074 then 1 else 2
  let scale := 2 ^ (exponent - 2).toNat
  { low := (4 * mantissa - below) * scale
    value := 4 * mantissa * scale
    high := (4 * mantissa + 2) * scale
    denominator := 2 ^ (2 - exponent).toNat
    closed := mantissa % 2 == 0 }

/-- The same three numbers in units of `10 ^ grid`. -/
def Fraction.onGrid (f : Fraction) (grid : Int) : Fraction :=
  let scale := 10 ^ (-grid).toNat
  { low := f.low * scale
    value := f.value * scale
    high := f.high * scale
    denominator := f.denominator * 10 ^ grid.toNat
    closed := f.closed }

/-- Whether a whole number of units rounds to the value. -/
def Fraction.holds (f : Fraction) (n : Nat) : Bool :=
  if f.closed then f.low ≤ n * f.denominator && n * f.denominator ≤ f.high
  else f.low < n * f.denominator && n * f.denominator < f.high

/-- Every positive double is well above `10 ^ -330`. -/
def leastPower : Nat := 330

/-- The position of the decimal point relative to the first digit: the value lies in
`[10 ^ (point - 1), 10 ^ point)`. -/
def Fraction.point (f : Fraction) : Int :=
  ((digits (f.value * 10 ^ leastPower / f.denominator)).length : Int) - leastPower

/-! ## Choosing a decimal -/

/-- The neighbour of the value on the grid that rounds to it, if one does: the nearer of two, on a
tie as `tie` says. -/
def Fraction.neighbour? (f : Fraction) (tie : Tie) : Option Nat :=
  let n := f.value / f.denominator
  match f.holds n, f.holds (n + 1) with
  | false, false => none
  | true, false => some n
  | false, true => some (n + 1)
  | true, true =>
    let twice := 2 * f.value
    let sum := (2 * n + 1) * f.denominator
    if twice < sum then some n
    else if sum < twice then some (n + 1)
    else match tie with
      | .up => some (n + 1)
      | .even => some (if n % 2 = 0 then n else n + 1)

/-- The fewest digits that read back; seventeen always do. -/
def shortest (tie : Tie) (mantissa : Nat) (exponent : Int) : Scaled :=
  let f := Fraction.ofBinary mantissa exponent
  let point := f.point
  let found := (List.range 17).findSome? fun n : Nat =>
    let grid : Int := point - (n + 1 : Nat)
    ((f.onGrid grid).neighbour? tie).map fun c => Scaled.mk c grid
  (found.getD ⟨0, 0⟩).strip

end Decimal

end CrudByName
