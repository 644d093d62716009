import CrudByName.Decimal.Binary64
import CrudByName.Decimal.Digits

/-!
# Conversion in steps

A number may be taken from decimal to binary and back by multiplying it with powers of ten, first
with the hundredth, then with the tenth, then with the first, where every product is rounded to
sixty-four bits.  The outcome is close to the exact one and now and then a last digit away from it.

A number on the way is a `Wide`, a significand of at most sixty-four bits and a power of two.
`Wide.times` is the rounded product, and `tenTo` the power of ten that is nearest to the exact one.
`stepwiseFloat` goes from digits to a double, and `stepwiseDigits` from a double to so many digits.
-/

namespace CrudByName

namespace Decimal

/-- The number `significand · 2 ^ exponent`. -/
structure Wide where
  significand : Nat
  exponent : Int
  deriving DecidableEq, Repr

namespace Wide

/-! ## Rounding -/

/-- How many bits a number on the way has. -/
def precision : Nat := 64

/-- The nearest number of sixty-four bits; a tie goes to the even one. -/
def rounded (n : Nat) (exponent : Int) : Wide :=
  let excess := n.log2 + 1 - precision
  ⟨Binary64.shiftedToEven n excess, exponent + excess⟩

/-- The rounded product. -/
def times (a b : Wide) : Wide :=
  rounded (a.significand * b.significand) (a.exponent + b.exponent)

theorem times_comm (a b : Wide) : a.times b = b.times a := by
  simp [times, Nat.mul_comm, Int.add_comm]

/-- A power of ten. -/
def tenTo (power : Int) : Wide :=
  if 0 ≤ power then rounded (10 ^ power.toNat) 0
  else
    let (n, exponent) := Binary64.quotient 1 (10 ^ (-power).toNat)
    rounded n exponent

/-! ## Comparing -/

/-- The number in units of a power of two that is not above its own. -/
def inUnits (a : Wide) (exponent : Int) : Nat :=
  a.significand * 2 ^ (a.exponent - exponent).toNat

/-- Whether one number is less than another. -/
def less (a b : Wide) : Bool :=
  let least := min a.exponent b.exponent
  a.inUnits least < b.inUnits least

/-- The whole part. -/
def floor (a : Wide) : Nat :=
  a.significand * 2 ^ a.exponent.toNat / 2 ^ (-a.exponent).toNat

/-! ## Steps -/

/-- Multiplies so many times with a factor. -/
def timesRepeatedly (factor : Wide) : (count : Nat) → Wide → Wide
  | 0, a => a
  | n + 1, a => timesRepeatedly factor n (a.times factor)

/-- Multiplies with a power of ten in steps. -/
def timesTenTo (power : Int) (a : Wide) : Wide :=
  let n := power.natAbs
  let sign := if power < 0 then -1 else 1
  timesRepeatedly (tenTo sign) (n % 10) <|
    timesRepeatedly (tenTo (10 * sign)) (n % 100 / 10) <|
      timesRepeatedly (tenTo (100 * sign)) (n / 100) a

/-- Multiplies with a power of ten as long as the number meets `p`, at most so many times.  The
exponent counts the powers of ten that have been taken out. -/
def scaleWhile (p : Wide → Bool) (power : Int) : (atMost : Nat) → Int × Wide → Int × Wide
  | 0, a => a
  | n + 1, (exponent, a) =>
    if p a then scaleWhile p power n (exponent - power, a.times (tenTo power)) else (exponent, a)

/-- No double is more than this many steps of each kind away from the range of `leading`. -/
def mostSteps : Nat := 20

/-- Brings a number between the seventeenth and the nineteenth power of ten.  The exponent is that
of the power of ten to be put back. -/
def leading (a : Wide) : Int × Wide :=
  let atLeast (power : Int) (b : Wide) : Bool := !b.less (tenTo power)
  let below (power : Int) (b : Wide) : Bool := b.less (tenTo power)
  if atLeast 19 a then
    scaleWhile (atLeast 19) (-1) mostSteps <|
      scaleWhile (atLeast 29) (-10) mostSteps <|
        scaleWhile (atLeast 119) (-100) mostSteps (0, a)
  else
    scaleWhile (below 17) 1 mostSteps <|
      scaleWhile (below 7) 10 mostSteps <|
        scaleWhile (below (-97)) 100 mostSteps (0, a)

end Wide

/-! ## From digits to a double -/

/-- The largest double. -/
def largestDouble : Wide :=
  ⟨2 ^ 53 - 1, 971⟩

/-- A significand takes another digit while it stays below this. -/
def significandRoom : Nat :=
  (2 ^ 64 - 1 - 9) / 10

/-- Takes up digits as long as there is room.  The exponent counts the digits for which there was
none. -/
def takeUp (d : Scaled) : List Char → Scaled
  | [] => d
  | c :: rest =>
    if d.significand < significandRoom then
      takeUp { d with significand := 10 * d.significand + digitValue c } rest
    else takeUp { d with exponent := d.exponent + 1 } rest

/-- Takes up digits behind the point as long as there is room, and drops the others. -/
def takeUpFraction (d : Scaled) : List Char → Scaled
  | [] => d
  | c :: rest =>
    if d.significand < significandRoom then
      takeUpFraction ⟨10 * d.significand + digitValue c, d.exponent - 1⟩ rest
    else takeUpFraction d rest

/-- Moves powers of ten from a positive exponent into the significand, while there is room. -/
def filled : (atMost : Nat) → Scaled → Scaled
  | 0, d => d
  | n + 1, d =>
    if 0 < d.exponent ∧ d.significand < (2 ^ 64 - 1) / 10 then
      filled n ⟨10 * d.significand, d.exponent - 1⟩
    else d

/-- Moves zeros from the end of the significand into a negative exponent. -/
def emptied : (atMost : Nat) → Scaled → Scaled
  | 0, d => d
  | n + 1, d =>
    if d.exponent < 0 ∧ d.significand % 10 = 0 then
      emptied n ⟨d.significand / 10, d.exponent + 1⟩
    else d

/-- A significand has at most this many digits. -/
def mostDigits : Nat := 20

/-- The double for digits before and behind a point and an exponent. -/
def stepwiseFloat (negative : Bool) (whole fraction : List Char) (exponent : Int) : Float :=
  let taken := takeUpFraction (takeUp ⟨0, exponent⟩ whole) fraction
  let magnitude : Float :=
    if taken.significand = 0 then 0.0
    else
      let d := emptied mostDigits (filled mostDigits taken)
      let a := Wide.timesTenTo d.exponent ⟨d.significand, 0⟩
      if largestDouble.less a then Binary64.infinity
      else Binary64.ofBinary a.significand a.exponent
  if negative then -magnitude else magnitude

/-! ## From a double to digits -/

/-- So many digits of a number, a half going up. -/
def roundedTo (places : Nat) (d : Scaled) : Scaled :=
  let excess := (digits d.significand).length - places
  let unit := 10 ^ excess
  ⟨(2 * d.significand + unit) / (2 * unit), d.exponent + excess⟩

/-- So many digits of `mantissa · 2 ^ exponent`. -/
def stepwiseDigits (places mantissa : Nat) (exponent : Int) : Scaled :=
  let (power, a) := Wide.leading ⟨mantissa, exponent⟩
  (roundedTo places ⟨a.floor, power⟩).strip

end Decimal

end CrudByName
