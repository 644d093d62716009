import CrudByName.Decimal.Digits

/-!
# What a double stands for

`Binary64.view` reads the bits of a `Float`: a finite one is plus or minus `m · 2^q` with natural
`m`, and the others are the infinities and NaN.  Everything that prints a number or compares it
with an integer starts from this view and computes in `Nat` and `Int` from there on, exactly.

In the other direction, `Binary64.ofBinary` and `Binary64.ofDecimal` give the double that is nearest
to an exact number, by its bits.
-/

namespace CrudByName

namespace Binary64

/-- A double by its meaning; a finite one is `± mantissa · 2 ^ exponent`. -/
inductive View where
  | nan
  | infinite (negative : Bool)
  | finite (negative : Bool) (mantissa : Nat) (exponent : Int)
  deriving DecidableEq, Repr

/-- The view of sixty-four bits: sign, eleven bits of exponent, fifty-two of fraction. -/
def viewBits (bits : Nat) : View :=
  let negative : Bool := 2 ^ 63 ≤ bits
  let exponent : Nat := bits / 2 ^ 52 % 2 ^ 11
  let fraction : Nat := bits % 2 ^ 52
  if exponent = 2047 then if fraction = 0 then .infinite negative else .nan
  else if exponent = 0 then .finite negative fraction (-1074)
  else .finite negative (2 ^ 52 + fraction) ((exponent : Int) - 1075)

/-- What a double stands for. -/
def view (x : Float) : View :=
  viewBits x.toBits.toNat

/-- Whether a double stands for a number. -/
def isFinite (x : Float) : Bool :=
  match view x with
  | .finite .. => true
  | _ => false

/-- The integer that a double is equal to, if there is one. -/
def toInt? (x : Float) : Option Int :=
  match view x with
  | .finite negative mantissa exponent =>
    let magnitude :=
      if 0 ≤ exponent then some (mantissa * 2 ^ exponent.toNat)
      else if mantissa % 2 ^ (-exponent).toNat = 0 then some (mantissa / 2 ^ (-exponent).toNat)
      else none
    magnitude.map fun m => if negative then -(m : Int) else m
  | _ => none

/-! ## The nearest double -/

/-- A number without its last bits, rounded to nearest; a tie goes to the even one. -/
def shiftedToEven (n bits : Nat) : Nat :=
  let unit := 2 ^ bits
  let whole := n / unit
  let twice := 2 * (n % unit)
  if twice < unit ∨ (twice = unit ∧ whole % 2 = 0) then whole else whole + 1

theorem shiftedToEven_zero (n : Nat) : shiftedToEven n 0 = n := by
  simp [shiftedToEven, Nat.mod_one]

/-- A quotient as a number of at least sixty-six bits and a power of two, if the dividend is not
zero.  What is left over sets the last bit, so that rounding to fewer bits goes the right way. -/
def quotient (dividend divisor : Nat) : Nat × Int :=
  let shift := divisor.log2 + 66
  let scaled := dividend * 2 ^ shift
  (2 * (scaled / divisor) + if scaled % divisor = 0 then 0 else 1, -(shift + 1 : Int))

/-- The bits of positive infinity. -/
def infinityBits : Nat :=
  2047 * 2 ^ 52

/-- The bits of the double nearest to `n · 2 ^ exponent`. -/
def nearestBits (n : Nat) (exponent : Int) : Nat :=
  if n = 0 then 0
  else
    let least : Int := max (exponent + n.log2 - 52) (-1074)
    let mantissa := shiftedToEven (n * 2 ^ (exponent - least).toNat) (least - exponent).toNat
    min (mantissa + (least + 1074).toNat * 2 ^ 52) infinityBits

/-- The double nearest to a whole number times a power of two. -/
def ofBinary (n : Nat) (exponent : Int) : Float :=
  Float.ofBits (UInt64.ofNat (nearestBits n exponent))

/-- Positive infinity. -/
def infinity : Float :=
  Float.ofBits (UInt64.ofNat infinityBits)

/-- The double nearest to `± significand · 10 ^ exponent`, ties to even; infinite when that is too
large. -/
def ofDecimal (negative : Bool) (significand : Nat) (exponent : Int) : Float :=
  let magnitude :=
    if 0 ≤ exponent then ofBinary (significand * 10 ^ exponent.toNat) 0
    else
      let (n, exponent) := quotient significand (10 ^ (-exponent).toNat)
      ofBinary n exponent
  if negative then -magnitude else magnitude

/-- The double nearest to an integer, ties to even. -/
def ofInt (n : Int) : Float :=
  ofDecimal (n < 0) n.natAbs 0

end Binary64

end CrudByName
