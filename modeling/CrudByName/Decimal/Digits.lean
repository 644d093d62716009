/-!
# Numbers in decimal digits

`digits` writes a natural number without leading zeros and `ofDigits` reads any run of digits;
`ofDigits_digits` says that the second undoes the first.  `Int` numbers carry a minus sign in front
when they are negative.

A `Scaled` decimal is a whole number times a power of ten, which may be negative.  The same number
has many of these; `Scaled.strip` gives the one with the shortest significand.

`b ^ n` is the power of core for every kind of number used here.  Other instances of `Pow` may come
into scope with the modules that a theory is built on; the one of core goes before them, so that a
definition means the same wherever it is read.
-/

attribute [instance (2000), default_instance (20000)] instPowNat

namespace CrudByName

namespace Decimal

/-- The digit of a number below ten. -/
def digitChar (n : Nat) : Char :=
  Char.ofNat (48 + n)

/-- The digits of decimal numbers. -/
def isDigit (c : Char) : Bool :=
  '0' ≤ c && c ≤ '9'

/-- The value of a digit. -/
def digitValue (c : Char) : Nat :=
  c.toNat - 48

/-- The digits of a number, the first of them no zero unless it is the only one. -/
def digits (n : Nat) : List Char :=
  if n < 10 then [digitChar n] else digits (n / 10) ++ [digitChar (n % 10)]

/-- The number of a run of digits. -/
def ofDigits (s : List Char) : Nat :=
  s.foldl (fun n c => 10 * n + digitValue c) 0

theorem digitValue_digitChar {n : Nat} (h : n < 10) : digitValue (digitChar n) = n := by
  have : n = 0 ∨ n = 1 ∨ n = 2 ∨ n = 3 ∨ n = 4 ∨ n = 5 ∨ n = 6 ∨ n = 7 ∨ n = 8 ∨ n = 9 := by omega
  rcases this with rfl | rfl | rfl | rfl | rfl | rfl | rfl | rfl | rfl | rfl <;> rfl

theorem isDigit_digitChar {n : Nat} (h : n < 10) : isDigit (digitChar n) := by
  have : n = 0 ∨ n = 1 ∨ n = 2 ∨ n = 3 ∨ n = 4 ∨ n = 5 ∨ n = 6 ∨ n = 7 ∨ n = 8 ∨ n = 9 := by omega
  rcases this with rfl | rfl | rfl | rfl | rfl | rfl | rfl | rfl | rfl | rfl <;> rfl

theorem ofDigits_append_singleton (s : List Char) (c : Char) :
    ofDigits (s ++ [c]) = 10 * ofDigits s + digitValue c := by
  simp [ofDigits, List.foldl_append]

theorem digits_ne_nil (n : Nat) : digits n ≠ [] := by
  rw [digits]
  split <;> simp

theorem all_isDigit_digits (n : Nat) : (digits n).all isDigit := by
  induction n using digits.induct with
  | case1 n h => rw [digits, if_pos h]; simp [isDigit_digitChar h]
  | case2 n h ih =>
    rw [digits, if_neg h]
    simp only [List.all_append, ih, List.all_cons, List.all_nil, Bool.and_true, Bool.true_and]
    exact isDigit_digitChar (by omega)

theorem ofDigits_digits (n : Nat) : ofDigits (digits n) = n := by
  induction n using digits.induct with
  | case1 n h => rw [digits, if_pos h]; simp [ofDigits, digitValue_digitChar h]
  | case2 n h ih =>
    rw [digits, if_neg h, ofDigits_append_singleton, ih,
      digitValue_digitChar (Nat.mod_lt _ (by omega))]
    omega

/-- The digits of a number, with a minus sign in front when it is negative. -/
def signed (n : Int) : List Char :=
  if n < 0 then '-' :: digits n.natAbs else digits n.natAbs

/-- The text of a natural number. -/
def natText (n : Nat) : String :=
  String.ofList (digits n)

/-- The text of an integer. -/
def intText (n : Int) : String :=
  String.ofList (signed n)

/-! ## Scaled decimals -/

/-- The number `significand · 10 ^ exponent`. -/
structure Scaled where
  significand : Nat
  exponent : Int
  deriving DecidableEq, Repr

/-- Moves trailing zeros of the significand into the exponent. -/
def Scaled.strip (d : Scaled) : Scaled :=
  if 0 < d.significand ∧ d.significand % 10 = 0 then
    Scaled.strip ⟨d.significand / 10, d.exponent + 1⟩
  else d
termination_by d.significand

end Decimal

end CrudByName
