import CrudByName.Json.Fault
import CrudByName.Json.Tree

/-!
# Numbers of a JSON text

A number is read in two steps.  `Numeral.scan` takes apart what is written: sign, digits, fraction
and exponent.  `Numeral.value` then says what it stands for.

An integer that fits into sixty-four bits stands for itself.  Every other number is a double: as
many of the leading digits as fit into sixty-four bits are taken as the significand
(`takeFitting`), which is then multiplied or divided by a power of ten in double arithmetic
(`scale`).  A result that is not finite is out of range, and so is an exponent that does not fit
into thirty-one bits, unless it makes the number vanish.
-/

namespace CrudByName

namespace Json

/-- A number as it is written. -/
structure Numeral where
  negative : Bool
  whole : List Char
  /-- The digits behind the point; there is no point without one. -/
  fraction : List Char
  /-- The digits of the exponent, and whether it is negative. -/
  exponent : Option (Bool × List Char)
  deriving DecidableEq

/-- The digits of a number. -/
def isDigit (c : Char) : Bool :=
  '0' ≤ c && c ≤ '9'

namespace Numeral

/-! ## What is written -/

/-- A run of digits, which has to hold at least one, and what follows it. -/
def scanDigits (atEnd : Cause) (s : List Char) : Except Fault (List Char × List Char) :=
  match s with
  | [] => .error (.seen atEnd [])
  | c :: rest =>
    if isDigit c then .ok (c :: rest.takeWhile isDigit, rest.dropWhile isDigit)
    else .error (.seen .invalidNumber (c :: rest))

/-- The digits before the point; a zero stands alone. -/
def scanWhole (s : List Char) : Except Fault (List Char × List Char) :=
  match s with
  | '0' :: c :: rest =>
    if isDigit c then .error (.seen .invalidNumber (c :: rest)) else .ok (['0'], c :: rest)
  | _ => scanDigits .endInValue s

/-- The digits behind a point, if there is one. -/
def scanFraction (s : List Char) : Except Fault (List Char × List Char) :=
  match s with
  | '.' :: rest => scanDigits .endInValue rest
  | _ => .ok ([], s)

/-- The exponent, if there is one. -/
def scanExponent (s : List Char) : Except Fault (Option (Bool × List Char) × List Char) :=
  let signed (negative : Bool) (s : List Char) :=
    (scanDigits .endInValue s).map fun (digits, rest) => (some (negative, digits), rest)
  match s with
  | c :: rest =>
    if c = 'e' ∨ c = 'E' then
      match rest with
      | '+' :: rest => signed false rest
      | '-' :: rest => signed true rest
      | _ => signed false rest
    else .ok (none, s)
  | [] => .ok (none, s)

/-- Takes a number off the front. -/
def scan (s : List Char) : Except Fault (Numeral × List Char) := do
  let (negative, s) := match s with
    | '-' :: rest => (true, rest)
    | _ => (false, s)
  let (whole, s) ← scanWhole s
  let (fraction, s) ← scanFraction s
  let (exponent, s) ← scanExponent s
  return (⟨negative, whole, fraction, exponent⟩, s)

/-! ## What it stands for -/

/-- The largest unsigned number of sixty-four bits. -/
def largest : Nat := 2 ^ 64 - 1

/-- Appends digits to a number as long as it fits into sixty-four bits; the digits that are left
over are given back. -/
def takeFitting (n : Nat) : List Char → Nat × List Char
  | [] => (n, [])
  | c :: rest =>
    if 10 * n + Decimal.digitValue c ≤ largest then
      takeFitting (10 * n + Decimal.digitValue c) rest
    else (n, c :: rest)

/-- The largest power of ten that is a double. -/
def greatestPower : Nat := 308

/-- The double nearest to a power of ten. -/
def powerOfTen (n : Nat) : Float :=
  Float.ofScientific 1 false n

/-- Divides by a power of ten, in steps that are doubles. -/
def divide (x : Float) (power : Nat) : Float :=
  if power ≤ greatestPower then x / powerOfTen power
  else if x == 0 then x
  else divide (x / powerOfTen greatestPower) (power - greatestPower)
termination_by power
decreasing_by simp only [greatestPower] at *; omega

/-- `significand · 10 ^ exponent` in double arithmetic, if that is finite. -/
def scale (significand : Nat) (exponent : Int) : Option Float :=
  let x := Float.ofNat significand
  if exponent < 0 then some (divide x exponent.natAbs)
  else if exponent.natAbs ≤ greatestPower then some (x * powerOfTen exponent.natAbs)
  else if significand = 0 then some x
  else none

/-- The largest exponent that is looked at. -/
def largestExponent : Nat := 2 ^ 31 - 1

/-- The digits left over when an exponent has passed the largest one, if it does. -/
def overflow? (n : Nat) : List Char → Option (List Char)
  | [] => none
  | c :: rest =>
    let n := 10 * n + Decimal.digitValue c
    if largestExponent < n then some rest else overflow? n rest

/-- A finite double, or the number of characters not yet read when it was found too large. -/
def finite (negative : Bool) (x : Option Float) : Except Nat Number :=
  match x with
  | some x =>
    if Binary64.isFinite x then .ok (.real (if negative then -x else x)) else .error 0
  | none => .error 0

/-- The value of a number that is not written as an integer, or does not fit into one. -/
def realValue (n : Numeral) : Except Nat Number :=
  let (significand, skipped) := takeFitting 0 n.whole
  let (significand, dropped) := takeFitting significand n.fraction
  let shift : Int := (skipped.length : Int) - (n.fraction.length - dropped.length : Nat)
  match n.exponent with
  | none => finite n.negative (scale significand shift)
  | some (down, digits) =>
    match overflow? 0 digits with
    | some unread =>
      if significand ≠ 0 ∧ ¬ down then .error unread.length else finite n.negative (some 0)
    | none =>
      let exponent : Int := Decimal.ofDigits digits
      finite n.negative (scale significand (if down then shift - exponent else shift + exponent))

/-- What a numeral stands for.  Negative zero is a double, since no integer is. -/
def value (n : Numeral) : Except Nat Number :=
  if n.fraction = [] ∧ n.exponent = none then
    let magnitude := Decimal.ofDigits n.whole
    if ¬ n.negative ∧ magnitude ≤ largest then .ok (.integer magnitude)
    else if n.negative ∧ 0 < magnitude ∧ magnitude ≤ 2 ^ 63 then .ok (.integer (-magnitude))
    else n.realValue
  else n.realValue

/-! ## A numeral is not empty -/

theorem length_scanDigits {atEnd : Cause} {s digits rest : List Char}
    (h : scanDigits atEnd s = .ok (digits, rest)) : rest.length < s.length := by
  match s with
  | [] => simp [scanDigits] at h
  | c :: s =>
    simp only [scanDigits] at h
    split at h
    · simp only [Except.ok.injEq, Prod.mk.injEq] at h
      rw [← h.2]
      have := (List.dropWhile_sublist (l := s) isDigit).length_le
      simp only [List.length_cons]
      omega
    · simp at h

theorem length_scanWhole {s digits rest : List Char}
    (h : scanWhole s = .ok (digits, rest)) : rest.length < s.length := by
  unfold scanWhole at h
  split at h
  · split at h
    · simp at h
    · simp only [Except.ok.injEq, Prod.mk.injEq] at h
      simp [← h.2]
  · exact length_scanDigits h

theorem length_scanFraction {s digits rest : List Char}
    (h : scanFraction s = .ok (digits, rest)) : rest.length ≤ s.length := by
  unfold scanFraction at h
  split at h
  · have := length_scanDigits h
    simp only [List.length_cons]
    omega
  · simp only [Except.ok.injEq, Prod.mk.injEq] at h
    simp [h.2]

theorem length_scanExponent {s rest : List Char} {exponent : Option (Bool × List Char)}
    (h : scanExponent s = .ok (exponent, rest)) : rest.length ≤ s.length := by
  have key : ∀ (negative : Bool) (t : List Char),
      (scanDigits .endInValue t).map (fun (digits, rest) => (some (negative, digits), rest)) =
        .ok (exponent, rest) → rest.length < t.length := by
    intro negative t ht
    cases hd : scanDigits .endInValue t with
    | error e => simp [hd, Except.map] at ht
    | ok p =>
      simp only [hd, Except.map, Except.ok.injEq, Prod.mk.injEq] at ht
      exact ht.2 ▸ @length_scanDigits _ _ p.1 p.2 hd
  unfold scanExponent at h
  split at h
  · split at h
    · split at h <;> · have := key _ _ h; simp_all only [List.length_cons]; omega
    · simp only [Except.ok.injEq, Prod.mk.injEq] at h
      simp [h.2]
  · simp only [Except.ok.injEq, Prod.mk.injEq] at h
    simp [h.2]

theorem length_scan {s rest : List Char} {n : Numeral} (h : scan s = .ok (n, rest)) :
    rest.length < s.length := by
  unfold scan at h
  generalize hs : (match s with
    | '-' :: rest => (true, rest)
    | _ => (false, s)) = p at h
  have hp : p.2.length ≤ s.length := by
    rw [← hs]
    split <;> simp
  obtain ⟨negative, t⟩ := p
  simp only [bind, Except.bind] at h
  split at h
  · simp at h
  · rename_i w hw
    split at h
    · simp at h
    · rename_i f hf
      split at h
      · simp at h
      · rename_i e he
        simp only [pure, Except.pure, Except.ok.injEq, Prod.mk.injEq] at h
        have h1 := @length_scanWhole _ w.1 w.2 hw
        have h2 := @length_scanFraction _ f.1 f.2 hf
        have h3 := @length_scanExponent _ e.2 e.1 he
        rw [← h.2]
        simp only at hp
        omega

end Numeral

end Json

end CrudByName
