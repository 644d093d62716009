import CrudByName.Decimal.Notation
import CrudByName.Text.Hex

/-!
# Values

A `Value` is one bound parameter or one cell of a result.  There are two notions of equality.
Propositional equality is decidable and tells two doubles apart by their bits.  `Value.same`, the
`==` of values, compares doubles as numbers, so that NaN differs from itself and the two zeros
agree; it never crosses the kinds, so that an integer is never `==` to a double.
-/

-- Byte arrays are compared as core does it, also where another instance is in scope.
attribute [instance (2000)] ByteArray.instDecidableEq

namespace CrudByName

/-! ## Integers of sixty-four bits -/

/-- The sixty-four bit integer of that value. -/
def int64? (n : Int) : Option Int64 :=
  if -2 ^ 63 ≤ n ∧ n < 2 ^ 63 then some (Int64.ofInt n) else none

theorem int64?_toInt (i : Int64) : int64? i.toInt = some i := by
  rw [int64?, if_pos ⟨i.le_toInt, i.toInt_lt⟩, Int64.ofInt_toInt]

theorem int64?_eq_some_iff {n : Int} {i : Int64} : int64? n = some i ↔ n = i.toInt := by
  constructor
  · intro h
    unfold int64? at h
    split at h
    · rename_i hrange
      cases h
      exact (Int64.toInt_ofInt_of_le hrange.1 hrange.2).symm
    · cases h
  · rintro rfl
    exact int64?_toInt i

/-! ## Values -/

/-- A bound parameter or a cell of a result. -/
inductive Value where
  | null
  | integer (n : Int64)
  | real (x : Float)
  | text (s : String)
  | boolean (b : Bool)
  | blob (bytes : ByteArray)
  deriving DecidableEq, Inhabited

namespace Value

/-! ## The kinds -/

/-- The number of an integer. -/
def asInt : Value → Option Int64
  | integer n => some n
  | _ => none

/-- The number of a double. -/
def asReal : Value → Option Float
  | real x => some x
  | _ => none

/-- The characters of a text. -/
def asText : Value → Option String
  | text s => some s
  | _ => none

/-- The truth of a truth value. -/
def asBool : Value → Option Bool
  | boolean b => some b
  | _ => none

/-- Whether a value is null. -/
def isNull : Value → Bool
  | null => true
  | _ => false

/-- A value that may be missing; a missing one is null. -/
def ofOption (v : Option Value) : Value :=
  v.getD null

/-! ## Equality of contents -/

/-- Whether two values have one content. -/
def same : Value → Value → Bool
  | null, null => true
  | integer m, integer n => m == n
  | real x, real y => x == y
  | text s, text t => s == t
  | boolean a, boolean b => a == b
  | blob a, blob b => a == b
  | _, _ => false

instance : BEq Value := ⟨same⟩

/-! ## The text shown to a reader -/

/-- Text and numbers stand as they are, null is `NULL`, and bytes are hexadecimal behind `\x`. -/
def display : Value → String
  | null => "NULL"
  | integer n => Decimal.intText n.toInt
  | real x => String.ofList (Decimal.plain.write x)
  | text s => s
  | boolean b => if b then "true" else "false"
  | blob bytes => "\\x" ++ Hex.encode bytes

end Value

end CrudByName
