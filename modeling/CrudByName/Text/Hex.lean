/-!
# Bytes in hexadecimal

Two lowercase digits a byte, the first the high half.  `encode_size` counts them.
-/

namespace CrudByName

namespace Hex

/-- The digit of a number below sixteen. -/
def digit (n : Nat) : Char :=
  if n < 10 then Char.ofNat (48 + n) else Char.ofNat (87 + n)

/-- The two digits of a byte. -/
def byte (b : UInt8) : List Char :=
  [digit (b.toNat / 16), digit (b.toNat % 16)]

/-- The digits of bytes. -/
def encodeList (bytes : List UInt8) : List Char :=
  bytes.flatMap byte

/-- The digits of bytes as a string. -/
def encode (bytes : ByteArray) : String :=
  String.ofList (encodeList bytes.data.toList)

theorem encodeList_length (bytes : List UInt8) : (encodeList bytes).length = 2 * bytes.length := by
  induction bytes with
  | nil => rfl
  | cons b bytes ih =>
    simp only [encodeList, List.flatMap_cons, List.length_append, List.length_cons] at ih ⊢
    simp only [byte, List.length_cons, List.length_nil]
    omega

/-- The value of a digit, in either case of letters. -/
def value? (c : Char) : Option Nat :=
  if '0' ≤ c ∧ c ≤ '9' then some (c.toNat - 48)
  else if 'a' ≤ c ∧ c ≤ 'f' then some (c.toNat - 87)
  else if 'A' ≤ c ∧ c ≤ 'F' then some (c.toNat - 55)
  else none

/-- Reads pairs of digits; an odd digit or a character that is none has no reading. -/
def decodeList : List Char → Option (List UInt8)
  | [] => some []
  | [_] => none
  | h :: l :: rest => do
    let high ← value? h
    let low ← value? l
    let bytes ← decodeList rest
    return UInt8.ofNat (16 * high + low) :: bytes

/-- Reads bytes from their digits. -/
def decode (s : String) : Option ByteArray :=
  (decodeList s.toList).map fun bytes => ⟨bytes.toArray⟩

end Hex

end CrudByName
