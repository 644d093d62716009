import CrudByName.Error

/-!
# Identifiers

An `Identifier` is a table or column name that may stand in SQL text as it is: it matches
`[a-z][a-z0-9_]*`, and the type carries the proof.  The only way to one from outside text is
`Identifier.normalize`, which turns the humps of a camel-case token into underscores and lowers its
ASCII letters; `snake_of_isSafe` says that a name of the safe shape is left as it is.
-/

namespace CrudByName

namespace Identifier

/-- The lower-case ASCII letters. -/
def isLower (c : Char) : Bool :=
  'a' ≤ c && c ≤ 'z'

/-- The upper-case ASCII letters. -/
def isUpper (c : Char) : Bool :=
  'A' ≤ c && c ≤ 'Z'

/-- The ASCII digits. -/
def isDigit (c : Char) : Bool :=
  '0' ≤ c && c ≤ '9'

/-- Lowers an ASCII letter and leaves every other character alone. -/
def lower (c : Char) : Char :=
  if isUpper c then Char.ofNat (c.toNat + 32) else c

/-- The characters of a name after its first. -/
def isTail (c : Char) : Bool :=
  isLower c || isDigit c || c == '_'

/-- The shape `[a-z][a-z0-9_]*`. -/
def isSafe : List Char → Bool
  | [] => false
  | c :: rest => isLower c && rest.all isTail

/-- Lowers every letter, with an underscore between a lower-case letter and an upper-case one that
follows it directly. -/
def snake : List Char → List Char
  | [] => []
  | [c] => [lower c]
  | c :: d :: rest =>
    if isLower c && isUpper d then lower c :: '_' :: snake (d :: rest)
    else lower c :: snake (d :: rest)

end Identifier

/-- A name that is safe in SQL text. -/
structure Identifier where
  name : String
  safe : Identifier.isSafe name.toList
  deriving DecidableEq

namespace Identifier

/-- The identifier that a token stands for. -/
def normalize (token : String) : Except CrudError Identifier :=
  let name := String.ofList (snake token.toList)
  if h : isSafe name.toList then .ok ⟨name, h⟩ else .error (.invalidIdentifier token)

/-! ## Names that are left as they are -/

theorem not_isUpper_of_isTail {c : Char} (h : isTail c) : isUpper c = false := by
  by_cases hu : isUpper c
  · simp only [isTail, isLower, isDigit, isUpper, Bool.or_eq_true, Bool.and_eq_true,
      decide_eq_true_eq, beq_iff_eq, Char.le_def, UInt32.le_iff_toNat_le] at h hu
    have hc := hu.1
    have hc' := hu.2
    rcases h with (h | h) | h
    · exact absurd h.1 (by simp at hc' ⊢; omega)
    · exact absurd h.2 (by simp at hc ⊢; omega)
    · subst h; simp at hc'
  · simpa using hu

theorem snake_of_isTail {s : List Char} (h : s.all isTail) : snake s = s := by
  induction s with
  | nil => rfl
  | cons c s ih =>
    simp only [List.all_cons, Bool.and_eq_true] at h
    have hc : lower c = c := by simp [lower, not_isUpper_of_isTail h.1]
    cases s with
    | nil => simp [snake, hc]
    | cons d s =>
      have hd : isUpper d = false := by
        have := h.2
        simp only [List.all_cons, Bool.and_eq_true] at this
        exact not_isUpper_of_isTail this.1
      simp only [snake, hd, Bool.and_false, Bool.false_eq_true, if_false, hc]
      rw [ih h.2]

theorem snake_of_isSafe {s : List Char} (h : isSafe s) : snake s = s := by
  cases s with
  | nil => rfl
  | cons c s =>
    simp only [isSafe, Bool.and_eq_true] at h
    exact snake_of_isTail (by simp [isTail, h.1, h.2])

end Identifier

end CrudByName
