import CrudByName.Decimal.Digits

/-!
# Keys that are paths

A key of a source of settings may lead into a setting: a name, and behind it steps to members
(`.name`) and to items of lists (`[index]`).  `KeyPath.read?` reads a key as such a path; a key that
is none stands for itself (`KeyPath.ofKey`).
-/

namespace CrudByName

/-- One step of a path. -/
inductive KeyPath.Step where
  | member (name : List Char)
  | item (index : Int)
  deriving DecidableEq, Repr

/-- A name, and the steps that lead on from it. -/
structure KeyPath where
  root : List Char
  steps : List KeyPath.Step
  deriving DecidableEq, Repr

namespace KeyPath

/-! ## Names and indices -/

/-- Whether a character can stand in a name. -/
def inName (c : Char) : Bool :=
  c.isAlphanum || c == ' ' || c == '_' || c == '-'

/-- Whether a character can stand around an index. -/
def isBlank (c : Char) : Bool :=
  c == ' ' || c == '\t'

/-- The name at the front of a text, and what follows it. -/
def name? (s : List Char) : Option (List Char × List Char) :=
  match s.takeWhile inName with
  | [] => none
  | name => some (name, s.dropWhile inName)

/-- An index that sixty-four bits can hold, and what follows it. -/
def index? (s : List Char) : Option (Int × List Char) :=
  let (negative, s) := match s with
    | '-' :: rest => (true, rest)
    | _ => (false, s)
  match s.takeWhile Decimal.isDigit with
  | [] => none
  | ds =>
    let n : Int := if negative then -(Decimal.ofDigits ds : Int) else Decimal.ofDigits ds
    if -2 ^ 63 ≤ n ∧ n < 2 ^ 63 then some (n, s.dropWhile Decimal.isDigit) else none

/-- The step at the front of a text, and what follows it. -/
def step? (s : List Char) : Option (Step × List Char) :=
  match s with
  | '.' :: rest => (name? rest).map fun (name, rest) => (.member name, rest)
  | '[' :: rest =>
    match index? (rest.dropWhile isBlank) with
    | some (n, rest) =>
      match rest.dropWhile isBlank with
      | ']' :: rest => some (.item n, rest)
      | _ => none
    | none => none
  | _ => none

/-! ## Reading -/

/-- Steps up to the end of a text, of which there are at most as many as characters. -/
def steps? : (atMost : Nat) → List Char → Option (List Step)
  | _, [] => some []
  | 0, _ :: _ => none
  | n + 1, s => do
    let (step, rest) ← step? s
    return step :: (← steps? n rest)

/-- Reads a key as a path. -/
def read? (key : List Char) : Option KeyPath := do
  let (root, rest) ← name? key
  return ⟨root, ← steps? rest.length rest⟩

/-- The path of a key. -/
def ofKey (key : List Char) : KeyPath :=
  (read? key).getD ⟨key, []⟩

end KeyPath

end CrudByName
