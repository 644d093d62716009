import CrudByName.Error
import CrudByName.Record
import CrudByName.Verb

/-!
# Operation names and arguments

An operation is called by a name that says what it does:

* `get<Table>By<Field>`, `update<Table>By<Field>` and `delete<Table>By<Field>`, split at the first
  `By`, so that a table token never contains `By` while a field token may;
* `insert<Table>`;
* `lastInsertId`, as it stands.

Tokens are never empty.  `Operation.parse` reads a name and `Operation.spelling` writes one;
`splitFirstBy_eq_some_iff` characterises the split.  The tokens are those of the name, not yet
normalized.

An operation takes positional arguments (`Argument`): a lookup value is a `scalar`, the columns of
an insert or the changes of an update are `fields`.
-/

namespace CrudByName

/-- A decoded operation name. -/
inductive Operation where
  | get (table field : String)
  | insert (table : String)
  | update (table field : String)
  | delete (table field : String)
  | lastInsertId
  deriving DecidableEq, Repr

namespace Operation

/-- What an operation does. -/
def verb : Operation → Verb
  | get .. => .get
  | insert .. => .insert
  | update .. => .update
  | delete .. => .delete
  | lastInsertId => .lastInsertId

/-- The table token of an operation. -/
def table? : Operation → Option String
  | get table _ | insert table | update table _ | delete table _ => some table
  | lastInsertId => none

/-- The field token of an operation. -/
def field? : Operation → Option String
  | get _ field | update _ field | delete _ field => some field
  | insert _ | lastInsertId => none

theorem field?_isSome (o : Operation) : o.field?.isSome = o.verb.hasField := by
  cases o <;> rfl

/-! ## Spelling -/

/-- The name of an operation. -/
def spelling : Operation → String
  | get table field => "get" ++ table ++ "By" ++ field
  | insert table => "insert" ++ table
  | update table field => "update" ++ table ++ "By" ++ field
  | delete table field => "delete" ++ table ++ "By" ++ field
  | lastInsertId => "lastInsertId"

/-! ## Decoding -/

/-- Splits at the first `By`. -/
def splitFirstBy : List Char → Option (List Char × List Char)
  | [] => none
  | 'B' :: 'y' :: rest => some ([], rest)
  | c :: rest => (splitFirstBy rest).map fun split => (c :: split.1, split.2)

/-- Whether `By` occurs. -/
def containsBy (s : List Char) : Bool :=
  (splitFirstBy s).isSome

/-- The tokens on both sides of the first `By`, if neither is empty. -/
def tokens? (s : List Char) : Option (String × String) :=
  match splitFirstBy s with
  | some (t :: table, f :: field) => some (String.ofList (t :: table), String.ofList (f :: field))
  | _ => none

/-- The operation of a name, if it is one. -/
def parse? (name : String) : Option Operation :=
  if name = "lastInsertId" then some lastInsertId
  else
    match name.toList with
    | 'g' :: 'e' :: 't' :: rest => (tokens? rest).map fun (table, field) => get table field
    | 'u' :: 'p' :: 'd' :: 'a' :: 't' :: 'e' :: rest =>
      (tokens? rest).map fun (table, field) => update table field
    | 'd' :: 'e' :: 'l' :: 'e' :: 't' :: 'e' :: rest =>
      (tokens? rest).map fun (table, field) => delete table field
    | 'i' :: 'n' :: 's' :: 'e' :: 'r' :: 't' :: c :: rest =>
      some (insert (String.ofList (c :: rest)))
    | _ => none

/-- Reads the name of an operation. -/
def parse (name : String) : Except CrudError Operation :=
  match parse? name with
  | some operation => .ok operation
  | none => .error (.invalidOperationName name)

theorem eq_append_of_splitFirstBy {s table field : List Char}
    (h : splitFirstBy s = some (table, field)) : s = table ++ 'B' :: 'y' :: field := by
  fun_induction splitFirstBy s generalizing table with
  | case1 => simp at h
  | case2 rest => simp_all
  | case3 c rest _ ih =>
    obtain ⟨⟨t, f⟩, hs, heq⟩ := Option.map_eq_some_iff.1 h
    simp only [Prod.mk.injEq] at heq
    obtain ⟨rfl, rfl⟩ := heq
    simp [ih hs]

end Operation

/-! ## Arguments -/

/-- One positional argument of an operation. -/
inductive Argument where
  | scalar (v : Value)
  | fields (r : Record)
  deriving DecidableEq, Inhabited

namespace Argument

/-- What a message calls an argument of this kind. -/
def kind : Argument → String
  | scalar _ => "value"
  | fields _ => "field map"

/-- Two arguments of one shape: both scalar, or field maps with the same names in the same order. -/
def SameShape : Argument → Argument → Prop
  | scalar _, scalar _ => True
  | fields r, fields s => r.names = s.names
  | _, _ => False

end Argument

instance : Coe Value Argument := ⟨Argument.scalar⟩

instance : Coe Record Argument := ⟨Argument.fields⟩

end CrudByName
