import CrudByName.Members
import CrudByName.Value

/-!
# Records

A `Record` is an ordered list of named values: the field map of an insert or update, and a row of
a result.  `insert` keeps the order of first insertion, since an existing name keeps its place and
only its value is replaced.  A record read back from its written form may repeat a name
(`Codec`); every operation here is defined on such a record too, and looks at the first field of a
name.

`get?_insert_self` and `get?_insert_of_ne` say that `insert` writes one name and no other, and
`names_insert` where the name ends up.  `replace` hands back, on the way, the value that `insert`
takes away, which is what `get?` found before (`replace_eq`).
-/

namespace CrudByName

/-- Named values in order. -/
structure Record where
  fields : List (String × Value)
  deriving DecidableEq, Inhabited

namespace Record

/-- The record without fields. -/
def empty : Record := ⟨[]⟩

instance : EmptyCollection Record := ⟨empty⟩

/-- How many fields there are. -/
def size (r : Record) : Nat :=
  r.fields.length

/-- Whether there are no fields. -/
def isEmpty (r : Record) : Bool :=
  r.fields.isEmpty

/-- The names of the fields, in order. -/
def names (r : Record) : List String :=
  r.fields.map Prod.fst

/-- The values of the fields, in order. -/
def values (r : Record) : List Value :=
  r.fields.map Prod.snd

/-- The value of the first field of that name. -/
def get? (r : Record) (name : String) : Option Value :=
  r.fields.lookup name

/-- Whether there is a field of that name. -/
def contains (r : Record) (name : String) : Bool :=
  (r.get? name).isSome

/-! ## Writing a field -/

/-- Puts a value under a name. -/
def insert (r : Record) (name : String) (value : Value) : Record :=
  ⟨Members.put name value r.fields⟩

/-- The value of the first field of that name, if there is one, next to the new fields. -/
def replaceField (name : String) (value : Value) :
    List (String × Value) → Option Value × List (String × Value)
  | [] => (none, [(name, value)])
  | (n, v) :: rest =>
    if name == n then (some v, (n, value) :: rest)
    else
      let (old, rest) := replaceField name value rest
      (old, (n, v) :: rest)

/-- The value that `insert` takes away, next to the new record. -/
def replace (r : Record) (name : String) (value : Value) : Option Value × Record :=
  let (old, fields) := replaceField name value r.fields
  (old, ⟨fields⟩)

/-- The record of pairs that are put in one after the other. -/
def ofList (pairs : List (String × Value)) : Record :=
  pairs.foldl (fun r p => r.insert p.1 p.2) empty

/-- Field by field equality of contents, in order. -/
def same (a b : Record) : Bool :=
  a.fields.length == b.fields.length &&
    (a.fields.zip b.fields).all fun (p, q) => p.1 == q.1 && p.2 == q.2

instance : BEq Record := ⟨same⟩

theorem get?_insert_self (r : Record) (name : String) (value : Value) :
    (r.insert name value).get? name = some value := by
  rw [get?, insert, Members.lookup_put, if_pos rfl]

theorem get?_insert_of_ne {other name : String} (h : other ≠ name) (r : Record) (value : Value) :
    (r.insert name value).get? other = r.get? other := by
  rw [get?, insert, Members.lookup_put, if_neg h, get?]

theorem names_insert (r : Record) (name : String) (value : Value) :
    (r.insert name value).names =
      if name ∈ r.names then r.names else r.names ++ [name] :=
  Members.names_put name value r.fields

theorem replaceField_eq (name : String) (value : Value) (fields : List (String × Value)) :
    replaceField name value fields = (fields.lookup name, Members.put name value fields) := by
  induction fields with
  | nil => rfl
  | cons p fields ih =>
    obtain ⟨n, v⟩ := p
    by_cases h : name = n
    · simp [replaceField, Members.put, h]
    · have hb : (name == n) = false := by simpa using h
      simp [replaceField, Members.put, List.lookup_cons, hb, ih]

theorem replace_eq (r : Record) (name : String) (value : Value) :
    r.replace name value = (r.get? name, r.insert name value) := by
  rw [replace, replaceField_eq]
  rfl

end Record

end CrudByName
