import CrudByName.Call
import CrudByName.Outcome

/-!
# Values, records and outcomes as JSON

Every case is written under its name: a value as `"Null"` or as an object with one member such as
`Integer`, a record as an object with its `fields` as pairs, an outcome in the same way as a value.
Unlike the arguments of a call, this form tells every kind of value apart.

Reading takes what writing gives, and some more: `{"Null":null}`, an integer for a double, a record
as an array of one item, and members of a record that it does not know, which are not looked into.
-/

namespace CrudByName

/-! ## Writing -/

/-- An object with one member. -/
def Json.tagged (name : String) (content : Json) : Json :=
  .object [(name, content)]

/-- An integer. -/
def Json.ofInt (n : Int) : Json :=
  .number (.integer n)

/-- The JSON value of a value. -/
def Value.encode : Value → Json
  | .null => .string "Null"
  | .integer n => .tagged "Integer" (.ofInt n.toInt)
  | .real x => .tagged "Real" (.number (.real x))
  | .text s => .tagged "Text" (.string s)
  | .boolean b => .tagged "Boolean" (.bool b)
  | .blob bytes => .tagged "Blob" (.array (bytes.data.toList.map fun b => .ofInt b.toNat))

/-- The JSON value of a record. -/
def Record.encode (r : Record) : Json :=
  .tagged "fields" (.array (r.fields.map fun (name, v) => .array [.string name, v.encode]))

/-- The JSON value of an outcome. -/
def Outcome.encode : Outcome → Json
  | .noRows => .string "NoRows"
  | .singleRecord r => .tagged "SingleRecord" r.encode
  | .recordSet rs => .tagged "RecordSet" (.array (rs.map Record.encode))
  | .affectedCount n => .tagged "AffectedCount" (.ofInt n)
  | .generatedId id => .tagged "GeneratedId" (.ofInt id.toInt)

/-! ## Reading -/

/-- A byte from its number. -/
def byteOfJson? : Json → Option UInt8
  | .number (.integer n) => if 0 ≤ n ∧ n < 256 then some (UInt8.ofNat n.toNat) else none
  | _ => none

/-- The value of a JSON value. -/
def Value.decode? (j : Json) : Option Value :=
  match j with
  | .string "Null" => some .null
  | .object [(name, content)] =>
    match name, content with
    | "Null", .null => some .null
    | "Integer", .number (.integer n) => (int64? n).map .integer
    | "Real", .number (.real x) => some (.real x)
    | "Real", .number (.integer n) => some (.real (Binary64.ofInt n))
    | "Text", .string s => some (.text s)
    | "Boolean", .bool b => some (.boolean b)
    | "Blob", .array items =>
      (items.mapM byteOfJson?).map fun bytes => .blob ⟨bytes.toArray⟩
    | _, _ => none
  | _ => none

/-- A field from its pair. -/
def fieldOfJson? : Json → Option (String × Value)
  | .array [.string name, j] => (Value.decode? j).map fun v => (name, v)
  | _ => none

/-- A record from the JSON value of its fields; names may repeat. -/
def Record.ofFieldsJson? : Json → Option Record
  | .array items => (items.mapM fieldOfJson?).map Record.mk
  | _ => none

/-- Reads the text of a value. -/
def Value.decode (text : String) : Option Value :=
  match Json.read text.toList with
  | .ok j => Value.decode? j
  | .error _ => none

namespace Json

/-- The member of a record that counts; every other is read over. -/
def Reader.recordMember (name : String) : Reader (Option Json) := fun s =>
  if name = "fields" then
    (Reader.value .exact maxDepth s).map fun r => ⟨some r.value, r.rest, r.shorter⟩
  else (Reader.ignored s).map fun r => ⟨none, r.rest, r.shorter⟩

/-- The values of `fields` in a record, as many as there are. -/
def Reader.recordFields : Reader (List Json) := fun s =>
  match h : skipBlanks s with
  | '{' :: rest =>
    after (length_le_of_brace h) <|
      (object Reader.string recordMember rest).map fun r =>
        ⟨r.value.filterMap (·.2), r.rest, r.shorter⟩
  | _ =>
    (Reader.value .exact maxDepth s).map fun r =>
      ⟨match r.value with
        | .array items => items
        | _ => [], r.rest, r.shorter⟩

end Json

/-- Reads the text of a record, which has its fields once. -/
def Record.decode (text : String) : Option Record :=
  match Json.Reader.whole Json.Reader.recordFields text.toList with
  | .ok [fields] => Record.ofFieldsJson? fields
  | _ => none

end CrudByName
