import CrudByName.Json.Codec
import CrudByName.Proofs.Json.Reading
import CrudByName.Proofs.Json.Writing

/-!
# Values and records are read as they were encoded

What is read from the text of an encoded value is that value (`Value.decode_encode`), and what is
read from the text of an encoded record is that record, with its fields in their order and with
repeated names (`Record.decode_encode`).  Doubles are left out: the reader of numbers does not round
to the nearest double, and there is no text at all for one that is not finite.

The text of a plain JSON value is read as that value (`Json.read_chars`), and the encoding of a
value is plain.  Records have a reader of their own, which collects the members called `fields` and
passes over all others; in an encoded record it meets one member and no other
(`Json.Reader.recordFields_chars`).
-/

namespace CrudByName

namespace Json

section

variable {depth : Nat} {j : Json}

theorem read_chars (h : Plain maxDepth j) : read j.chars = .ok j := by
  obtain ⟨f, hwrites, hjson⟩ := h.exists_form
  have hread := read_of_writes hwrites
  rw [hjson] at hread
  exact Except.eq_ok_of_toOption hread

theorem plain_tagged (name : String) (h : Plain depth j) : Plain (depth + 1) (tagged name j) := by
  refine .object fun m hm => ?_
  obtain rfl := List.mem_singleton.1 hm
  exact h

theorem chars_tagged (name : String) (j : Json) :
    (tagged name j).chars =
      '{' :: '"' :: (name.toList.flatMap escape ++ '"' :: ':' :: j.chars ++ ['}']) := by
  simp [tagged, chars, charsOfMembers, commaJoined, quoted]

end

namespace Reader

theorem recordMember_fields (s : List Char) :
    outcome (recordMember "fields" s) =
      (outcome (value .exact maxDepth s)).map fun p => (some p.1, p.2) := by
  rw [recordMember, if_pos rfl]
  exact outcome_map some _

theorem recordFields_brace {s rest : List Char} (h : skipBlanks s = '{' :: rest) :
    outcome (recordFields s) =
      (outcome (object string recordMember rest)).map fun p => (p.1.filterMap Prod.snd, p.2) := by
  unfold recordFields
  split
  · rename_i tail htail
    obtain rfl : tail = rest := by simpa [h] using htail.symm
    rw [outcome_after]
    exact outcome_map (List.filterMap Prod.snd) _
  · simp_all

/-- An object whose one member is called `fields`. -/
theorem recordFields_chars {j : Json} (h : Plain maxDepth j) :
    outcome (recordFields (tagged "fields" j).chars) = some ([j], []) := by
  obtain ⟨f, hwrites, hjson⟩ := h.exists_form
  have hends : Numeral.Ends ['}'] := Text.stops_cons (by decide) []
  have hvalue := (value_of_writes maxDepth).first hwrites hends
  rw [hjson] at hvalue
  have hname := string_of_writes (Quoted.writes_escaped "fields".toList) (':' :: (j.chars ++ ['}']))
  have hcolon : outcome (memberValue (recordMember "fields") (':' :: (j.chars ++ ['}']))) =
      some (some j, ['}']) := by
    rw [memberValue_colon _ (skipBlanks_cons (by decide) _), recordMember_fields, hvalue]
    rfl
  have hmember := (member_name hname).trans (congrArg _ hcolon)
  have hmembers := members_last (o := some ("fields", some j)) hmember
    (skipBlanks_cons (by decide) _)
  rw [chars_tagged, recordFields_brace (skipBlanks_cons (by decide) _),
    object_cons (skipBlanks_cons (by decide) _), List.append_assoc, List.cons_append,
    List.cons_append, hmembers]
  rfl

end Reader

end Json

/-! ## Values -/

namespace Value

/-- Every value but a double. -/
def Exact : Value → Prop
  | real _ => False
  | _ => True

instance : DecidablePred Exact
  | real _ => .isFalse id
  | null | integer _ | text _ | boolean _ | blob _ => .isTrue trivial

section

variable {v : Value}

theorem Exact.plain_encode (h : v.Exact) (depth : Nat) : Json.Plain (depth + 2) v.encode := by
  cases v with
  | null => exact .string "Null"
  | integer n => exact Json.plain_tagged _ (.integer n.le_toInt n.toInt_lt)
  | real x => exact h.elim
  | text s => exact Json.plain_tagged _ (.string s)
  | boolean b => exact Json.plain_tagged _ (.bool b)
  | blob bytes =>
    refine Json.plain_tagged _ (.array fun j hj => ?_)
    obtain ⟨b, -, rfl⟩ := List.mem_map.1 hj
    have hb := b.toNat_lt
    exact .integer (by omega) (by omega)

theorem byteOfJson?_ofInt (b : UInt8) : byteOfJson? (.ofInt b.toNat) = some b := by
  have hb := b.toNat_lt
  simp only [Json.ofInt, byteOfJson?]
  rw [if_pos (by omega)]
  simp

theorem Exact.decode?_encode (h : v.Exact) : decode? v.encode = some v := by
  cases v with
  | null => rfl
  | integer n => simp [encode, Json.tagged, Json.ofInt, decode?, int64?_toInt]
  | real x => exact h.elim
  | text s => rfl
  | boolean b => rfl
  | blob bytes =>
    have hbytes : (bytes.data.toList.map fun b => Json.ofInt b.toNat).mapM byteOfJson? =
        some bytes.data.toList := by
      rw [List.mapM_eq_some_iff, List.forall₂_map_left_iff, List.forall₂_same]
      exact fun b _ => byteOfJson?_ofInt b
    simp [encode, Json.tagged, decode?, hbytes]

theorem decode_encode (h : v.Exact) : decode v.encode.text = some v := by
  rw [decode, Json.text, String.toList_ofList, Json.read_chars (h.plain_encode 125)]
  exact h.decode?_encode

end

end Value

/-! ## Records -/

namespace Record

/-- No field holds a double. -/
def Exact (r : Record) : Prop :=
  ∀ p ∈ r.fields, p.2.Exact

instance : DecidablePred Exact := fun r =>
  inferInstanceAs (Decidable (∀ p ∈ r.fields, p.2.Exact))

section

variable {r : Record}

theorem Exact.plain_fields (h : r.Exact) :
    Json.Plain Json.maxDepth
      (.array (r.fields.map fun p => .array [.string p.1, p.2.encode])) := by
  refine .array fun j hj => ?_
  obtain ⟨p, hp, rfl⟩ := List.mem_map.1 hj
  refine .array fun j hj => ?_
  rcases List.mem_pair.1 hj with rfl | rfl
  · exact .string p.1
  · exact (h p hp).plain_encode 123

theorem Exact.ofFieldsJson? (h : r.Exact) :
    ofFieldsJson? (.array (r.fields.map fun p => .array [.string p.1, p.2.encode])) = some r := by
  have hfields : (r.fields.map fun p => Json.array [.string p.1, p.2.encode]).mapM fieldOfJson? =
      some r.fields := by
    rw [List.mapM_eq_some_iff, List.forall₂_map_left_iff, List.forall₂_same]
    intro p hp
    rw [fieldOfJson?, (h p hp).decode?_encode]
    rfl
  rw [Record.ofFieldsJson?, hfields]
  rfl

theorem decode_encode (h : r.Exact) : decode r.encode.text = some r := by
  rw [decode, Json.text, String.toList_ofList]
  have hread := Json.Reader.whole_of_outcome (Json.Reader.recordFields_chars h.plain_fields) rfl
  rw [show r.encode = Json.tagged "fields" _ from rfl, hread]
  exact h.ofFieldsJson?

end

end Record

/-- Reading undoes writing, so that no two values and no two records are written alike. -/
theorem decoding_inverts_encoding :
    (∀ v : Value, v.Exact → Value.decode v.encode.text = some v) ∧
      (∀ r : Record, r.Exact → Record.decode r.encode.text = some r) ∧
      (∀ v w : Value, v.Exact → w.Exact → v ≠ w → v.encode.text ≠ w.encode.text) ∧
      (∀ r s : Record, r.Exact → s.Exact → r ≠ s → r.encode.text ≠ s.encode.text) := by
  refine ⟨fun v => Value.decode_encode, fun r => Record.decode_encode, ?_, ?_⟩
  · intro v w hv hw hne htext
    have hdecode := Value.decode_encode hv
    rw [htext, Value.decode_encode hw] at hdecode
    exact hne (Option.some.inj hdecode).symm
  · intro r s hr hs hne htext
    have hdecode := Record.decode_encode hr
    rw [htext, Record.decode_encode hs] at hdecode
    exact hne (Option.some.inj hdecode).symm

/-- Names that repeat, an empty one, characters with and without an escape of their own, and the
least integer; the fields in another order are another text. -/
theorem decoding_inverts_encoding_repeated :
    let r : Record := ⟨[("", .null), ("\"\n\x00\\é", .integer Int64.minValue), ("", .text "\x1f\t😀"),
      ("b", .blob ⟨#[0, 255]⟩), ("b", .boolean true)]⟩
    let s : Record := ⟨r.fields.reverse⟩
    (r.Exact ∧ s.Exact ∧ r ≠ s) ∧
      Record.decode r.encode.text = some r ∧ r.encode.text ≠ s.encode.text := by
  intro r s
  have hr : r.Exact := by decide
  have hs : s.Exact := by decide
  have hne : r ≠ s := by decide
  obtain ⟨-, hdecode, -, hdistinct⟩ := decoding_inverts_encoding
  exact ⟨⟨hr, hs, hne⟩, hdecode r hr, hdistinct r s hr hs hne⟩

end CrudByName
