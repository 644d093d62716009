import CrudByName.Proofs.Call.Arguments

/-!
# Calls are read as they were written

Null, booleans, integers and texts have a JSON literal each (`Value.Literal`), and so have field
maps of such values (`Argument.Literal`).  A call with such arguments is written by `Call.text`,
but may be written in many other ways too.  However it is written, it is read as itself
(`parse_inverts_writing`).

The way back from a literal to its argument is taken in two steps, as the parser does: the literal
is some JSON value (`Value.Literal.json?`), and this value is the argument
(`Value.ofJson_toJson`, `Argument.ofJson_toJson`).  Field names are not repeated, since an object
keeps one member of each name.
-/

namespace CrudByName

open Json (Form)

/-! ## Values -/

namespace Value

/-- The JSON literals of values.  Doubles and bytes have none. -/
inductive Literal : Value → Form → Prop where
  | null : Literal .null .null
  | boolean (b : Bool) : Literal (.boolean b) (.bool b)
  | integer (n : Int64) : Literal (.integer n) (.number (Json.Numeral.ofInt n.toInt))
  | text (s : String) : Literal (.text s) (.string s)

/-- Null, a boolean, an integer or a text. -/
def Plain : Value → Prop
  | real _ | blob _ => False
  | _ => True

instance : DecidablePred Plain
  | null | integer _ | text _ | boolean _ => .isTrue trivial
  | real _ | blob _ => .isFalse id

section

variable {v : Value} {f : Form}

theorem Plain.exists_literal (h : v.Plain) : ∃ f, v.Literal f := by
  cases v with
  | null => exact ⟨_, .null⟩
  | integer n => exact ⟨_, .integer n⟩
  | text s => exact ⟨_, .text s⟩
  | boolean b => exact ⟨_, .boolean b⟩
  | real x => exact h.elim
  | blob bytes => exact h.elim

theorem Literal.writes (h : v.Literal f) : f.Writes v.toJson.chars := by
  cases h with
  | null =>
    rw [toJson, Json.chars]
    exact .null
  | boolean b =>
    cases b
    · rw [toJson, Json.chars]
      exact .false
    · rw [toJson, Json.chars]
      exact .true
  | integer n =>
    rw [toJson, Json.chars]
    exact .number (Json.Numeral.writes_signed n.toInt)
  | text s =>
    rw [toJson, Json.chars]
    exact .string (Json.Quoted.writes_escaped s.toList)

/-- What a literal stands for, however few containers may be opened. -/
theorem Literal.json? (h : v.Literal f) (depth : Nat) : f.json? depth = some v.toJson := by
  cases h with
  | null => rw [Form.json?, toJson]
  | boolean b => rw [Form.json?, toJson]
  | integer n =>
    have hvalue := Json.Numeral.value_ofInt n.le_toInt n.toInt_lt
    rw [Form.json?, Form.number?, hvalue, toJson]
    rfl
  | text s => rw [Form.json?, toJson]

theorem ofJson_toJson (h : v.Plain) : ofJson v.toJson = .ok v := by
  cases v with
  | null => rfl
  | integer n =>
    rw [toJson, ofJson, int64?_toInt]
  | text s => rfl
  | boolean b => rfl
  | real x => exact h.elim
  | blob bytes => exact h.elim

end

end Value

/-! ## Arguments -/

namespace Argument

/-- The literal of a field. -/
def LiteralField (p : String × Value) (m : String × Form) : Prop :=
  p.1 = m.1 ∧ p.2.Literal m.2

/-- The JSON literals of arguments. -/
inductive Literal : Argument → Form → Prop where
  | scalar {v : Value} {f : Form} (h : v.Literal f) : Literal (.scalar v) f
  | fields {r : Record} {members : List (String × Form)}
      (h : List.Forall₂ LiteralField r.fields members) : Literal (.fields r) (.object members)

/-- A plain value, or a map from distinct names to plain values. -/
def Plain : Argument → Prop
  | scalar v => v.Plain
  | fields r => r.names.Nodup ∧ ∀ p ∈ r.fields, p.2.Plain

instance : DecidablePred Plain
  | scalar v => inferInstanceAs (Decidable v.Plain)
  | fields r => inferInstanceAs (Decidable (r.names.Nodup ∧ ∀ p ∈ r.fields, p.2.Plain))

section

variable {a : Argument} {f : Form}

theorem Plain.exists_literal (h : a.Plain) : ∃ f, a.Literal f := by
  cases a with
  | scalar v =>
    obtain ⟨f, hf⟩ := Value.Plain.exists_literal h
    exact ⟨f, .scalar hf⟩
  | fields r =>
    have hfields : ∀ p ∈ r.fields, ∃ m, LiteralField p m := fun p hp => by
      obtain ⟨f, hf⟩ := (h.2 p hp).exists_literal
      exact ⟨(p.1, f), rfl, hf⟩
    obtain ⟨members, hmembers⟩ := List.exists_forall₂ hfields
    exact ⟨.object members, .fields hmembers⟩

theorem writesMember_of_literalField {p : String × Value} {m : String × Form}
    (h : LiteralField p m) :
    Json.WritesMember Form.Writes m (Json.quoted p.1.toList ++ ':' :: p.2.toJson.chars) := by
  rw [h.1]
  exact Json.writesMember_quoted m.1 h.2.writes

theorem Literal.writes (h : a.Literal f) : f.Writes a.toJson.chars := by
  cases h with
  | scalar h => exact h.writes
  | @fields r members h =>
    have hparts : List.Forall₂ (Json.WritesMember Form.Writes) members
        (Json.charsOfMembers (r.fields.map fun p => (p.1, p.2.toJson))) := by
      rw [Json.charsOfMembers_eq_map, List.map_map, List.forall₂_map_right_iff]
      exact (h.imp fun _ _ => writesMember_of_literalField).flip
    rw [toJson, Json.chars]
    exact .object (Json.listed_commaJoined hparts)

/-- An object stands for its members, with one container open for it. -/
theorem Literal.json? (h : a.Literal f) (depth : Nat) : f.json? (depth + 1) = some a.toJson := by
  cases h with
  | scalar h => exact h.json? (depth + 1)
  | @fields r members h =>
    refine Json.Form.json?_object (List.forall₂_map_right_iff.2 (h.imp fun p m hm => ?_).flip)
    exact ⟨hm.1.symm, hm.2.json? depth⟩

theorem ofJson_toJson (h : a.Plain) : ofJson a.toJson = .ok a := by
  cases a with
  | scalar v => exact ofJson_eq_scalar_iff.2 (Value.ofJson_toJson h)
  | fields r =>
    obtain ⟨hnames, hplain⟩ := h
    have hcollapse : Json.collapse (r.fields.map fun p => (p.1, p.2.toJson)) =
        r.fields.map fun p => (p.1, p.2.toJson) := by
      refine Json.collapse_of_nodup ?_
      rwa [List.map_map]
    refine ofJson_eq_fields_iff.2 ⟨_, rfl, ?_⟩
    rw [hcollapse, List.forall₂_map_left_iff, List.forall₂_same]
    intro p hp
    exact ⟨rfl, Value.ofJson_toJson (hplain p hp)⟩

theorem Literal.argument? (h : a.Literal f) (hplain : a.Plain) : f.argument? = some a := by
  have hjson : f.json? (Json.maxDepth - 1) = some a.toJson := h.json? 125
  rw [Form.argument?, hjson, Option.bind_some, ofJson_toJson hplain]
  rfl

end

end Argument

/-! ## Calls -/

namespace Call

theorem argument?_of_literals {args : List Argument} {fs : List Form}
    (h : List.Forall₂ Argument.Literal args fs) (hplain : ∀ a ∈ args, a.Plain) :
    fs.mapM Form.argument? = some args := by
  induction h with
  | nil => rfl
  | cons ha _ ih =>
    obtain ⟨hp, hrest⟩ := List.forall_mem_cons.1 hplain
    rw [List.mapM_cons, ha.argument? hp, ih hrest]
    rfl

theorem writes_text {c : Call} {fs : List Form} (hname : IsName c.operation.toList)
    (h : List.Forall₂ Argument.Literal c.args fs) : Writes c.operation fs c.text.toList := by
  have hparts : List.Forall₂ Form.Writes fs (c.args.map fun a => a.toJson.chars) := by
    rw [List.forall₂_map_right_iff]
    exact (h.imp fun _ _ ha => ha.writes).flip
  simpa [text, chars] using writes_of_listed hname (Json.listed_commaJoined hparts)

/-- A call with plain arguments can be written with literals, and `text` does so.  However it is
written with literals, that text is read as this call. -/
theorem parse_inverts_writing {c : Call} (hname : IsName c.operation.toList)
    (hplain : ∀ a ∈ c.args, a.Plain) :
    (∃ fs, List.Forall₂ Argument.Literal c.args fs ∧ Writes c.operation fs c.text.toList) ∧
      ∀ fs (text : String), List.Forall₂ Argument.Literal c.args fs →
        Writes c.operation fs text.toList → parse text = .ok c := by
  constructor
  · obtain ⟨fs, hfs⟩ := List.exists_forall₂ fun a ha => (hplain a ha).exists_literal
    exact ⟨fs, hfs, writes_text hname hfs⟩
  · intro fs text hfs hwrites
    have hparse := parse_of_writes hwrites
    rw [argument?_of_literals hfs hplain] at hparse
    exact Except.eq_ok_of_toOption hparse

/-- Parentheses, brackets, semicolons, quotes and control characters inside the strings, the least
integer, and a field without a name. -/
theorem parse_inverts_writing_hostile :
    let c : Call := ⟨"putIt7", [.scalar (.integer Int64.minValue),
      .scalar (.text "a) b;[\"\\\n\x00"), .fields ⟨[("", .null), ("\x7d)(", .boolean true)]⟩]⟩
    (IsName c.operation.toList ∧ ∀ a ∈ c.args, a.Plain) ∧ parse c.text = .ok c := by
  intro c
  have hname : IsName c.operation.toList := by decide
  have hplain : ∀ a ∈ c.args, a.Plain := by decide
  obtain ⟨⟨fs, hfs, hwrites⟩, hall⟩ := parse_inverts_writing hname hplain
  exact ⟨⟨hname, hplain⟩, hall fs c.text hfs hwrites⟩

end Call

end CrudByName
