import CrudByName.Proofs.Call.Arguments
import Mathlib.Tactic.ByContra

/-!
# Nested values

A parameter holds no array and no object.  An argument that is an array is refused, and so is an
object with a nested value in it, as long as this is the last value of its name
(`nested_values_refused`).  A value that another one of the same name replaces is dropped before
anything is converted.  So a nested value gets through, unseen, in front of one that can be bound
(`nested_value_dropped`).
-/

namespace CrudByName

open Json (Form)

namespace Json.Form

/-! ## Bound forms -/

/-- Whether a form is an array or an object. -/
def isNested : Form → Bool
  | array _ | object _ => true
  | _ => false

/-- An integer that no sixty-four bits hold. -/
inductive Overflows : Form → Prop where
  | mk {n : Numeral} {k : Int} (h : n.value = .ok (.integer k)) (out : ∀ i : Int64, i.toInt ≠ k) :
      Overflows (number n)

/-- The forms that are converted for an argument: those that a record keeps for an object, and
otherwise the argument itself. -/
inductive Binds : Form → Form → Prop where
  | member {members : List (String × Form)} {name : String} {g : Form}
      (h : last? name members = some g) : Binds (object members) g
  | argument {f : Form} (h : ∀ members, f ≠ object members) : Binds f f

/-- Not an array, and not an object with a nested value but in front of another value of the same
name that is not nested. -/
def NestedReplaced : Form → Prop
  | array _ => False
  | object members =>
    ∀ (i : Nat) (name : String) (g : Form), members[i]? = some (name, g) → g.isNested = true →
      ∃ j k, i < j ∧ members[j]? = some (name, k) ∧ k.isNested = false
  | _ => True

section

variable {depth : Nat} {f g : Form}

/-- Among the forms that can be read, nested ones and integers that do not fit are those that do
not convert. -/
theorem Readable.exists_converts_iff (h : f.Readable depth) :
    (∃ v, f.Converts v) ↔ ¬ (f.isNested = true ∨ f.Overflows) := by
  constructor
  · rintro ⟨v, hv⟩ (hnested | hout)
    · cases hv <;> cases hnested
    · obtain ⟨hvalue, out⟩ := hout
      cases hv with
      | @integer _ i hi =>
        rw [hi] at hvalue
        cases hvalue
        exact out i rfl
      | real hx =>
        rw [hx] at hvalue
        cases hvalue
  · intro hnot
    obtain ⟨hnested, hfits⟩ := not_or.1 hnot
    cases h with
    | null => exact ⟨_, .null⟩
    | bool b => exact ⟨_, .bool b⟩
    | string s => exact ⟨_, .string s⟩
    | array _ => exact absurd rfl hnested
    | object _ => exact absurd rfl hnested
    | @number _ n x hx =>
      cases x with
      | real x => exact ⟨_, .real hx⟩
      | integer k =>
        by_contra hnone
        refine hfits ⟨hx, fun i hi => hnone ⟨.integer i, .integer ?_⟩⟩
        rw [hi]
        exact hx

theorem Readable.of_binds (h : f.Readable depth) (hg : f.Binds g) : ∃ d, g.Readable d := by
  cases hg with
  | argument _ => exact ⟨depth, h⟩
  | member hlast =>
    cases h with
    | object hmembers => exact ⟨_, hmembers _ (mem_of_last? hlast)⟩

theorem Denotes.readable {a : Argument} (h : f.Denotes a) : f.Readable (Json.maxDepth - 1) := by
  cases h with
  | scalar h => exact h.readable
  | fields readable _ _ => exact readable

/-- Whatever is bound for an argument converts. -/
theorem Denotes.converts_of_binds {a : Argument} (h : f.Denotes a) (hg : f.Binds g) :
    ∃ v, g.Converts v := by
  cases h with
  | scalar h =>
    cases hg with
    | argument _ => exact ⟨_, h⟩
    | member _ => nomatch h
  | @fields members pairs _ names last =>
    cases hg with
    | argument hne => exact absurd rfl (hne members)
    | @member _ name _ hlast =>
      have hmem : name ∈ pairs.map Prod.fst := by
        rw [names]
        exact List.mem_map_of_mem (mem_of_last? hlast)
      obtain ⟨⟨_, w⟩, hw, rfl⟩ := List.mem_map.1 hmem
      obtain ⟨v, hv⟩ := exists_last? hw
      exact ⟨v, last _ _ _ hlast hv⟩

/-- It is enough that whatever is bound for an argument converts. -/
theorem exists_denotes (h : f.Readable (Json.maxDepth - 1))
    (hbinds : ∀ g, f.Binds g → ∃ v, g.Converts v) : ∃ a, f.Denotes a := by
  by_cases hobject : ∃ members, f = object members
  · obtain ⟨members, rfl⟩ := hobject
    have hmember : ∀ m ∈ members, ∃ p : String × Value,
        m.1 = p.1 ∧ ∀ g, last? m.1 members = some g → g.Converts p.2 := by
      intro m hm
      obtain ⟨g, hg⟩ := exists_last? hm
      obtain ⟨v, hv⟩ := hbinds g (.member hg)
      refine ⟨(m.1, v), rfl, fun k hk => ?_⟩
      rw [hg] at hk
      cases hk
      exact hv
    obtain ⟨pairs, hpairs⟩ := List.exists_forall₂ hmember
    refine ⟨.fields (Record.ofList pairs), .fields h ?_ fun name g v hg hv => ?_⟩
    · exact (List.map_eq_map_of_forall₂ hpairs fun _ _ hm => hm.1).symm
    · obtain ⟨m, -, hname, hm⟩ := List.exists_mem_of_forall₂ hpairs.flip (mem_of_last? hv)
      exact hm g (hname ▸ hg)
  · obtain ⟨v, hv⟩ := hbinds f (.argument fun members hf => hobject ⟨members, hf⟩)
    exact ⟨_, .scalar hv⟩

theorem exists_denotes_iff :
    (∃ a, f.Denotes a) ↔
      f.Readable (Json.maxDepth - 1) ∧ ∀ g, f.Binds g → ¬ (g.isNested = true ∨ g.Overflows) := by
  constructor
  · rintro ⟨a, ha⟩
    refine ⟨ha.readable, fun g hg => ?_⟩
    obtain ⟨d, hd⟩ := ha.readable.of_binds hg
    exact hd.exists_converts_iff.1 (ha.converts_of_binds hg)
  · rintro ⟨hread, hbinds⟩
    refine exists_denotes hread fun g hg => ?_
    obtain ⟨d, hd⟩ := hread.of_binds hg
    exact hd.exists_converts_iff.2 (hbinds g hg)

end

end Json.Form

/-! ## Refused calls -/

namespace Call

section

variable {name text : String} {fs : List Form}

/-- A call is accepted exactly if each of its forms denotes an argument. -/
theorem exists_call_iff (h : Writes name fs text.toList) :
    (∃ c, parse text = .ok c) ↔ ∀ f ∈ fs, ∃ a, f.Denotes a := by
  have hcall := parse_of_writes h
  constructor
  · rintro ⟨c, hc⟩ f hf
    rw [hc] at hcall
    obtain ⟨args, hargs, -⟩ := Option.map_eq_some_iff.1 hcall.symm
    obtain ⟨a, -, ha⟩ := List.exists_mem_of_forall₂ (List.mapM_eq_some_iff.1 hargs) hf
    exact ⟨a, Form.denotes_of_argument? ha⟩
  · intro hall
    obtain ⟨args, hargs⟩ := List.exists_forall₂ hall
    rw [List.mapM_eq_some_iff.2 (hargs.imp fun _ _ ha => ha.argument?)] at hcall
    exact ⟨_, Except.eq_ok_of_toOption hcall⟩

/-- A call that is not accepted is refused as a faulty argument. -/
theorem refused_iff (text : String) :
    (∃ fault, parse text = .error (.invalidArgument fault)) ↔ ¬ ∃ c, parse text = .ok c := by
  constructor
  · rintro ⟨fault, hfault⟩ ⟨c, hc⟩
    rw [hfault] at hc
    cases hc
  · intro hnot
    cases hparse : parse text with
    | ok c => exact absurd ⟨c, hparse⟩ hnot
    | error e =>
      obtain ⟨fault, rfl⟩ := refuses_parse text e hparse
      exact ⟨fault, rfl⟩

/-- What is bound for an argument is not nested, and a nested member is not what is bound. -/
theorem nestedReplaced_of_denotes {f : Form} {a : Argument} (h : f.Denotes a) :
    f.NestedReplaced := by
  have hbound : ∀ g, f.Binds g → g.isNested = false := fun g hg => by
    have hnot := (Form.exists_denotes_iff.1 ⟨a, h⟩).2 g hg
    simpa using (not_or.1 hnot).1
  cases f with
  | array items => cases hbound _ (.argument (by simp))
  | object members =>
    intro i name g hi hg
    obtain ⟨k, hlast⟩ := Json.exists_last? (List.mem_of_getElem? hi)
    have hk := hbound k (.member hlast)
    obtain ⟨j, hij, hj⟩ := Json.exists_index_of_last? hi hlast
    refine ⟨j, k, Nat.lt_of_le_of_ne hij ?_, hj, hk⟩
    rintro rfl
    rw [hi] at hj
    cases hj
    rw [hg] at hk
    cases hk
  | _ => trivial

/-- A call with one argument, in which a name stands twice. -/
theorem writes_twice {f g : Form} {s t : List Char} (hf : f.Writes s) (hg : g.Writes t) :
    Writes "f" [.object [("a", f), ("a", g)]]
      ("f(\x7b\"a\":".toList ++ s ++ ",\"a\":".toList ++ t ++ "\x7d)".toList) := by
  have hobject := Form.Writes.object (Json.listed_commaJoined
    (.cons (Json.writesMember_quoted "a" hf) (.cons (Json.writesMember_quoted "a" hg) .nil)))
  have hlisted := Json.listed_commaJoined (.cons hobject .nil)
  have hname : IsName "f".toList := by decide
  simpa [Json.commaJoined, Json.quoted, Json.escape] using writes_of_listed hname hlisted

/-- A call is refused exactly if one of its arguments cannot be read, or binds a nested value or an
integer that does not fit.  A nested value in a call that is accepted is a member of an argument,
and another member of its name, which is not nested, stands behind it. -/
theorem nested_values_refused (h : Writes name fs text.toList) :
    ((∃ fault, parse text = .error (.invalidArgument fault)) ↔
      ∃ f ∈ fs, ¬ f.Readable (Json.maxDepth - 1) ∨
        ∃ g, f.Binds g ∧ (g.isNested = true ∨ g.Overflows)) ∧
    ((∃ c, parse text = .ok c) → ∀ f ∈ fs, f.NestedReplaced) := by
  constructor
  · rw [refused_iff, exists_call_iff h]
    simp only [Form.exists_denotes_iff, not_forall, not_and_or, not_not, exists_prop]
  · intro hcall f hf
    obtain ⟨a, ha⟩ := (exists_call_iff h).1 hcall f hf
    exact nestedReplaced_of_denotes ha

/-- An array behind a number of the same name. -/
theorem nested_values_refused_last :
    let one : Form := .number ⟨false, ['1'], [], none⟩
    let two : Form := .number ⟨false, ['2'], [], none⟩
    let fs : List Form := [.object [("a", two), ("a", .array [one])]]
    let text := "f(\x7b\"a\":2,\"a\":[1]\x7d)"
    Writes "f" fs text.toList ∧ ∃ fault, parse text = .error (.invalidArgument fault) := by
  intro one two fs text
  have hone : one.Writes ['1'] := .number (.mk false (by decide) .none .none)
  have htwo : two.Writes ['2'] := .number (.mk false (by decide) .none .none)
  have harray : (Form.array [one]).Writes "[1]".toList :=
    .array (Json.listed_commaJoined (.cons hone .nil))
  have hwrites : Writes "f" fs text.toList := by
    simpa [fs, text] using writes_twice htwo harray
  have hlast : Json.last? "a" [("a", two), ("a", .array [one])] = some (.array [one]) := rfl
  exact ⟨hwrites, (nested_values_refused hwrites).1.2
    ⟨_, List.mem_singleton.2 rfl, .inr ⟨_, .member hlast, .inl rfl⟩⟩⟩

/-- An array in front of a number of the same name. -/
theorem nested_value_dropped :
    let one : Form := .number ⟨false, ['1'], [], none⟩
    let two : Form := .number ⟨false, ['2'], [], none⟩
    let fs : List Form := [.object [("a", .array [one]), ("a", two)]]
    let text := "f(\x7b\"a\":[1],\"a\":2\x7d)"
    Writes "f" fs text.toList ∧ parse text = .ok ⟨"f", [.fields ⟨[("a", .integer 2)]⟩]⟩ := by
  intro one two fs text
  have hone : one.Writes ['1'] := .number (.mk false (by decide) .none .none)
  have htwo : two.Writes ['2'] := .number (.mk false (by decide) .none .none)
  have harray : (Form.array [one]).Writes "[1]".toList :=
    .array (Json.listed_commaJoined (.cons hone .nil))
  have hwrites : Writes "f" fs text.toList := by
    simpa [fs, text] using writes_twice harray htwo
  have hparse : parse text = .ok ⟨"f", [.fields ⟨[("a", .integer 2)]⟩]⟩ := by decide +kernel
  exact ⟨hwrites, hparse⟩

end

end Call

end CrudByName
