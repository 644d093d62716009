import CrudByName.Proofs.Call.Arguments
import CrudByName.Proofs.Decimal.Finite

/-!
# What a call hands on

The stages behind the parser rely on what it lets through.  An operation name is made of ASCII
letters and digits and is not empty; a value holds no bytes, and a double in it is finite; a field
map names no field twice, and its fields hold values and nothing deeper (`Argument.Bindable`).  All
of this holds of every call that is accepted, whatever its text (`accepted_calls_bindable`).

Finite doubles come from the numerals: `Numeral.value` refuses one that overflows, and a minus sign
changes nothing (`Numeral.isFinite_of_value`).  Distinct names come from the insertion of the
members of an object, and so does the value of a field: it is what the last member of its name
converts to (`Form.exists_converts_of_mem`).
-/

namespace CrudByName

open Json (Form Numeral)

/-! ## Numerals -/

namespace Json.Numeral

theorem isFinite_of_finite {negative : Bool} {x : Option Float} {y : Float}
    (h : finite negative x = .ok (.real y)) : y.isFinite = true := by
  unfold finite at h
  split at h
  · rename_i x
    split at h
    · rename_i hfinite
      rw [Binary64.isFinite_eq] at hfinite
      cases h
      split
      · rw [Binary64.isFinite_neg, hfinite]
      · exact hfinite
    · cases h
  · cases h

theorem isFinite_of_realValue {n : Numeral} {y : Float} (h : n.realValue = .ok (.real y)) :
    y.isFinite = true := by
  unfold realValue at h
  dsimp only at h
  split at h
  · exact isFinite_of_finite h
  · split at h
    · split at h
      · cases h
      · exact isFinite_of_finite h
    · exact isFinite_of_finite h

/-- A numeral that overflows stands for nothing. -/
theorem isFinite_of_value {n : Numeral} {y : Float} (h : n.value = .ok (.real y)) :
    y.isFinite = true := by
  unfold value at h
  split at h
  · dsimp only at h
    split at h
    · cases h
    · split at h
      · cases h
      · exact isFinite_of_realValue h
  · exact isFinite_of_realValue h

end Json.Numeral

/-! ## Arguments -/

/-- A value that the text of a call can give: no bytes, and no double that is not finite. -/
inductive Value.Bindable : Value → Prop where
  | null : Bindable .null
  | integer (n : Int64) : Bindable (.integer n)
  | real {x : Float} (h : x.isFinite = true) : Bindable (.real x)
  | text (s : String) : Bindable (.text s)
  | boolean (b : Bool) : Bindable (.boolean b)

/-- A single value, or values under names that are all different. -/
inductive Argument.Bindable : Argument → Prop where
  | scalar {v : Value} (h : v.Bindable) : Bindable (.scalar v)
  | fields {r : Record} (names : r.names.Nodup) (values : ∀ v ∈ r.values, v.Bindable) :
      Bindable (.fields r)

namespace Json.Form

section

variable {f : Form} {a : Argument} {v : Value}

theorem Converts.bindable (h : f.Converts v) : v.Bindable := by
  cases h with
  | null => exact .null
  | bool b => exact .boolean b
  | integer _ => exact .integer _
  | real h => exact .real (Numeral.isFinite_of_value h)
  | string s => exact .text s

/-- Every field of a record that members are inserted into holds the value of the last member of its
name. -/
theorem exists_converts_of_mem {members : List (String × Form)} {pairs : List (String × Value)}
    (names : pairs.map Prod.fst = members.map Prod.fst)
    (last : ∀ name f v, last? name members = some f → last? name pairs = some v → f.Converts v)
    (hv : v ∈ (Record.ofList pairs).values) : ∃ f : Form, f.Converts v := by
  rw [Record.ofList_eq_collapse] at hv
  obtain ⟨⟨name, v⟩, hlast, rfl⟩ := List.mem_map.1 hv
  rw [← lookup_eq_some_iff_of_nodup (nodup_collapse pairs), lookup_collapse] at hlast
  have hname : name ∈ members.map Prod.fst := by
    rw [← names]
    exact List.mem_map_of_mem (mem_of_last? hlast)
  obtain ⟨⟨_, g⟩, hg, rfl⟩ := List.mem_map.1 hname
  obtain ⟨f, hf⟩ := exists_last? hg
  exact ⟨f, last _ f v hf hlast⟩

theorem Denotes.bindable (h : f.Denotes a) : a.Bindable := by
  cases h with
  | scalar h => exact .scalar h.bindable
  | @fields members pairs _ names last =>
    refine .fields ?_ fun v hv => ?_
    · rw [Record.ofList_eq_collapse]
      exact nodup_collapse pairs
    · obtain ⟨g, hg⟩ := exists_converts_of_mem names last hv
      exact hg.bindable

end

end Json.Form

/-! ## Calls -/

namespace Call

section

variable {s name : List Char} {inside : Option (List Char)} {args : List Argument}

/-- The characters of a name are the letters and digits of ASCII. -/
theorem isNameChar_eq_isAlphanum (c : Char) : isNameChar c = c.isAlphanum := by
  rw [Bool.eq_iff_iff]
  delta Char.isAlphanum Char.isAlpha Char.isUpper Char.isLower Char.isDigit
  simp only [isNameChar, Char.le_def, UInt32.le_iff_toNat_le, ge_iff_le, Bool.or_eq_true,
    Bool.and_eq_true, decide_eq_true_eq]
  omega

theorem isName_of_parts? (h : parts? s = some (name, inside)) : IsName name := by
  unfold parts? at h
  dsimp only at h
  split at h
  · cases h
  · rename_i hne
    have hname : name = (Json.skipBlanks s).takeWhile isNameChar := by
      split at h
      · cases h
        rfl
      · obtain ⟨_, -, heq⟩ := Option.map_eq_some_iff.1 h
        cases heq
        rfl
      · cases h
    rw [hname]
    exact ⟨hne, fun c hc => List.mem_takeWhile_imp hc⟩

theorem bindable_of_argsOf {inside : List Char} (h : argsOf inside = .ok args) :
    ∀ a ∈ args, a.Bindable := by
  by_cases hblank : Text.allBlank inside
  · rw [argsOf, if_pos hblank] at h
    cases h
    exact List.forall_mem_nil _
  · intro a ha
    obtain ⟨fs, -, -, hargs⟩ := (argsOf_eq_ok_iff hblank).1 h
    obtain ⟨f, -, hf⟩ := List.exists_mem_of_forall₂ hargs.flip ha
    exact hf.bindable

end

/-- Whatever text a call is read from, its operation is named by ASCII letters and digits, one or
more, and each of its arguments is a value or a map of values under distinct names, with no bytes
and no double that is not finite among them. -/
theorem accepted_calls_bindable {text : String} {c : Call} (h : parse text = .ok c) :
    c.operation ≠ "" ∧ (∀ letter ∈ c.operation.toList, letter.isAlphanum = true) ∧
      ∀ a ∈ c.args, a.Bindable := by
  unfold parse parseChars at h
  dsimp only at h
  split at h
  · cases h
  · rename_i name inside hparts
    have hname := isName_of_parts? hparts
    split at h
    · cases h
    · rename_i args hargs
      cases h
      refine ⟨?_, fun letter hletter => ?_, bindable_of_argsOf hargs⟩
      · intro hempty
        exact hname.ne_nil (String.ofList_eq_empty_iff.1 hempty)
      · rw [String.toList_ofList] at hletter
        rw [← isNameChar_eq_isAlphanum]
        exact hname.chars letter hletter

/-- A double next to the largest, negative zero, and an array that is replaced. -/
theorem accepted_calls_bindable_extreme :
    let text := " updateT1ById ( 1e308 , \x7b\"a\": [[]], \"b\": -0, \"a\": null\x7d ) ;;"
    let c : Call := ⟨"updateT1ById", [.scalar (.real (Float.ofScientific 1 false 308)),
      .fields ⟨[("a", .null), ("b", .real (-0.0))]⟩]⟩
    parse text = .ok c ∧ c.operation ≠ "" ∧
      (∀ letter ∈ c.operation.toList, letter.isAlphanum = true) ∧ ∀ a ∈ c.args, a.Bindable := by
  intro text c
  have hparse : parse text = .ok c := by decide +kernel
  exact ⟨hparse, accepted_calls_bindable hparse⟩

end Call

end CrudByName
