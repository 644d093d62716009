import CrudByName.Proofs.Call.Arguments

/-!
# Integers that do not fit

A call may hold an integer that no sixty-four bits can hold, as an argument or in a field.  What
becomes of it depends on its size.  From `2 ^ 63` on, and below `2 ^ 64`, the JSON reader keeps it
an integer, which the conversion of values then refuses.  Beyond these bounds, and below
`-2 ^ 63`, the JSON reader makes a double of it, if there is a finite one, and the conversion of
values cannot tell it from a number that was written as a double.

`integers_beyond_range` says exactly when every call with such an integer is refused, and that in a
call that is not, a double is bound in its place, and never an integer.
-/

namespace CrudByName

open Json (Form Numeral)

/-! ## Integers as they are written -/

namespace Json.Numeral

/-- Digits alone, with a minus sign or without. -/
structure IsInteger (n : Numeral) : Prop where
  whole : IsWhole n.whole
  fraction : n.fraction = []
  exponent : n.exponent = none

instance (n : Numeral) : Decidable n.IsInteger :=
  decidable_of_iff (IsWhole n.whole ∧ n.fraction = [] ∧ n.exponent = none)
    ⟨fun h => ⟨h.1, h.2.1, h.2.2⟩, fun h => ⟨h.whole, h.fraction, h.exponent⟩⟩

/-- The integer that the digits stand for. -/
def integer (n : Numeral) : Int :=
  if n.negative then -Decimal.ofDigits n.whole else Decimal.ofDigits n.whole

section

variable {n : Numeral}

theorem IsInteger.exists_writes (h : n.IsInteger) : ∃ t, n.Writes t := by
  obtain ⟨negative, whole, fraction, exponent⟩ := n
  obtain ⟨hwhole, rfl, rfl⟩ := h
  exact ⟨_, .mk negative hwhole .none .none⟩

theorem finite_ne_integer (negative : Bool) (x : Option Float) (k : Int) :
    finite negative x ≠ .ok (.integer k) := by
  unfold finite
  split
  · split <;> simp
  · simp

theorem realValue_ne_integer (n : Numeral) (k : Int) : n.realValue ≠ .ok (.integer k) := by
  unfold realValue
  dsimp only
  split
  · exact finite_ne_integer _ _ _
  · split
    · split
      · simp
      · exact finite_ne_integer _ _ _
    · exact finite_ne_integer _ _ _

/-- An integer that does not fit stays one as long as it fits without a sign. -/
theorem value_of_isInteger (h : n.IsInteger) (hout : n.integer < -2 ^ 63 ∨ 2 ^ 63 ≤ n.integer) :
    (2 ^ 63 ≤ n.integer ∧ n.integer < 2 ^ 64 ∧ n.value = .ok (.integer n.integer)) ∨
      ((n.integer < -2 ^ 63 ∨ 2 ^ 64 ≤ n.integer) ∧ n.value = n.realValue) := by
  rw [value, if_pos ⟨h.fraction, h.exponent⟩]
  dsimp only
  cases hnegative : n.negative with
  | true =>
    have hinteger : n.integer = -Decimal.ofDigits n.whole := by
      rw [integer, hnegative, if_pos rfl]
    rw [if_neg (by simp), if_neg (by rintro ⟨-, -, hle⟩; omega)]
    exact .inr ⟨by omega, rfl⟩
  | false =>
    have hinteger : n.integer = Decimal.ofDigits n.whole := by
      rw [integer, hnegative]
      rfl
    by_cases hlarge : Decimal.ofDigits n.whole ≤ largest
    · rw [if_pos ⟨by simp, hlarge⟩, ← hinteger]
      simp only [largest] at hlarge
      exact .inl ⟨by omega, by omega, rfl⟩
    · rw [if_neg (by simp [hlarge]), if_neg (by simp)]
      simp only [largest] at hlarge
      exact .inr ⟨by omega, rfl⟩

end

end Json.Numeral

/-! ## Places in a call -/

/-- The numeral is an argument, or the value of a field whose name stands once in its object. -/
inductive Json.Form.Holds (n : Numeral) : Form → Option String → Prop where
  | argument : Holds n (.number n) none
  | field {name : String} {members : List (String × Form)} (h : (name, .number n) ∈ members)
      (once : (members.map Prod.fst).count name = 1) : Holds n (.object members) (some name)

/-- The value that is bound for an argument, or for one of its fields. -/
def Argument.at? : Argument → Option String → Option Value
  | .scalar v, none => some v
  | .fields r, some name => r.get? name
  | _, _ => none

namespace Call

section

variable {n : Numeral} {f : Form} {field : Option String} {a : Argument}

/-- A field whose name stands once is bound to what its value converts to. -/
theorem get?_of_members {members : List (String × Json)} {name : String} {j : Json}
    (h : (name, j) ∈ members) (once : (members.map Prod.fst).count name = 1)
    (ha : Argument.ofJson (.object members) = .ok a) :
    ∃ v, Value.ofJson j = .ok v ∧ a.at? (some name) = some v := by
  cases a with
  | scalar v => cases Argument.ofJson_eq_scalar_iff.1 ha
  | fields r =>
    obtain ⟨ms, hms, hpairs⟩ := Argument.ofJson_eq_fields_iff.1 ha
    cases hms
    exact Json.lookup_of_forall₂ hpairs
      (Json.lookup_collapse_of_count h once)

/-- What is bound in a place is what the numeral there stands for. -/
theorem at?_of_holds (h : f.Holds n field) (ha : f.argument? = some a) :
    ∃ x v, n.value = .ok x ∧ Value.ofJson (.number x) = .ok v ∧ a.at? field = some v := by
  obtain ⟨j, hj, hargument⟩ := Form.argument?_eq_some_iff_ofJson.1 ha
  cases h with
  | argument =>
    rw [Form.json?] at hj
    obtain ⟨x, hx, rfl⟩ := Option.map_eq_some_iff.1 hj
    obtain ⟨v, hv, rfl⟩ := Except.map_eq_ok_iff.1 hargument
    exact ⟨x, v, Except.eq_ok_of_toOption hx, hv, rfl⟩
  | @field name members h once =>
    obtain ⟨d, js, -, rfl, hpairs⟩ := Form.forall₂_of_json?_object hj
    obtain ⟨⟨_, k⟩, hmem, rfl, hk⟩ := List.exists_mem_of_forall₂ hpairs h
    rw [Form.json?] at hk
    obtain ⟨x, hx, rfl⟩ := Option.map_eq_some_iff.1 hk
    have hnames := Json.names_eq_of_forall₂ hpairs
    obtain ⟨v, hv, hat⟩ := get?_of_members hmem (hnames ▸ once) hargument
    exact ⟨x, v, Except.eq_ok_of_toOption hx, hv, hat⟩

/-- An integer that does not fit is bound as a double, if it is bound at all. -/
theorem at?_of_integer (hn : n.IsInteger) (hout : n.integer < -2 ^ 63 ∨ 2 ^ 63 ≤ n.integer)
    (h : f.Holds n field) (ha : f.argument? = some a) :
    (n.integer < -2 ^ 63 ∨ 2 ^ 64 ≤ n.integer) ∧
      ∃ x, n.value = .ok (.real x) ∧ a.at? field = some (.real x) := by
  obtain ⟨x, v, hvalue, hv, hat⟩ := at?_of_holds h ha
  rcases Numeral.value_of_isInteger hn hout with ⟨hlow, hhigh, hinteger⟩ | ⟨hbeyond, hreal⟩
  · obtain rfl : x = .integer n.integer := by simpa [hinteger] using hvalue.symm
    have hrange : int64? n.integer = none := by
      rw [int64?, if_neg (by omega)]
    simp [Value.ofJson, hrange] at hv
  · refine ⟨hbeyond, ?_⟩
    cases x with
    | integer k => exact absurd (hreal.symm.trans hvalue) (Numeral.realValue_ne_integer n k)
    | real x =>
      cases hv
      exact ⟨x, hvalue, hat⟩

/-- A call is only accepted with a double in the place of an integer that does not fit. -/
theorem at?_of_parse (hn : n.IsInteger) (hout : n.integer < -2 ^ 63 ∨ 2 ^ 63 ≤ n.integer)
    {name text : String} {fs : List Form} {i : Nat} {c : Call}
    (hwrites : Writes name fs text.toList) (hf : fs[i]? = some f) (h : f.Holds n field)
    (hparse : parse text = .ok c) :
    (n.integer < -2 ^ 63 ∨ 2 ^ 64 ≤ n.integer) ∧
      ∃ a x, c.args[i]? = some a ∧ a.at? field = some (.real x) ∧ n.value = .ok (.real x) := by
  have hcall := parse_of_writes hwrites
  rw [hparse] at hcall
  obtain ⟨args, hargs, rfl⟩ := Option.map_eq_some_iff.1 hcall.symm
  obtain ⟨a, ha, hargument⟩ :=
    List.exists_getElem?_of_forall₂ (List.mapM_eq_some_iff.1 hargs) hf
  obtain ⟨hbeyond, x, hvalue, hat⟩ := at?_of_integer hn hout h hargument
  exact ⟨hbeyond, a, x, ha, hat, hvalue⟩

/-- Every call that holds the numeral is refused, in whatever place it stands. -/
def RefusedEverywhere (n : Numeral) : Prop :=
  ∀ (name text : String) (fs : List Form) (f : Form) (field : Option String),
    Writes name fs text.toList → f ∈ fs → f.Holds n field →
      ∃ fault, parse text = .error (.invalidArgument fault)

/-- A call with no other argument is accepted if there is a double for its integer. -/
theorem not_refusedEverywhere (hn : n.IsInteger) {x : Float} (hvalue : n.value = .ok (.real x)) :
    ¬ RefusedEverywhere n := by
  intro hrefused
  obtain ⟨t, ht⟩ := hn.exists_writes
  have hlisted : Json.Listed Form.Writes [.number n] ([] ++ (t ++ [])) :=
    .some Json.blanks_nil (.last (.number ht) Json.blanks_nil)
  have hname : IsName "f".toList := by decide
  obtain ⟨text, htext⟩ : ∃ text : String, Writes "f" [.number n] text.toList :=
    ⟨String.ofList _, by rw [String.toList_ofList]; exact writes_of_listed hname hlisted⟩
  obtain ⟨fault, hfault⟩ := hrefused "f" text _ _ _ htext (List.mem_singleton.2 rfl) .argument
  have hargument : (Form.number n).argument? = some (.scalar (.real x)) := by
    rw [Form.argument?, Form.json?, Form.number?, hvalue]
    rfl
  have hcall := parse_of_writes htext
  rw [hfault, List.mapM_cons, hargument] at hcall
  cases hcall

/-- A call with an integer that does not fit is always refused if the integer would fit without a
sign, and if there is no finite double for it.  Otherwise a call may be accepted, and then a double
is bound in the place of the integer. -/
theorem integers_beyond_range {n : Numeral} (hn : n.IsInteger)
    (hout : n.integer < -2 ^ 63 ∨ 2 ^ 63 ≤ n.integer) :
    (RefusedEverywhere n ↔
      (2 ^ 63 ≤ n.integer ∧ n.integer < 2 ^ 64) ∨ ∃ unread, n.value = .error unread) ∧
    ∀ (name text : String) (fs : List Form) (i : Nat) (f : Form) (field : Option String) (c : Call),
      Writes name fs text.toList → fs[i]? = some f → f.Holds n field → parse text = .ok c →
        ∃ a x, c.args[i]? = some a ∧ a.at? field = some (.real x) ∧ n.value = .ok (.real x) := by
  refine ⟨⟨fun hrefused => ?_, fun hcond => ?_⟩, ?_⟩
  · by_contra hcond
    obtain ⟨hrange, hfinite⟩ := not_or.1 hcond
    cases hvalue : n.value with
    | error unread => exact hfinite ⟨unread, hvalue⟩
    | ok x =>
      cases x with
      | real x => exact not_refusedEverywhere hn hvalue hrefused
      | integer k =>
        rcases Numeral.value_of_isInteger hn hout with ⟨hlow, hhigh, -⟩ | ⟨-, hreal⟩
        · exact hrange ⟨hlow, hhigh⟩
        · exact Numeral.realValue_ne_integer n k (hreal.symm.trans hvalue)
  · intro name text fs f field hwrites hmem h
    obtain ⟨i, hi⟩ := List.mem_iff_getElem?.1 hmem
    cases hparse : parse text with
    | error e =>
      obtain ⟨fault, rfl⟩ := refuses_parse text e hparse
      exact ⟨fault, rfl⟩
    | ok c =>
      obtain ⟨hbeyond, a, x, -, -, hvalue⟩ := at?_of_parse hn hout hwrites hi h hparse
      rcases hcond with ⟨hlow, hhigh⟩ | ⟨unread, herror⟩
      · omega
      · rw [herror] at hvalue
        cases hvalue
  · intro name text fs i f field c hwrites hi h hparse
    exact (at?_of_parse hn hout hwrites hi h hparse).2

/-- The greatest integer that fits without a sign. -/
theorem integers_beyond_range_greatest :
    let n : Numeral := ⟨false, "18446744073709551615".toList, [], none⟩
    (n.IsInteger ∧ 2 ^ 63 ≤ n.integer) ∧ RefusedEverywhere n := by
  intro n
  have hn : n.IsInteger := by decide
  have hlow : 2 ^ 63 ≤ n.integer := by decide
  have hhigh : n.integer < 2 ^ 64 := by decide
  exact ⟨⟨hn, hlow⟩, (integers_beyond_range hn (.inr hlow)).1.2 (.inl ⟨hlow, hhigh⟩)⟩

/-- The next integer is bound as a double. -/
theorem integer_bound_as_real :
    let n : Numeral := ⟨false, "18446744073709551616".toList, [], none⟩
    (n.IsInteger ∧ 2 ^ 63 ≤ n.integer) ∧
      parse "getUsersById(18446744073709551616)" =
        .ok ⟨"getUsersById", [.scalar (.real (Float.ofBits 0x43F0000000000000))]⟩ := by
  intro n
  have hn : n.IsInteger := by decide
  have hlow : 2 ^ 63 ≤ n.integer := by decide
  exact ⟨⟨hn, hlow⟩, by decide +kernel⟩

end

end Call

end CrudByName
