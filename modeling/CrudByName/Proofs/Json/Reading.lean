import CrudByName.Proofs.Json.Lists
import CrudByName.Text.Blank

/-!
# Reading what the grammar writes

The grammar and the reader agree: put in front of any text that does not go on with it, a way to
write a form is read as what the form stands for, and refused if the form stands for nothing
(`Reader.value_of_writes`).

There is one lemma for each character that a value can begin with.  Values are then read by
induction on the number of containers that may be open, since this is what is lost when a list is
entered; the lists inside are no concern of the induction.
-/

namespace CrudByName

namespace Json

namespace Reader

section

variable {s t rest : List Char}

/-! ## Dispatch on the first character -/

theorem number_of_writes {n : Numeral} (h : n.Writes t) (hrest : Numeral.Ends rest) :
    outcome (number (t ++ rest)) = (Form.number? n).map fun v => (v, rest) := by
  have hscan := Numeral.scan_of_writes h hrest
  unfold number
  split
  · simp_all
  · rename_i m tail hm
    obtain ⟨rfl, rfl⟩ : m = n ∧ tail = rest := by simpa [hscan] using hm.symm
    cases hv : m.value <;> simp [Form.number?, hv, Except.toOption]

section

variable {lexemes : Lexemes} {depth : Nat}

theorem outcome_word {w : List Char} {v : Json} (h : afterWord w t = .ok rest)
    (ht : t.length < s.length) : outcome (word w v t ht) = some (v, rest) := by
  unfold word
  split <;> simp_all

theorem value_null (h : skipBlanks s = 'n' :: 'u' :: 'l' :: 'l' :: rest) :
    outcome (value lexemes depth s) = some (.null, rest) := by
  unfold value
  split <;> simp_all [outcome_word, afterWord]

theorem value_true (h : skipBlanks s = 't' :: 'r' :: 'u' :: 'e' :: rest) :
    outcome (value lexemes depth s) = some (.bool true, rest) := by
  unfold value
  split <;> simp_all [outcome_word, afterWord]

theorem value_false (h : skipBlanks s = 'f' :: 'a' :: 'l' :: 's' :: 'e' :: rest) :
    outcome (value lexemes depth s) = some (.bool false, rest) := by
  unfold value
  split <;> simp_all [outcome_word, afterWord]

theorem value_string (h : skipBlanks s = '"' :: rest) :
    outcome (value lexemes depth s) =
      (outcome (lexemes.string rest)).map fun p => (.string p.1, p.2) := by
  unfold value
  split <;> simp_all [outcome_map Json.string]
  subst_vars
  rfl

theorem value_array_zero (h : skipBlanks s = '[' :: rest) :
    outcome (value lexemes 0 s) = none := by
  unfold value
  split <;> simp_all

theorem value_array (h : skipBlanks s = '[' :: rest) :
    outcome (value lexemes (depth + 1) s) =
      (outcome (list (value lexemes depth) rest)).map fun p => (.array p.1, p.2) := by
  unfold value
  split <;> simp_all [outcome_map Json.array]
  subst_vars
  rfl

theorem value_object_zero (h : skipBlanks s = '{' :: rest) :
    outcome (value lexemes 0 s) = none := by
  unfold value
  split <;> simp_all

theorem value_object (h : skipBlanks s = '{' :: rest) :
    outcome (value lexemes (depth + 1) s) =
      (outcome (object lexemes.string (fun _ => value lexemes depth) rest)).map
        fun p => (.object p.1, p.2) := by
  unfold value
  split <;> simp_all [outcome_map Json.object]
  subst_vars
  rfl

/-- A digit or a sign begins none of the other values. -/
theorem ne_of_number {c : Char} (hc : c = '-' ∨ isDigit c = true) :
    'n' ≠ c ∧ 't' ≠ c ∧ 'f' ≠ c ∧ '"' ≠ c ∧ '[' ≠ c ∧ '{' ≠ c := by
  have key : ∀ d : Char, isDigit d = false → d ≠ '-' → d ≠ c := by
    rintro d hd hminus rfl
    rcases hc with hc | hc
    · exact hminus hc
    · simp_all
  exact ⟨key _ (by decide) (by decide), key _ (by decide) (by decide),
    key _ (by decide) (by decide), key _ (by decide) (by decide), key _ (by decide) (by decide),
    key _ (by decide) (by decide)⟩

theorem value_number {c : Char} (hc : c = '-' ∨ isDigit c = true)
    (h : skipBlanks s = c :: rest) :
    outcome (value lexemes depth s) =
      (outcome (lexemes.number (c :: rest))).map fun p => (.number p.1, p.2) := by
  obtain ⟨hnull, htrue, hfalse, hstring, harray, hobject⟩ := ne_of_number hc
  unfold value
  split <;> simp_all [outcome_map Json.number]
  obtain ⟨rfl, rfl⟩ := h
  rfl

end

/-! ## What begins a value -/

theorem exists_cons_of_writes {n : Numeral} (h : n.Writes t) :
    ∃ c tail, t = c :: tail ∧ (c = '-' ∨ isDigit c = true) := by
  cases h with
  | @mk negative whole _ _ _ _ hwhole _ _ =>
    cases negative with
    | true => exact ⟨'-', _, rfl, .inl rfl⟩
    | false =>
      obtain ⟨c, tail, rfl, hc⟩ := Numeral.exists_cons_of_isRun hwhole.toIsRun
      exact ⟨c, _, rfl, .inr hc⟩

theorem not_isBlank_of_isDigit {c : Char} (h : isDigit c = true) : Text.isBlank c = false := by
  have hle : 48 ≤ c.toNat ∧ c.toNat ≤ 57 := by
    simpa [isDigit, Char.le_def, UInt32.le_iff_toNat_le] using h
  exact Text.not_isBlank_of_printed (by omega) (by omega)

/-- The first character of a value is not blank, in the wide sense of Unicode, and closes
nothing. -/
theorem exists_cons_of_form {f : Form} (h : f.Writes t) :
    ∃ c tail, t = c :: tail ∧ Text.isBlank c = false ∧ c ≠ ']' := by
  cases h with
  | number h =>
    obtain ⟨c, tail, rfl, rfl | hc⟩ := exists_cons_of_writes h
    · exact ⟨'-', tail, rfl, by decide, by decide⟩
    · exact ⟨c, tail, rfl, not_isBlank_of_isDigit hc, Numeral.ne_of_isDigit hc (by decide)⟩
  | _ => exact ⟨_, _, rfl, by decide, by decide⟩

/-- The blanks of JSON are blank. -/
theorem isBlank_of_isBlank {c : Char} (h : isBlank c = true) : Text.isBlank c = true := by
  simp only [isBlank, Bool.or_eq_true, beq_iff_eq] at h
  rcases h with ((rfl | rfl) | rfl) | rfl <;> decide

theorem not_isBlank_of_not_isBlank {c : Char} (h : Text.isBlank c = false) :
    isBlank c = false := by
  by_contra hne
  exact absurd (isBlank_of_isBlank (by simpa using hne)) (by simp [h])

theorem opens_of_writes {f : Form} (h : f.Writes t) : Opens t := by
  obtain ⟨c, tail, rfl, hblank, hc⟩ := exists_cons_of_form h
  exact ⟨c, tail, rfl, not_isBlank_of_not_isBlank hblank, hc⟩

/-! ## Every value -/

/-- A value is read as what its form stands for. -/
theorem value_of_writes (depth : Nat) :
    Interprets (value .exact depth) Form.Writes (Form.json? depth) := by
  intro f t w rest h hw hrest
  have hskip : skipBlanks (w ++ (t ++ rest)) = t ++ rest := by
    obtain ⟨c, tail, rfl, hblank, _⟩ := opens_of_writes h
    exact skipBlanks_append_cons hw hblank _
  -- A list costs a container, so that its parts are left to a smaller depth.  Nothing else does.
  cases h with
  | null =>
    rw [value_null hskip, Form.json?]
    rfl
  | true =>
    rw [value_true hskip, Form.json?]
    rfl
  | false =>
    rw [value_false hskip, Form.json?]
    rfl
  | @number n _ h =>
    obtain ⟨c, tail, rfl, hc⟩ := exists_cons_of_writes h
    have hnumber : outcome (Lexemes.exact.number (c :: (tail ++ rest))) = _ :=
      number_of_writes h hrest
    rw [value_number hc (hskip.trans List.cons_append), hnumber, Form.json?]
    cases Form.number? n <;> rfl
  | @string s t h =>
    have htext : '"' :: (t ++ ['"']) ++ rest = '"' :: (t ++ '"' :: rest) := by
      simp
    have hstring : outcome (Lexemes.exact.string (t ++ '"' :: rest)) = _ :=
      string_of_writes h rest
    rw [value_string (hskip.trans htext), hstring, Form.json?]
    rfl
  | @array items t h =>
    have htext : '[' :: (t ++ [']']) ++ rest = '[' :: (t ++ ']' :: rest) := by
      simp
    cases depth with
    | zero => rw [value_array_zero (hskip.trans htext), Form.json?, Option.map_none]
    | succ depth =>
      have hlist := list_of_listed (fun _ _ => opens_of_writes) (value_of_writes depth) h rest
      rw [value_array (hskip.trans htext), hlist, Form.json?]
      cases items.mapM (Form.json? depth) <;> rfl
  | @object members t h =>
    have htext : '{' :: (t ++ ['}']) ++ rest = '{' :: (t ++ '}' :: rest) := by
      simp
    cases depth with
    | zero => rw [value_object_zero (hskip.trans htext), Form.json?, Option.map_none]
    | succ depth =>
      have hobject := object_of_listed (value_of_writes depth) h rest
      have hexact : outcome (object Lexemes.exact.string (fun _ => value .exact depth)
          (t ++ '}' :: rest)) = _ := hobject
      rw [value_object (hskip.trans htext), hexact, Form.json?]
      cases members.mapM fun (m : String × Form) =>
        (Form.json? depth m.2).map fun j => (m.1, j) <;> rfl
termination_by depth

end

end Reader

/-- A text that is one value and nothing else. -/
theorem read_of_writes {f : Form} {t : List Char} (h : f.Writes t) :
    (read t).toOption = f.json? maxDepth := by
  have hvalue : Reader.outcome (Reader.value .exact maxDepth t) =
      (f.json? maxDepth).map fun j => (j, []) := by
    have hfirst := (Reader.value_of_writes maxDepth).first h Numeral.ends_nil
    rwa [List.append_nil] at hfirst
  cases hj : f.json? maxDepth with
  | none =>
    rw [hj] at hvalue
    obtain ⟨e, he⟩ := Reader.exists_error_of_outcome hvalue
    simp [read, Reader.whole, he, Except.mapError, Except.toOption]
  | some j =>
    rw [hj] at hvalue
    rw [read, Reader.whole_of_outcome hvalue rfl]
    rfl

end Json

end CrudByName
