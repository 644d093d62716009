import CrudByName.Call
import CrudByName.Proofs.Json.Reading
import CrudByName.Proofs.Passes
import Mathlib.Data.List.DropRight

/-!
# Reading the text of a call

`Call.Writes` relates a name and the forms of its arguments to the texts of the call: blanks may
stand around it, after the name and after the closing parenthesis, and semicolons at its end.  The
arguments are written in any way that the grammar of JSON allows, and may hold any characters.

The parser does not look for the parenthesis that belongs to the opening one.  It cuts margins off
until the last character of the text is a closing parenthesis (`bare_of_margins`), so that whatever
stands inside is never looked at (`parts?_of_margins`), and reads the inside between two brackets.
What it gives is put together from what every form stands for as an argument
(`parse_of_writes`).
-/

namespace CrudByName

/-! ## Trimming -/

namespace Text

section

variable {p : Char → Bool} {s w : List Char} {c : Char}

/-- To drop from the end is to drop from the front of the reversed text. -/
theorem dropEndWhile_eq (p : Char → Bool) (s : List Char) : dropEndWhile p s = s.rdropWhile p :=
  rfl

theorem dropEndWhile_concat_append (hc : p c = false) (s : List Char) (hw : w.all p) :
    dropEndWhile p (s ++ [c] ++ w) = s ++ [c] := by
  rw [dropEndWhile_append hw, dropEndWhile_eq, List.rdropWhile_concat_neg _ _ _ (by simp [hc])]

/-- A margin of other characters is not dropped. -/
theorem dropEndWhile_append_of_not (hs : dropEndWhile p s = s) (hw : ∀ c ∈ w, p c = false) :
    dropEndWhile p (s ++ w) = s ++ w := by
  rcases List.eq_nil_or_concat w with rfl | ⟨v, c, rfl⟩
  · rw [List.append_nil, hs]
  · rw [List.concat_eq_append, ← List.append_assoc]
    exact List.rdropWhile_concat_neg _ _ _ (by simp [hw c (by simp)])

theorem trimStart_append_cons (hw : allBlank w) (hc : isBlank c = false) (s : List Char) :
    trimStart (w ++ c :: s) = c :: s := by
  rw [trimStart_append_blank hw]
  simp [trimStart, hc]

end

end Text

namespace Call

/-! ## The margins of a call -/

/-- A run of letters and digits, which is what an operation name has to be. -/
structure IsName (name : List Char) : Prop where
  ne_nil : name ≠ []
  chars : ∀ c ∈ name, isNameChar c = true

instance (name : List Char) : Decidable (IsName name) :=
  decidable_of_iff (name ≠ [] ∧ name.all isNameChar)
    ⟨fun h => ⟨h.1, List.all_eq_true.1 h.2⟩, fun h => ⟨h.ne_nil, List.all_eq_true.2 h.chars⟩⟩

theorem not_isBlank_of_isNameChar {c : Char} (h : isNameChar c = true) :
    Text.isBlank c = false := by
  have hle : (48 ≤ c.toNat ∧ c.toNat ≤ 57) ∨ (97 ≤ c.toNat ∧ c.toNat ≤ 122) ∨
      (65 ≤ c.toNat ∧ c.toNat ≤ 90) := by
    simpa [isNameChar, Char.le_def, UInt32.le_iff_toNat_le, or_assoc] using h
  exact Text.not_isBlank_of_printed (by omega) (by omega)

theorem IsName.exists_cons {name : List Char} (h : IsName name) :
    ∃ c tail, name = c :: tail ∧ Text.isBlank c = false := by
  obtain ⟨hne, hchars⟩ := h
  cases name with
  | nil => exact absurd rfl hne
  | cons c tail => exact ⟨c, tail, rfl, not_isBlank_of_isNameChar (hchars c List.mem_cons_self)⟩

theorem isBlank_ne_semicolon {c : Char} (h : Text.isBlank c = true) : (c == ';') = false := by
  rw [beq_eq_false_iff_ne]
  rintro rfl
  exact absurd h (by decide)

section

variable {name u v inside z semicolons y : List Char}

/-- Blanks and semicolons are cut off.  Blanks are left behind the parenthesis if semicolons stood
behind them. -/
theorem bare_of_margins {c : Char} (hc : Text.isBlank c = false) (s : List Char)
    (hu : Text.allBlank u) (hz : Text.allBlank z) (hsemicolons : semicolons.all (· == ';'))
    (hy : Text.allBlank y) :
    ∃ z', Text.allBlank z' ∧
      bare (u ++ c :: (s ++ [')'] ++ z ++ semicolons ++ y)) = c :: (s ++ [')'] ++ z') := by
  have htrim : Text.trim (u ++ c :: (s ++ [')'] ++ z ++ semicolons ++ y)) =
      Text.trimEnd (c :: s ++ [')'] ++ z ++ semicolons) := by
    rw [Text.trim, Text.trimStart_append_cons hu hc,
      ← Text.trimEnd_append_blank hy (c :: s ++ [')'] ++ z ++ semicolons)]
    simp only [List.cons_append]
  -- The text is trimmed before the semicolons are dropped, and not once more after that: the blanks
  -- behind the parenthesis go only if nothing stands behind them.
  rcases List.eq_nil_or_concat semicolons with rfl | ⟨more, d, rfl⟩
  · refine ⟨[], rfl, ?_⟩
    have hend : Text.trimEnd (c :: s ++ [')'] ++ z ++ []) = c :: s ++ [')'] := by
      rw [List.append_nil]
      exact Text.dropEndWhile_concat_append (by decide) (c :: s) hz
    rw [bare, htrim, hend, Text.dropEndWhile_eq, List.rdropWhile_concat_neg _ _ _ (by decide)]
    simp
  · refine ⟨z, hz, ?_⟩
    obtain rfl : d = ';' := by simpa using List.all_eq_true.1 hsemicolons d (by simp)
    have hend : Text.trimEnd (c :: s ++ [')'] ++ z ++ more.concat ';') =
        c :: s ++ [')'] ++ z ++ more.concat ';' := by
      rw [List.concat_eq_append, ← List.append_assoc]
      exact List.rdropWhile_concat_neg _ _ _ (by decide)
    have hmargin : Text.dropEndWhile (· == ';') (c :: s ++ [')'] ++ z) = c :: s ++ [')'] ++ z :=
      Text.dropEndWhile_append_of_not (List.rdropWhile_concat_neg _ _ _ (by decide)) fun d hd =>
        isBlank_ne_semicolon (List.all_eq_true.1 hz d hd)
    rw [bare, htrim, hend, Text.dropEndWhile_append hsemicolons, hmargin]
    simp

theorem beforeParenthesis?_of_blank (inside : List Char) (hz : Text.allBlank z) :
    beforeParenthesis? (inside ++ [')'] ++ z) = some inside := by
  have hend : Text.trimEnd (inside ++ [')'] ++ z) = inside ++ [')'] :=
    Text.dropEndWhile_concat_append (by decide) inside hz
  rw [beforeParenthesis?, hend]
  simp

/-- The name, and everything up to the last parenthesis. -/
theorem parts?_of_margins (hname : IsName name) (hv : Json.Blanks v) (hz : Text.allBlank z) :
    parts? (name ++ (v ++ '(' :: (inside ++ [')'] ++ z))) = some (name, some inside) := by
  have hskip : Json.skipBlanks (name ++ (v ++ '(' :: (inside ++ [')'] ++ z))) =
      name ++ (v ++ '(' :: (inside ++ [')'] ++ z)) := by
    obtain ⟨c, tail, rfl, hc⟩ := hname.exists_cons
    exact Json.Reader.skipBlanks_cons (Json.Reader.not_isBlank_of_not_isBlank hc) _
  have hblank : ∀ b ∈ v, isNameChar b = false := fun b hb => by
    by_contra hchar
    have hnot := not_isBlank_of_isNameChar (by simpa using hchar)
    exact absurd (Json.Reader.isBlank_of_isBlank (hv b hb)) (by simp [hnot])
  have hstops := Text.stops_append_cons hblank (c := '(') (by decide) (inside ++ [')'] ++ z)
  rw [parts?, hskip]
  simp only [Text.takeWhile_append_of_stops hname.chars hstops,
    Text.dropWhile_append_of_stops hname.chars hstops, if_neg hname.ne_nil,
    Json.Reader.skipBlanks_append_cons hv (c := '(') (by decide),
    beforeParenthesis?_of_blank inside hz, Option.map_some]

end

end Call

/-! ## The arguments -/

/-- What a form stands for as an argument.  The list of the arguments is one more container around
it. -/
def Json.Form.argument? (f : Json.Form) : Option Argument :=
  (f.json? (Json.maxDepth - 1)).bind fun j => (Argument.ofJson j).toOption

namespace Call

section

variable {inside : List Char} {fs : List Json.Form}

theorem not_allBlank_of_separated (h : Json.Separated Json.Form.Writes fs inside) :
    ∃ c ∈ inside, Text.isBlank c = false := by
  cases h with
  | last h _ =>
    obtain ⟨c, tail, rfl, hc, _⟩ := Json.Reader.exists_cons_of_form h
    exact ⟨c, by simp, hc⟩
  | cons h _ _ _ =>
    obtain ⟨c, tail, rfl, hc, _⟩ := Json.Reader.exists_cons_of_form h
    exact ⟨c, by simp, hc⟩

theorem argsOf_of_listed (h : Json.Listed Json.Form.Writes fs inside) :
    (argsOf inside).toOption = fs.mapM Json.Form.argument? := by
  have hread := Json.read_of_writes (.array h)
  cases h with
  | none hw =>
    have hblank : Text.allBlank inside := List.all_eq_true.2 fun c hc =>
      Json.Reader.isBlank_of_isBlank (hw c hc)
    rw [argsOf, if_pos hblank]
    rfl
  | @some _ w t hw h =>
    obtain ⟨c, hmem, hc⟩ := not_allBlank_of_separated h
    have hblank : ¬ Text.allBlank (w ++ t) := fun hall => by
      have := List.all_eq_true.1 hall c (by simp [hmem])
      simp [hc] at this
    have hpasses : fs.mapM Json.Form.argument? =
        (fs.mapM (Json.Form.json? (Json.maxDepth - 1))).bind fun js =>
          (js.mapM Argument.ofJson).toOption :=
      (List.bind_mapM_toOption _ _ fs).symm
    have hjson : Json.Form.json? Json.maxDepth (.array fs) =
        (fs.mapM (Json.Form.json? (Json.maxDepth - 1))).map .array := by
      rw [Json.maxDepth, Json.Form.json?]
    rw [argsOf, if_neg hblank, hpasses]
    rw [hjson, ← List.cons_append] at hread
    cases hjs : fs.mapM (Json.Form.json? (Json.maxDepth - 1)) with
    | none =>
      rw [hjs] at hread
      obtain ⟨fault, hfault⟩ := Except.exists_error_of_toOption hread
      rw [hfault]
      rfl
    | some js =>
      rw [hjs] at hread
      rw [Except.eq_ok_of_toOption hread]
      rfl

end

/-! ## The whole text -/

/-- The ways to write a call with its arguments in parentheses. -/
inductive Writes (name : String) (fs : List Json.Form) : List Char → Prop where
  | mk {u v inside z semicolons y : List Char} (hname : IsName name.toList)
      (hinside : Json.Listed Json.Form.Writes fs inside) (hu : Text.allBlank u)
      (hv : Json.Blanks v) (hz : Text.allBlank z) (hsemicolons : semicolons.all (· == ';'))
      (hy : Text.allBlank y) :
      Writes name fs (u ++ (name.toList ++
        (v ++ '(' :: (inside ++ ')' :: (z ++ (semicolons ++ y))))))

theorem writes_of_listed {name : String} {fs : List Json.Form} {inside : List Char}
    (hname : IsName name.toList) (h : Json.Listed Json.Form.Writes fs inside) :
    Writes name fs (name.toList ++ '(' :: (inside ++ [')'])) := by
  have hwrites := Writes.mk (u := []) (v := []) (z := []) (y := []) hname h rfl Json.blanks_nil rfl
    (List.all_nil (f := (· == ';'))) rfl
  simpa using hwrites

/-- Only the text between the parentheses is read as arguments. -/
theorem parseChars_of_margins {name : String} {u v z semicolons y : List Char} (inside : List Char)
    (hname : IsName name.toList) (hu : Text.allBlank u) (hv : Json.Blanks v)
    (hz : Text.allBlank z) (hsemicolons : semicolons.all (· == ';')) (hy : Text.allBlank y) :
    parseChars (u ++ (name.toList ++
        (v ++ '(' :: (inside ++ ')' :: (z ++ (semicolons ++ y)))))) =
      (argsOf inside).map fun args => ⟨name, args⟩ := by
  obtain ⟨c, tail, hcons, hc⟩ := hname.exists_cons
  obtain ⟨z', hz', hbare⟩ :=
    bare_of_margins hc (tail ++ (v ++ '(' :: inside)) hu hz hsemicolons hy
  have hcore : bare (u ++ (name.toList ++
      (v ++ '(' :: (inside ++ ')' :: (z ++ (semicolons ++ y)))))) =
        name.toList ++ (v ++ '(' :: (inside ++ [')'] ++ z')) := by
    rw [hcons]
    simpa using hbare
  rw [parseChars, hcore, parts?_of_margins hname hv hz']
  dsimp only [Option.getD_some]
  cases argsOf inside <;> simp [Except.map]

theorem parseChars_of_writes {name : String} {fs : List Json.Form} {s : List Char}
    (h : Writes name fs s) :
    (parseChars s).toOption = (fs.mapM Json.Form.argument?).map fun args => ⟨name, args⟩ := by
  cases h with
  | @mk u v inside z semicolons y hname hinside hu hv hz hsemicolons hy =>
    rw [parseChars_of_margins inside hname hu hv hz hsemicolons hy, ← argsOf_of_listed hinside]
    cases argsOf inside <;> rfl

/-- A call is read as its name and what its forms stand for. -/
theorem parse_of_writes {name text : String} {fs : List Json.Form}
    (h : Writes name fs text.toList) :
    (parse text).toOption = (fs.mapM Json.Form.argument?).map fun args => ⟨name, args⟩ :=
  parseChars_of_writes h

/-! ## Refusals -/

/-- Fails in no other way than with a faulty argument. -/
def Refuses (x : Except CrudError α) : Prop :=
  ∀ e, x = .error e → ∃ fault, e = .invalidArgument fault

theorem refuses_ofJson (j : Json) : Refuses (Value.ofJson j) := by
  intro e h
  unfold Value.ofJson at h
  split at h
  any_goals cases h
  · split at h <;> cases h
    exact ⟨_, rfl⟩
  · exact ⟨_, rfl⟩
  · exact ⟨_, rfl⟩

theorem refuses_argument (j : Json) : Refuses (Argument.ofJson j) := by
  intro e h
  unfold Argument.ofJson at h
  split at h
  · rcases Except.bind_eq_error_iff.1 h with hfields | ⟨fields, _, h⟩
    · obtain ⟨m, _, hm⟩ := List.exists_of_mapM_eq_error hfields
      exact refuses_ofJson m.2 e (Except.map_eq_error_iff.1 hm)
    · cases h
  · exact refuses_ofJson j e (Except.map_eq_error_iff.1 h)

theorem refuses_argsOf (inside : List Char) : Refuses (argsOf inside) := by
  intro e h
  unfold argsOf at h
  split at h
  · cases h
  · split at h
    · cases h
      exact ⟨_, rfl⟩
    · obtain ⟨j, _, hj⟩ := List.exists_of_mapM_eq_error h
      exact refuses_argument j e hj
    · exact refuses_argument _ e (Except.map_eq_error_iff.1 h)

/-- A text that is no call is refused as a faulty argument. -/
theorem refuses_parse (text : String) : Refuses (parse text) := by
  intro e h
  unfold parse parseChars at h
  dsimp only at h
  split at h
  · cases h
    exact ⟨_, rfl⟩
  · split at h
    · cases h
      exact refuses_argsOf _ _ ‹_›
    · cases h

end Call

end CrudByName
