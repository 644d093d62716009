import CrudByName.Proofs.Call.Reading

/-!
# The margins of a call

Blanks may be put around a text, and semicolons behind it, before it is parsed: the outcome is the
same (`margins_do_not_matter`).  This is said of any text whose last character is neither a blank
nor a semicolon, whether it is a call or not.  A text that is no call is quoted in the error, so it
is not enough that a margin is skipped somewhere on the way: the text that is quoted has to be the
same one.

It is, since the parser looks at nothing but what `bare` leaves, and of such a text `bare` leaves
everything from its first character on that is not blank (`bare_eq_trimStart`).  The blanks of the
margins are those of Unicode, of which the parts of a call, further inside, know only four.
-/

namespace CrudByName

namespace Text

section

variable {s u w : List Char}

theorem getLast?_of_trimStart {c : Char} (h : (trimStart s).getLast? = some c) :
    s.getLast? = some c := by
  have hsplit : s.takeWhile isBlank ++ trimStart s = s := List.takeWhile_append_dropWhile
  rw [← hsplit, List.getLast?_append, h, Option.some_or]

theorem trimStart_append (s w : List Char) :
    trimStart (s ++ w) = if trimStart s = [] then trimStart w else trimStart s ++ w := by
  unfold trimStart
  rw [List.dropWhile_append]
  by_cases h : s.dropWhile isBlank = []
  · rw [if_pos (List.isEmpty_iff.2 h), if_pos h]
  · rw [if_neg fun hnil => h (List.isEmpty_iff.1 hnil), if_neg h]

/-- What stands behind is kept as it is, if it holds no blank. -/
theorem trimStart_append_of_not (s : List Char) (h : ∀ c ∈ w, isBlank c = false) :
    trimStart (s ++ w) = trimStart s ++ w := by
  have hw : trimStart w = w := by
    cases w with
    | nil => rfl
    | cons c w => exact List.dropWhile_cons_of_neg (by simp [h c List.mem_cons_self])
  rw [trimStart_append, hw]
  split
  · rename_i hnil
    rw [hnil, List.nil_append]
  · rfl

/-- Blank margins are cut off, and the blanks in front of what is left with them. -/
theorem trim_margins (hu : allBlank u) (hw : allBlank w)
    (h : ∀ c, s.getLast? = some c → isBlank c = false) : trim (u ++ s ++ w) = trimStart s := by
  have hend : trimEnd (trimStart s) = trimStart s :=
    List.rdropWhile_eq_self_iff.2 fun hne => by
      simp [h _ (getLast?_of_trimStart (List.getLast?_eq_some_getLast hne))]
  have hblank : trimStart w = [] := by
    have hnil := trimStart_append_blank hw []
    rwa [List.append_nil] at hnil
  rw [trim, List.append_assoc, trimStart_append_blank hu, trimStart_append]
  by_cases hs : trimStart s = []
  · rw [if_pos hs, hblank, hs]
    rfl
  · rw [if_neg hs, trimEnd_append_blank hw, hend]

theorem trim_trim (s : List Char) : trim (trim s) = trim s := by
  have hstart : trimStart (trim s) = trim s := by
    -- What is left begins as the text behind its front margin does, if anything is left.
    obtain ⟨w, hw⟩ : trim s <+: trimStart s :=
      List.rdropWhile_prefix isBlank (trimStart s)
    cases htrim : trim s with
    | nil => rfl
    | cons c rest =>
      rw [htrim] at hw
      have hc : isBlank c = false := by
        have hhead := List.head?_dropWhile_not isBlank s
        rw [← trimStart, ← hw] at hhead
        simpa using hhead
      exact List.dropWhile_cons_of_neg (by simp [hc])
  calc trim (trim s)
      = trimEnd (trim s) := by rw [trim, hstart]
    _ = trim s := List.rdropWhile_idempotent isBlank (trimStart s)

end

end Text

namespace Call

/-- The last character, if there is one, is neither a blank nor a semicolon. -/
def EndsPlainly (s : List Char) : Prop :=
  ∀ c ∈ s.getLast?, Text.isBlank c = false ∧ c ≠ ';'

instance : DecidablePred EndsPlainly := fun s =>
  decidable_of_iff (s.getLast?.all fun c => !Text.isBlank c && c != ';')
    (by simp [EndsPlainly, Option.all_eq_true])

section

variable {s u w : List Char}

theorem bare_eq_trimStart (hs : EndsPlainly s) (hu : Text.allBlank u) (hw : Text.allBlank w)
    (n : Nat) : bare (u ++ (s ++ List.replicate n ';') ++ w) = Text.trimStart s := by
  have hsemicolon : Text.isBlank ';' = false := by decide
  have hlast : ∀ c, (s ++ List.replicate n ';').getLast? = some c → Text.isBlank c = false := by
    intro c hc
    cases n with
    | zero => exact (hs c (by simpa using hc)).1
    | succ n =>
      rw [List.replicate_succ', ← List.append_assoc, List.getLast?_concat] at hc
      cases hc
      exact hsemicolon
  have hsemicolons : (List.replicate n ';').all (· == ';') := by simp
  have hkeep : Text.dropEndWhile (· == ';') (Text.trimStart s) = Text.trimStart s := by
    refine List.rdropWhile_eq_self_iff.2 fun hne => ?_
    simpa using (hs _ (Text.getLast?_of_trimStart (List.getLast?_eq_some_getLast hne))).2
  calc bare (u ++ (s ++ List.replicate n ';') ++ w)
      = Text.dropEndWhile (· == ';') (Text.trimStart (s ++ List.replicate n ';')) := by
        rw [bare, Text.trim_margins hu hw hlast]
    _ = Text.dropEndWhile (· == ';') (Text.trimStart s ++ List.replicate n ';') := by
        rw [Text.trimStart_append_of_not s fun c hc => by
          rw [List.eq_of_mem_replicate hc, hsemicolon]]
    _ = Text.trimStart s := by rw [Text.dropEndWhile_append hsemicolons, hkeep]

theorem parseChars_eq_of_bare_eq {s t : List Char} (h : bare s = bare t) :
    parseChars s = parseChars t := by
  rw [parseChars, h, ← parseChars]

end

/-- A text that is trimmed beforehand is parsed as it would be otherwise. -/
theorem parse_trim (text : String) :
    parse (String.ofList (Text.trim text.toList)) = parse text := by
  apply parseChars_eq_of_bare_eq
  rw [String.toList_ofList, bare, Text.trim_trim, ← bare]

/-- Blanks around a text, and semicolons at its end in front of the blanks, change neither the call
that is read from it nor the error. -/
theorem margins_do_not_matter {t u w : String} (ht : EndsPlainly t.toList)
    (hu : Text.allBlank u.toList) (hw : Text.allBlank w.toList) (n : Nat) :
    parse (u ++ t ++ String.ofList (List.replicate n ';') ++ w) = parse t := by
  apply parseChars_eq_of_bare_eq
  have hplain : bare t.toList = Text.trimStart t.toList := by
    have hbare := bare_eq_trimStart ht (u := []) (w := []) rfl rfl 0
    simpa using hbare
  rw [hplain, ← bare_eq_trimStart ht hu hw n]
  simp

/-- A text that is no call, with blanks in front of it and in it, and blanks outside ASCII. -/
theorem margins_do_not_matter_quoted :
    let t := "\u2003 get users"
    (EndsPlainly t.toList ∧ Text.allBlank "\u3000\n".toList ∧ Text.allBlank "\u00a0 ".toList) ∧
      parse ("\u3000\n" ++ t ++ String.ofList (List.replicate 2 ';') ++ "\u00a0 ") = parse t ∧
      parse t = .error (.invalidArgument (.unreadableCall "get users")) := by
  intro t
  have ht : EndsPlainly t.toList := by decide
  have hu : Text.allBlank "\u3000\n".toList := by decide
  have hw : Text.allBlank "\u00a0 ".toList := by decide
  exact ⟨⟨ht, hu, hw⟩, margins_do_not_matter ht hu hw 2, by decide +kernel⟩

end Call

end CrudByName
