import CrudByName.Proofs.Json.Reading

/-!
# What the reader accepts

The reader accepts nothing but what the grammar writes.  Whatever a stage of it takes off the front
of a text is a way to write something: a string up to its closing quote
(`Quoted.exists_writes_of_read`), a number (`Numeral.exists_writes_of_scan`), items up to a bracket
and members up to a brace (`Reader.list_recognizes`, `Reader.object_recognizes`), and in the end
every value (`Reader.value_recognizes`).

`Reader.Recognizes` says of a stage that it takes ways to write, and asks for no more: what the
things written stand for is the other half (`Reader.Interprets`), and need not be proved twice.  So
it is enough here to follow the text.
-/

namespace CrudByName

namespace Json

/-! ## Strings -/

namespace Quoted

section

variable {c d : Char} {n : Nat} {s t rest : List Char}

theorem exists_writesUnit (h : unit s = .ok n) : ∃ t, WritesUnit n t ∧ s = t ++ s.drop 4 := by
  have hunit : unit? s = some n := by
    rw [unit] at h
    split at h
    · rename_i m hm
      cases h
      exact hm
    · cases h
  unfold unit? at hunit
  split at hunit
  · rename_i a b c d tail
    obtain ⟨k, ha, h⟩ := Option.bind_eq_some_iff.1 hunit
    obtain ⟨l, hb, h⟩ := Option.bind_eq_some_iff.1 h
    obtain ⟨m, hc, h⟩ := Option.bind_eq_some_iff.1 h
    obtain ⟨o, hd, h⟩ := Option.bind_eq_some_iff.1 h
    cases h
    exact ⟨[a, b, c, d], .mk ha hb hc hd, rfl⟩
  · cases hunit

theorem exists_lowUnit (h : lowUnit s = .ok n) :
    isLowSurrogate n = true ∧ ∃ t, WritesUnit n t ∧ s = '\\' :: 'u' :: (t ++ s.drop 6) := by
  unfold lowUnit at h
  split at h
  · cases h
  · cases h
  · rename_i tail
    split at h
    · cases h
    · rename_i m hm
      split at h
      · rename_i hlow
        cases h
        obtain ⟨t, ht, htail⟩ := exists_writesUnit hm
        refine ⟨hlow, t, ht, ?_⟩
        rw [List.drop_succ_cons, List.drop_succ_cons, ← htail]
      · cases h
  · cases h
  · cases h

/-- The escape that a character behind a backslash and a `u` was read from. -/
theorem exists_writesChar_of_character (h : character s = .ok (c, rest)) :
    ∃ t, WritesChar c ('\\' :: 'u' :: t) ∧ s = t ++ rest := by
  unfold character at h
  split at h
  · cases h
  · rename_i n hn
    obtain ⟨t, ht, hs⟩ := exists_writesUnit hn
    split at h
    · cases h
    · rename_i hlow
      split at h
      · rename_i hhigh
        split at h
        · cases h
        · rename_i low hl
          obtain ⟨rfl, rfl⟩ : joined n low = c ∧ s.drop 10 = rest := by simpa using h
          obtain ⟨hlow', u, hu, hs'⟩ := exists_lowUnit hl
          refine ⟨t ++ '\\' :: 'u' :: u, .pair ht hhigh hu hlow', ?_⟩
          rw [List.drop_drop] at hs'
          rw [List.append_assoc, List.cons_append, List.cons_append, ← hs', ← hs]
      · rename_i hhigh
        cases h
        exact ⟨t, .unit ht (by simpa using hlow) (by simpa using hhigh), hs⟩

theorem mem_letters_of_letter? (h : letter? c = some d) : (c, d) ∈ letters := by
  unfold letter? at h
  split_ifs at h <;> cases h <;> subst_vars <;> decide

/-- A string that was read is written up to its closing quote. -/
theorem exists_writes_of_read (h : read s = .ok (t, rest)) :
    ∃ u, Writes t u ∧ s = u ++ '"' :: rest := by
  fun_induction read s generalizing t with
  | case1 => cases h
  | case2 =>
    cases h
    exact ⟨[], .nil, rfl⟩
  | case3 => cases h
  | case4 => cases h
  | case5 tail c next hc _ ih =>
    obtain ⟨⟨more, rest⟩, hmore, heq⟩ := Except.map_eq_ok_iff.1 h
    cases heq
    obtain ⟨u, hu, rfl⟩ := ih hmore
    obtain ⟨v, hv, rfl⟩ := exists_writesChar_of_character hc
    exact ⟨_, .cons hv hu, by simp⟩
  | case6 => cases h
  | case7 l tail _ d hd ih =>
    obtain ⟨⟨more, rest⟩, hmore, heq⟩ := Except.map_eq_ok_iff.1 h
    cases heq
    obtain ⟨u, hu, rfl⟩ := ih hmore
    exact ⟨_, .cons (.letter (mem_letters_of_letter? hd)) hu, rfl⟩
  | case8 => cases h
  | case9 c tail hquote hend hunit hescape hvisible ih =>
    obtain ⟨⟨more, rest⟩, hmore, heq⟩ := Except.map_eq_ok_iff.1 h
    cases heq
    obtain ⟨u, hu, rfl⟩ := ih hmore
    have hbackslash : c ≠ '\\' := by
      intro hc
      cases htail : u ++ '"' :: rest with
      | nil => exact hend hc htail
      | cons e tail => exact hescape e tail hc htail
    exact ⟨_, .cons (.plain (Nat.not_lt.1 hvisible) hquote hbackslash) hu, rfl⟩

end

end Quoted

/-! ## Numbers -/

namespace Numeral

section

variable {s digits rest : List Char} {atEnd : Cause}

theorem isRun_of_scanDigits (h : scanDigits atEnd s = .ok (digits, rest)) :
    IsRun digits ∧ s = digits ++ rest := by
  unfold scanDigits at h
  split at h
  · cases h
  · rename_i c tail
    split at h
    · rename_i hc
      cases h
      refine ⟨⟨List.cons_ne_nil _ _, ?_⟩, ?_⟩
      · intro d hd
        rcases List.mem_cons.1 hd with rfl | hd
        · exact hc
        · exact List.mem_takeWhile_imp hd
      · rw [List.cons_append, List.takeWhile_append_dropWhile]
    · cases h

theorem isWhole_of_scanWhole (h : scanWhole s = .ok (digits, rest)) :
    IsWhole digits ∧ s = digits ++ rest := by
  unfold scanWhole at h
  split at h
  · split at h
    · cases h
    · cases h
      exact ⟨by decide, rfl⟩
  · rename_i hzero
    obtain ⟨hrun, rfl⟩ := isRun_of_scanDigits h
    refine ⟨⟨hrun, fun hhead => ?_⟩, rfl⟩
    -- A zero with anything behind it would have been met by the first case.
    cases digits with
    | nil => cases hhead
    | cons c tail =>
      cases hhead
      cases tail with
      | nil => rfl
      | cons d tail => exact absurd rfl (hzero d (tail ++ rest))

theorem writesFraction_of_scanFraction (h : scanFraction s = .ok (digits, rest)) :
    ∃ t, WritesFraction digits t ∧ s = t ++ rest := by
  unfold scanFraction at h
  split at h
  · obtain ⟨hrun, rfl⟩ := isRun_of_scanDigits h
    exact ⟨_, .some hrun, rfl⟩
  · cases h
    exact ⟨[], .none, rfl⟩

theorem writesExponent_of_scanExponent {exponent : Option (Bool × List Char)}
    (h : scanExponent s = .ok (exponent, rest)) :
    ∃ t, WritesExponent exponent t ∧ s = t ++ rest := by
  have key : ∀ {negative : Bool} {t : List Char},
      (scanDigits .endInValue t).map (fun p => (some (negative, p.1), p.2)) =
        .ok (exponent, rest) →
      ∃ digits, IsRun digits ∧ exponent = some (negative, digits) ∧ t = digits ++ rest := by
    intro negative t ht
    obtain ⟨⟨digits, tail⟩, hscan, heq⟩ := Except.map_eq_ok_iff.1 ht
    cases heq
    obtain ⟨hrun, htext⟩ := isRun_of_scanDigits hscan
    exact ⟨digits, hrun, rfl, htext⟩
  unfold scanExponent at h
  split at h
  · rename_i e tail
    split at h
    · rename_i he
      split at h
      · obtain ⟨digits, hrun, rfl, rfl⟩ := key h
        exact ⟨_, .plus he hrun, rfl⟩
      · obtain ⟨digits, hrun, rfl, rfl⟩ := key h
        exact ⟨_, .minus he hrun, rfl⟩
      · obtain ⟨digits, hrun, rfl, rfl⟩ := key h
        exact ⟨_, .bare he hrun, rfl⟩
    · cases h
      exact ⟨[], .none, rfl⟩
  · cases h
    exact ⟨[], .none, rfl⟩

/-- A number that was read is written in front of what is left. -/
theorem exists_writes_of_scan {n : Numeral} (h : scan s = .ok (n, rest)) :
    ∃ t, n.Writes t ∧ s = t ++ rest := by
  unfold scan at h
  split at h
  rename_i negative s₁ hsign
  have hs : s = sign negative ++ s₁ := by
    split at hsign <;> cases hsign <;> rfl
  obtain ⟨⟨whole, s₂⟩, hwhole, h⟩ := Except.bind_eq_ok_iff.1 h
  obtain ⟨⟨fraction, s₃⟩, hfraction, h⟩ := Except.bind_eq_ok_iff.1 h
  obtain ⟨⟨exponent, s₄⟩, hexponent, h⟩ := Except.bind_eq_ok_iff.1 h
  cases h
  obtain ⟨hw, rfl⟩ := isWhole_of_scanWhole hwhole
  obtain ⟨t, hf, rfl⟩ := writesFraction_of_scanFraction hfraction
  obtain ⟨u, he, rfl⟩ := writesExponent_of_scanExponent hexponent
  exact ⟨_, .mk negative hw hf he, by simp [hs]⟩

end

end Numeral

namespace Reader

section

variable {s t rest : List Char}

/-! ## Lists -/

/-- What the reader takes off the front of a text is a way to write something, with blanks in front
of it. -/
def Recognizes (element : Reader β) (P : α → List Char → Prop) : Prop :=
  ∀ ⦃s b rest⦄, outcome (element s) = some (b, rest) →
    ∃ a w t, P a t ∧ Blanks w ∧ s = w ++ (t ++ rest)

theorem exists_blanks (h : skipBlanks s = t) : ∃ w, Blanks w ∧ s = w ++ t := by
  refine ⟨s.takeWhile isBlank, fun c hc => List.mem_takeWhile_imp hc, ?_⟩
  rw [← h, skipBlanks, List.takeWhile_append_dropWhile]

section

variable {P : α → List Char → Prop} {element : Reader β} {bs : List β}

theorem blanks_append {v w : List Char} (hv : Blanks v) (hw : Blanks w) : Blanks (v ++ w) := by
  intro c hc
  rcases List.mem_append.1 hc with hc | hc
  · exact hv c hc
  · exact hw c hc

theorem items_recognizes (hP : Recognizes element P)
    (h : outcome (items element s) = some (bs, rest)) :
    ∃ as w t, Separated P as t ∧ Blanks w ∧ s = w ++ (t ++ ']' :: rest) := by
  fun_induction items element s generalizing bs with
  | case1 s e _ => cases h
  | case2 s first _ _ => cases h
  | case3 s first hfirst tail hclose =>
    obtain ⟨-, rfl⟩ : [first.value] = bs ∧ tail = rest := by simpa using h
    obtain ⟨a, w, t, ha, hw, hs⟩ := hP (outcome_of_eq_ok hfirst)
    obtain ⟨v, hv, hrest⟩ := exists_blanks hclose
    refine ⟨[a], w, t ++ v, .last ha hv, hw, hs.trans ?_⟩
    rw [hrest, List.append_assoc]
  | case4 s first _ tail _ _ => cases h
  | case5 s first _ tail _ more _ => cases h
  | case6 s first _ tail _ c next _ _ _ e _ _ => cases h
  | case7 s first hfirst tail hcomma c next _ hnext _ more hmore ih =>
    obtain ⟨-, hend⟩ : first.value :: more.value = bs ∧ more.rest = rest := by simpa using h
    have hmore := outcome_of_eq_ok hmore
    rw [hend] at hmore
    obtain ⟨a, w, t, ha, hw, hs⟩ := hP (outcome_of_eq_ok hfirst)
    obtain ⟨v, hv, hrest⟩ := exists_blanks hcomma
    obtain ⟨u, hu, htail⟩ := exists_blanks hnext
    obtain ⟨as, x, more', has, hx, htext⟩ := ih hmore
    refine ⟨a :: as, w, t ++ (v ++ ',' :: ((u ++ x) ++ more')),
      .cons ha hv (blanks_append hu hx) has, hw, hs.trans ?_⟩
    rw [hrest, htail, htext]
    simp
  | case8 s first _ _ _ _ => cases h

theorem list_recognizes (hP : Recognizes element P)
    (h : outcome (list element s) = some (bs, rest)) :
    ∃ as t, Listed P as t ∧ s = t ++ ']' :: rest := by
  unfold list at h
  split at h
  · cases h
  · rename_i tail hclose
    cases h
    obtain ⟨w, hw, hs⟩ := exists_blanks hclose
    exact ⟨[], w, .none hw, hs⟩
  · rename_i c tail _ htail
    rw [outcome_after] at h
    obtain ⟨v, hv, hs⟩ := exists_blanks htail
    obtain ⟨as, w, t, has, hw, htext⟩ := items_recognizes hP h
    refine ⟨as, (v ++ w) ++ t, .some (blanks_append hv hw) has, ?_⟩
    rw [hs, htext]
    simp

end

/-! ## Members -/

theorem exists_writes_of_string {name : String} (h : outcome (string s) = some (name, rest)) :
    ∃ t, Quoted.Writes name.toList t ∧ s = t ++ '"' :: rest := by
  unfold string at h
  split at h
  · cases h
  · rename_i text tail hread
    cases h
    rw [String.toList_ofList]
    exact Quoted.exists_writes_of_read hread

section

variable {P : α → List Char → Prop} {element : Reader β}

theorem memberValue_recognizes (hP : Recognizes element P) {b : β}
    (h : outcome (memberValue element s) = some (b, rest)) :
    ∃ a w v t, P a t ∧ Blanks w ∧ Blanks v ∧ s = w ++ ':' :: (v ++ (t ++ rest)) := by
  unfold memberValue at h
  split at h
  · cases h
  · rename_i tail hcolon
    rw [outcome_after] at h
    obtain ⟨w, hw, hs⟩ := exists_blanks hcolon
    obtain ⟨a, v, t, ha, hv, htail⟩ := hP h
    exact ⟨a, w, v, t, ha, hw, hv, by rw [hs, htail]⟩
  · cases h

/-- A member, from behind its opening quote. -/
theorem member_recognizes (hP : Recognizes element P) {m : String × β}
    (h : outcome (member string (fun _ => element) s) = some (m, rest)) :
    ∃ n t, WritesMember P n ('"' :: t) ∧ s = t ++ rest := by
  unfold member at h
  split at h
  · cases h
  · rename_i k hname
    split at h
    · cases h
    · rename_i r hvalue
      obtain ⟨rfl, hend⟩ : (k.value, r.value) = m ∧ r.rest = rest := by simpa using h
      have hvalue := outcome_of_eq_ok hvalue
      rw [hend] at hvalue
      obtain ⟨q, hq, hs⟩ := exists_writes_of_string (outcome_of_eq_ok hname)
      obtain ⟨a, w, v, t, ha, hw, hv, htail⟩ := memberValue_recognizes hP hvalue
      refine ⟨(k.value, a), q ++ '"' :: (w ++ ':' :: (v ++ t)), .mk hq hw hv ha, hs.trans ?_⟩
      rw [htail]
      simp

theorem members_recognizes (hP : Recognizes element P) {ms : List (String × β)}
    (h : outcome (members string (fun _ => element) s) = some (ms, rest)) :
    ∃ ns t, Separated (WritesMember P) ns ('"' :: t) ∧ s = t ++ '}' :: rest := by
  fun_induction members string (fun _ => element) s generalizing ms with
  | case1 s e _ => cases h
  | case2 s first _ _ => cases h
  | case3 s first hfirst tail hclose =>
    obtain ⟨-, rfl⟩ : [first.value] = ms ∧ tail = rest := by simpa using h
    obtain ⟨n, t, hn, hs⟩ := member_recognizes hP (outcome_of_eq_ok hfirst)
    obtain ⟨v, hv, hrest⟩ := exists_blanks hclose
    refine ⟨[n], t ++ v, .last hn hv, hs.trans ?_⟩
    rw [hrest, List.append_assoc]
  | case4 s first _ tail _ _ => cases h
  | case5 s first _ tail _ more _ => cases h
  | case6 s first _ tail _ next _ _ e _ _ => cases h
  | case7 s first hfirst tail hcomma next hquote _ more hmore ih =>
    obtain ⟨-, hend⟩ : first.value :: more.value = ms ∧ more.rest = rest := by simpa using h
    have hmore := outcome_of_eq_ok hmore
    rw [hend] at hmore
    obtain ⟨n, t, hn, hs⟩ := member_recognizes hP (outcome_of_eq_ok hfirst)
    obtain ⟨v, hv, hrest⟩ := exists_blanks hcomma
    obtain ⟨u, hu, htail⟩ := exists_blanks hquote
    obtain ⟨ns, t', hns, htext⟩ := ih hmore
    refine ⟨n :: ns, t ++ (v ++ ',' :: (u ++ '"' :: t')), .cons hn hv hu hns, hs.trans ?_⟩
    rw [hrest, htail, htext]
    simp
  | case8 s first _ tail _ _ _ _ => cases h
  | case9 s first _ _ _ _ => cases h

theorem object_recognizes (hP : Recognizes element P) {ms : List (String × β)}
    (h : outcome (object string (fun _ => element) s) = some (ms, rest)) :
    ∃ ns t, Listed (WritesMember P) ns t ∧ s = t ++ '}' :: rest := by
  unfold object at h
  split at h
  · cases h
  · rename_i tail hclose
    cases h
    obtain ⟨w, hw, hs⟩ := exists_blanks hclose
    exact ⟨[], w, .none hw, hs⟩
  · rename_i tail hquote
    rw [outcome_after] at h
    obtain ⟨w, hw, hs⟩ := exists_blanks hquote
    obtain ⟨ns, t, hns, htail⟩ := members_recognizes hP h
    refine ⟨ns, w ++ '"' :: t, .some hw hns, ?_⟩
    rw [hs, htail]
    simp
  · cases h

end

/-! ## Values -/

theorem eq_of_afterWord {word : List Char} (h : afterWord word s = .ok rest) :
    s = word ++ rest := by
  fun_induction afterWord word s with
  | case1 s =>
    cases h
    rfl
  | case2 => cases h
  | case3 word c s ih => rw [ih h, List.cons_append]
  | case4 => cases h

theorem eq_of_word {word : List Char} {v j : Json} (ht : t.length < s.length)
    (h : outcome (Reader.word word v t ht) = some (j, rest)) : t = word ++ rest := by
  unfold Reader.word at h
  split at h
  · cases h
  · rename_i tail hword
    cases h
    exact eq_of_afterWord hword

theorem exists_writes_of_number {n : Number} (h : outcome (number s) = some (n, rest)) :
    ∃ m t, Numeral.Writes m t ∧ s = t ++ rest := by
  unfold number at h
  split at h
  · cases h
  · rename_i m tail hscan
    split at h
    · cases h
    · cases h
      obtain ⟨t, ht, hs⟩ := Numeral.exists_writes_of_scan hscan
      exact ⟨m, t, ht, hs⟩

theorem exists_outcome_of_map {f : α → β} {r : Except Fault (Read α s)} {b : β}
    (h : outcome (r.map fun r => (⟨f r.value, r.rest, r.shorter⟩ : Read β s)) = some (b, rest)) :
    ∃ a, outcome r = some (a, rest) := by
  rw [outcome_map] at h
  obtain ⟨⟨a, tail⟩, hr, heq⟩ := Option.map_eq_some_iff.1 h
  cases heq
  exact ⟨a, hr⟩

/-- The reader takes values and nothing else. -/
theorem value_recognizes (depth : Nat) : Recognizes (value .exact depth) Form.Writes := by
  intro s j rest h
  suffices hfront : ∃ f t, Form.Writes f t ∧ skipBlanks s = t ++ rest by
    obtain ⟨f, t, hf, hskip⟩ := hfront
    obtain ⟨w, hw, hs⟩ := exists_blanks hskip
    exact ⟨f, w, t, hf, hw, hs⟩
  -- One case for each way to begin a value.  Only a list and an object hold values, and these were
  -- read with one container less to open.
  unfold value at h
  split at h
  · cases h
  · rename_i tail hskip
    exact ⟨.null, _, .null, by rw [hskip, eq_of_word _ h]; rfl⟩
  · rename_i tail hskip
    exact ⟨.bool true, _, .true, by rw [hskip, eq_of_word _ h]; rfl⟩
  · rename_i tail hskip
    exact ⟨.bool false, _, .false, by rw [hskip, eq_of_word _ h]; rfl⟩
  · rename_i tail hskip
    rw [outcome_after] at h
    obtain ⟨text, htext⟩ := exists_outcome_of_map h
    obtain ⟨t, ht, htail⟩ := exists_writes_of_string htext
    exact ⟨.string text, _, .string ht, by rw [hskip, htail]; simp⟩
  · rename_i tail hskip
    split at h
    · cases h
    · rename_i depth
      rw [outcome_after] at h
      obtain ⟨items, hitems⟩ := exists_outcome_of_map h
      obtain ⟨fs, t, hfs, htail⟩ := list_recognizes (value_recognizes depth) hitems
      exact ⟨.array fs, _, .array hfs, by rw [hskip, htail]; simp⟩
  · rename_i tail hskip
    split at h
    · cases h
    · rename_i depth
      rw [outcome_after] at h
      obtain ⟨members, hmembers⟩ := exists_outcome_of_map h
      obtain ⟨ms, t, hms, htail⟩ := object_recognizes (value_recognizes depth) hmembers
      exact ⟨.object ms, _, .object hms, by rw [hskip, htail]; simp⟩
  · rename_i c tail _ _ _ _ _ _ hskip
    split at h
    · rw [outcome_after] at h
      obtain ⟨n, hn⟩ := exists_outcome_of_map h
      obtain ⟨m, t, hm, htail⟩ := exists_writes_of_number hn
      exact ⟨.number m, t, .number hm, by rw [hskip, htail]⟩
    · cases h
termination_by depth

/-! ## Whole texts -/

theorem exists_outcome_of_whole {element : Reader β} {b : β} (h : whole element s = .ok b) :
    ∃ rest, outcome (element s) = some (b, rest) ∧ Blanks rest := by
  unfold whole at h
  split at h
  · cases h
  · rename_i r hr
    split at h
    · rename_i hskip
      cases h
      obtain ⟨w, hw, hrest⟩ := exists_blanks hskip
      rw [List.append_nil] at hrest
      exact ⟨r.rest, by rw [hr, outcome_ok], hrest ▸ hw⟩
    · cases h

end

end Reader

/-- Whatever text is put between two brackets, it is a list of values if the whole is read at all.
It cannot close the first bracket, since the last character would be left over. -/
theorem listed_of_read {inside : List Char} {j : Json}
    (h : read ('[' :: (inside ++ [']'])) = .ok j) : ∃ fs, Listed Form.Writes fs inside := by
  have hwhole :
      Reader.whole (Reader.value .exact (126 + 1)) ('[' :: (inside ++ [']'])) = .ok j := by
    rw [read] at h
    cases hw : Reader.whole (Reader.value .exact maxDepth) ('[' :: (inside ++ [']'])) with
    | error e =>
      rw [hw] at h
      cases h
    | ok k =>
      rw [hw] at h
      cases h
      exact hw
  obtain ⟨rest, hvalue, hrest⟩ := Reader.exists_outcome_of_whole hwhole
  rw [Reader.value_array (Reader.skipBlanks_cons (by decide) _)] at hvalue
  obtain ⟨⟨items, tail⟩, hitems, heq⟩ := Option.map_eq_some_iff.1 hvalue
  cases heq
  obtain ⟨fs, t, hfs, htext⟩ := Reader.list_recognizes (Reader.value_recognizes 126) hitems
  obtain rfl | ⟨more, c, rfl⟩ := List.eq_nil_or_concat tail
  · obtain ⟨rfl, -⟩ := List.append_inj' htext rfl
    exact ⟨fs, hfs⟩
  · have hend : inside ++ [']'] = (t ++ ']' :: more) ++ [c] := by simpa using htext
    obtain ⟨-, hlast⟩ := List.append_inj' hend rfl
    cases hlast
    have hblank : isBlank ']' = true := hrest ']' (by simp)
    exact absurd hblank (by decide)

end Json

end CrudByName
