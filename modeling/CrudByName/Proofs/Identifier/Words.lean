import CrudByName.Identifier
import CrudByName.Proofs.Operation

/-!
# Words in names and in identifiers

A table or a column is thought of as a list of words.  In the name of an operation the words are
capitalised and put together (`camel`), in an identifier they are joined by underscores (`snake`).
`normalize_camel` says that normalizing goes from the one to the other.

It does so for a `Phrase` only.  A word is found again because the letter before its capital is a
small one, so every word but the last has to end in a letter, and in one that its capital has left
small.  The last word may be of any kind, since nothing follows it.

`not_hasSeparator_camel` says when the separator of a name cannot come about by putting words
together: a `B` is the capital of a word, and the `y` behind it would be the second letter of that
word.
-/

namespace CrudByName

namespace Words

open Identifier (isLower isUpper isDigit isTail lower)

/-! ## Words and phrases -/

/-- The shape `[a-z][a-z0-9]*`. -/
def isWord : List Char → Bool
  | [] => false
  | c :: rest => isLower c && rest.all fun d => isLower d || isDigit d

/-- Whether the last character of a word is a letter. -/
def endsInLetter (w : List Char) : Bool :=
  w.getLast?.any isLower

/-- The words that can be put together and be told apart again. -/
inductive Phrase : List String → Prop where
  | last {w : String} (word : isWord w.toList) : Phrase [w]
  | cons {w : String} {ws : List String} (word : isWord w.toList) (long : 2 ≤ w.toList.length)
      (letter : endsInLetter w.toList) (rest : Phrase ws) : Phrase (w :: ws)

/-- A word with its first letter in upper case. -/
def capitalised : List Char → List Char
  | [] => []
  | c :: rest => c.toUpper :: rest

/-- The words as they stand in the name of an operation. -/
def camel (ws : List String) : String :=
  String.ofList (ws.flatMap fun w => capitalised w.toList)

/-- The words as they stand in an identifier. -/
def snake (ws : List String) : String :=
  "_".intercalate ws

/-! ## Small letters and capitals -/

/-- What holds of the characters with the numbers from `low` on, `n` of them. -/
theorem forall_between (P : Char → Prop) {low n : Nat} (h : ∀ k < n, P (Char.ofNat (low + k)))
    {c : Char} (hlow : low ≤ c.toNat) (hhigh : c.toNat < low + n) : P c := by
  have hP := h (c.toNat - low) (by omega)
  rwa [Nat.add_sub_cancel' hlow, Char.ofNat_toNat] at hP

/-- What holds of the twenty-six small letters. -/
theorem forall_isLower (P : Char → Prop) (h : ∀ n < 26, P (Char.ofNat (97 + n))) {c : Char}
    (hc : isLower c) : P c := by
  simp only [isLower, Bool.and_eq_true, decide_eq_true_eq, Char.le_def,
    UInt32.le_iff_toNat_le] at hc
  exact forall_between P h hc.1 (Nat.lt_succ_of_le hc.2)

/-- What holds of the twenty-six capitals. -/
theorem forall_isUpper (P : Char → Prop) (h : ∀ n < 26, P (Char.ofNat (65 + n))) {c : Char}
    (hc : isUpper c) : P c := by
  simp only [isUpper, Bool.and_eq_true, decide_eq_true_eq, Char.le_def,
    UInt32.le_iff_toNat_le] at hc
  exact forall_between P h hc.1 (Nat.lt_succ_of_le hc.2)

theorem isUpper_toUpper {c : Char} (h : isLower c) : isUpper c.toUpper :=
  forall_isLower (fun c => isUpper c.toUpper) (by decide) h

theorem lower_toUpper {c : Char} (h : isLower c) : lower c.toUpper = c :=
  forall_isLower (fun c => lower c.toUpper = c) (by decide) h

theorem eq_b_of_toUpper {c : Char} (h : isLower c) : c.toUpper = 'B' → c = 'b' :=
  forall_isLower (fun c => c.toUpper = 'B' → c = 'b') (by decide) h

theorem isLower_of_isUpper {c : Char} (h : isUpper c) : isLower c = false := by
  cases hc : isLower c with
  | false => rfl
  | true =>
    have hupper := Identifier.not_isUpper_of_isTail (c := c) (by simp [isTail, hc])
    rw [h] at hupper
    cases hupper

/-- A word is a small letter and characters that may follow it in an identifier. -/
theorem exists_cons_of_isWord {w : List Char} (h : isWord w) :
    ∃ c rest, w = c :: rest ∧ isLower c ∧ rest.all isTail := by
  cases w with
  | nil => cases h
  | cons c rest =>
    simp only [isWord, Bool.and_eq_true, List.all_eq_true, Bool.or_eq_true] at h
    refine ⟨c, rest, rfl, h.1, List.all_eq_true.2 fun d hd => ?_⟩
    simp only [isTail, Bool.or_eq_true]
    exact .inl (h.2 d hd)

/-! ## From capitals to underscores -/

theorem snake_cons_of_isUpper {c : Char} (h : isUpper c) (s : List Char) :
    Identifier.snake (c :: s) = lower c :: Identifier.snake s := by
  cases s with
  | nil => rfl
  | cons d s => simp [Identifier.snake, isLower_of_isUpper h]

/-- A small letter at the end of a word and the capital behind it are parted. -/
theorem snake_append {s : List Char} (hs : s.all isTail) (hletter : endsInLetter s)
    {d : Char} (hd : isUpper d) (rest : List Char) :
    Identifier.snake (s ++ d :: rest) = s ++ '_' :: Identifier.snake (d :: rest) := by
  induction s with
  | nil => cases hletter
  | cons c s ih =>
    simp only [List.all_cons, Bool.and_eq_true] at hs
    have hc : lower c = c := by simp [lower, Identifier.not_isUpper_of_isTail hs.1]
    cases s with
    | nil =>
      have hlower : isLower c := hletter
      simp [Identifier.snake, hlower, hd, hc]
    | cons e s =>
      have he : isUpper e = false := by
        have hall := hs.2
        simp only [List.all_cons, Bool.and_eq_true] at hall
        exact Identifier.not_isUpper_of_isTail hall.1
      have hrest := ih hs.2 (by simpa [endsInLetter] using hletter)
      simp only [List.cons_append] at hrest ⊢
      rw [Identifier.snake, he, Bool.and_false, if_neg Bool.false_ne_true, hrest, hc]

theorem toList_camel_cons (w : String) (ws : List String) :
    (camel (w :: ws)).toList = capitalised w.toList ++ (camel ws).toList := by
  simp only [camel, String.toList_ofList, List.flatMap_cons]

theorem toList_snake_cons (w : String) {ws : List String} (h : ws ≠ []) :
    (snake (w :: ws)).toList = w.toList ++ '_' :: (snake ws).toList := by
  obtain ⟨v, vs, rfl⟩ := List.exists_cons_of_ne_nil h
  simp only [snake, String.toList_intercalate, List.map_cons, List.intercalate_cons_cons]
  simp

theorem Phrase.ne_nil {ws : List String} (h : Phrase ws) : ws ≠ [] := by
  cases h <;> simp

theorem Phrase.isWord_of_mem {ws : List String} (h : Phrase ws) {w : String} (hw : w ∈ ws) :
    isWord w.toList := by
  induction h with
  | last word =>
    obtain rfl := List.mem_singleton.1 hw
    exact word
  | cons word _ _ _ ih =>
    obtain rfl | hw := List.mem_cons.1 hw
    · exact word
    · exact ih hw

/-- The first letter of a phrase is a capital. -/
theorem Phrase.exists_camel {ws : List String} (h : Phrase ws) :
    ∃ d rest, (camel ws).toList = d :: rest ∧ isUpper d := by
  obtain ⟨w, vs, rfl⟩ := List.exists_cons_of_ne_nil h.ne_nil
  obtain ⟨c, rest, hw, hc, -⟩ := exists_cons_of_isWord (h.isWord_of_mem List.mem_cons_self)
  rw [toList_camel_cons, hw]
  exact ⟨c.toUpper, rest ++ (camel vs).toList, rfl, isUpper_toUpper hc⟩

theorem snake_camel {ws : List String} (h : Phrase ws) :
    Identifier.snake (camel ws).toList = (snake ws).toList := by
  induction h with
  | @last w word =>
    obtain ⟨c, rest, hw, hc, hrest⟩ := exists_cons_of_isWord word
    have hcamel : (camel [w]).toList = c.toUpper :: rest := by
      rw [toList_camel_cons, hw]
      simp [camel, capitalised]
    have hsnake : (snake [w]).toList = c :: rest := by simp [snake, hw]
    rw [hcamel, hsnake, snake_cons_of_isUpper (isUpper_toUpper hc), lower_toUpper hc,
      Identifier.snake_of_isTail hrest]
  | @cons w ws word long letter hws ih =>
    obtain ⟨c, rest, hw, hc, hrest⟩ := exists_cons_of_isWord word
    obtain ⟨d, next, hcamel, hd⟩ := hws.exists_camel
    rw [hw] at long letter
    have hletter : endsInLetter rest := by
      cases rest with
      | nil => simp at long
      | cons e rest => simpa [endsInLetter] using letter
    calc Identifier.snake (camel (w :: ws)).toList
        = Identifier.snake (c.toUpper :: (rest ++ d :: next)) := by
          rw [toList_camel_cons, hw, hcamel]
          rfl
      _ = c :: Identifier.snake (rest ++ d :: next) := by
          rw [snake_cons_of_isUpper (isUpper_toUpper hc), lower_toUpper hc]
      _ = c :: (rest ++ '_' :: Identifier.snake (camel ws).toList) := by
          rw [snake_append hrest hletter hd, hcamel]
      _ = (snake (w :: ws)).toList := by
          rw [ih, toList_snake_cons w hws.ne_nil, hw, List.cons_append]

theorem all_isTail_of_isWord {w : List Char} (h : isWord w) : w.all isTail := by
  obtain ⟨c, rest, rfl, hc, hrest⟩ := exists_cons_of_isWord h
  simp [isTail, hc, hrest]

theorem isSafe_append_of_isWord {w s : List Char} (hw : isWord w) (hs : s.all isTail) :
    Identifier.isSafe (w ++ s) := by
  obtain ⟨c, rest, rfl, hc, hrest⟩ := exists_cons_of_isWord hw
  simp [Identifier.isSafe, hc, hrest, hs]

theorem all_isTail_snake {ws : List String} (h : Phrase ws) : (snake ws).toList.all isTail := by
  induction h with
  | last word => simpa [snake] using all_isTail_of_isWord word
  | @cons w ws word _ _ hws ih =>
    rw [toList_snake_cons w hws.ne_nil, List.all_append, List.all_cons, ih,
      all_isTail_of_isWord word]
    decide

theorem isSafe_snake {ws : List String} (h : Phrase ws) : Identifier.isSafe (snake ws).toList := by
  cases h with
  | last word => simpa [snake] using isSafe_append_of_isWord (s := []) word rfl
  | @cons w ws word _ _ hws =>
    rw [toList_snake_cons w hws.ne_nil]
    refine isSafe_append_of_isWord word ?_
    rw [List.all_cons, all_isTail_snake hws]
    decide

/-- The words of a token come back as the words of an identifier. -/
theorem normalize_camel {ws : List String} (h : Phrase ws) :
    ∃ i : Identifier, Identifier.normalize (camel ws) = .ok i ∧ i.name = snake ws := by
  refine ⟨⟨snake ws, isSafe_snake h⟩, ?_, rfl⟩
  simp only [Identifier.normalize, snake_camel h, String.ofList_toList, isSafe_snake h, dite_true]

/-! ## Words without a separator -/

/-- No separator begins inside a run of small letters. -/
theorem infix_of_infix_append {s rest : List Char} (hs : s.all isTail)
    (h : ['B', 'y'] <:+: s ++ rest) : ['B', 'y'] <:+: rest := by
  induction s with
  | nil => exact h
  | cons c s ih =>
    simp only [List.all_cons, Bool.and_eq_true] at hs
    rw [List.cons_append] at h
    obtain hprefix | hinfix := List.infix_cons_iff.1 h
    · obtain ⟨rfl, -⟩ := List.cons_prefix_cons.1 hprefix
      exact absurd hs.1 (by decide)
    · exact ih hs.2 hinfix

/-- A separator that begins at the capital of a word goes on with the second letter of the word, or
with what stands behind it. -/
theorem infix_of_infix_capitalised {w rest : List Char} (hw : isWord w)
    (hby : ¬ ['b', 'y'] <+: w) (hrest : ∀ d ∈ rest.head?, d ≠ 'y')
    (h : ['B', 'y'] <:+: capitalised w ++ rest) : ['B', 'y'] <:+: rest := by
  obtain ⟨c, tail, rfl, hc, htail⟩ := exists_cons_of_isWord hw
  obtain hprefix | hinfix := List.infix_cons_iff.1 h
  · obtain ⟨hcapital, hnext⟩ := List.cons_prefix_cons.1 hprefix
    obtain rfl := eq_b_of_toUpper hc hcapital.symm
    cases tail with
    | nil =>
      cases rest with
      | nil => simp at hnext
      | cons d rest =>
        obtain ⟨hd, -⟩ := List.cons_prefix_cons.1 hnext
        exact absurd hd.symm (hrest d rfl)
    | cons e tail =>
      obtain ⟨rfl, -⟩ := List.cons_prefix_cons.1 hnext
      exact absurd ⟨tail, rfl⟩ hby
  · exact infix_of_infix_append htail hinfix

theorem not_hasSeparator_camel {ws : List String} (h : Phrase ws)
    (hby : ∀ w ∈ ws, ¬ ['b', 'y'] <+: w.toList) : ¬ Operation.HasSeparator (camel ws) := by
  intro hseparator
  rw [Operation.HasSeparator] at hseparator
  induction h with
  | @last w word =>
    rw [toList_camel_cons] at hseparator
    have hnil : ['B', 'y'] <:+: ([] : List Char) :=
      infix_of_infix_capitalised word (hby w List.mem_cons_self) (by simp) hseparator
    simp at hnil
  | @cons w ws word _ _ hws ih =>
    obtain ⟨d, rest, hcamel, hd⟩ := hws.exists_camel
    refine ih (fun v hv => hby v (List.mem_cons_of_mem w hv)) ?_
    rw [toList_camel_cons] at hseparator
    refine infix_of_infix_capitalised word (hby w List.mem_cons_self) ?_ hseparator
    rw [hcamel]
    rintro _ ⟨⟩ rfl
    exact absurd hd (by decide)

theorem camel_ne_empty {ws : List String} (h : Phrase ws) : camel ws ≠ "" := by
  obtain ⟨d, rest, hcamel, -⟩ := h.exists_camel
  intro hempty
  rw [hempty] at hcamel
  cases hcamel

/-- Phrases are tokens that a name can carry. -/
theorem tokens_camel {ts fs : List String} (ht : Phrase ts) (hf : Phrase fs)
    (hby : ∀ w ∈ ts, ¬ ['b', 'y'] <+: w.toList) : Operation.Tokens (camel ts) (camel fs) :=
  ⟨camel_ne_empty ht, camel_ne_empty hf, not_hasSeparator_camel ht hby⟩

/-- So are names of the safe shape, which have no capitals at all. -/
theorem all_isTail_of_isSafe {s : List Char} (h : Identifier.isSafe s) : s.all isTail := by
  cases s with
  | nil => rfl
  | cons c rest =>
    rw [Identifier.isSafe, Bool.and_eq_true] at h
    simp [isTail, h.1, h.2]

theorem tokens_of_isSafe {t f : String} (ht : Identifier.isSafe t.toList)
    (hf : Identifier.isSafe f.toList) : Operation.Tokens t f := by
  have hne : ∀ {s : String}, Identifier.isSafe s.toList → s ≠ "" := by
    rintro _ h rfl
    cases h
  refine ⟨hne ht, hne hf, fun hseparator => ?_⟩
  have hall : t.toList.all isTail := all_isTail_of_isSafe ht
  rw [Operation.HasSeparator, ← List.append_nil t.toList] at hseparator
  have hnil := infix_of_infix_append hall hseparator
  simp at hnil

end Words

/-- A name of the safe shape is its own identifier. -/
theorem Identifier.normalize_of_isSafe {s : String} (h : Identifier.isSafe s.toList) :
    Identifier.normalize s = .ok ⟨s, h⟩ := by
  simp only [Identifier.normalize, Identifier.snake_of_isSafe h, String.ofList_toList, h, dite_true]

end CrudByName
