import CrudByName.Proofs.Identifier.Words

/-!
# The normal form of a token

A token is a letter with letters, digits and underscores behind it, all of ASCII (`isToken`).
`Identifier.normalize` looks at the text that it has made and not at the one it was given, but what
it accepts can be said of the latter: it accepts the tokens and nothing else
(`isSafe_snake_iff`), since lowering a character makes a letter of a letter only, and an underscore
is put behind a letter only.

What it makes of a token is said without its loop.  A hump is a place where a small letter stands
right before a capital.  `parted` puts an underscore behind every hump and nowhere else, and the
normal form is the parted token in small letters (`snake_eq`).
-/

namespace CrudByName

namespace Identifier

/-! ## Tokens -/

/-- The shape `[A-Za-z][A-Za-z0-9_]*`. -/
def isToken : List Char → Bool
  | [] => false
  | c :: rest =>
    (isLower c || isUpper c) &&
      rest.all fun d => isLower d || isUpper d || isDigit d || d == '_'

theorem isUpper_lower {c : Char} (h : isUpper c) : isLower (lower c) :=
  Words.forall_isUpper (fun c => isLower (lower c)) (by decide) h

theorem lower_of_not_isUpper {c : Char} (h : isUpper c = false) : lower c = c := by
  simp [lower, h]

/-- Nothing but a letter becomes a letter. -/
theorem isLower_lower (c : Char) : isLower (lower c) = (isLower c || isUpper c) := by
  cases h : isUpper c with
  | true => simp [isUpper_lower h]
  | false => simp [lower_of_not_isUpper h]

theorem isTail_lower (c : Char) :
    isTail (lower c) = (isLower c || isUpper c || isDigit c || c == '_') := by
  cases h : isUpper c with
  | true => simp [isTail, isUpper_lower h]
  | false => simp [isTail, lower_of_not_isUpper h]

theorem isTail_underscore : isTail '_' := by
  decide

theorem all_isTail_snake (s : List Char) :
    (snake s).all isTail = s.all fun c => isLower c || isUpper c || isDigit c || c == '_' := by
  induction s with
  | nil => rfl
  | cons c s ih =>
    cases s with
    | nil => simp [snake, isTail_lower]
    | cons d s =>
      rw [snake]
      split
      · rw [List.all_cons, List.all_cons, ih, isTail_lower, isTail_underscore, Bool.true_and]
        rfl
      · rw [List.all_cons, ih, isTail_lower]
        rfl

theorem exists_snake_cons (c : Char) (s : List Char) : ∃ t, snake (c :: s) = lower c :: t := by
  cases s with
  | nil => exact ⟨[], rfl⟩
  | cons d s =>
    rw [snake]
    split
    · exact ⟨_, rfl⟩
    · exact ⟨_, rfl⟩

theorem isSafe_cons_iff {c : Char} {s : List Char} :
    isSafe (c :: s) ↔ isLower c ∧ (c :: s).all isTail := by
  simp only [isSafe, Bool.and_eq_true, List.all_cons]
  constructor
  · rintro ⟨hc, hs⟩
    exact ⟨hc, by simp [isTail, hc], hs⟩
  · rintro ⟨hc, -, hs⟩
    exact ⟨hc, hs⟩

/-- What is made of a text is safe if the text is a token. -/
theorem isSafe_snake_iff (s : List Char) : isSafe (snake s) ↔ isToken s := by
  cases s with
  | nil => simp [snake, isSafe, isToken]
  | cons c s =>
    obtain ⟨t, ht⟩ := exists_snake_cons c s
    have hall := all_isTail_snake (c :: s)
    rw [ht] at hall ⊢
    rw [isSafe_cons_iff, hall, isLower_lower]
    simp only [isToken, List.all_cons, Bool.and_eq_true]
    constructor
    · rintro ⟨hc, -, hs⟩
      exact ⟨hc, hs⟩
    · rintro ⟨hc, hs⟩
      exact ⟨hc, by simp [hc], hs⟩

/-! ## Humps -/

/-- Whether a small letter stands in a place and a capital directly behind it. -/
def isHump (s : List Char) (i : Nat) : Bool :=
  s[i]?.any isLower && s[i + 1]?.any isUpper

/-- The text with an underscore behind every hump. -/
def parted (s : List Char) : List Char :=
  s.zipIdx.flatMap fun (c, i) => if isHump s i then [c, '_'] else [c]

theorem isHump_cons_zero (c : Char) (s : List Char) :
    isHump (c :: s) 0 = (isLower c && s.head?.any isUpper) := by
  simp [isHump, List.head?_eq_getElem?]

theorem isHump_cons_succ (c : Char) (s : List Char) (i : Nat) :
    isHump (c :: s) (i + 1) = isHump s i := by
  simp [isHump]

theorem parted_cons (c : Char) (s : List Char) :
    parted (c :: s) = (if isLower c && s.head?.any isUpper then [c, '_'] else [c]) ++ parted s := by
  rw [parted, List.zipIdx_cons, List.flatMap_cons, Nat.zero_add, List.zipIdx_succ,
    List.flatMap_map, parted]
  simp only [isHump_cons_zero, isHump_cons_succ]

theorem lower_eq_toLower (c : Char) : lower c = c.toLower := by
  cases h : isUpper c with
  | true => exact Words.forall_isUpper (fun c => lower c = c.toLower) (by decide) h
  | false =>
    have hrange : ¬ ('A'.val ≤ c.val ∧ c.val ≤ 'Z'.val) := by
      simpa [isUpper, Char.le_def] using h
    have hlower : c.toLower = c := dif_neg hrange
    rw [lower_of_not_isUpper h, hlower]

/-- Normalizing a text is parting it at its humps and lowering what comes out. -/
theorem snake_eq (s : List Char) : snake s = (parted s).map Char.toLower := by
  induction s with
  | nil => rfl
  | cons c s ih =>
    rw [parted_cons, List.map_append, ← ih]
    cases s with
    | nil => simp [snake, lower_eq_toLower]
    | cons d s =>
      rw [snake, List.head?_cons, Option.any_some]
      split <;> simp [lower_eq_toLower]

/-! ## Normal forms -/

/-- What an identifier has to do with the token that it was made of. -/
structure IsNormalForm (s : String) (i : Identifier) : Prop where
  safe : isSafe i.name.toList
  parted : i.name.toList = (parted s.toList).map Char.toLower
  /-- Nothing is left to do. -/
  fixed : normalize i.name = .ok i

section

variable {s : String} {i : Identifier}

theorem normalize_of_isToken (h : isToken s.toList) :
    ∃ i, normalize s = .ok i ∧ i.name.toList = snake s.toList := by
  have hsafe : isSafe (String.ofList (snake s.toList)).toList := by
    rw [String.toList_ofList]
    exact (isSafe_snake_iff s.toList).2 h
  refine ⟨⟨_, hsafe⟩, ?_, String.toList_ofList⟩
  rw [normalize]
  exact dif_pos hsafe

theorem normalize_of_not_isToken (h : ¬ isToken s.toList) :
    normalize s = .error (.invalidIdentifier s) := by
  rw [← isSafe_snake_iff] at h
  rw [normalize]
  refine dif_neg ?_
  rwa [String.toList_ofList]

theorem exists_normalize_iff : (∃ i, normalize s = .ok i) ↔ isToken s.toList := by
  constructor
  · rintro ⟨i, hi⟩
    refine Decidable.byContradiction fun h => ?_
    rw [normalize_of_not_isToken h] at hi
    cases hi
  · intro h
    obtain ⟨i, hi, -⟩ := normalize_of_isToken h
    exact ⟨i, hi⟩

theorem toList_name_of_normalize (h : normalize s = .ok i) : i.name.toList = snake s.toList := by
  obtain ⟨j, hj, hname⟩ := normalize_of_isToken (exists_normalize_iff.1 ⟨i, h⟩)
  rw [h] at hj
  cases hj
  exact hname

theorem isNormalForm_of_normalize (h : normalize s = .ok i) : IsNormalForm s i where
  safe := i.safe
  parted := (toList_name_of_normalize h).trans (snake_eq s.toList)
  fixed := normalize_of_isSafe i.safe

/-- A token that is left as it is has the shape of an identifier. -/
theorem exists_unchanged_iff : (∃ i, normalize s = .ok i ∧ i.name = s) ↔ isSafe s.toList := by
  constructor
  · rintro ⟨i, -, rfl⟩
    exact i.safe
  · intro h
    exact ⟨⟨s, h⟩, normalize_of_isSafe h, rfl⟩

/-- Tokens have an identifier and other texts are refused.  The identifier is the token, parted at
its humps and in small letters, and is its own normal form; it is the token itself if that has the
shape of an identifier already. -/
theorem normalize_exact (s : String) :
    ((∃ i, normalize s = .ok i) ↔ isToken s.toList) ∧
      (normalize s = .error (.invalidIdentifier s) ↔ ¬ isToken s.toList) ∧
      (∀ i, normalize s = .ok i → IsNormalForm s i) ∧
      ((∃ i, normalize s = .ok i ∧ i.name = s) ↔ isSafe s.toList) := by
  refine ⟨exists_normalize_iff, ⟨fun h htoken => ?_, normalize_of_not_isToken⟩,
    fun i hi => isNormalForm_of_normalize hi, exists_unchanged_iff⟩
  obtain ⟨i, hi, -⟩ := normalize_of_isToken htoken
  rw [h] at hi
  cases hi

/-- Humps, a run of capitals, digits and an underscore. -/
theorem normalize_exact_mixed :
    let i : Identifier := ⟨"a_bxml2t_o_", by decide⟩
    normalize "aBXML2T_o_" = .ok i ∧ IsNormalForm "aBXML2T_o_" i := by
  intro i
  have hi : normalize "aBXML2T_o_" = .ok i := by rfl
  exact ⟨hi, (normalize_exact "aBXML2T_o_").2.2.1 i hi⟩

end

end Identifier

end CrudByName
