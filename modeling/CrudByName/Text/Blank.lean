/-!
# Blank characters and trimming

`isBlank` is the `White_Space` property of Unicode: twenty-five characters, of which core's
`Char.isWhitespace` knows the four in common use (`isBlank_of_isWhitespace`).  Text is trimmed of
them at its end (`trimEnd`) or on both sides (`trim`), always as a list of characters, so that what
is cut off and what is kept are plain list facts: `trimStart_append_blank` and
`trimEnd_append_blank` say that a blank margin never matters.
-/

namespace CrudByName

namespace Text

/-- The `White_Space` property. -/
def isBlank (c : Char) : Bool :=
  (0x09 ≤ c.toNat && c.toNat ≤ 0x0D) || c.toNat == 0x20 || c.toNat == 0x85 || c.toNat == 0xA0 ||
  c.toNat == 0x1680 || (0x2000 ≤ c.toNat && c.toNat ≤ 0x200A) || c.toNat == 0x2028 ||
  c.toNat == 0x2029 || c.toNat == 0x202F || c.toNat == 0x205F || c.toNat == 0x3000

theorem isBlank_of_isWhitespace (c : Char) (h : c.isWhitespace) : isBlank c := by
  simp only [Char.isWhitespace, Bool.or_eq_true, decide_eq_true_eq] at h
  rcases h with ((rfl | rfl) | rfl) | rfl <;> decide

/-- The printed characters of ASCII are not blank. -/
theorem not_isBlank_of_printed {c : Char} (hlow : 0x20 < c.toNat) (hhigh : c.toNat < 0x7F) :
    isBlank c = false := by
  simp only [isBlank, Bool.or_eq_false_iff, Bool.and_eq_false_iff, decide_eq_false_iff_not,
    beq_eq_false_iff_ne]
  omega

/-! ## Trimming -/

/-- Drops from the end as long as the characters meet `p`. -/
def dropEndWhile (p : Char → Bool) (s : List Char) : List Char :=
  (s.reverse.dropWhile p).reverse

/-- Cuts off the blanks in front. -/
def trimStart (s : List Char) : List Char :=
  s.dropWhile isBlank

/-- Cuts off the blanks at the end. -/
def trimEnd (s : List Char) : List Char :=
  dropEndWhile isBlank s

/-- Cuts off the blanks on both sides. -/
def trim (s : List Char) : List Char :=
  trimEnd (trimStart s)

/-- Whether there is nothing but blanks. -/
def allBlank (s : List Char) : Bool :=
  s.all isBlank

theorem trimStart_append_blank {u : List Char} (h : allBlank u) (s : List Char) :
    trimStart (u ++ s) = trimStart s :=
  List.dropWhile_append_of_pos (List.all_eq_true.1 h)

theorem dropEndWhile_append {p : Char → Bool} {w : List Char} (h : w.all p) (s : List Char) :
    dropEndWhile p (s ++ w) = dropEndWhile p s := by
  rw [dropEndWhile, List.reverse_append, List.dropWhile_append_of_pos, dropEndWhile]
  exact fun c hc => List.all_eq_true.1 h c (List.mem_reverse.1 hc)

theorem trimEnd_append_blank {w : List Char} (h : allBlank w) (s : List Char) :
    trimEnd (s ++ w) = trimEnd s :=
  dropEndWhile_append h s

end Text

end CrudByName
