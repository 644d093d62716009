import CrudByName.Proofs.Except
import CrudByName.Proofs.Json.Grammar
import CrudByName.Proofs.Text.Runs

/-!
# Reading the strings and numbers of a JSON text

Every way to write a string is read back as that string (`Quoted.read_of_writes`), and every way to
write a number as that numeral (`Numeral.scan_of_writes`), whatever text follows.  A string ends at
its closing quote.  A number has no end of its own, so that what follows must not go on with it
(`Numeral.Ends`).
-/

namespace CrudByName

namespace Json

/-! ## Strings -/

namespace Quoted

section

variable {n : Nat} {t : List Char}

theorem length_of_writesUnit (h : WritesUnit n t) : t.length = 4 := by
  cases h
  rfl

theorem unit_of_writesUnit (h : WritesUnit n t) (rest : List Char) : unit (t ++ rest) = .ok n := by
  cases h with
  | mk ha hb hc hd => simp [unit, unit?, ha, hb, hc, hd]

/-- An escape that is one character. -/
theorem character_of_unit (h : WritesUnit n t) (low : isLowSurrogate n = false)
    (high : isHighSurrogate n = false) (rest : List Char) :
    character (t ++ rest) = .ok (Char.ofNat n, rest) := by
  have hdrop : (t ++ rest).drop 4 = rest := List.drop_left' (length_of_writesUnit h)
  simp [character, unit_of_writesUnit h, low, high, hdrop]

theorem not_isLowSurrogate_of_isHighSurrogate (h : isHighSurrogate n = true) :
    isLowSurrogate n = false := by
  simp only [isHighSurrogate, isLowSurrogate, Bool.and_eq_true, decide_eq_true_eq,
    Bool.and_eq_false_iff, decide_eq_false_iff_not] at h ⊢
  omega

/-- Two escapes that are one character together. -/
theorem character_of_pair {m : Nat} {s : List Char} (hs : WritesUnit m s)
    (high : isHighSurrogate m = true) (ht : WritesUnit n t) (low : isLowSurrogate n = true)
    (rest : List Char) :
    character (s ++ '\\' :: 'u' :: (t ++ rest)) = .ok (joined m n, rest) := by
  have hfour : (s ++ '\\' :: 'u' :: (t ++ rest)).drop 4 = '\\' :: 'u' :: (t ++ rest) :=
    List.drop_left' (length_of_writesUnit hs)
  have hten : (s ++ '\\' :: 'u' :: (t ++ rest)).drop 10 = rest := by
    have hlength : (s ++ '\\' :: 'u' :: t).length = 10 := by
      simp [length_of_writesUnit hs, length_of_writesUnit ht]
    have htext : s ++ '\\' :: 'u' :: (t ++ rest) = (s ++ '\\' :: 'u' :: t) ++ rest := by
      simp
    rw [htext, List.drop_left' hlength]
  have hlow : lowUnit ('\\' :: 'u' :: (t ++ rest)) = .ok n := by
    simp [lowUnit, unit_of_writesUnit ht, low]
  simp [character, unit_of_writesUnit hs, not_isLowSurrogate_of_isHighSurrogate high, high, hfour,
    hlow, hten]

end

theorem letter?_of_mem_letters :
    ∀ p ∈ letters, letter? p.1 = some p.2 ∧ p.1 ≠ 'u' := by
  decide

section

variable {c : Char} {s rest : List Char}

theorem read_cons_of_visible (visible : 0x20 ≤ c.toNat) (quote : c ≠ '"') (backslash : c ≠ '\\') :
    read (c :: rest) = (read rest).map fun p => (c :: p.1, p.2) := by
  rw [read, if_neg (Nat.not_lt.2 visible)] <;> simp_all

theorem read_of_letter? {l : Char} (hl : l ≠ 'u') (h : letter? l = some c) :
    read ('\\' :: l :: rest) = (read rest).map fun p => (c :: p.1, p.2) := by
  rw [read, h]
  exact hl

theorem read_of_character (h : character s = .ok (c, rest)) :
    read ('\\' :: 'u' :: s) = (read rest).map fun p => (c :: p.1, p.2) := by
  rw [read]
  split
  · simp_all
  · rename_i d r hd
    obtain ⟨rfl, rfl⟩ : d = c ∧ r = rest := by simpa [h] using hd.symm
    rfl

end

/-- One character is read, and then the others. -/
theorem read_of_writesChar {c : Char} {t : List Char} (h : WritesChar c t) (rest : List Char) :
    read (t ++ rest) = (read rest).map fun p => (c :: p.1, p.2) := by
  cases h with
  | plain visible quote backslash => exact read_cons_of_visible visible quote backslash
  | letter h =>
    obtain ⟨hletter, hu⟩ := letter?_of_mem_letters _ h
    exact read_of_letter? hu hletter
  | unit h low high => exact read_of_character (character_of_unit h low high rest)
  | pair hs high ht low =>
    have htext := read_of_character (character_of_pair hs high ht low rest)
    simpa only [List.cons_append, List.append_assoc] using htext

theorem read_of_writes {s t : List Char} (h : Writes s t) (rest : List Char) :
    read (t ++ '"' :: rest) = .ok (s, rest) := by
  induction h with
  | nil => rw [List.nil_append, read]
  | cons hc _ ih => rw [List.append_assoc, read_of_writesChar hc, ih]; rfl

end Quoted

/-! ## Numbers -/

namespace Numeral

/-- The characters that would go on with a number. -/
def goesOn (c : Char) : Bool :=
  isDigit c || c == '.' || c == 'e' || c == 'E'

/-- A text that a number in front of it does not run into. -/
def Ends (rest : List Char) : Prop :=
  Text.Stops goesOn rest

section

variable {rest : List Char}

theorem ends_nil : Ends [] := by
  simp [Ends, Text.Stops]

theorem Ends.digits (h : Ends rest) : Text.Stops isDigit rest := by
  intro c hc
  have := h c hc
  simp_all [goesOn]

theorem Ends.point (h : Ends rest) : '.' ∉ rest.head? :=
  fun hc => absurd (h '.' hc) (by decide)

/-- A digit is none of the other characters of a number. -/
theorem ne_of_isDigit {c d : Char} (h : isDigit c = true) (hd : isDigit d = false) : c ≠ d := by
  rintro rfl
  simp_all

theorem scanDigits_of_isRun {s : List Char} (h : IsRun s) (hrest : Text.Stops isDigit rest)
    (atEnd : Cause) : scanDigits atEnd (s ++ rest) = .ok (s, rest) := by
  obtain ⟨hne, hdigits⟩ := h
  cases s with
  | nil => exact absurd rfl hne
  | cons c s =>
    obtain ⟨hc, hs⟩ := List.forall_mem_cons.1 hdigits
    rw [List.cons_append, scanDigits, if_pos hc, Text.takeWhile_append_of_stops hs hrest,
      Text.dropWhile_append_of_stops hs hrest]

theorem exists_cons_of_isRun {s : List Char} (h : IsRun s) :
    ∃ c tail, s = c :: tail ∧ isDigit c = true := by
  obtain ⟨hne, hdigits⟩ := h
  cases s with
  | nil => exact absurd rfl hne
  | cons c tail => exact ⟨c, tail, rfl, hdigits c List.mem_cons_self⟩

theorem scanWhole_of_isWhole {s : List Char} (h : IsWhole s) (hrest : Text.Stops isDigit rest) :
    scanWhole (s ++ rest) = .ok (s, rest) := by
  unfold scanWhole
  split
  · rename_i c tail htext
    obtain ⟨d, more, rfl, _⟩ := exists_cons_of_isRun h.toIsRun
    obtain ⟨rfl, _⟩ := List.cons_eq_cons.1 htext
    obtain rfl : more = [] := by simpa using h.zero rfl
    obtain rfl : rest = c :: tail := by simpa using htext
    have hc : isDigit c = false := hrest c rfl
    simp [hc]
  · exact scanDigits_of_isRun h.toIsRun hrest _

theorem scanFraction_of_writes {s t : List Char} (h : WritesFraction s t)
    (hrest : Text.Stops isDigit rest) (hpoint : '.' ∉ rest.head?) :
    scanFraction (t ++ rest) = .ok (s, rest) := by
  cases h with
  | none =>
    rw [List.nil_append]
    unfold scanFraction
    split
    · exact absurd rfl hpoint
    · rfl
  | some hs => exact scanDigits_of_isRun hs hrest _

theorem scanExponent_of_writes {exponent : Option (Bool × List Char)} {u : List Char}
    (h : WritesExponent exponent u) (hrest : Ends rest) :
    scanExponent (u ++ rest) = .ok (exponent, rest) := by
  cases h with
  | none =>
    cases rest with
    | nil => rfl
    | cons c rest =>
      have hc : goesOn c = false := hrest c rfl
      have hletter : ¬(c = 'e' ∨ c = 'E') := by
        rintro (rfl | rfl) <;> exact absurd hc (by decide)
      simp [scanExponent, hletter]
  | @bare e s he hs =>
    have hscan := scanDigits_of_isRun hs hrest.digits .endInValue
    obtain ⟨c, tail, rfl, hc⟩ := exists_cons_of_isRun hs
    have hplus : c ≠ '+' := ne_of_isDigit hc (by decide)
    have hminus : c ≠ '-' := ne_of_isDigit hc (by decide)
    rw [List.cons_append] at hscan ⊢
    simp [scanExponent, he, hplus, hminus, hscan, Except.map]
  | plus he hs =>
    have hscan := scanDigits_of_isRun hs hrest.digits .endInValue
    simp [scanExponent, he, hscan, Except.map]
  | minus he hs =>
    have hscan := scanDigits_of_isRun hs hrest.digits .endInValue
    simp [scanExponent, he, hscan, Except.map]

/-! ### A whole number -/

theorem stops_of_writesFraction {s t : List Char} (h : WritesFraction s t)
    (hrest : Text.Stops isDigit rest) : Text.Stops isDigit (t ++ rest) := by
  cases h with
  | none => exact hrest
  | some _ =>
    rintro c ⟨⟩
    decide

theorem stops_of_writesExponent {exponent : Option (Bool × List Char)} {u : List Char}
    (h : WritesExponent exponent u) (hrest : Ends rest) :
    Text.Stops isDigit (u ++ rest) ∧ '.' ∉ (u ++ rest).head? := by
  have key : ∀ {e : Char} {tail : List Char}, e = 'e' ∨ e = 'E' →
      Text.Stops isDigit (e :: tail) ∧ '.' ∉ (e :: tail).head? := by
    rintro e tail (rfl | rfl) <;> exact ⟨fun c hc => by cases hc; decide, by simp⟩
  cases h with
  | none => exact ⟨hrest.digits, hrest.point⟩
  | bare he _ => exact key he
  | plus he _ => exact key he
  | minus he _ => exact key he

theorem scan_of_writes {n : Numeral} {t : List Char} (h : n.Writes t) (hrest : Ends rest) :
    scan (t ++ rest) = .ok (n, rest) := by
  cases h with
  | @mk negative whole fraction t u exponent hwhole hfraction hexponent =>
    obtain ⟨hdigit, hpoint⟩ := stops_of_writesExponent hexponent hrest
    have h1 := scanWhole_of_isWhole hwhole (stops_of_writesFraction hfraction hdigit)
    have h2 := scanFraction_of_writes hfraction hdigit hpoint
    have h3 := scanExponent_of_writes hexponent hrest
    cases negative with
    | true => simp [scan, sign, h1, h2, h3, bind, Except.bind, pure, Except.pure]
    | false =>
      obtain ⟨c, tail, rfl, hc⟩ := exists_cons_of_isRun hwhole.toIsRun
      have hminus : c ≠ '-' := ne_of_isDigit hc (by decide)
      rw [List.cons_append] at h1
      simp [scan, sign, hminus, h1, h2, h3, bind, Except.bind, pure, Except.pure]

end

end Numeral

end Json

end CrudByName
