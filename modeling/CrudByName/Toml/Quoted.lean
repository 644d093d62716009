import CrudByName.Text.Hex
import CrudByName.Toml.Item

/-!
# Strings of a TOML document

There are four kinds: between double quotes with escapes or between single quotes without, and each
on one line or, between three quotes, on several.  Each reader takes what follows the opening quotes
and gives the characters of the string and what follows the closing ones.

On several lines, a line feed right behind the opening quotes is dropped, a carriage return before a
line feed is too, and one or two quotes may stand before the closing three.  A backslash at the end
of a line makes all blanks and line feeds after it disappear.
-/

namespace CrudByName

namespace Toml

/-- The characters that may stand in a document outside line ends. -/
def isPrintable (c : Char) : Bool :=
  c == '\t' || (0x20 ≤ c.toNat && c.toNat ≠ 0x7F)

/-- The blanks of a line. -/
def isBlank (c : Char) : Bool :=
  c == ' ' || c == '\t'

namespace Quoted

/-! ## Escapes -/

/-- The number written by hexadecimal digits. -/
def hexNumber? (s : List Char) : Option Nat :=
  s.foldlM (fun n c => (Hex.value? c).map fun d => 16 * n + d) 0

/-- The character written by its code point in so many digits. -/
def codePoint? (width : Nat) (s : List Char) : Option Char :=
  if s.length < width then none
  else
    (hexNumber? (s.take width)).bind fun n =>
      if n < 0xD800 ∨ (0xDFFF < n ∧ n < 0x110000) then some (Char.ofNat n) else none

/-- The character of an escape, from behind the backslash, and what follows it. -/
def escape? (s : List Char) : Option (Char × List Char) :=
  match s with
  | '"' :: rest => some ('"', rest)
  | '\\' :: rest => some ('\\', rest)
  | 'b' :: rest => some ('\x08', rest)
  | 'f' :: rest => some ('\x0c', rest)
  | 'n' :: rest => some ('\n', rest)
  | 'r' :: rest => some ('\r', rest)
  | 't' :: rest => some ('\t', rest)
  | 'u' :: rest => (codePoint? 4 rest).map fun c => (c, rest.drop 4)
  | 'U' :: rest => (codePoint? 8 rest).map fun c => (c, rest.drop 8)
  | _ => none

theorem length_escape? {s rest : List Char} {c : Char} (h : escape? s = some (c, rest)) :
    rest.length < s.length := by
  unfold escape? at h
  split at h
  case h_8 | h_9 =>
    obtain ⟨_, _, hc⟩ := Option.map_eq_some_iff.1 h
    simp only [Prod.mk.injEq] at hc
    simp only [← hc.2, List.length_cons, List.length_drop]
    omega
  all_goals simp_all

/-! ## One line -/

/-- Puts a character in front of what was read. -/
def put (c : Char) (r : List Char × List Char) : List Char × List Char :=
  (c :: r.1, r.2)

/-- A string on one line, with escapes. -/
def basic (s : List Char) : Except Fault (List Char × List Char) :=
  match s with
  | [] => .error (.unexpected 0)
  | '"' :: rest => .ok ([], rest)
  | '\\' :: rest =>
    match h : escape? rest with
    | none => .error (.unexpected rest.length)
    | some (c, rest') =>
      have := length_escape? h
      (basic rest').map (put c)
  | c :: rest =>
    if isPrintable c then (basic rest).map (put c) else .error (.unexpected (c :: rest).length)
termination_by s.length
decreasing_by all_goals simp only [List.length_cons]; omega

/-- A string on one line, without escapes. -/
def literal (s : List Char) : Except Fault (List Char × List Char) :=
  match s with
  | [] => .error (.unexpected 0)
  | '\x27' :: rest => .ok ([], rest)
  | c :: rest =>
    if isPrintable c then (literal rest).map (put c) else .error (.unexpected (c :: rest).length)

/-! ## Several lines -/

/-- Cuts off a line end. -/
def lineEnd? : List Char → Option (List Char)
  | '\n' :: rest => some rest
  | '\r' :: '\n' :: rest => some rest
  | _ => none

/-- Drops blanks and line ends. -/
def dropSpace : List Char → List Char
  | '\r' :: '\n' :: rest => dropSpace rest
  | c :: rest => if isBlank c ∨ c = '\n' then dropSpace rest else c :: rest
  | [] => []

theorem length_dropSpace (s : List Char) : (dropSpace s).length ≤ s.length := by
  fun_induction dropSpace s <;> simp only [List.length_cons, List.length_nil] <;> omega

/-- What follows a backslash at the end of a line, further blanks and line ends left out. -/
def continued? (s : List Char) : Option (List Char) :=
  (lineEnd? (s.dropWhile isBlank)).map dropSpace

theorem length_dropWhile_le (p : Char → Bool) (s : List Char) :
    (s.dropWhile p).length ≤ s.length :=
  (List.dropWhile_suffix p).length_le

theorem length_lineEnd? {s rest : List Char} (h : lineEnd? s = some rest) :
    rest.length < s.length := by
  unfold lineEnd? at h
  split at h
  · obtain rfl := Option.some.inj h
    simp
  · obtain rfl := Option.some.inj h
    simp only [List.length_cons]
    omega
  · simp at h

theorem length_continued? {s rest : List Char} (h : continued? s = some rest) :
    rest.length < s.length := by
  obtain ⟨t, ht, rfl⟩ := Option.map_eq_some_iff.1 h
  have h₁ := length_lineEnd? ht
  have h₂ := length_dropSpace t
  have h₃ := length_dropWhile_le isBlank s
  omega

/-- What three quotes and up to two more in front of them close, and what follows. -/
def closing? (quote : Char) : List Char → Option (List Char × List Char)
  | a :: b :: c :: rest =>
    if a = quote ∧ b = quote ∧ c = quote then
      match rest with
      | d :: e :: rest' =>
        if d = quote ∧ e = quote then some ([quote, quote], rest')
        else if d = quote then some ([quote], e :: rest')
        else some ([], rest)
      | [d] => if d = quote then some ([quote], []) else some ([], rest)
      | [] => some ([], [])
    else none
  | _ => none

/-- A string on several lines, with escapes. -/
def basicLines (s : List Char) : Except Fault (List Char × List Char) :=
  match closing? '"' s with
  | some r => .ok r
  | none =>
    match s with
    | [] => .error (.unexpected 0)
    | '\\' :: rest =>
      match hc : continued? rest with
      | some rest' =>
        have := length_continued? hc
        basicLines rest'
      | none =>
        match h : escape? rest with
        | none => .error (.unexpected rest.length)
        | some (c, rest') =>
          have := length_escape? h
          (basicLines rest').map (put c)
    | '\r' :: '\n' :: rest => (basicLines rest).map (put '\n')
    | c :: rest =>
      if isPrintable c ∨ c = '\n' then (basicLines rest).map (put c)
      else .error (.unexpected (c :: rest).length)
termination_by s.length
decreasing_by all_goals simp only [List.length_cons]; omega

/-- A string on several lines, without escapes. -/
def literalLines (s : List Char) : Except Fault (List Char × List Char) :=
  match closing? '\x27' s with
  | some r => .ok r
  | none =>
    match s with
    | [] => .error (.unexpected 0)
    | '\r' :: '\n' :: rest => (literalLines rest).map (put '\n')
    | c :: rest =>
      if isPrintable c ∨ c = '\n' then (literalLines rest).map (put c)
      else .error (.unexpected (c :: rest).length)
termination_by s.length
decreasing_by all_goals simp only [List.length_cons]; omega

/-! ## Any kind -/

/-- A line end right behind the opening quotes does not count. -/
def dropLineEnd (s : List Char) : List Char :=
  (lineEnd? s).getD s

/-- A string on one line, from its opening quote on; anything else has no reading. -/
def oneLine? (s : List Char) : Option (Except Fault (List Char × List Char)) :=
  match s with
  | '"' :: rest => some (basic rest)
  | '\x27' :: rest => some (literal rest)
  | _ => none

/-- A string of any kind, from its opening quotes on; anything else has no reading. -/
def read? (s : List Char) : Option (Except Fault (List Char × List Char)) :=
  match s with
  | '"' :: '"' :: '"' :: rest => some (basicLines (dropLineEnd rest))
  | '\x27' :: '\x27' :: '\x27' :: rest => some (literalLines (dropLineEnd rest))
  | _ => oneLine? s

end Quoted

end Toml

end CrudByName
