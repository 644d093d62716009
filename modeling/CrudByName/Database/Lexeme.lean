import CrudByName.Database.Fault
import CrudByName.Text.Hex

/-!
# Words of a statement

`Lexeme.scan` takes the text of a statement apart into words, names in quotes, numbers,
placeholders, literals of text and bytes, and marks.  Blanks and comments are dropped, and a zero
byte ends the text.  Every lexeme knows how many bytes of the text are left from its first one on,
which is how a fault points to it.

A name stands between double quotes, backquotes or brackets, and text between single quotes.  A
quote that is written twice inside does not close it.  A number has digits, with a point among them
or at either end, and an exponent.
-/

namespace CrudByName

namespace Database

/-- A piece of a statement. -/
inductive Token where
  | word (s : List Char)
  | quoted (name : List Char)
  | number (s : List Char)
  | param (n : Nat)
  | bytes (b : List UInt8)
  | literal (s : List Char)
  | mark (c : Char)
  /-- A mark of several characters, or a placeholder that has a name. -/
  | other (s : List Char)
  /-- A piece of text that is no token. -/
  | unknown (s : List Char)
  deriving DecidableEq, Repr

/-- A token as it is written, with the bytes of the text left from its start on. -/
structure Lexeme where
  token : Token
  text : List Char
  left : Nat
  deriving DecidableEq, Repr

namespace Lexeme

/-- The blanks between tokens. -/
def isBlank (c : Char) : Bool :=
  c == ' ' || c == '\t' || c == '\n' || c == '\r' || c == '\x0c'

/-- The characters that a word can begin with. -/
def startsWord (c : Char) : Bool :=
  c.isAlpha || c == '_' || 0x80 ≤ c.toNat

/-- The characters that a word goes on with. -/
def inWord (c : Char) : Bool :=
  startsWord c || Decimal.isDigit c || c == '$'

/-- What stands up to the quote that closes it, and what follows that. -/
def upToQuote (q : Char) : List Char → Option (List Char × List Char)
  | [] => none
  | [c] => if c = q then some ([], []) else none
  | c :: d :: rest =>
    if c = q then
      if d = q then (upToQuote q rest).map fun (inside, after) => (q :: inside, after)
      else some ([], d :: rest)
    else (upToQuote q (d :: rest)).map fun (inside, after) => (c :: inside, after)

/-- What stands up to the next character of that kind, and what follows it. -/
def upToNext (q : Char) (s : List Char) : Option (List Char × List Char) :=
  match s.dropWhile (· ≠ q) with
  | _ :: rest => some (s.takeWhile (· ≠ q), rest)
  | [] => none

/-- What follows a comment that ends at a star and a slash, or at the end of the text. -/
def afterComment : List Char → List Char
  | [] => []
  | '*' :: '/' :: rest => rest
  | _ :: rest => afterComment rest

theorem length_afterComment (s : List Char) : (afterComment s).length ≤ s.length := by
  fun_induction afterComment s with
  | case1 => simp
  | case2 => simp only [List.length_cons]; omega
  | case3 _ _ _ ih => simp only [List.length_cons]; omega

/-- A token between quotes, or one that is none because they are not closed. -/
def between (c : Char) (rest : List Char) (make : List Char → Token) :
    Option (List Char × List Char) → Token × List Char
  | some (inside, after) => (make inside, after)
  | none => (.unknown (c :: rest), [])

/-- A literal of bytes by its digits. -/
def bytesToken (c : Char) (digits : List Char) : Token :=
  match Hex.decodeList digits with
  | some bytes => .bytes bytes
  | none => .unknown (c :: '\x27' :: digits ++ ['\x27'])

/-! ### Numbers -/

/-- How many digits there are at the front of a text, with the marks that can hold them apart. -/
def digitCount (s : List Char) : Nat :=
  (s.takeWhile fun c => Decimal.isDigit c || c == '_').length

/-- How long the fraction at the front of a text is, with its point. -/
def fractionLength : List Char → Nat
  | '.' :: rest => 1 + digitCount rest
  | _ => 0

/-- How long the exponent at the front of a text is; it begins with a digit, or it is none. -/
def exponentLength : List Char → Nat
  | [] => 0
  | e :: rest =>
    let sign := match rest with
      | '+' :: _ | '-' :: _ => 1
      | _ => 0
    let digits := rest.drop sign
    if (e = 'e' ∨ e = 'E') ∧ digits.head?.any Decimal.isDigit then 1 + sign + digitCount digits
    else 0

/-- How long the number at the front of a text is. -/
def numberLength (s : List Char) : Nat :=
  let whole := digitCount s
  let mantissa := whole + fractionLength (s.drop whole)
  mantissa + exponentLength (s.drop mantissa)

/-- Whether a number begins with this character, before that text. -/
def startsNumber (c : Char) (rest : List Char) : Bool :=
  Decimal.isDigit c || (c == '.' && rest.head?.any Decimal.isDigit)

/-- Whether a number can have these letters and digits behind its first ones, as one of base sixteen
has. -/
def endsNumber (digits : List Char) : (more : List Char) → Bool
  | [] => true
  | x :: hex =>
    digits = ['0'] && (x == 'x' || x == 'X') && hex ≠ [] &&
      hex.all fun c => (Hex.value? c).isSome || c == '_'

/-- The token of a number, and what follows it.  No word may follow it at once. -/
def numberToken (c : Char) (rest : List Char) : Token × List Char :=
  let n := numberLength (c :: rest) - 1
  let digits := c :: rest.take n
  let after := rest.drop n
  let more := after.takeWhile inWord
  (if endsNumber digits more then .number (digits ++ more) else .unknown (digits ++ more),
    after.dropWhile inWord)

/-! ### Marks -/

/-- The marks that are written with several characters, of which one that begins another follows
it. -/
def longMarks : List (List Char) := [
  ['-', '>', '>'], ['-', '>'], ['<', '='], ['<', '>'], ['<', '<'], ['>', '='], ['>', '>'],
  ['=', '='], ['!', '='], ['|', '|']]

/-- Whether a placeholder with a name begins with this character. -/
def startsNamed (c : Char) : Bool :=
  c == '@' || c == '#' || c == '$' || c == ':'

/-- Whether no token begins with this character alone. -/
def isForeign (c : Char) : Bool :=
  c.toNat < 0x20 || c == '\x7f' || ['!', '\\', ']', '^', '\x7b', '\x7d'].contains c

/-- The token of a mark, and what follows it. -/
def markToken (c : Char) (rest : List Char) : Token × List Char :=
  match longMarks.find? fun m => m.isPrefixOf (c :: rest) with
  | some m => (.other m, rest.drop (m.length - 1))
  | none => (if isForeign c then .unknown [c] else .mark c, rest)

/-! ### All tokens -/

/-- The token at the front of a text, and what follows it.  The text is given as its first
character and the rest. -/
def front (c : Char) (rest : List Char) : Token × List Char :=
  if c = '\x27' then between c rest .literal (upToQuote c rest)
  else if c = '"' ∨ c = '\x60' then between c rest .quoted (upToQuote c rest)
  else if c = '[' then between c rest .quoted (upToNext ']' rest)
  else if startsWord c then
    match rest with
    | '\x27' :: inside =>
      if c = 'x' ∨ c = 'X' then between c rest (bytesToken c) (upToNext '\x27' inside)
      else (.word [c], rest)
    | _ => (.word (c :: rest.takeWhile inWord), rest.dropWhile inWord)
  else if startsNumber c rest then numberToken c rest
  else if c = '?' then
    (.param (Decimal.ofDigits (rest.takeWhile Decimal.isDigit)), rest.dropWhile Decimal.isDigit)
  else if startsNamed c then
    let name := rest.takeWhile inWord
    (if name = [] then .unknown [c] else .other (c :: name), rest.dropWhile inWord)
  else markToken c rest

theorem length_dropWhile (p : Char → Bool) (s : List Char) : (s.dropWhile p).length ≤ s.length :=
  (List.dropWhile_sublist p).length_le

theorem length_upToQuote {q : Char} {s inside after : List Char}
    (h : upToQuote q s = some (inside, after)) : after.length ≤ s.length := by
  fun_induction upToQuote q s generalizing inside after with
  | case1 => simp at h
  | case2 => simp_all
  | case3 => simp at h
  | case4 rest ih =>
    obtain ⟨r, hr, he⟩ := Option.map_eq_some_iff.1 h
    have := ih hr
    simp only [Prod.mk.injEq] at he
    simp only [← he.2, List.length_cons]
    omega
  | case5 =>
    simp only [Option.some.injEq, Prod.mk.injEq] at h
    simp [← h.2]
  | case6 c d rest _ ih =>
    obtain ⟨r, hr, he⟩ := Option.map_eq_some_iff.1 h
    have := ih hr
    simp only [Prod.mk.injEq] at he
    simp only [← he.2, List.length_cons] at this ⊢
    omega

theorem length_upToNext {q : Char} {s inside after : List Char}
    (h : upToNext q s = some (inside, after)) : after.length ≤ s.length := by
  unfold upToNext at h
  split at h
  · rename_i c rest hd
    simp only [Option.some.injEq, Prod.mk.injEq] at h
    have := length_dropWhile (· ≠ q) s
    rw [hd, h.2, List.length_cons] at this
    omega
  · simp at h

theorem length_between {c : Char} {rest s : List Char} {make : List Char → Token}
    {found : Option (List Char × List Char)}
    (h : ∀ inside after, found = some (inside, after) → after.length ≤ s.length) :
    (between c rest make found).2.length ≤ s.length := by
  rcases found with _ | ⟨inside, after⟩
  · simp [between]
  · exact h inside after rfl

theorem length_numberToken (c : Char) (rest : List Char) :
    (numberToken c rest).2.length ≤ rest.length :=
  Nat.le_trans (length_dropWhile inWord _) (by simp)

theorem length_markToken (c : Char) (rest : List Char) :
    (markToken c rest).2.length ≤ rest.length := by
  unfold markToken
  split <;> simp

theorem length_front (c : Char) (rest : List Char) : (front c rest).2.length ≤ rest.length := by
  unfold front
  split
  · exact length_between fun _ _ h => length_upToQuote h
  · split
    · exact length_between fun _ _ h => length_upToQuote h
    · split
      · exact length_between fun _ _ h => length_upToNext h
      · split
        · split
          · split
            · exact Nat.le_trans (length_between fun _ _ h => length_upToNext h) (by simp)
            · simp
          · exact length_dropWhile _ _
        · split
          · exact length_numberToken c rest
          · split
            · exact length_dropWhile _ _
            · split
              · exact length_dropWhile _ _
              · exact length_markToken c rest

/-- All lexemes of a text. -/
def scan (s : List Char) : List Lexeme :=
  match s with
  | [] => []
  | '\x00' :: _ => []
  | '-' :: '-' :: rest =>
    have := length_dropWhile (· ≠ '\n') rest
    scan (rest.dropWhile (· ≠ '\n'))
  | '/' :: '*' :: rest =>
    have := length_afterComment rest
    scan (afterComment rest)
  | c :: rest =>
    if isBlank c then scan rest
    else
      have := length_front c rest
      let after := (front c rest).2
      ⟨(front c rest).1, (c :: rest).take (rest.length + 1 - after.length),
        Json.byteCount (c :: rest)⟩ :: scan after
termination_by s.length
decreasing_by all_goals simp_all only [List.length_cons]; omega

/-! ## Statements -/

/-- Whether a lexeme ends a statement. -/
def endsStatement (l : Lexeme) : Bool :=
  l.token = .mark ';'

/-- Takes a text apart into statements, each with the semicolon that ends it. -/
def statements : List Lexeme → List (List Lexeme)
  | [] => []
  | l :: rest =>
    if l.endsStatement then [l] :: statements rest
    else
      match statements rest with
      | [] => [[l]]
      | s :: more => (l :: s) :: more

theorem flatten_statements (ls : List Lexeme) : (statements ls).flatten = ls := by
  induction ls with
  | nil => rfl
  | cons l ls ih =>
    simp only [statements]
    split
    · simp [ih]
    · split
      · rename_i h
        rw [h] at ih
        simp [← ih]
      · rename_i h
        rw [h] at ih
        simp [← ih]

/-- The last part of a text, of that many bytes. -/
def suffix (left : Nat) : List Char → List Char
  | [] => []
  | c :: rest => if Json.byteCount (c :: rest) ≤ left then c :: rest else suffix left rest

/-- The part of a text that lexemes stand in, from the first of them to the last. -/
def span (text : List Char) (s : List Lexeme) : List Char :=
  match s.head?, s.getLast? with
  | some first, some last =>
    let begun := suffix first.left text
    let rest := suffix (last.left - Json.byteCount last.text) begun
    begun.take (begun.length - rest.length)
  | _, _ => []

/-- The text after a statement. -/
def after (text : List Char) (s : List Lexeme) : List Char :=
  match s.getLast? with
  | some l => suffix (l.left - 1) text
  | none => []

end Lexeme

end Database

end CrudByName
