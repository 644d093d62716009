import CrudByName.Json.Numeral
import CrudByName.Json.Quoted

/-!
# Reading JSON

A `Reader` makes a value of the front of a text, or a fault, and what it leaves is shorter than
what it was given; the proof travels in `Read` and is what the loops over items and members end by.

`Reader.value` is the grammar of values.  It takes the readers of strings and numbers as a
parameter (`Lexemes`) and the number of containers that may still be opened as its measure.
`Reader.whole` reads a text as one value with nothing but blanks around it; `Json.read` is that
with the usual lexemes.
-/

namespace CrudByName

namespace Json

/-- A value, and what is left of the text `s` it was read from. -/
structure Read (α : Type) (s : List Char) where
  value : α
  rest : List Char
  shorter : rest.length < s.length

/-- A reader makes a value of the front of a text. -/
abbrev Reader (α : Type) : Type :=
  (s : List Char) → Except Fault (Read α s)

/-! ## Blanks -/

/-- The four blanks of JSON. -/
def isBlank (c : Char) : Bool :=
  c == ' ' || c == '\n' || c == '\t' || c == '\r'

/-- A text without the blanks in front. -/
def skipBlanks (s : List Char) : List Char :=
  s.dropWhile isBlank

theorem length_skipBlanks (s : List Char) : (skipBlanks s).length ≤ s.length :=
  (List.dropWhile_sublist isBlank).length_le

theorem length_of_skipBlanks {s rest : List Char} {c : Char} (h : skipBlanks s = c :: rest) :
    rest.length < s.length := by
  have := length_skipBlanks s
  simp only [h, List.length_cons] at this
  omega

theorem length_le_of_brace {s rest : List Char} (h : skipBlanks s = '{' :: rest) :
    rest.length ≤ s.length :=
  Nat.le_of_lt (length_of_skipBlanks h)

/-! ## Words -/

/-- The rest of a word whose first letter has been taken. -/
def afterWord : (word s : List Char) → Except Fault (List Char)
  | [], s => .ok s
  | _ :: _, [] => .error ⟨.endInValue, 0⟩
  | w :: word, c :: s =>
    if c = w then afterWord word s else .error (.seen .expectedIdent (c :: s))

theorem length_afterWord {word s rest : List Char} (h : afterWord word s = .ok rest) :
    rest.length ≤ s.length := by
  fun_induction afterWord word s with
  | case1 => simp_all
  | case2 => simp at h
  | case3 _ _ _ ih =>
    have := ih h
    simp only [List.length_cons]
    omega
  | case4 => simp at h

namespace Reader

/-- Reads a value after some text that has been taken already. -/
def after {s t : List Char} (h : t.length ≤ s.length) (r : Except Fault (Read α t)) :
    Except Fault (Read α s) :=
  r.map fun r => ⟨r.value, r.rest, Nat.lt_of_lt_of_le r.shorter h⟩

/-- Reads the rest of a word, which stands for a value. -/
def word (word : List Char) (value : α) {s : List Char} (t : List Char)
    (h : t.length < s.length) : Except Fault (Read α s) :=
  match hw : afterWord word t with
  | .error e => .error e
  | .ok rest => .ok ⟨value, rest, Nat.lt_of_le_of_lt (length_afterWord hw) h⟩

/-! ## Lists -/

/-- Items up to the closing bracket, the first of which is due. -/
def items (element : Reader α) (s : List Char) : Except Fault (Read (List α) s) :=
  match element s with
  | .error e => .error e
  | .ok first =>
    match h : skipBlanks first.rest with
    | [] => .error (.seen .endInList [])
    | ']' :: rest =>
      .ok ⟨[first.value], rest, Nat.lt_trans (length_of_skipBlanks h) first.shorter⟩
    | ',' :: rest =>
      match hr : skipBlanks rest with
      | [] => .error (.seen .endInValue [])
      | ']' :: rest => .error (.seen .trailingComma (']' :: rest))
      | c :: next =>
        have hn : (c :: next).length < s.length := by
          have h1 := length_of_skipBlanks h
          have h2 := length_skipBlanks rest
          have h3 := first.shorter
          simp only [hr] at h2
          omega
        match items element (c :: next) with
        | .error e => .error e
        | .ok more =>
          .ok ⟨first.value :: more.value, more.rest, Nat.lt_trans more.shorter hn⟩
    | rest => .error (.seen .expectedCommaOrBracket rest)
termination_by s.length

/-- The items of a list whose opening bracket has been taken. -/
def list (element : Reader α) (s : List Char) : Except Fault (Read (List α) s) :=
  match h : skipBlanks s with
  | [] => .error (.seen .endInList [])
  | ']' :: rest => .ok ⟨[], rest, length_of_skipBlanks h⟩
  | c :: rest => after (h ▸ length_skipBlanks s) (items element (c :: rest))

/-! ## Objects -/

/-- The value of a member, with the colon in front of it. -/
def memberValue (element : Reader α) (s : List Char) : Except Fault (Read α s) :=
  match h : skipBlanks s with
  | [] => .error (.seen .endInObject [])
  | ':' :: rest => after (Nat.le_of_lt (length_of_skipBlanks h)) (element rest)
  | rest => .error (.seen .expectedColon rest)

/-- One member, whose opening quote has been taken.  How its value is read may depend on its
name. -/
def member (name : Reader κ) (element : κ → Reader α) (s : List Char) :
    Except Fault (Read (κ × α) s) :=
  match name s with
  | .error e => .error e
  | .ok k =>
    match memberValue (element k.value) k.rest with
    | .error e => .error e
    | .ok v => .ok ⟨(k.value, v.value), v.rest, Nat.lt_trans v.shorter k.shorter⟩

/-- Members up to the closing brace; the opening quote of the first has been taken. -/
def members (name : Reader κ) (element : κ → Reader α) (s : List Char) :
    Except Fault (Read (List (κ × α)) s) :=
  match member name element s with
  | .error e => .error e
  | .ok first =>
    match h : skipBlanks first.rest with
    | [] => .error (.seen .endInObject [])
    | '}' :: rest =>
      .ok ⟨[first.value], rest, Nat.lt_trans (length_of_skipBlanks h) first.shorter⟩
    | ',' :: rest =>
      match hr : skipBlanks rest with
      | [] => .error (.seen .endInValue [])
      | '}' :: rest => .error (.seen .trailingComma ('}' :: rest))
      | '"' :: next =>
        have hn : next.length < s.length :=
          Nat.lt_trans (length_of_skipBlanks hr)
            (Nat.lt_trans (length_of_skipBlanks h) first.shorter)
        match members name element next with
        | .error e => .error e
        | .ok more =>
          .ok ⟨first.value :: more.value, more.rest, Nat.lt_trans more.shorter hn⟩
      | rest => .error (.seen .keyMustBeString rest)
    | rest => .error (.seen .expectedCommaOrBrace rest)
termination_by s.length

/-- The members of an object whose opening brace has been taken. -/
def object (name : Reader κ) (element : κ → Reader α) (s : List Char) :
    Except Fault (Read (List (κ × α)) s) :=
  match h : skipBlanks s with
  | [] => .error (.seen .endInObject [])
  | '}' :: rest => .ok ⟨[], rest, length_of_skipBlanks h⟩
  | '"' :: rest => after (Nat.le_of_lt (length_of_skipBlanks h)) (members name element rest)
  | rest => .error (.seen .keyMustBeString rest)

end Reader

/-! ## Values -/

/-- How the strings of a text are read, from behind the opening quote, and its numbers. -/
structure Lexemes where
  string : Reader String
  number : Reader Number

namespace Reader

/-- Reads a value in which containers stand at most so many deep. -/
def value (lexemes : Lexemes) (depth : Nat) (s : List Char) : Except Fault (Read Json s) :=
  match h : skipBlanks s with
  | [] => .error (.seen .endInValue [])
  | 'n' :: rest => word ['u', 'l', 'l'] .null rest (length_of_skipBlanks h)
  | 't' :: rest => word ['r', 'u', 'e'] (.bool true) rest (length_of_skipBlanks h)
  | 'f' :: rest => word ['a', 'l', 's', 'e'] (.bool false) rest (length_of_skipBlanks h)
  | '"' :: rest =>
    after (Nat.le_of_lt (length_of_skipBlanks h)) <| (lexemes.string rest).map fun r =>
      ⟨.string r.value, r.rest, r.shorter⟩
  | '[' :: rest =>
    match depth with
    | 0 => .error (.seen .recursionLimit ('[' :: rest))
    | depth + 1 =>
      after (Nat.le_of_lt (length_of_skipBlanks h)) <| (list (value lexemes depth) rest).map
        fun r => ⟨.array r.value, r.rest, r.shorter⟩
  | '{' :: rest =>
    match depth with
    | 0 => .error (.seen .recursionLimit ('{' :: rest))
    | depth + 1 =>
      after (length_le_of_brace h) <|
        (object lexemes.string (fun _ => value lexemes depth) rest).map
          fun r => ⟨.object r.value, r.rest, r.shorter⟩
  | c :: rest =>
    if c = '-' ∨ isDigit c then
      after (h ▸ length_skipBlanks s) <| (lexemes.number (c :: rest)).map fun r =>
        ⟨.number r.value, r.rest, r.shorter⟩
    else .error (.seen .expectedValue (c :: rest))
termination_by structural depth

/-- A text that is read to its end, blanks apart. -/
def whole (element : Reader α) (s : List Char) : Except Fault α :=
  match element s with
  | .error e => .error e
  | .ok r =>
    match skipBlanks r.rest with
    | [] => .ok r.value
    | rest => .error (.seen .trailingCharacters rest)

/-! ## The lexemes -/

/-- Reads a string from behind its opening quote. -/
def string (s : List Char) : Except Fault (Read String s) :=
  match h : Quoted.read s with
  | .error e => .error e
  | .ok (t, rest) => .ok ⟨String.ofList t, rest, Quoted.length_read h⟩

/-- Reads a number. -/
def number (s : List Char) : Except Fault (Read Number s) :=
  match h : Numeral.scan s with
  | .error e => .error e
  | .ok (n, rest) =>
    match n.value with
    | .error unread => .error ⟨.numberRange, byteCount rest + unread⟩
    | .ok v => .ok ⟨v, rest, Numeral.length_scan h⟩

/-- Reads over a string. -/
def anyString (s : List Char) : Except Fault (Read String s) :=
  match h : Quoted.skip s with
  | .error e => .error e
  | .ok rest => .ok ⟨"", rest, Quoted.length_skip h⟩

/-- Reads over a number. -/
def anyNumber (s : List Char) : Except Fault (Read Number s) :=
  match h : Numeral.scan s with
  | .error e => .error e
  | .ok (_, rest) => .ok ⟨.integer 0, rest, Numeral.length_scan h⟩

end Reader

/-- Strings and numbers with what they stand for. -/
def Lexemes.exact : Lexemes where
  string := Reader.string
  number := Reader.number

/-- The shape of strings and numbers without their meaning. -/
def Lexemes.shapeOnly : Lexemes where
  string := Reader.anyString
  number := Reader.anyNumber

/-- How many containers may be open at once. -/
def maxDepth : Nat := 127

/-- A value whose shape alone is checked, however deep. -/
def Reader.ignored (s : List Char) : Except Fault (Read Unit s) :=
  (Reader.value .shapeOnly s.length s).map fun r => ⟨(), r.rest, r.shorter⟩

/-- Reads a text as one JSON value. -/
def read (text : List Char) : Except Located Json :=
  (Reader.whole (Reader.value .exact maxDepth) text).mapError (Fault.locate text)

end Json

end CrudByName
