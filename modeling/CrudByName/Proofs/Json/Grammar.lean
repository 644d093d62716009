import CrudByName.Json.Reader

/-!
# The grammar of JSON texts

What a JSON text looks like, said without a reader.  A `Form` is a value as it is written: unlike a
`Json`, it keeps a number as the numeral that stands in the text, of any length and any size.
`Form.Writes` relates a form to its texts.  There are many of them, since blanks may stand around
every value, colon and comma, a character of a string may be written as it is or in several escapes,
and an exponent may be written with a capital and with a plus sign.

Lists of items and of members are built in one way (`Listed`), from parts that are separated by
commas (`Separated`), so that what is shown of lists once holds of both.

`Form.json?` says what a form stands for if no more than so many containers may be open at once.  A
form stands for nothing if it nests deeper, or if a numeral in it has no finite value.
-/

namespace CrudByName

namespace Json

/-- Any number of blanks. -/
def Blanks (w : List Char) : Prop :=
  ∀ c ∈ w, isBlank c = true

theorem blanks_nil : Blanks [] := by
  simp [Blanks]

/-! ## Strings -/

namespace Quoted

/-- The letters that may stand behind a backslash, with the characters they mean. -/
def letters : List (Char × Char) :=
  [('"', '"'), ('\\', '\\'), ('/', '/'), ('b', '\x08'), ('f', '\x0c'), ('n', '\n'), ('r', '\r'),
    ('t', '\t')]

/-- A number in four hexadecimal digits. -/
inductive WritesUnit : Nat → List Char → Prop where
  | mk {a b c d : Char} {m n o p : Nat} (ha : Hex.value? a = some m) (hb : Hex.value? b = some n)
      (hc : Hex.value? c = some o) (hd : Hex.value? d = some p) :
      WritesUnit (((m * 16 + n) * 16 + o) * 16 + p) [a, b, c, d]

/-- The ways to write one character of a string. -/
inductive WritesChar : Char → List Char → Prop where
  | plain {c : Char} (visible : 0x20 ≤ c.toNat) (quote : c ≠ '"') (backslash : c ≠ '\\') :
      WritesChar c [c]
  | letter {l c : Char} (h : (l, c) ∈ letters) : WritesChar c ['\\', l]
  | unit {n : Nat} {t : List Char} (h : WritesUnit n t) (low : isLowSurrogate n = false)
      (high : isHighSurrogate n = false) : WritesChar (Char.ofNat n) ('\\' :: 'u' :: t)
  | pair {m n : Nat} {s t : List Char} (hs : WritesUnit m s) (high : isHighSurrogate m = true)
      (ht : WritesUnit n t) (low : isLowSurrogate n = true) :
      WritesChar (joined m n) ('\\' :: 'u' :: (s ++ '\\' :: 'u' :: t))

/-- The ways to write a string, between its quotes. -/
inductive Writes : List Char → List Char → Prop where
  | nil : Writes [] []
  | cons {c : Char} {s t u : List Char} (hc : WritesChar c t) (hs : Writes s u) :
      Writes (c :: s) (t ++ u)

end Quoted

/-! ## Numbers -/

namespace Numeral

/-- A run of digits. -/
structure IsRun (s : List Char) : Prop where
  ne_nil : s ≠ []
  digits : ∀ c ∈ s, isDigit c = true

/-- The digits before the point. -/
structure IsWhole (s : List Char) : Prop extends IsRun s where
  /-- A zero in front stands alone. -/
  zero : s.head? = some '0' → s = ['0']

instance (s : List Char) : Decidable (IsRun s) :=
  decidable_of_iff (s ≠ [] ∧ s.all isDigit)
    ⟨fun h => ⟨h.1, List.all_eq_true.1 h.2⟩, fun h => ⟨h.ne_nil, List.all_eq_true.2 h.digits⟩⟩

instance (s : List Char) : Decidable (IsWhole s) :=
  decidable_of_iff (IsRun s ∧ (s.head? = some '0' → s = ['0']))
    ⟨fun h => ⟨h.1, h.2⟩, fun h => ⟨h.toIsRun, h.zero⟩⟩

/-- The ways to write a fraction. -/
inductive WritesFraction : List Char → List Char → Prop where
  | none : WritesFraction [] []
  | some {s : List Char} (h : IsRun s) : WritesFraction s ('.' :: s)

/-- The ways to write an exponent. -/
inductive WritesExponent : Option (Bool × List Char) → List Char → Prop where
  | none : WritesExponent none []
  | bare {e : Char} {s : List Char} (he : e = 'e' ∨ e = 'E') (h : IsRun s) :
      WritesExponent (some (false, s)) (e :: s)
  | plus {e : Char} {s : List Char} (he : e = 'e' ∨ e = 'E') (h : IsRun s) :
      WritesExponent (some (false, s)) (e :: '+' :: s)
  | minus {e : Char} {s : List Char} (he : e = 'e' ∨ e = 'E') (h : IsRun s) :
      WritesExponent (some (true, s)) (e :: '-' :: s)

/-- The minus sign of a number. -/
def sign (negative : Bool) : List Char :=
  if negative then ['-'] else []

/-- The ways to write a number. -/
inductive Writes : Numeral → List Char → Prop where
  | mk (negative : Bool) {whole fraction t u : List Char} {exponent : Option (Bool × List Char)}
      (hwhole : IsWhole whole) (hfraction : WritesFraction fraction t)
      (hexponent : WritesExponent exponent u) :
      Writes ⟨negative, whole, fraction, exponent⟩ (sign negative ++ (whole ++ (t ++ u)))

end Numeral

/-! ## Lists -/

/-- One part or more, with a comma between each two and blanks around the commas. -/
inductive Separated (P : α → List Char → Prop) : List α → List Char → Prop where
  | last {a : α} {t w : List Char} (h : P a t) (hw : Blanks w) : Separated P [a] (t ++ w)
  | cons {a : α} {as : List α} {t w v u : List Char} (h : P a t) (hw : Blanks w) (hv : Blanks v)
      (rest : Separated P as u) : Separated P (a :: as) (t ++ (w ++ ',' :: (v ++ u)))

/-- What stands between two brackets: blanks alone, or parts. -/
inductive Listed (P : α → List Char → Prop) : List α → List Char → Prop where
  | none {w : List Char} (hw : Blanks w) : Listed P [] w
  | some {as : List α} {w t : List Char} (hw : Blanks w) (h : Separated P as t) :
      Listed P as (w ++ t)

/-- A name, a colon and a value. -/
inductive WritesMember (P : α → List Char → Prop) : String × α → List Char → Prop where
  | mk {name : String} {a : α} {s w v t : List Char} (hname : Quoted.Writes name.toList s)
      (hw : Blanks w) (hv : Blanks v) (h : P a t) :
      WritesMember P (name, a) ('"' :: (s ++ '"' :: (w ++ ':' :: (v ++ t))))

/-! ## Values -/

/-- A value as it is written. -/
inductive Form where
  | null
  | bool (b : Bool)
  | number (n : Numeral)
  | string (s : String)
  | array (items : List Form)
  | object (members : List (String × Form))

namespace Form

/-- The ways to write a value. -/
inductive Writes : Form → List Char → Prop where
  | null : Writes null ['n', 'u', 'l', 'l']
  | true : Writes (bool true) ['t', 'r', 'u', 'e']
  | false : Writes (bool false) ['f', 'a', 'l', 's', 'e']
  | number {n : Numeral} {t : List Char} (h : n.Writes t) : Writes (number n) t
  | string {s : String} {t : List Char} (h : Quoted.Writes s.toList t) :
      Writes (string s) ('"' :: (t ++ ['"']))
  | array {items : List Form} {t : List Char} (h : Listed Writes items t) :
      Writes (array items) ('[' :: (t ++ [']']))
  | object {members : List (String × Form)} {t : List Char}
      (h : Listed (WritesMember Writes) members t) :
      Writes (object members) ('{' :: (t ++ ['}']))

/-- The number that a numeral stands for, if it is finite. -/
def number? (n : Numeral) : Option Number :=
  n.value.toOption

/-- What a form stands for, with at most `depth` containers open at once. -/
def json? (depth : Nat) (f : Form) : Option Json :=
  match f with
  | null => some .null
  | bool b => some (.bool b)
  | number n => (number? n).map .number
  | string s => some (.string s)
  | array items =>
    match depth with
    | 0 => none
    | depth + 1 => (items.mapM (json? depth)).map .array
  | object members =>
    match depth with
    | 0 => none
    | depth + 1 =>
      (members.mapM fun (m : String × Form) =>
        (json? depth m.2).map fun j => (m.1, j)).map .object
termination_by structural depth

end Form

end Json

end CrudByName
