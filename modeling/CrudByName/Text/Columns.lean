import CrudByName.Text.Emoji
import CrudByName.Text.Marks

/-!
# Terminal columns

How many columns of a terminal a text takes.  Most characters take one column; pictures and the
characters of East Asian scripts take two, and marks and characters without a shape none
(`widthAlone`).

Some characters change their width together with those to the right of them: a picture takes a tone
of skin, joiners tie pictures together, a selector makes a picture of a character or undoes one, and
letters of some scripts melt into one.  So a line is measured from its end, and what has been seen
to the right of a character is kept as its `Neighbour`; `Neighbour.add` gives the width that one
more character adds, which is negative where it draws a letter below the one before.
`width_eq_length` says that plain text takes a column for each character.
-/

namespace CrudByName

namespace Text

/-! ## Characters by themselves -/

/-- Characters of two columns, pictures aside. -/
def wide : Ranges := [
  (0x1100, 0x115F), (0x17A4, 0x17A4), (0x2329, 0x232A), (0x2630, 0x2637), (0x268A, 0x268F),
  (0x2E80, 0x2E99), (0x2E9B, 0x2EF3), (0x2F00, 0x2FD5), (0x2FF0, 0x303E), (0x3041, 0x3096),
  (0x309B, 0x30FF), (0x3105, 0x312F), (0x3131, 0x318E), (0x3190, 0x31E5), (0x31EF, 0x321E),
  (0x3220, 0x3247), (0x3250, 0xA48C), (0xA490, 0xA4C6), (0xA960, 0xA97C), (0xAC00, 0xD7A3),
  (0xF900, 0xFAFF), (0xFE10, 0xFE19), (0xFE30, 0xFE52), (0xFE54, 0xFE66), (0xFE68, 0xFE6B),
  (0xFF01, 0xFF60), (0xFFE0, 0xFFE6), (0x16FE0, 0x16FE3), (0x16FF2, 0x16FF6), (0x17000, 0x18CD5),
  (0x18CFF, 0x18D1E), (0x18D80, 0x18DF2), (0x1AFF0, 0x1AFF3), (0x1AFF5, 0x1AFFB),
  (0x1AFFD, 0x1AFFE), (0x1B000, 0x1B122), (0x1B132, 0x1B132), (0x1B150, 0x1B152),
  (0x1B155, 0x1B155), (0x1B164, 0x1B167), (0x1B170, 0x1B2FB), (0x1D300, 0x1D356),
  (0x1D360, 0x1D376), (0x1F200, 0x1F202), (0x1F210, 0x1F23B), (0x1F240, 0x1F248),
  (0x1F260, 0x1F265), (0x20000, 0x2FFFD), (0x30000, 0x3FFFD)]

/-- Parts of a syllable, and signs over numbers, that take no column of their own. -/
def shapeless : Ranges := [
  (0x605, 0x605), (0x70F, 0x70F), (0x890, 0x891), (0x8E2, 0x8E2), (0x1161, 0x11FF),
  (0xA8FA, 0xA8FA), (0xD7B0, 0xD7C6), (0xD7CB, 0xD7FB)]

/-- Characters without a column that keep the letters on both sides of them apart. -/
def stiff : Ranges := [
  (0x605, 0x605), (0x890, 0x891), (0x8E2, 0x8E2), (0x9BE, 0x9BE), (0x9D7, 0x9D7), (0xB3E, 0xB3E),
  (0xB57, 0xB57), (0xBBE, 0xBBE), (0xBD7, 0xBD7), (0xCC0, 0xCC2), (0xCC7, 0xCCB), (0xCD5, 0xCD6),
  (0xD3E, 0xD3E), (0xD4E, 0xD57), (0xDCF, 0xDCF), (0xDDF, 0xDDF), (0x1160, 0x11FF),
  (0x1715, 0x1715), (0x1734, 0x1734), (0x180E, 0x180E), (0x1B35, 0x1B35), (0x1B3B, 0x1B3B),
  (0x1B3D, 0x1B3D), (0x1B43, 0x1B44), (0x1BAA, 0x1BAA), (0x1BF2, 0x1BF3), (0x200C, 0x200D),
  (0x2065, 0x2069), (0x302E, 0x302F), (0x3164, 0x3164), (0xA8FA, 0xA8FA), (0xA953, 0xA953),
  (0xA9C0, 0xA9C0), (0xD7B0, 0xD7FB), (0xFF9E, 0xFFF8), (0x111C0, 0x111C3), (0x11235, 0x11235),
  (0x1133E, 0x1133E), (0x1134D, 0x11357), (0x113B8, 0x113B8), (0x113C2, 0x113C9),
  (0x113CF, 0x113CF), (0x113D1, 0x113D1), (0x114B0, 0x114B0), (0x114BD, 0x114BD),
  (0x115AF, 0x115AF), (0x116B6, 0x116B6), (0x11930, 0x11930), (0x1193D, 0x1193D),
  (0x1193F, 0x11941), (0x11A84, 0x11A89), (0x11D46, 0x11D46), (0x11F02, 0x11F02),
  (0x11F41, 0x11F41), (0x16FF0, 0x16FF1), (0x1D165, 0x1D166), (0x1D16D, 0x1D172),
  (0xE0000, 0xE0000), (0xE0002, 0xE001F), (0xE0080, 0xE00FF), (0xE01F0, 0xE0FFF)]

/-- Marks that are passed over. -/
def invisibleMarks : Ranges := [
  (0x34F, 0x34F), (0x17B4, 0x17B5), (0x180B, 0x180D), (0x180F, 0x180F), (0xFE00, 0xFE0F),
  (0xE0100, 0xE01EF)]

/-- The letter alef in its forms. -/
def alefs : Ranges := [
  (0x622, 0x623), (0x625, 0x625), (0x627, 0x627), (0x671, 0x673), (0x675, 0x675), (0x773, 0x774),
  (0x870, 0x882)]

/-- The letter lam in its forms. -/
def lams : Ranges := [
  (0x644, 0x644), (0x6B5, 0x6B8), (0x76A, 0x76A), (0x8A6, 0x8A6), (0x8C7, 0x8C7)]

/-- Consonants that the joiner of their script ties together. -/
def isTifinaghConsonant (c : Char) : Bool :=
  ('\u2D31' ≤ c && c ≤ '\u2D65') || c == '\u2D6F'

/-- Letters that are drawn below the one before them. -/
def khmerSubscripts : Ranges := [
  (0x1780, 0x1782), (0x1784, 0x1787), (0x1789, 0x178C), (0x178E, 0x1793), (0x1795, 0x1798),
  (0x179B, 0x179D), (0x17A0, 0x17A0), (0x17A2, 0x17A2), (0x17A7, 0x17A7), (0x17AB, 0x17AC),
  (0x17AF, 0x17AF)]

/-- A filler and a joiner keep their columns, as they are seen. -/
def takesNone (c : Char) : Bool :=
  c != '\u115F' && c != '\u2D7F' &&
    (ignorable.has c || extending.has c || leadingLetters.has c || shapeless.has c)

/-- The columns of a character with nothing to join. -/
def widthAlone (c : Char) : Nat :=
  if c.toNat ≤ 0xA0 then 1
  else if isIndicator c then 1
  else if isTone c ∨ pictures.has c then 2
  else if takesNone c then 0
  else if c = '\u17D8' then 3
  else if wide.has c then 2
  else 1

theorem widthAlone_of_le {c : Char} (h : c.toNat ≤ 0xA0) : widthAlone c = 1 := by
  simp [widthAlone, h]

/-! ## Neighbours -/

/-- Letters that may join the letter to their left.  The flag says whether there is a joiner in
between. -/
inductive Letter where
  | alef
  | lamed (joined : Bool)
  | khmerSubscript
  | bugineseYa (joined : Bool)
  | bugineseSignYa
  | tifinagh (joined : Bool)
  | tifinaghJoined
  | lisuTone
  | orkhonI (joined : Bool)
  deriving DecidableEq, Repr

/-- Pictures that may be tied to what is to their left. -/
inductive Picture where
  /-- A picture. -/
  | whole
  /-- A tone of skin. -/
  | tone
  /-- An indicator, or several of them. -/
  | indicator (several : Bool)
  /-- A picture behind a joiner. -/
  | joined
  /-- The same behind the frame of a key. -/
  | joinedKey
  /-- The same behind one indicator. -/
  | joinedIndicator
  /-- The same behind indicators that make up flags, and perhaps one more. -/
  | joinedFlags (odd : Bool)
  /-- The same behind the last tag and so many letters before it. -/
  | joinedTagLetters (n : Nat)
  /-- The same behind tags that end in so many digits. -/
  | joinedTagDigits (n : Nat)
  deriving DecidableEq, Repr

/-- What stands to the right of a character. -/
inductive Neighbour.Kind where
  | plain
  | lineFeed
  /-- The selector of wide quotation marks. -/
  | wideQuote
  /-- Vowel signs of the script Kirat Rai that others are composed of. -/
  | vowelE
  | vowelAi
  | letter (l : Letter)
  | picture (p : Picture)
  deriving DecidableEq, Repr

/-- What stands to the right of a character, and whether a selector of style stands between. -/
structure Neighbour where
  kind : Neighbour.Kind := .plain
  asPicture : Bool := false
  asText : Bool := false
  deriving DecidableEq, Repr

namespace Neighbour

/-- The neighbour that a character is when there is nothing for it to join. -/
def ofChar (c : Char) : Neighbour :=
  if c = pictureStyle then { asPicture := true }
  else if c = textStyle then { asText := true }
  else { kind :=
    if c = '\n' then .lineFeed
    else if c = '\uFE01' then .wideQuote
    else if c = '\u05DC' then .letter (.lamed false)
    else if alefs.has c then .letter .alef
    else if khmerSubscripts.has c then .letter .khmerSubscript
    else if c = '\u1A10' then .letter (.bugineseYa false)
    else if isTifinaghConsonant c then .letter (.tifinagh false)
    else if c = '\uA4FC' ∨ c = '\uA4FD' then .letter .lisuTone
    else if c.toNat = 0x10C03 then .letter (.orkhonI false)
    else if c.toNat = 0x16D67 then .vowelE
    else if c.toNat = 0x16D68 then .vowelAi
    else if isIndicator c then .picture (.indicator false)
    else if isTone c then .picture .tone
    else if pictures.has c then .picture .whole
    else .plain }

/-- A neighbour that joins nothing. -/
def plain : Neighbour := {}

/-- A neighbour of that kind with no selector in between. -/
def of (kind : Kind) : Neighbour := { kind := kind }

/-! ### Selectors -/

/-- Puts the selector of pictures in front.  It ends what may be joined, letters and joined pictures
aside. -/
def selectPicture (n : Neighbour) : Neighbour :=
  match n.kind with
  | .letter _ => { n with asPicture := true }
  | .picture .joined | .picture .joinedKey => { n with asPicture := true }
  | _ => { asPicture := true }

/-- Puts the selector of text in front. -/
def selectText (n : Neighbour) : Neighbour :=
  match n.kind with
  | .letter _ => { n with asText := true }
  | _ => { asText := true }

/-- Drops a selector of pictures that has no effect. -/
def unselectPicture (n : Neighbour) : Neighbour :=
  match n.kind with
  | .letter _ => { n with asPicture := false }
  | _ => plain

/-! ### Joining -/

/-- A letter behind a joiner. -/
def Letter.joins : Letter → Letter
  | .lamed _ => .lamed true
  | .bugineseYa _ => .bugineseYa true
  | .tifinagh _ => .tifinagh true
  | .orkhonI _ => .orkhonI true
  | l => l

/-- A character that joins a letter to its right, with the width it adds. -/
def joinLetter? (l : Letter) (c : Char) : Option (Int × Neighbour) :=
  if l ≠ .alef ∧ c = joiner then some (0, of (.letter (Letter.joins l)))
  else if l ≠ .alef ∧ invisibleMarks.has c then some (0, of (.letter l))
  else
    match l with
    | .alef =>
      if lams.has c then some (0, plain)
      else if takesNone c && !stiff.has c then some (0, of (.letter .alef))
      else none
    | .lamed true => if c = '\u05D0' then some (0, plain) else none
    | .khmerSubscript => if c = '\u17D2' then some (-1, plain) else none
    | .bugineseYa true => if c = '\u1A17' then some (0, of (.letter .bugineseSignYa)) else none
    | .bugineseSignYa => if c = '\u1A15' then some (0, plain) else none
    | .tifinagh joined =>
      if c = '\u2D7F' then some (1, of (.letter .tifinaghJoined))
      else if joined && isTifinaghConsonant c then some (0, plain)
      else none
    | .tifinaghJoined => if isTifinaghConsonant c then some (-1, plain) else none
    | .lisuTone => if '\uA4F8' ≤ c ∧ c ≤ '\uA4FB' then some (0, plain) else none
    | .orkhonI true => if c.toNat = 0x10C32 then some (0, plain) else none
    | _ => none

/-- A neighbour that is a picture. -/
def ofPicture (p : Picture) : Neighbour := of (.picture p)

/-- What a character before a joiner and a picture adds. -/
def joinJoined? (c : Char) : Option (Int × Neighbour) :=
  if c = '\u20E3' then some (0, ofPicture .joinedKey)
  else if isIndicator c then some (1, ofPicture .joinedIndicator)
  else if isTone c then some (0, ofPicture .tone)
  else if c = tagEnd then some (0, ofPicture (.joinedTagLetters 0))
  else if pictures.has c then some (0, ofPicture .whole)
  else none

/-- What a character before the tags of a flag adds.  A flag has three to six letters, or three
digits behind up to four letters. -/
def joinTags? (p : Picture) (c : Char) : Option (Int × Neighbour) :=
  match p with
  | .joinedTagLetters n =>
    if isTagLetter c ∧ n < 6 then some (0, ofPicture (.joinedTagLetters (n + 1)))
    else if isTagDigit c ∧ n < 5 then some (0, ofPicture (.joinedTagDigits 1))
    else if c = blackFlag ∧ 3 ≤ n then some (0, ofPicture .whole)
    else none
  | .joinedTagDigits n =>
    if isTagDigit c ∧ n < 3 then some (0, ofPicture (.joinedTagDigits (n + 1)))
    else if c = blackFlag ∧ n = 3 then some (0, ofPicture .whole)
    else none
  | _ => none

/-- A character that is tied to a picture to its right, with the width it adds. -/
def joinPicture? (p : Picture) (c : Char) : Option (Int × Neighbour) :=
  match p with
  | .whole => if c = joiner then some (0, ofPicture .joined) else none
  | .tone =>
    if bodies.has c then some (0, ofPicture .whole)
    else if c = joiner then some (0, ofPicture .joined)
    else none
  | .indicator several =>
    if isIndicator c then some (1, ofPicture (.indicator true))
    else if several ∧ c = joiner then some (0, ofPicture .joined)
    else none
  | .joined => joinJoined? c
  | .joinedKey => none
  | .joinedIndicator => if isIndicator c then some (-1, ofPicture (.joinedFlags false)) else none
  | .joinedFlags odd =>
    if isIndicator c then some (if odd then -1 else 3, ofPicture (.joinedFlags (!odd)))
    else if c = joiner then some (0, ofPicture .joined)
    else none
  | .joinedTagLetters _ | .joinedTagDigits _ => joinTags? p c

/-- A character that joins what is to its right. -/
def join? (k : Kind) (c : Char) : Option (Int × Neighbour) :=
  match k with
  | .letter l => joinLetter? l c
  | .picture p => joinPicture? p c
  | .wideQuote =>
    if c = '\u2018' ∨ c = '\u2019' ∨ c = '\u201C' ∨ c = '\u201D' then some (2, plain) else none
  | .vowelE =>
    if c.toNat = 0x16D63 ∨ c.toNat = 0x16D69 then some (0, plain)
    else if c.toNat = 0x16D67 then some (0, of .vowelAi)
    else if c.toNat = 0x16D68 then some (1, of .vowelE)
    else none
  | .vowelAi => if c.toNat = 0x16D63 then some (0, plain) else none
  | .lineFeed | .plain => none

/-! ### Measuring -/

/-- What a character adds by itself. -/
def addAlone (c : Char) : Int × Neighbour :=
  (widthAlone c, ofChar c)

/-- What a character adds that has no selector of pictures to its right. -/
def addUnselected (n : Neighbour) (c : Char) : Int × Neighbour :=
  if c.toNat ≤ 0xA0 then
    if c = '\r' ∧ n = of .lineFeed then (0, plain)
    else if c = '\n' then (1, of .lineFeed)
    else (1, plain)
  else if n = plain then addAlone c
  else if c = pictureStyle then (0, n.selectPicture)
  else if c = textStyle then (0, n.selectText)
  else if n.asText ∧ narrowsAsText c then (1, plain)
  else (join? n.kind c).getD (addAlone c)

/-- What a character adds, and the neighbour of the next one to the left. -/
def add (n : Neighbour) (c : Char) : Int × Neighbour :=
  if n.asPicture then
    if styled.has c then
      (if n.kind = .picture .joined ∨ n.kind = .picture .joinedKey then 0 else 2, ofPicture .whole)
    else n.unselectPicture.addUnselected c
  else n.addUnselected c

end Neighbour

/-- The columns of a text on one line, counted from its end. -/
def measure (s : List Char) : Int × Neighbour :=
  s.foldr (fun c (sofar, n) =>
    let (more, n) := n.add c
    (sofar + more, n)) (0, .plain)

/-- The columns of a text on one line. -/
def width (s : List Char) : Nat :=
  (measure s).1.toNat

theorem Neighbour.add_of_le {n : Neighbour} {c : Char} (hc : c.toNat ≤ 0xA0) (hr : c ≠ '\r')
    (hn : n.asPicture = false) : (n.add c).1 = 1 ∧ (n.add c).2.asPicture = false := by
  simp only [add, hn, addUnselected, hc, hr]
  by_cases h : c = '\n' <;> simp [h, of, plain]

theorem measure_of_le {s : List Char} (h : ∀ c ∈ s, c.toNat ≤ 0xA0 ∧ c ≠ '\r') :
    (measure s).1 = s.length ∧ (measure s).2.asPicture = false := by
  induction s with
  | nil => exact ⟨rfl, rfl⟩
  | cons c s ih =>
    obtain ⟨hlength, hn⟩ := ih fun d hd => h d (List.mem_cons_of_mem c hd)
    obtain ⟨hc, hr⟩ := h c List.mem_cons_self
    obtain ⟨hadd, hpicture⟩ := Neighbour.add_of_le hc hr hn
    refine ⟨?_, hpicture⟩
    show (measure s).1 + ((measure s).2.add c).1 = _
    rw [hlength, hadd]
    simp

/-- Plain text takes a column for each character. -/
theorem width_eq_length {s : List Char} (h : ∀ c ∈ s, c.toNat ≤ 0xA0 ∧ c ≠ '\r') :
    width s = s.length := by
  simp [width, (measure_of_le h).1]

/-! ## Lines -/

/-- The lines of a text; there is always one. -/
def lines : List Char → List (List Char)
  | [] => [[]]
  | c :: rest =>
    if c = '\n' then [] :: lines rest
    else
      match lines rest with
      | [] => [[c]]
      | line :: more => (c :: line) :: more

theorem lines_ne_nil (s : List Char) : lines s ≠ [] := by
  cases s with
  | nil => simp [lines]
  | cons c s =>
    simp only [lines]
    split
    · simp
    · split <;> simp

end Text

end CrudByName
