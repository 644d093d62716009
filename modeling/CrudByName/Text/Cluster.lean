import CrudByName.Text.Emoji
import CrudByName.Text.Marks

/-!
# Clusters

A text falls into clusters: the pieces that a reader takes for one character.  Marks belong to the
character before them, some signs to the one behind them; the parts of a Korean syllable stay
together, as do letters that a linker ties, pictures that joiners tie, and indicators in twos.

Whether a character continues a cluster hangs on how the cluster ends, which is its `Ending`;
`Ending.next?` gives the ending of the longer cluster if the character belongs to it.  `clusters`
loses nothing (`flatten_clusters`).
-/

namespace CrudByName

namespace Text

/-! ## Classes of characters -/

/-- Marks with a column of their own that belong to the character before them. -/
def spacing : Ranges := [
  (0x903, 0x903), (0x93B, 0x93B), (0x93E, 0x94F), (0x982, 0x983), (0x9BF, 0x9C0), (0x9C7, 0x9C8),
  (0x9CB, 0x9CC), (0xA03, 0xA03), (0xA3E, 0xA40), (0xA83, 0xA83), (0xABE, 0xAC0), (0xAC9, 0xAC9),
  (0xACB, 0xACC), (0xB02, 0xB03), (0xB40, 0xB40), (0xB47, 0xB48), (0xB4B, 0xB4C), (0xBBF, 0xBC2),
  (0xBC6, 0xBC8), (0xBCA, 0xBCC), (0xC01, 0xC03), (0xC41, 0xC44), (0xC82, 0xC83), (0xCBE, 0xCC4),
  (0xCF3, 0xCF3), (0xD02, 0xD03), (0xD3F, 0xD40), (0xD46, 0xD48), (0xD4A, 0xD4C), (0xD82, 0xD83),
  (0xDD0, 0xDD1), (0xDD8, 0xDDE), (0xDF2, 0xDF3), (0xE33, 0xE33), (0xEB3, 0xEB3), (0xF3E, 0xF3F),
  (0xF7F, 0xF7F), (0x1031, 0x1031), (0x103B, 0x103C), (0x1056, 0x1057), (0x1084, 0x1084),
  (0x17B6, 0x17C8), (0x1923, 0x192B), (0x1930, 0x1938), (0x1A19, 0x1A1A), (0x1A55, 0x1A57),
  (0x1A6D, 0x1A72), (0x1B04, 0x1B04), (0x1B3E, 0x1B41), (0x1B82, 0x1B82), (0x1BA1, 0x1BA7),
  (0x1BE7, 0x1BEE), (0x1C24, 0x1C35), (0x1CE1, 0x1CE1), (0x1CF7, 0x1CF7), (0xA823, 0xA827),
  (0xA880, 0xA881), (0xA8B4, 0xA8C3), (0xA952, 0xA952), (0xA983, 0xA983), (0xA9B4, 0xA9BF),
  (0xAA2F, 0xAA34), (0xAA4D, 0xAA4D), (0xAAEB, 0xAAEF), (0xAAF5, 0xAAF5), (0xABE3, 0xABEA),
  (0xABEC, 0xABEC), (0x11000, 0x11002), (0x11082, 0x11082), (0x110B0, 0x110B8), (0x1112C, 0x1112C),
  (0x11145, 0x11146), (0x11182, 0x11182), (0x111B3, 0x111BF), (0x111CE, 0x111CE),
  (0x1122C, 0x11233), (0x112E0, 0x112E2), (0x11302, 0x11303), (0x1133F, 0x11344),
  (0x11347, 0x11348), (0x1134B, 0x1134C), (0x11362, 0x11363), (0x113B9, 0x113BA),
  (0x113CA, 0x113CA), (0x113CC, 0x113CD), (0x11435, 0x11445), (0x114B1, 0x114C1),
  (0x115B0, 0x115B1), (0x115B8, 0x115BE), (0x11630, 0x1163E), (0x116AC, 0x116AF),
  (0x1171E, 0x1171E), (0x11726, 0x11726), (0x1182C, 0x11838), (0x11931, 0x11935),
  (0x11937, 0x11938), (0x11940, 0x11940), (0x11942, 0x11942), (0x119D1, 0x119D3),
  (0x119DC, 0x119DF), (0x119E4, 0x119E4), (0x11A39, 0x11A39), (0x11A57, 0x11A58),
  (0x11A97, 0x11A97), (0x11B61, 0x11B67), (0x11C2F, 0x11C2F), (0x11C3E, 0x11C3E),
  (0x11CA9, 0x11CB4), (0x11D8A, 0x11D8E), (0x11D93, 0x11D96), (0x11EF5, 0x11EF6),
  (0x11F03, 0x11F03), (0x11F34, 0x11F35), (0x11F3E, 0x11F3F), (0x1612A, 0x1612C),
  (0x16F51, 0x16F87)]

/-- Characters that stand alone. -/
def controls : Ranges := [
  (0x0, 0x1F), (0x7F, 0x9F), (0xAD, 0xAD), (0x61C, 0x61C), (0x180E, 0x180E), (0x200B, 0x200B),
  (0x200E, 0x200F), (0x2028, 0x202E), (0x2060, 0x206F), (0xFEFF, 0xFEFF), (0xFFF0, 0xFFFB),
  (0x13430, 0x1343F), (0x1BCA0, 0x1BCA3), (0x1D173, 0x1D17A), (0xE0000, 0xE001F),
  (0xE0080, 0xE00FF), (0xE01F0, 0xE0FFF)]

/-- Letters that are tied to the letter before them by a linker. -/
def conjunctLetters : Ranges := [
  (0x915, 0x939), (0x958, 0x95F), (0x978, 0x97F), (0x995, 0x9A8), (0x9AA, 0x9B0), (0x9B2, 0x9B2),
  (0x9B6, 0x9B9), (0x9DC, 0x9DD), (0x9DF, 0x9DF), (0x9F0, 0x9F1), (0xA95, 0xAA8), (0xAAA, 0xAB0),
  (0xAB2, 0xAB3), (0xAB5, 0xAB9), (0xAF9, 0xAF9), (0xB15, 0xB28), (0xB2A, 0xB30), (0xB32, 0xB33),
  (0xB35, 0xB39), (0xB5C, 0xB5D), (0xB5F, 0xB5F), (0xB71, 0xB71), (0xC15, 0xC28), (0xC2A, 0xC39),
  (0xC58, 0xC5A), (0xD15, 0xD3A), (0x1000, 0x102A), (0x103F, 0x103F), (0x1050, 0x1055),
  (0x105A, 0x105D), (0x1061, 0x1061), (0x1065, 0x1066), (0x106E, 0x1070), (0x1075, 0x1081),
  (0x108E, 0x108E), (0x1780, 0x17B3), (0x1A20, 0x1A54), (0x1B0B, 0x1B0C), (0x1B13, 0x1B33),
  (0x1B45, 0x1B4C), (0x1B83, 0x1BA0), (0x1BAE, 0x1BAF), (0x1BBB, 0x1BBD), (0xA989, 0xA98B),
  (0xA98F, 0xA9B2), (0xA9E0, 0xA9E4), (0xA9E7, 0xA9EF), (0xA9FA, 0xA9FE), (0xAA60, 0xAA6F),
  (0xAA71, 0xAA73), (0xAA7A, 0xAA7A), (0xAA7E, 0xAA7F), (0xAAE0, 0xAAEA), (0xABC0, 0xABDA),
  (0x10A00, 0x10A00), (0x10A10, 0x10A13), (0x10A15, 0x10A17), (0x10A19, 0x10A35),
  (0x11103, 0x11126), (0x11144, 0x11144), (0x11147, 0x11147), (0x11380, 0x11389),
  (0x1138B, 0x1138B), (0x1138E, 0x1138E), (0x11390, 0x113B5), (0x11900, 0x11906),
  (0x11909, 0x11909), (0x1190C, 0x11913), (0x11915, 0x11916), (0x11918, 0x1192F),
  (0x11A00, 0x11A00), (0x11A0B, 0x11A32), (0x11A50, 0x11A50), (0x11A5C, 0x11A83),
  (0x11F04, 0x11F10), (0x11F12, 0x11F33)]

/-- Marks that tie letters together. -/
def linkers : Ranges := [
  (0x94D, 0x94D), (0x9CD, 0x9CD), (0xACD, 0xACD), (0xB4D, 0xB4D), (0xC4D, 0xC4D), (0xD4D, 0xD4D),
  (0x1039, 0x1039), (0x17D2, 0x17D2), (0x1A60, 0x1A60), (0x1B44, 0x1B44), (0x1BAB, 0x1BAB),
  (0xA9C0, 0xA9C0), (0xAAF6, 0xAAF6), (0x10A3F, 0x10A3F), (0x11133, 0x11133), (0x113D0, 0x113D0),
  (0x1193E, 0x1193E), (0x11A47, 0x11A47), (0x11A99, 0x11A99), (0x11F42, 0x11F42)]

/-- Signs and letters that belong to the character behind them. -/
def prepended : Ranges := [
  (0x600, 0x605), (0x6DD, 0x6DD), (0x70F, 0x70F), (0x890, 0x891), (0x8E2, 0x8E2), (0xD4E, 0xD4E),
  (0x110BD, 0x110BD), (0x110CD, 0x110CD), (0x111C2, 0x111C3), (0x113D1, 0x113D1),
  (0x1193F, 0x1193F), (0x11941, 0x11941), (0x11A84, 0x11A89), (0x11D46, 0x11D46),
  (0x11F02, 0x11F02)]

/-- What a character does to the edge of a cluster. -/
inductive EdgeClass where
  | carriageReturn
  | lineFeed
  | control
  | extending
  | joiner
  | spacing
  | prepended
  | indicator
  /-- A leading consonant, vowel or trailing consonant of a Korean syllable. -/
  | leading
  | vowel
  | trailing
  /-- A Korean syllable without a trailing consonant, and one with it. -/
  | openSyllable
  | closedSyllable
  | other
  deriving DecidableEq, Repr

/-- The parts of Korean syllables, and the vowel signs of another script that behave like them. -/
def leadingConsonants : Ranges := [(0x1100, 0x115F), (0xA960, 0xA97C)]

/-- The vowels of Korean syllables. -/
def vowels : Ranges :=
  [(0x1160, 0x11A7), (0xD7B0, 0xD7C6), (0x16D63, 0x16D63), (0x16D67, 0x16D6A)]

/-- The consonants at their end. -/
def trailingConsonants : Ranges := [(0x11A8, 0x11FF), (0xD7CB, 0xD7FB)]

/-- The class of a character. -/
def edgeClass (c : Char) : EdgeClass :=
  if c = '\r' then .carriageReturn
  else if c = '\n' then .lineFeed
  else if 0x20 ≤ c.toNat ∧ c.toNat < 0x7F then .other
  else if c = joiner then .joiner
  else if controls.has c then .control
  else if extending.has c ∨ isTone c then .extending
  else if spacing.has c then .spacing
  else if prepended.has c then .prepended
  else if isIndicator c then .indicator
  else if leadingConsonants.has c then .leading
  else if vowels.has c then .vowel
  else if trailingConsonants.has c then .trailing
  else if 0xAC00 ≤ c.toNat ∧ c.toNat ≤ 0xD7A3 then
    if (c.toNat - 0xAC00) % 28 = 0 then .openSyllable else .closedSyllable
  else .other

/-! ## Endings -/

/-- How far a cluster has come towards a picture that is tied to another. -/
inductive Tie where
  | none
  /-- A picture, or a letter, and marks behind it. -/
  | begun
  /-- The same with a joiner at its end, or with a linker among the marks. -/
  | tied
  deriving DecidableEq, Repr

/-- How a cluster ends. -/
structure Ending where
  last : EdgeClass
  picture : Tie
  letter : Tie
  /-- Whether the indicators at the end are odd in number. -/
  oddIndicators : Bool
  deriving DecidableEq, Repr

namespace Ending

/-- How a picture is tied when a character is added. -/
def pictureTie (sofar : Tie) (k : EdgeClass) (c : Char) : Tie :=
  if pictographs.has c then .begun
  else
    match k, sofar with
    | .extending, .begun => .begun
    | .joiner, .begun => .tied
    | _, _ => .none

/-- How letters are tied when a character is added. -/
def letterTie (sofar : Tie) (k : EdgeClass) (c : Char) : Tie :=
  if conjunctLetters.has c then .begun
  else if linkers.has c then if sofar = .none then .none else .tied
  else
    match k with
    | .extending | .joiner => if c = '\u200C' then .none else sofar
    | _ => .none

/-- The ending of a cluster that is one character. -/
def ofChar (c : Char) : Ending where
  last := edgeClass c
  picture := pictureTie .none (edgeClass c) c
  letter := letterTie .none (edgeClass c) c
  oddIndicators := edgeClass c = .indicator

/-- The classes that nothing is joined to. -/
def isControl : EdgeClass → Bool
  | .carriageReturn | .lineFeed | .control => true
  | _ => false

/-- Whether two parts of a Korean syllable stay together. -/
def sameSyllable : EdgeClass → EdgeClass → Bool
  | .leading, .leading | .leading, .vowel | .leading, .openSyllable | .leading, .closedSyllable =>
    true
  | .openSyllable, .vowel | .openSyllable, .trailing | .vowel, .vowel | .vowel, .trailing => true
  | .closedSyllable, .trailing | .trailing, .trailing => true
  | _, _ => false

/-- Whether a cluster goes on with a character. -/
def continues (e : Ending) (c : Char) : Bool :=
  let k := edgeClass c
  if isControl e.last ∨ isControl k then e.last = .carriageReturn && k = .lineFeed
  else
    sameSyllable e.last k ||
      k = .extending || k = .joiner || k = .spacing || e.last = .prepended ||
      (e.letter = .tied && conjunctLetters.has c) ||
      (e.picture = .tied && pictographs.has c) ||
      (e.oddIndicators && k = .indicator)

/-- The ending of a cluster with one more character. -/
def longer (e : Ending) (c : Char) : Ending where
  last := edgeClass c
  picture := pictureTie e.picture (edgeClass c) c
  letter := letterTie e.letter (edgeClass c) c
  oddIndicators := edgeClass c = .indicator && !e.oddIndicators

/-- The ending of a cluster that goes on with a character. -/
def next? (e : Ending) (c : Char) : Option Ending :=
  if e.continues c then some (e.longer c) else none

end Ending

/-! ## Taking a text apart -/

/-- The rest of a cluster, and what follows it. -/
def restOfCluster (e : Ending) : List Char → List Char × List Char
  | [] => ([], [])
  | c :: s =>
    match e.next? c with
    | some e =>
      let (cluster, after) := restOfCluster e s
      (c :: cluster, after)
    | none => ([], c :: s)

theorem restOfCluster_append (e : Ending) (s : List Char) :
    (restOfCluster e s).1 ++ (restOfCluster e s).2 = s := by
  induction s generalizing e with
  | nil => rfl
  | cons c s ih =>
    simp only [restOfCluster]
    split
    · simpa using ih _
    · rfl

theorem length_restOfCluster (e : Ending) (s : List Char) :
    (restOfCluster e s).2.length ≤ s.length := by
  have h := congrArg List.length (restOfCluster_append e s)
  rw [List.length_append] at h
  omega

/-- The clusters of a text. -/
def clusters (s : List Char) : List (List Char) :=
  match s with
  | [] => []
  | c :: s =>
    have := length_restOfCluster (.ofChar c) s
    (c :: (restOfCluster (.ofChar c) s).1) :: clusters (restOfCluster (.ofChar c) s).2
termination_by s.length
decreasing_by simp only [List.length_cons]; omega

theorem flatten_clusters (s : List Char) : (clusters s).flatten = s := by
  fun_induction clusters s with
  | case1 => rfl
  | case2 c s _ ih =>
    rw [List.flatten_cons, ih, List.cons_append, restOfCluster_append]

end Text

end CrudByName
