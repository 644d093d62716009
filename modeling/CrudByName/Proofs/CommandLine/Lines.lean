import CrudByName.CommandLine.Session
import CrudByName.Proofs.Text.Utf8

/-!
# Lines of input

How lines of text are laid out as the bytes of an input (`Input.Holds`), and that an input gives the
lines which are laid out in it (`lines_of_holds`).

A line is kept apart from the next one by a byte, while it is single by its characters.  The two
agree since a line feed is never a byte within another character (`feed_not_mem_bytes`).
-/

namespace CrudByName

namespace Input

/-- The bytes of a text. -/
def bytes (text : String) : List UInt8 :=
  text.toUTF8.data.toList

/-- A text that fits on one line. -/
def IsSingle (text : String) : Prop :=
  '\n' ∉ text.toList

instance : DecidablePred IsSingle := fun text =>
  inferInstanceAs (Decidable ('\n' ∉ text.toList))

/-- An input that holds some lines, each ended by a line feed.  The last one may be ended by the
input instead, if there is anything on it. -/
inductive Holds : List String → List UInt8 → Prop where
  | nothing : Holds [] []
  | ended {line : String} (single : IsSingle line) (ne_empty : line ≠ "") :
      Holds [line] (bytes line)
  | feed {line : String} {lines : List String} {input : List UInt8} (single : IsSingle line)
      (more : Holds lines input) : Holds (line :: lines) (bytes line ++ 0x0A :: input)

/-! ## Bytes of lines -/

theorem text?_bytes (text : String) : text? (bytes text) = some text := by
  have hvalid : text.toUTF8.IsValidUTF8 := text.isValidUTF8
  rw [text?, bytes, Array.toArray_toList, String.fromUTF8?, dif_pos hvalid]
  rfl

theorem bytes_eq_flatMap (text : String) :
    bytes text = text.toList.flatMap String.utf8EncodeChar := by
  rw [bytes, String.toUTF8_eq_toByteArray, ← String.utf8Encode_toList, List.utf8Encode,
    List.data_toByteArray, List.toList_toArray]

theorem feed_not_mem_bytes {line : String} (h : IsSingle line) : 0x0A ∉ bytes line := by
  intro hmem
  rw [bytes_eq_flatMap] at hmem
  obtain ⟨c, hc, hbyte⟩ := List.mem_flatMap.1 hmem
  have hval : c.val.toNat = 0x0A := Utf8.toNat_eq_of_mem hbyte (by decide)
  have hfeed : c = '\n' := Char.ext (UInt32.toNat_inj.1 hval)
  exact h (hfeed ▸ hc)

theorem bytes_ne_nil {line : String} (h : line ≠ "") : bytes line ≠ [] := by
  intro hnil
  have hempty : text? (bytes line) = text? (bytes "") := by rw [hnil, bytes_eq_flatMap]; rfl
  rw [text?_bytes, text?_bytes] at hempty
  exact h (Option.some.inj hempty)

/-! ## Splitting -/

theorem splitAtFeeds_append {line : List UInt8} (h : 0x0A ∉ line) (sofar rest : List UInt8) :
    splitAtFeeds sofar (line ++ rest) = splitAtFeeds (line.reverse ++ sofar) rest := by
  induction line generalizing sofar with
  | nil => rfl
  | cons b line ih =>
    obtain ⟨hb, hline⟩ := not_or.1 (mt List.mem_cons.2 h)
    rw [List.cons_append, splitAtFeeds, if_neg (Ne.symm hb), ih hline, List.reverse_cons,
      List.append_assoc, List.singleton_append]

theorem splitAtFeeds_feed {line : List UInt8} (h : 0x0A ∉ line) (rest : List UInt8) :
    splitAtFeeds [] (line ++ 0x0A :: rest) = line :: splitAtFeeds [] rest := by
  rw [splitAtFeeds_append h, splitAtFeeds, if_pos rfl, List.append_nil, List.reverse_reverse]

theorem splitAtFeeds_ended {line : List UInt8} (h : 0x0A ∉ line) (hne : line ≠ []) :
    splitAtFeeds [] line = [line] := by
  have hreverse : line.reverse ≠ [] := mt List.reverse_eq_nil_iff.1 hne
  have hsplit := splitAtFeeds_append h [] []
  rw [List.append_nil, List.append_nil, splitAtFeeds, if_neg hreverse,
    List.reverse_reverse] at hsplit
  exact hsplit

/-- The lines of an input are those that it holds. -/
theorem lines_of_holds {lines : List String} {input : ByteArray}
    (h : Holds lines input.data.toList) : Input.lines input = lines.map some := by
  unfold Input.lines
  generalize input.data.toList = input at h
  induction h with
  | nothing => rfl
  | ended single ne_empty =>
    rw [splitAtFeeds_ended (feed_not_mem_bytes single) (bytes_ne_nil ne_empty)]
    simp only [List.map_cons, List.map_nil, text?_bytes]
  | feed single _ ih =>
    rw [splitAtFeeds_feed (feed_not_mem_bytes single), List.map_cons, text?_bytes, ih,
      List.map_cons]

end Input

end CrudByName
