import CrudByName.CommandLine.Program
import CrudByName.Proofs.Call.Margins
import CrudByName.Proofs.CommandLine.Lines

/-!
# Sessions and calls given in advance

The same calls may be typed into a session, one on a line, or be given on the command line.  A
session does more with a line before the call is read from it: it carries out the backspaces, trims
what is left, and looks for the words that it keeps for itself.  Where there are none of these words
(`Unreserved`), only the backspaces make a difference: a call is read alike from a text that was
trimmed (`reply_trim`), even if it cannot be read.

So one line is answered like one call (`step_of_unreserved`), and by induction all of them are, on
one database after the other (`run_of_unreserved`), whether or not some are answered with errors.
What is written is the same up to the greeting and the last word of the session
(`session_answers_calls`).  Without the backspaces carried out it is not (`session_corrects_calls`).
-/

namespace CrudByName

theorem reply_trim (access : Database.Access) (text : String) (db : Database) :
    reply access (String.ofList (Text.trim text.toList)) db = reply access text db := by
  simp only [reply, Line.run, Call.parse_trim]

namespace Session

/-! ## Words that a session keeps for itself -/

/-- The words that ask for help or the end, but for one that may be written in any letters. -/
def words : List (List Char) :=
  [['\\', 'q'], "\\quit".toList, ['\\', '?'], ['\\', 'h'], "\\help".toList]

/-- A trimmed text of which a session makes nothing but a call. -/
structure Unreserved (s : List Char) : Prop where
  ne_nil : s ≠ []
  not_word : s ∉ words
  not_quit : s.map Char.toLower ≠ "quit".toList
  not_sql : ¬ "\\sql ".toList <+: s

instance : DecidablePred Unreserved := fun s =>
  decidable_of_iff
    (s ≠ [] ∧ s ∉ words ∧ s.map Char.toLower ≠ "quit".toList ∧ ¬ "\\sql ".toList <+: s)
    ⟨fun ⟨hnil, hword, hquit, hsql⟩ => ⟨hnil, hword, hquit, hsql⟩,
      fun ⟨hnil, hword, hquit, hsql⟩ => ⟨hnil, hword, hquit, hsql⟩⟩

theorem behind?_eq_none_iff (word s : List Char) :
    behind? word s = none ↔ ¬ word ++ [' '] <+: s := by
  induction word generalizing s with
  | nil =>
    cases s with
    | nil => simp [behind?]
    | cons c s =>
      by_cases hc : c = ' '
      · simp [behind?, hc]
      · simp [behind?, hc, Ne.symm hc]
  | cons d word ih =>
    cases s with
    | nil => simp [behind?]
    | cons c s => by_cases hc : d = c <;> simp [behind?, hc, ih]

/-- A session keeps these words for itself, and no others. -/
theorem ofTrimmed_eq_call_iff (s : List Char) :
    Wish.ofTrimmed s = .call (String.ofList s) ↔ Unreserved s := by
  unfold Wish.ofTrimmed
  split_ifs with hnil hleave hhelp
  · exact ⟨nofun, fun h => absurd hnil h.ne_nil⟩
  · refine ⟨nofun, fun h => ?_⟩
    obtain hword | hword | hquit := hleave
    · exact absurd (hword ▸ by decide) h.not_word
    · exact absurd (hword ▸ by decide) h.not_word
    · exact absurd hquit h.not_quit
  · refine ⟨nofun, fun h => ?_⟩
    obtain hword | hword | hword := hhelp <;> exact absurd (hword ▸ by decide) h.not_word
  · have hbehind := behind?_eq_none_iff "\\sql".toList s
    cases hsql : behind? "\\sql".toList s with
    | some text =>
      rw [hsql] at hbehind
      exact ⟨nofun, fun h => absurd (hbehind.2 h.not_sql) nofun⟩
    | none =>
      refine ⟨fun _ => ⟨hnil, ?_, fun hquit => hleave (.inr (.inr hquit)), hbehind.1 hsql⟩,
        fun _ => rfl⟩
      intro hword
      simp only [words, List.mem_cons, List.not_mem_nil, or_false] at hword
      tauto

/-! ## Lines that are calls -/

/-- What is left of a line when its backspaces are carried out. -/
def Corrects (line text : String) : Prop :=
  Correction.corrected? line.toList = some text.toList

instance : DecidableRel Corrects := fun line text =>
  inferInstanceAs (Decidable (Correction.corrected? line.toList = some text.toList))

variable {line text : String} {lines texts : List String}

theorem wish_of_unreserved (hcorrects : Corrects line text)
    (htext : Unreserved (Text.trim text.toList)) :
    Wish.of? line = some (.call (String.ofList (Text.trim text.toList))) := by
  rw [Wish.of?, hcorrects, Option.map_some, (ofTrimmed_eq_call_iff _).2 htext]

/-- A line is answered like the call that is left of it. -/
theorem step_of_unreserved {s : Session} (hs : s.status = .going) (hcorrects : Corrects line text)
    (htext : Unreserved (Text.trim text.toList)) :
    s.step (some line) = s.answered (reply s.access text s.database) := by
  simp only [step, hs, wish_of_unreserved hcorrects htext, grant, reply_trim]

/-- Lines that are calls are answered like the calls that are left of them, one after the other, and
then the input ends the session. -/
theorem run_of_unreserved {s : Session} (hs : s.status = .going)
    (hcorrects : List.Forall₂ Corrects lines texts)
    (htexts : ∀ text ∈ texts, Unreserved (Text.trim text.toList)) :
    s.run (lines.map some) =
      ((Program.replies s.access texts s.database).1.map .ofReply ++ [.out "quit\n"],
        { s with
          database := (Program.replies s.access texts s.database).2
          entered := s.entered || !lines.isEmpty
          status := .left }) := by
  -- For every session that goes on, since an answered line leaves one, with another database.
  induction hcorrects generalizing s with
  | nil => simp [run, finish, hs, Program.replies]
  | @cons line text lines texts hline _ ih =>
    obtain ⟨htext, hmore⟩ := List.forall_mem_cons.1 htexts
    have hstep := step_of_unreserved hs hline htext
    have hrest := ih (s := (s.answered (reply s.access text s.database)).2) hs hmore
    simp only [List.map_cons, run, hstep, hrest]
    simp [Program.replies, answered]

end Session

namespace Program

open Session

variable {lines texts : List String}

theorem length_replies (access : Database.Access) (texts : List String) (db : Database) :
    (replies access texts db).1.length = texts.length := by
  induction texts generalizing db with
  | nil => rfl
  | cons text texts ih => simp [replies, ih]

/-- An input whose lines are calls is answered as what is left of the lines, given in advance.
There is an answer for every line, whichever of them are errors; the session writes the same
answers, in the same order, between its greeting and its last word, and leaves the same database.
Of a line without backspaces all of it is left. -/
theorem session_answers_calls {input : ByteArray} (hinput : Input.Holds lines input.data.toList)
    (hlines : lines ≠ []) (hcorrects : List.Forall₂ Corrects lines texts)
    (htexts : ∀ text ∈ texts, Unreserved (Text.trim text.toList)) (access : Database.Access)
    (settings : Settings) (db : Database) :
    let answers := (replies access texts db).1
    let after := (replies access texts db).2
    (∀ line : String, Correction.backspace ∉ line.toList → Corrects line line) ∧
      answers.length = lines.length ∧
      serve access { exec := texts } settings [] db =
        ({ emissions := answers.map .ofReply, code := if answers.any failed then 1 else 0 },
          after) ∧
      serve access {} settings (Input.lines input) db =
        ({ emissions := greeting settings :: (answers.map .ofReply ++ [.out "quit\n"])
           code := 0
           keepsHistory := settings.history }, after) := by
  intro answers after
  have htexts_ne : texts ≠ [] := by
    rintro rfl
    exact hlines (List.forall₂_nil_right_iff.1 hcorrects)
  have hrun := run_of_unreserved (s := { access := access, database := db }) rfl hcorrects htexts
  refine ⟨fun line => Correction.corrected?_eq_some, ?_, ?_, ?_⟩
  · rw [length_replies, hcorrects.length_eq]
  · have hbegin : begin access { exec := texts } db =
        .done (serveCalls access texts db).1 (serveCalls access texts db).2 := if_neg htexts_ne
    rw [serve, hbegin]
    rfl
  · have hserve : serve access {} settings (lines.map some) db =
        serveInput settings (lines.map some) { access := access, database := db } := rfl
    rw [Input.lines_of_holds hinput, hserve, serveInput, hrun]
    simp [conclude, Session.code, Session.hasHistory, Report.after, hlines, answers, after]

/-- A line that was typed wrong and mended, and one that is no call and has no line end. -/
theorem session_answers_calls_mended :
    let lines := ["lastInsertId(7\x08)", "lastInsertId("]
    let texts := ["lastInsertId()", "lastInsertId("]
    let input := "lastInsertId(7\x08)\nlastInsertId(".toUTF8
    let settings : Settings := ⟨":memory:", "warn", false⟩
    let failure := Emission.err "Error: Invalid argument: cannot parse call 'lastInsertId('"
    (Input.Holds lines input.data.toList ∧ lines ≠ [] ∧ List.Forall₂ Corrects lines texts ∧
      ∀ text ∈ texts, Unreserved (Text.trim text.toList)) ∧
      (serve .full { exec := texts } settings [] .empty).1.emissions =
        [.out "last insert id: 0\n", failure] ∧
      (serve .full {} settings (Input.lines input) .empty).1.emissions =
        [greeting settings, .out "last insert id: 0\n", failure, .out "quit\n"] := by
  intro lines texts input settings failure
  have hbytes : input.data.toList =
      Input.bytes "lastInsertId(7\x08)" ++ 0x0A :: Input.bytes "lastInsertId(" := by
    decide +kernel
  have hinput : Input.Holds lines input.data.toList := by
    rw [hbytes]
    exact .feed (by decide) (.ended (by decide) (by decide))
  have hcorrects : List.Forall₂ Corrects lines texts :=
    .cons (by decide +kernel) (.cons (by decide +kernel) .nil)
  have htexts : ∀ text ∈ texts, Unreserved (Text.trim text.toList) := by decide +kernel
  have hanswers : (replies .full texts .empty).1.map Emission.ofReply =
      [.out "last insert id: 0\n", failure] := by
    decide +kernel
  obtain ⟨-, -, hexec, hsession⟩ :=
    session_answers_calls hinput (List.cons_ne_nil _ _) hcorrects htexts .full settings .empty
  refine ⟨⟨hinput, List.cons_ne_nil _ _, hcorrects, htexts⟩, ?_, ?_⟩
  · rw [hexec, hanswers]
  · rw [hsession, hanswers]
    rfl

/-- Given in advance as it was typed, such a line is something else: no backspaces are carried out
in it. -/
theorem session_corrects_calls :
    let lines := ["lastInsertId(7\x08)"]
    let input := "lastInsertId(7\x08)\n".toUTF8
    let settings : Settings := ⟨":memory:", "warn", false⟩
    (Input.Holds lines input.data.toList ∧ lines ≠ [] ∧
      ∀ line ∈ lines, Unreserved (Text.trim line.toList)) ∧
      (serve .full { exec := lines } settings [] .empty).1.emissions =
        [.err "Error: Invalid argument: bad argument list: expected `,` or `]` at line 1 column 3"] ∧
      (serve .full {} settings (Input.lines input) .empty).1.emissions =
        [greeting settings, .out "last insert id: 0\n", .out "quit\n"] := by
  intro lines input settings
  have hbytes : input.data.toList = Input.bytes "lastInsertId(7\x08)" ++ 0x0A :: [] := by
    decide +kernel
  have hinput : Input.Holds lines input.data.toList := by
    rw [hbytes]
    exact .feed (by decide) .nothing
  exact ⟨⟨hinput, List.cons_ne_nil _ _, by decide +kernel⟩, by decide +kernel, by decide +kernel⟩

end Program

end CrudByName
