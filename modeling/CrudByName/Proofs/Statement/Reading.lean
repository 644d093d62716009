import CrudByName.Proofs.Text.Runs
import CrudByName.Statement
import Mathlib.Data.List.Basic

/-!
# Reading a statement back

The text of a statement is made of words in capitals, identifiers and placeholders.  An identifier
begins with a small letter and goes on with small letters, digits and underscores, a placeholder
begins with a question mark or a dollar sign and goes on with digits, and the rest of the text
contains neither beginning.  So both can be found by a scan from left to right: `namesIn` and
`placeholdersIn`.

What the scans find is what the statement was made of (`namesIn_text`, `placeholdersIn_text`).  An
identifier may be spelled like a word of the statement, since those are in capitals; and a
placeholder of several digits ends where the next character is none.  Together with its first
letter, the names determine the statement (`eq_of_text_eq`): no two statements have one text,
whatever the styles of their placeholders.
-/

namespace CrudByName

/-! ## The two scans -/

/-- The characters that begin a placeholder. -/
def PlaceholderStyle.isMark (c : Char) : Bool :=
  c == '?' || c == '$'

open PlaceholderStyle (isMark)

namespace Statement

/-- The identifiers in a text, in order. -/
def namesIn (text : String) : List String :=
  (Text.runs Identifier.isLower Identifier.isTail text.toList).map String.ofList

/-- The placeholders in a text, in order. -/
def placeholdersIn (text : String) : List String :=
  (Text.runs isMark Decimal.isDigit text.toList).map String.ofList

/-! ## What a statement is made of -/

/-- The verb that a statement is made for. -/
def verb : Statement → Verb
  | select .. => .get
  | insert .. => .insert
  | update .. => .update
  | delete .. => .delete

/-- The table of a statement. -/
def table : Statement → Identifier
  | select table _ | insert table _ | update table _ _ | delete table _ => table

/-- The column that a statement looks up by, if it does. -/
def key? : Statement → Option Identifier
  | select _ key | update _ _ key | delete _ key => some key
  | insert .. => none

/-- The columns that a statement writes, in order. -/
def columns : Statement → List Identifier
  | insert _ columns | update _ columns _ => columns
  | select .. | delete .. => []

/-- The identifiers of a statement in the order of its text. -/
def names (s : Statement) : List Identifier :=
  s.table :: (s.columns ++ s.key?.toList)

theorem eq_of_verb_eq_of_names_eq {s t : Statement} (hverb : s.verb = t.verb)
    (hnames : s.names = t.names) : s = t := by
  cases s <;> cases t <;> simp_all [verb, names, table, columns, key?]

end Statement

/-! ## Characters -/

theorem isMark_of_isTail {c : Char} (h : Identifier.isTail c = true) : isMark c = false := by
  by_contra hmark
  simp only [isMark, Bool.or_eq_true, beq_iff_eq, Bool.not_eq_false] at hmark
  rcases hmark with rfl | rfl <;> exact absurd h (by decide)

theorem isMark_of_isDigit {c : Char} (h : Decimal.isDigit c = true) : isMark c = false := by
  have htail : Identifier.isTail c = true := by
    rw [Identifier.isTail, show Identifier.isDigit c = true from h, Bool.or_true, Bool.true_or]
  exact isMark_of_isTail htail

theorem isLower_of_isDigit {c : Char} (h : Decimal.isDigit c = true) :
    Identifier.isLower c = false := by
  simp only [Decimal.isDigit, Identifier.isLower, Bool.and_eq_true, Bool.and_eq_false_iff,
    decide_eq_true_eq, decide_eq_false_iff_not, Char.le_def, UInt32.le_iff_toNat_le] at h ⊢
  simp at h ⊢
  omega

theorem isLower_of_isMark {c : Char} (h : isMark c = true) : Identifier.isLower c = false := by
  simp only [isMark, Bool.or_eq_true, beq_iff_eq] at h
  rcases h with rfl | rfl <;> decide

/-! ## Identifiers and placeholders as parts -/

/-- An identifier is a small letter and characters that may follow it. -/
theorem Identifier.exists_cons (i : Identifier) :
    ∃ c rest, i.name.toList = c :: rest ∧ isLower c = true ∧ ∀ x ∈ rest, isTail x = true := by
  have hsafe := i.safe
  cases hname : i.name.toList with
  | nil => rw [hname] at hsafe; cases hsafe
  | cons c rest =>
    rw [hname] at hsafe
    simp only [isSafe, Bool.and_eq_true, List.all_eq_true] at hsafe
    exact ⟨c, rest, rfl, hsafe.1, hsafe.2⟩

theorem Identifier.isTail_of_mem (i : Identifier) {c : Char} (h : c ∈ i.name.toList) :
    isTail c = true := by
  obtain ⟨first, rest, hname, hfirst, hrest⟩ := i.exists_cons
  rw [hname] at h
  obtain rfl | h := List.mem_cons.1 h
  · simp [isTail, hfirst]
  · exact hrest c h

theorem Identifier.name_injective : Function.Injective Identifier.name := by
  rintro ⟨a, ha⟩ ⟨b, hb⟩ h
  cases h
  rfl

/-- A placeholder is a mark and digits. -/
theorem PlaceholderStyle.exists_cons (style : PlaceholderStyle) (position : Nat) :
    ∃ c rest, style.chars position = c :: rest ∧ isMark c = true ∧
      ∀ x ∈ rest, Decimal.isDigit x = true := by
  have hdigits := List.all_eq_true.1 (Decimal.all_isDigit_digits position)
  cases style with
  | question => exact ⟨'?', [], rfl, by decide, by simp⟩
  | indexed => exact ⟨'?', _, rfl, by decide, hdigits⟩
  | dollar => exact ⟨'$', _, rfl, by decide, hdigits⟩

open Identifier (isLower isTail)

theorem yields_name (i : Identifier) :
    Text.Yields isLower isTail i.name.toList [i.name.toList] := by
  obtain ⟨c, rest, hname, hc, hrest⟩ := i.exists_cons
  rw [hname]
  exact Text.yields_run hc hrest

theorem yields_no_name (style : PlaceholderStyle) (position : Nat) :
    Text.Yields isLower isTail (style.chars position) [] := by
  obtain ⟨c, rest, hchars, hc, hrest⟩ := style.exists_cons position
  rw [hchars]
  refine Text.yields_nil (List.forall_mem_cons.2 ⟨isLower_of_isMark hc, fun x hx => ?_⟩)
  exact isLower_of_isDigit (hrest x hx)

theorem yields_placeholder (style : PlaceholderStyle) (position : Nat) :
    Text.Yields isMark Decimal.isDigit (style.chars position) [style.chars position] := by
  obtain ⟨c, rest, hchars, hc, hrest⟩ := style.exists_cons position
  rw [hchars]
  exact Text.yields_run hc hrest

theorem yields_no_placeholder (i : Identifier) :
    Text.Yields isMark Decimal.isDigit i.name.toList [] :=
  Text.yields_nil fun _ hc => isMark_of_isTail (i.isTail_of_mem hc)

namespace Statement

variable (style : PlaceholderStyle)

/-! ## The names in a text -/

theorem assignment_yields_name (column : Identifier) (position : Nat) :
    Text.Yields isLower isTail (assignment style column position) [column.name.toList] :=
  (yields_name column).append (by decide) (yields_no_name style position)

theorem assignments_yield_names (columns : List Identifier) :
    Text.Yields isLower isTail (commaSeparated (assignments style columns))
      (columns.map (·.name.toList)) := by
  have hfirst : columns.map (·.name.toList) = columns.zipIdx.map (·.1.name.toList) := by
    conv => lhs; rw [← List.zipIdx_map_fst 0 columns, List.map_map]
    rfl
  rw [hfirst]
  exact Text.Yields.intercalate_map (by decide) fun p => assignment_yields_name style p.1 (p.2 + 1)

theorem chars_yield_names (s : Statement) :
    Text.Yields isLower isTail (s.chars style) (s.names.map (·.name.toList)) := by
  cases s with
  | select table key | delete table key =>
    exact Text.Yields.append (Text.Yields.lead (by decide) (yields_name table)) (by decide)
      (assignment_yields_name style key 1)
  | insert table columns =>
    have hcolumns : Text.Yields isLower isTail (commaSeparated (columns.map (·.name.toList)))
        (columns.map (·.name.toList)) :=
      Text.Yields.intercalate_map (by decide) yields_name
    have hmarks : Text.Yields isLower isTail (commaSeparated (marks style 1 columns.length)) [] :=
      Text.Yields.intercalate_nil (by decide) (yields_no_name style)
    have hnames : (insert table columns).names.map (·.name.toList) =
        [table.name.toList] ++ columns.map (·.name.toList) ++ [] := by
      simp [names, Statement.table, Statement.columns, key?]
    rw [hnames]
    exact Text.Yields.trail (Text.Yields.append (Text.Yields.append
      (Text.Yields.lead (by decide) (yields_name table)) (by decide) hcolumns)
      (by decide) hmarks) (by decide)
  | update table columns key =>
    have hnames : (update table columns key).names.map (·.name.toList) =
        [table.name.toList] ++ columns.map (·.name.toList) ++ [key.name.toList] := by
      simp [names, Statement.table, Statement.columns, key?]
    rw [hnames]
    exact Text.Yields.append (Text.Yields.append
      (Text.Yields.lead (by decide) (yields_name table)) (by decide)
      (assignments_yield_names style columns)) (by decide)
      (assignment_yields_name style key (columns.length + 1))

/-- The scan for names finds the identifiers of the statement. -/
theorem namesIn_text (s : Statement) : namesIn (s.text style) = s.names.map (·.name) := by
  rw [namesIn, text, String.toList_ofList, (chars_yield_names style s).runs_eq, List.map_map]
  exact List.map_congr_left fun i _ => String.ofList_toList

/-! ## The placeholders in a text -/

theorem assignment_yields_placeholder (column : Identifier) (position : Nat) :
    Text.Yields isMark Decimal.isDigit (assignment style column position)
      [style.chars position] :=
  (yields_no_placeholder column).append (by decide) (yields_placeholder style position)

theorem assignments_yield_placeholders (columns : List Identifier) :
    Text.Yields isMark Decimal.isDigit (commaSeparated (assignments style columns))
      ((List.range' 1 columns.length).map style.chars) := by
  have hpositions : (List.range' 1 columns.length).map style.chars =
      columns.zipIdx.map fun p => style.chars (p.2 + 1) := by
    have hsucc : List.range' 1 columns.length = (columns.zipIdx.map Prod.snd).map (· + 1) := by
      rw [List.zipIdx_map_snd, List.range'_eq_map_range, List.range'_eq_map_range, List.map_map]
      exact List.map_congr_left fun i _ => by simp [Nat.add_comm]
    rw [hsucc, List.map_map, List.map_map]
    rfl
  rw [hpositions]
  exact Text.Yields.intercalate_map (by decide) fun p =>
    assignment_yields_placeholder style p.1 (p.2 + 1)

theorem chars_yield_placeholders (s : Statement) :
    Text.Yields isMark Decimal.isDigit (s.chars style)
      ((List.range' 1 s.paramCount).map style.chars) := by
  cases s with
  | select table key | delete table key =>
    exact Text.Yields.append (Text.Yields.lead (by decide) (yields_no_placeholder table))
      (by decide) (assignment_yields_placeholder style key 1)
  | insert table columns =>
    have hcolumns : Text.Yields isMark Decimal.isDigit
        (commaSeparated (columns.map (·.name.toList))) [] :=
      Text.Yields.intercalate_nil (by decide) yields_no_placeholder
    have hmarks : Text.Yields isMark Decimal.isDigit
        (commaSeparated (marks style 1 columns.length))
        ((List.range' 1 columns.length).map style.chars) :=
      Text.Yields.intercalate_map (by decide) (yields_placeholder style)
    exact Text.Yields.trail (Text.Yields.append (Text.Yields.append
      (Text.Yields.lead (by decide) (yields_no_placeholder table)) (by decide) hcolumns)
      (by decide) hmarks) (by decide)
  | update table columns key =>
    have hlast : (List.range' 1 (columns.length + 1)).map style.chars =
        [] ++ (List.range' 1 columns.length).map style.chars ++
          [style.chars (columns.length + 1)] := by
      rw [List.range'_1_concat, List.map_append, Nat.add_comm 1]
      rfl
    rw [paramCount, hlast]
    exact Text.Yields.append (Text.Yields.append
      (Text.Yields.lead (by decide) (yields_no_placeholder table)) (by decide)
      (assignments_yield_placeholders style columns)) (by decide)
      (assignment_yields_placeholder style key (columns.length + 1))

/-- The scan for placeholders finds those of the positions from one on, in order. -/
theorem placeholdersIn_text (s : Statement) :
    placeholdersIn (s.text style) = (List.range' 1 s.paramCount).map style.placeholder := by
  rw [placeholdersIn, text, String.toList_ofList, (chars_yield_placeholders style s).runs_eq,
    List.map_map]
  rfl

/-- No mark stands in a text that does not begin one of its placeholders. -/
theorem countP_isMark_text (s : Statement) :
    (s.text style).toList.countP isMark = s.paramCount := by
  have hdigits : ∀ c, Decimal.isDigit c = true → isMark c = false := fun _ => isMark_of_isDigit
  rw [Text.countP_eq_length_runs hdigits, text, String.toList_ofList,
    (chars_yield_placeholders style s).runs_eq, List.length_map, List.length_range']

/-! ## One text, one statement -/

/-- The capital letter that a text begins with. -/
def initial : Verb → Char
  | .get => 'S'
  | .insert => 'I'
  | .update => 'U'
  | .delete => 'D'
  | .lastInsertId => ' '

theorem head?_chars (s : Statement) : (s.chars style).head? = some (initial s.verb) := by
  cases s <;> rfl

theorem initial_injective : Function.Injective initial := by
  intro a b
  cases a <;> cases b <;> decide

/-- The text determines the statement, also where the placeholders are spelled differently. -/
theorem eq_of_text_eq {style other : PlaceholderStyle} {s t : Statement}
    (h : s.text style = t.text other) : s = t := by
  have hchars : s.chars style = t.chars other := String.ofList_injective h
  have hverb : s.verb = t.verb := by
    have hhead := congrArg List.head? hchars
    rw [head?_chars, head?_chars, Option.some.injEq] at hhead
    exact initial_injective hhead
  have hnames : s.names = t.names := by
    have hread := congrArg namesIn h
    rw [namesIn_text, namesIn_text] at hread
    exact List.map_injective_iff.2 Identifier.name_injective hread
  exact eq_of_verb_eq_of_names_eq hverb hnames

end Statement

end CrudByName
