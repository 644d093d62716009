import CrudByName.Database.Lexeme
import CrudByName.Proofs.Statement.Reading

/-!
# The lexemes of a statement

The database takes the text of a statement apart into lexemes.  For the statements that are prepared
here, with positions as placeholders, `tokens_chars` says which tokens these are: the words of the
statement, one word for each identifier, one parameter for each placeholder, and the marks between
them.

The text is put together from parts.  `Lexes s ts` says that a part gives the tokens `ts` in front
of everything that does not go on with a word, and `Joins` says so of a part that ends the word
before it and leaves none open at its own end.  Words stand between such joints (`Joins.word`), and
so do the items of a list (`Lexes.commaSeparated`).
-/

namespace CrudByName

namespace Database

open Lexeme (scan front isBlank startsWord inWord)

/-! ## Tokens -/

/-- The tokens of a text. -/
def tokens (s : List Char) : List Token :=
  (scan s).map Lexeme.token

/-- A text that does not go on with the word before it, nor with a quote, which would make a
literal of bytes. -/
def EndsWord (rest : List Char) : Prop :=
  Text.Stops (fun c => inWord c || c == '\x27') rest

/-- A word of a statement: a letter and what may follow it. -/
def isWordText : List Char → Bool
  | [] => false
  | c :: rest => startsWord c && rest.all inWord

/-- The marks that are a token each, whatever follows. -/
def isPlainMark (c : Char) : Bool :=
  c == '(' || c == ')' || c == ',' || c == '*'

theorem tokens_nil : tokens [] = [] := by
  rw [tokens, scan]
  rfl

/-- A blank is passed over, and anything else is the front of a token, unless a comment begins there
or the text ends with a zero. -/
theorem tokens_cons {c : Char} (hplain : c ≠ '\x00' ∧ c ≠ '-' ∧ c ≠ '/') (s : List Char) :
    tokens (c :: s) =
      if isBlank c then tokens s else (front c s).1 :: tokens (front c s).2 := by
  obtain ⟨hzero, hdash, hslash⟩ := hplain
  unfold tokens
  rw [scan]
  · split
    · rfl
    · rfl
  · exact hzero
  · exact fun _ h => absurd h hdash
  · exact fun _ h => absurd h hslash

theorem tokens_blank (s : List Char) : tokens (' ' :: s) = tokens s :=
  tokens_cons (by decide) s

theorem tokens_mark {c : Char} (h : isPlainMark c = true) (s : List Char) :
    tokens (c :: s) = .mark c :: tokens s := by
  simp only [isPlainMark, Bool.or_eq_true, beq_iff_eq] at h
  rcases h with ((rfl | rfl) | rfl) | rfl
  all_goals exact tokens_cons (by decide) s

theorem tokens_param (n : Nat) {rest : List Char} (hrest : EndsWord rest) :
    tokens ('?' :: Decimal.digits n ++ rest) = .param n :: tokens rest := by
  have hdigits := List.all_eq_true.1 (Decimal.all_isDigit_digits n)
  have hstops : Text.Stops Decimal.isDigit rest := by
    intro c hc
    have hword := hrest c hc
    simp only [inWord, Bool.or_eq_false_iff] at hword
    exact hword.1.1.2
  have hfront : front '?' (Decimal.digits n ++ rest) = (.param n, rest) := by
    have hread : front '?' (Decimal.digits n ++ rest) =
        (.param (Decimal.ofDigits ((Decimal.digits n ++ rest).takeWhile Decimal.isDigit)),
          (Decimal.digits n ++ rest).dropWhile Decimal.isDigit) := rfl
    rw [hread, Text.takeWhile_append_of_stops hdigits hstops,
      Text.dropWhile_append_of_stops hdigits hstops, Decimal.ofDigits_digits]
  rw [List.cons_append, tokens_cons (by decide), if_neg (by decide), hfront]

theorem EndsWord.stops {rest : List Char} (h : EndsWord rest) : Text.Stops inWord rest := by
  intro c hc
  have hword := h c hc
  rw [Bool.or_eq_false_iff] at hword
  exact hword.1

/-- What follows the first character of a word does not begin with a quote. -/
theorem not_quote_of_endsWord {w rest : List Char} (hw : ∀ c ∈ w, inWord c = true)
    (hrest : EndsWord rest) (inside : List Char) : w ++ rest ≠ '\x27' :: inside := by
  intro h
  cases w with
  | nil =>
    have hquote := hrest '\x27' (by rw [← List.nil_append rest, h]; rfl)
    exact absurd hquote (by decide)
  | cons d w =>
    obtain ⟨rfl, -⟩ := List.cons.inj h
    exact absurd (hw _ List.mem_cons_self) (by decide)

theorem tokens_word {w rest : List Char} (hw : isWordText w = true) (hrest : EndsWord rest) :
    tokens (w ++ rest) = .word w :: tokens rest := by
  cases w with
  | nil => cases hw
  | cons c w =>
    simp only [isWordText, Bool.and_eq_true, List.all_eq_true] at hw
    obtain ⟨hc, hw⟩ := hw
    -- A word begins with none of the characters that mean something else at the front.
    have hne : ∀ d, startsWord d = false → c ≠ d := by
      rintro d hd rfl
      rw [hc] at hd
      cases hd
    have hblank : isBlank c = false := by
      by_contra hblank
      simp only [isBlank, Bool.not_eq_false, Bool.or_eq_true, beq_iff_eq] at hblank
      rcases hblank with (((h | h) | h) | h) | h
      all_goals exact hne _ (by decide) h
    have hfront : front c (w ++ rest) = (.word (c :: w), rest) := by
      unfold front
      rw [if_neg (hne _ (by decide)), if_neg (not_or.2 ⟨hne _ (by decide), hne _ (by decide)⟩),
        if_neg (hne _ (by decide)), if_pos hc]
      split
      · rename_i inside hquote
        exact absurd hquote (not_quote_of_endsWord hw hrest inside)
      · rw [Text.takeWhile_append_of_stops hw hrest.stops,
          Text.dropWhile_append_of_stops hw hrest.stops]
    have hplain : c ≠ '\x00' ∧ c ≠ '-' ∧ c ≠ '/' :=
      ⟨hne _ (by decide), hne _ (by decide), hne _ (by decide)⟩
    rw [List.cons_append, tokens_cons hplain, hblank, hfront]
    rfl

/-! ## Parts of a text -/

/-- A part that gives these tokens, unless what follows goes on with its last word. -/
def Lexes (s : List Char) (ts : List Token) : Prop :=
  ∀ rest, EndsWord rest → tokens (s ++ rest) = ts ++ tokens rest

/-- A part that gives these tokens whatever follows. -/
def Leads (s : List Char) (ts : List Token) : Prop :=
  ∀ rest, tokens (s ++ rest) = ts ++ tokens rest

/-- A part that gives these tokens whatever follows, and ends the word before it. -/
structure Joins (s : List Char) (ts : List Token) : Prop where
  nonempty : s ≠ []
  ends : EndsWord s
  leads : Leads s ts

section

variable {s t sep : List Char} {a b c : List Token}

theorem endsWord_append (hs : s ≠ []) (h : EndsWord s) (rest : List Char) :
    EndsWord (s ++ rest) := by
  obtain ⟨d, s, rfl⟩ := List.exists_cons_of_ne_nil hs
  exact h

theorem joins_blank : Joins [' '] [] where
  nonempty := by decide
  ends := Text.stops_cons (by decide) []
  leads := tokens_blank

theorem joins_mark {m : Char} (h : isPlainMark m = true) : Joins [m] [.mark m] where
  nonempty := by simp
  ends := by
    simp only [isPlainMark, Bool.or_eq_true, beq_iff_eq] at h
    rcases h with ((rfl | rfl) | rfl) | rfl
    all_goals exact Text.stops_cons (by decide) []
  leads := tokens_mark h

/-- A sign of equality between blanks, which is not doubled. -/
theorem joins_equals : Joins [' ', '=', ' '] [.mark '='] where
  nonempty := by decide
  ends := Text.stops_cons (by decide) _
  leads rest := by
    have hmark : tokens ('=' :: ' ' :: rest) = .mark '=' :: tokens (' ' :: rest) :=
      tokens_cons (by decide) (' ' :: rest)
    show tokens (' ' :: '=' :: ' ' :: rest) = .mark '=' :: tokens rest
    rw [tokens_blank, hmark, tokens_blank]

theorem Joins.append (hs : Joins s a) (ht : Joins t b) : Joins (s ++ t) (a ++ b) where
  nonempty := fun h => hs.nonempty (List.append_eq_nil_iff.1 h).1
  ends := endsWord_append hs.nonempty hs.ends t
  leads rest := by rw [List.append_assoc, hs.leads, ht.leads, List.append_assoc]

theorem lexes_word (h : isWordText s = true) : Lexes s [.word s] :=
  fun _ hrest => tokens_word h hrest

theorem lexes_param (n : Nat) : Lexes (PlaceholderStyle.indexed.chars n) [.param n] :=
  fun _ hrest => tokens_param n hrest

/-- A word at the front of a text, closed by a joint. -/
theorem Leads.word (hs : isWordText s = true) (ht : Joins t b) : Leads (s ++ t) (.word s :: b) := by
  intro rest
  rw [List.append_assoc, tokens_word hs (endsWord_append ht.nonempty ht.ends rest), ht.leads]
  rfl

/-- A word between two joints. -/
theorem Joins.word (hsep : Joins sep a) (hs : isWordText s = true) (ht : Joins t b) :
    Joins (sep ++ s ++ t) (a ++ .word s :: b) where
  nonempty := fun h => hsep.nonempty (List.append_eq_nil_iff.1 (List.append_eq_nil_iff.1 h).1).1
  ends := by
    rw [List.append_assoc]
    exact endsWord_append hsep.nonempty hsep.ends (s ++ t)
  leads rest := by
    rw [List.append_assoc sep, List.append_assoc, hsep.leads, Leads.word hs ht, List.append_assoc]

theorem Leads.lexes (hs : Leads s a) (ht : Lexes t b) : Lexes (s ++ t) (a ++ b) := by
  intro rest hrest
  rw [List.append_assoc, hs, ht rest hrest, List.append_assoc]

theorem Lexes.append (hs : Lexes s a) (hsep : Joins sep b) (ht : Lexes t c) :
    Lexes (s ++ sep ++ t) (a ++ b ++ c) := by
  intro rest hrest
  have hmiddle := endsWord_append hsep.nonempty hsep.ends (t ++ rest)
  rw [List.append_assoc, List.append_assoc, hs _ hmiddle, hsep.leads, ht rest hrest]
  simp only [List.append_assoc]

theorem Lexes.tokens_eq (h : Lexes s a) : tokens s = a := by
  have hnil : EndsWord [] := fun _ h => by cases h
  have hall := h [] hnil
  rwa [List.append_nil, tokens_nil, List.append_nil] at hall

/-- The items of a list, with a comma and a blank between each two. -/
theorem Lexes.commaSeparated {α : Type} (xs : List α) {part : α → List Char}
    {found : α → List Token} (h : ∀ x, Lexes (part x) (found x)) :
    Lexes (Statement.commaSeparated (xs.map part))
      ([Token.mark ','].intercalate (xs.map found)) := by
  have hcomma : Joins [',', ' '] [.mark ','] := (joins_mark (by decide)).append joins_blank
  unfold Statement.commaSeparated
  induction xs with
  | nil => exact fun rest _ => rfl
  | cons x xs ih =>
    cases xs with
    | nil => simpa using h x
    | cons y ys =>
      rw [List.map_cons, List.map_cons, List.intercalate_cons_cons, List.map_cons, List.map_cons,
        List.intercalate_cons_cons]
      exact (h x).append hcomma ih

end

/-! ## The statements -/

theorem startsWord_of_isLower {c : Char} (h : Identifier.isLower c = true) :
    startsWord c = true := by
  have hlower : c.isLower = true := h
  show (c.isUpper || c.isLower || c == '_' || 0x80 ≤ c.toNat) = true
  rw [hlower, Bool.or_true, Bool.true_or, Bool.true_or]

theorem inWord_of_isTail {c : Char} (h : Identifier.isTail c = true) : inWord c = true := by
  simp only [Identifier.isTail, Bool.or_eq_true, beq_iff_eq] at h
  rcases h with (hlower | hdigit) | rfl
  · rw [inWord, startsWord_of_isLower hlower, Bool.true_or, Bool.true_or]
  · have hdecimal : Decimal.isDigit c = true := hdigit
    rw [inWord, hdecimal, Bool.or_true, Bool.true_or]
  · decide

theorem isWordText_name (i : Identifier) : isWordText i.name.toList = true := by
  obtain ⟨c, rest, hname, hc, hrest⟩ := i.exists_cons
  rw [hname, isWordText, startsWord_of_isLower hc, Bool.true_and, List.all_eq_true]
  exact fun d hd => inWord_of_isTail (hrest d hd)

/-- The token of an identifier. -/
def Identifier.token (i : Identifier) : Token :=
  .word i.name.toList

theorem lexes_name (i : Identifier) : Lexes i.name.toList [Identifier.token i] :=
  lexes_word (isWordText_name i)

/-- The tokens of a column with a parameter. -/
def assignmentTokens (column : Identifier) (position : Nat) : List Token :=
  [Identifier.token column, .mark '=', .param position]

theorem lexes_assignment (column : Identifier) (position : Nat) :
    Lexes (Statement.assignment .indexed column position) (assignmentTokens column position) :=
  (lexes_name column).append joins_equals (lexes_param position)

/-- The tokens of a list, with commas between the items. -/
def listTokens (items : List (List Token)) : List Token :=
  [Token.mark ','].intercalate items

/-- The tokens of a statement. -/
def statementTokens : Statement → List Token
  | .select table key =>
    [.word "SELECT".toList, .mark '*', .word "FROM".toList, Identifier.token table,
      .word "WHERE".toList] ++ assignmentTokens key 1
  | .delete table key =>
    [.word "DELETE".toList, .word "FROM".toList, Identifier.token table, .word "WHERE".toList] ++
      assignmentTokens key 1
  | .insert table columns =>
    [.word "INSERT".toList, .word "INTO".toList, Identifier.token table, .mark '('] ++
      listTokens (columns.map fun c => [Identifier.token c]) ++
      [.mark ')', .word "VALUES".toList, .mark '('] ++
      listTokens ((List.range' 1 columns.length).map fun n => [Token.param n]) ++ [.mark ')']
  | .update table columns key =>
    [.word "UPDATE".toList, Identifier.token table, .word "SET".toList] ++
      listTokens (columns.zipIdx.map fun p => assignmentTokens p.1 (p.2 + 1)) ++
      [.word "WHERE".toList] ++ assignmentTokens key (columns.length + 1)

/-- A blank, a mark and another blank. -/
theorem joins_spacedMark {m : Char} (h : isPlainMark m = true) :
    Joins [' ', m, ' '] [.mark m] :=
  (joins_blank.append (joins_mark h)).append joins_blank

/-- A word between two blanks. -/
theorem joins_spacedWord {w : List Char} (h : isWordText w = true) :
    Joins ([' '] ++ w ++ [' ']) [.word w] :=
  joins_blank.word h joins_blank

theorem joins_where : Joins " WHERE ".toList [.word "WHERE".toList] :=
  joins_spacedWord (w := "WHERE".toList) (by decide)

theorem tokens_chars (s : Statement) : tokens (s.chars .indexed) = statementTokens s := by
  apply Lexes.tokens_eq
  cases s with
  | select table key =>
    have hfrom : Joins " * FROM ".toList [.mark '*', .word "FROM".toList] :=
      Joins.word (s := "FROM".toList) (joins_spacedMark (by decide)) (by decide) joins_blank
    have hlead : Leads "SELECT * FROM ".toList
        [.word "SELECT".toList, .mark '*', .word "FROM".toList] :=
      Leads.word (s := "SELECT".toList) (by decide) hfrom
    exact (hlead.lexes (lexes_name table)).append joins_where (lexes_assignment key 1)
  | delete table key =>
    have hlead : Leads "DELETE FROM ".toList [.word "DELETE".toList, .word "FROM".toList] :=
      Leads.word (s := "DELETE".toList) (by decide)
        (joins_spacedWord (w := "FROM".toList) (by decide))
    exact (hlead.lexes (lexes_name table)).append joins_where (lexes_assignment key 1)
  | insert table columns =>
    have hlead : Leads "INSERT INTO ".toList [.word "INSERT".toList, .word "INTO".toList] :=
      Leads.word (s := "INSERT".toList) (by decide)
        (joins_spacedWord (w := "INTO".toList) (by decide))
    have hopen : Joins " (".toList [.mark '('] := joins_blank.append (joins_mark (by decide))
    have hvalues : Joins ") VALUES (".toList
        [.mark ')', .word "VALUES".toList, .mark '('] :=
      Joins.word (s := "VALUES".toList) ((joins_mark (by decide)).append joins_blank) (by decide)
        hopen
    have hclose : Joins ")".toList [.mark ')'] := joins_mark (by decide)
    have hcolumns := Lexes.commaSeparated columns lexes_name
    have hmarks := Lexes.commaSeparated (List.range' 1 columns.length) lexes_param
    have hnil : Lexes [] [] := fun rest _ => rfl
    have hall := (((hlead.lexes (lexes_name table)).append hopen hcolumns).append hvalues
      hmarks).append hclose hnil
    rw [List.append_nil, List.append_nil] at hall
    exact hall
  | update table columns key =>
    have hlead : Leads "UPDATE ".toList [.word "UPDATE".toList] :=
      Leads.word (s := "UPDATE".toList) (by decide) joins_blank
    have hset : Joins " SET ".toList [.word "SET".toList] :=
      joins_spacedWord (w := "SET".toList) (by decide)
    have hchanges : Lexes (Statement.commaSeparated (Statement.assignments .indexed columns))
        (listTokens (columns.zipIdx.map fun p => assignmentTokens p.1 (p.2 + 1))) :=
      Lexes.commaSeparated columns.zipIdx fun p => lexes_assignment p.1 (p.2 + 1)
    exact ((hlead.lexes (lexes_name table)).append hset hchanges).append joins_where
      (lexes_assignment key (columns.length + 1))

end Database

end CrudByName
