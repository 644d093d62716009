import CrudByName.Database.Command
import CrudByName.Proofs.Database.Lexemes
import CrudByName.Proofs.Passes

/-!
# The command of a statement

The database reads the text of a prepared statement as a command, unless a name in it cannot stand
where it stands.  A table and the columns that are written must not be reserved words.  The column
of a lookup stands where an expression is due: a few words that are no reserved ones begin another
expression there, and those for null and for the present moment are expressions of their own
(`isKey`).

`Reads p ts ok P rest` says what the parser `p` makes of tokens: where `ok` holds, it gives a value
that meets `P` and leaves the tokens `rest`, and otherwise it refuses what SQL does not have there.
There is one such lemma for each parser, joined by `Reads.bind`.  Together they say which statements
are commands, and which ones (`parse_chars`): `Denotes` is the relation between the two.  No
prepared statement is one of those that are only not carried out.
-/

namespace CrudByName

namespace Database

namespace Command

/-! ## What a parser makes of tokens -/

/-- Where `ok` holds, the parser gives a value that meets `P` and leaves the tokens `rest`.
Otherwise it meets what SQL does not have there. -/
def Reads {α : Type} (p : Parser α) (ts : List Token) (ok : Prop) (P : α → Prop)
    (rest : List Token) : Prop :=
  ∀ ls : List Lexeme, ls.map Lexeme.token = ts →
    (ok → ∃ a more, p ls = .ok (a, more) ∧ P a ∧ more.map Lexeme.token = rest) ∧
      (¬ ok → ∃ place, p ls = .error (unexpectedAt place))

section

variable {α β : Type} {p : Parser α} {f : α → Parser β} {ts mid rest : List Token}
  {ok ok' : Prop} {P : α → Prop} {Q : β → Prop} {t : List Char} {w : String}

theorem Reads.congr (h : Reads p ts ok P rest) (hok : ok ↔ ok') : Reads p ts ok' P rest := by
  rw [← propext hok]
  exact h

theorem reads_pure {a : α} (h : P a) : Reads (pure a : Parser α) ts True P ts :=
  fun ls hls => ⟨fun _ => ⟨a, ls, rfl, h, hls⟩, fun hno => absurd trivial hno⟩

/-- One parser after the other: both have to find what is due. -/
theorem Reads.bind (hp : Reads p ts ok P mid) (hf : ∀ a, P a → Reads (f a) mid ok' Q rest) :
    Reads (p >>= f) ts (ok ∧ ok') Q rest := by
  intro ls hls
  obtain ⟨hyes, hno⟩ := hp ls hls
  by_cases hok : ok
  · obtain ⟨a, more, hrun, ha, hmore⟩ := hyes hok
    have hbind : (p >>= f) ls = f a more := by
      show (p ls >>= fun r => f r.1 r.2) = _
      rw [hrun]
      rfl
    obtain ⟨hyes', hno'⟩ := hf a ha more hmore
    rw [hbind]
    exact ⟨fun h => hyes' h.2, fun h => hno' fun h' => h ⟨hok, h'⟩⟩
  · obtain ⟨place, hrun⟩ := hno hok
    have hbind : (p >>= f) ls = .error (unexpectedAt place) := by
      show (p ls >>= fun r => f r.1 r.2) = _
      rw [hrun]
      rfl
    exact ⟨fun h => absurd h.1 hok, fun _ => ⟨place, hbind⟩⟩

/-- A parser behind one that finds what is due. -/
theorem Reads.after (hp : Reads p ts True P mid) (hf : ∀ a, P a → Reads (f a) mid ok Q rest) :
    Reads (p >>= f) ts ok Q rest :=
  (hp.bind hf).congr (iff_of_eq (true_and ok))

/-- A parser with nothing behind it that could stop. -/
theorem Reads.before (hp : Reads p ts ok P mid) (hf : ∀ a, P a → Reads (f a) mid True Q rest) :
    Reads (p >>= f) ts ok Q rest :=
  (hp.bind hf).congr (iff_of_eq (and_true ok))

/-- A lexeme at the front, taken apart. -/
theorem exists_of_map_token {token : Token} {ls : List Lexeme}
    (h : ls.map Lexeme.token = token :: rest) :
    ∃ text left more, ls = ⟨token, text, left⟩ :: more ∧ more.map Lexeme.token = rest := by
  obtain ⟨⟨_, text, left⟩, more, rfl, rfl, hmore⟩ := List.map_eq_cons_iff.1 h
  exact ⟨text, left, more, rfl, hmore⟩

theorem reads_keyword (h : upper t = w.toList) :
    Reads (keyword w) (.word t :: rest) True (fun _ => True) rest := by
  intro ls hls
  obtain ⟨text, left, more, rfl, hmore⟩ := exists_of_map_token hls
  refine ⟨fun _ => ⟨(), more, ?_, trivial, hmore⟩, fun hno => absurd trivial hno⟩
  simp only [keyword]
  rw [if_pos h]

theorem reads_mark (c : Char) : Reads (mark c) (.mark c :: rest) True (fun _ => True) rest := by
  intro ls hls
  obtain ⟨text, left, more, rfl, hmore⟩ := exists_of_map_token hls
  refine ⟨fun _ => ⟨(), more, ?_, trivial, hmore⟩, fun hno => absurd trivial hno⟩
  simp only [mark]
  exact if_pos trivial

theorem reads_goesOn (token : Token) :
    Reads goesOn (token :: rest) True (fun _ => True) (token :: rest) := by
  intro ls hls
  obtain ⟨text, left, more, rfl, -⟩ := exists_of_map_token hls
  exact ⟨fun _ => ⟨(), _, rfl, trivial, hls⟩, fun hno => absurd trivial hno⟩

/-- A word that does not stop the parser is refused. -/
theorem reads_refuseUnless {words : List String} (h : isOneOf words t = false) :
    Reads (refuseUnless words : Parser α) (.word t :: rest) False (fun _ => False) rest := by
  intro ls hls
  obtain ⟨text, left, more, rfl, -⟩ := exists_of_map_token hls
  refine ⟨False.elim, fun _ => ⟨⟨.word t, text, left⟩ :: more, ?_⟩⟩
  simp only [refuseUnless, h, Bool.false_eq_true, if_false]

/-- A word is a name if it is not reserved. -/
theorem reads_name : Reads name (.word t :: rest) (isReserved t = false)
    (fun n => n.text = String.ofList t) rest := by
  intro ls hls
  obtain ⟨text, left, more, rfl, hmore⟩ := exists_of_map_token hls
  simp only [name]
  constructor
  · intro hfree
    rw [hfree]
    exact ⟨_, more, rfl, rfl, hmore⟩
  · intro hreserved
    rw [if_pos (by simpa using hreserved)]
    exact ⟨_, rfl⟩

theorem reads_param (n : Nat) :
    Reads operand (.param n :: rest) True (fun o => o = .param n) rest := by
  intro ls hls
  obtain ⟨text, left, more, rfl, hmore⟩ := exists_of_map_token hls
  exact ⟨fun _ => ⟨.param n, more, rfl, rfl, hmore⟩, fun hno => absurd trivial hno⟩

/-- Where a word begins one way to go on, the parser goes that way. -/
theorem Reads.chosen {yes no : Parser β} (h : upper t = w.toList) (hyes : Reads yes rest ok Q mid) :
    Reads (optional w >>= fun b => if b = true then yes else no) (.word t :: rest) ok Q mid := by
  have hword : Reads (optional w) (.word t :: rest) True (fun b => b = true) rest := by
    intro ls hls
    obtain ⟨text, left, more, rfl, hmore⟩ := exists_of_map_token hls
    refine ⟨fun _ => ⟨true, more, ?_, rfl, hmore⟩, fun hno => absurd trivial hno⟩
    simp only [optional]
    rw [if_pos h]
  refine hword.after fun b hb => ?_
  rw [hb]
  exact hyes

theorem Reads.skipped {yes no : Parser β} (h : upper t ≠ w.toList)
    (hno : Reads no (.word t :: rest) ok Q mid) :
    Reads (optional w >>= fun b => if b = true then yes else no) (.word t :: rest) ok Q mid := by
  have hword : Reads (optional w) (.word t :: rest) True (fun b => b = false)
      (.word t :: rest) := by
    intro ls hls
    obtain ⟨text, left, more, rfl, -⟩ := exists_of_map_token hls
    refine ⟨fun _ => ⟨false, _, ?_, rfl, hls⟩, fun hno => absurd trivial hno⟩
    simp only [optional]
    rw [if_neg h]
  refine hword.after fun b hb => ?_
  rw [hb]
  exact hno

/-! ## Parts of a statement -/

/-- Whether an identifier is read as a name. -/
def isPlain (i : Identifier) : Bool :=
  !isReserved i.name.toList

/-- Whether an identifier, on the left of a comparison, is a cell that is the same for all rows. -/
def isConstant (i : Identifier) : Bool :=
  (constantOf? i.name.toList).isSome

/-- Whether an identifier can stand on the left of a comparison. -/
def isKey (i : Identifier) : Bool :=
  isConstant i || (isPlain i && !isOneOf openingWords i.name.toList)

/-- What an identifier is on the left of a comparison. -/
inductive Compared (i : Identifier) : Subject → Prop where
  | column {n : Name} (hkey : constantOf? i.name.toList = none) (h : n.text = i.name) :
      Compared i (.column n)
  | constant {k : Constant} (h : constantOf? i.name.toList = some k) : Compared i (.constant k)

theorem reads_identifier (i : Identifier) :
    Reads name (Identifier.token i :: rest) (isPlain i = true) (fun n => n.text = i.name) rest := by
  have hname : Reads name (Identifier.token i :: rest) (isReserved i.name.toList = false)
      (fun n => n.text = String.ofList i.name.toList) rest := reads_name
  rw [String.ofList_toList] at hname
  exact hname.congr (by rw [isPlain, Bool.not_eq_true'])

theorem reads_column (i : Identifier) :
    Reads (Subject.column <$> name) (Identifier.token i :: rest) (isPlain i = true)
      (fun s => ∃ n : Name, s = .column n ∧ n.text = i.name) rest := by
  rw [map_eq_pure_bind]
  exact (reads_identifier i).before fun n hn => reads_pure ⟨n, rfl, hn⟩

section

variable {text : List Char} {left : Nat} {more : List Lexeme}

theorem subject_of_constant {k : Constant} (h : constantOf? t = some k) :
    subject (⟨.word t, text, left⟩ :: more) = .ok (.constant k, more) := by
  simp only [subject, h]

theorem subject_of_opening (h : constantOf? t = none) (hopening : isOneOf openingWords t = true)
    {text' : List Char} {left' : Nat} :
    subject (⟨.word t, text, left⟩ :: ⟨.mark '=', text', left'⟩ :: more) =
      .error (unexpectedAt (⟨.mark '=', text', left'⟩ :: more)) := by
  simp only [subject, h, hopening, if_true]

theorem subject_of_name (h : constantOf? t = none) (hopening : isOneOf openingWords t = false) :
    subject (⟨.word t, text, left⟩ :: more) =
      (Subject.column <$> name) (⟨.word t, text, left⟩ :: more) := by
  simp only [subject, h, hopening, Bool.false_eq_true, if_false]

end

/-- The left side of a comparison, with the sign of equality behind it. -/
theorem reads_subject (i : Identifier) :
    Reads subject (Identifier.token i :: .mark '=' :: rest) (isKey i = true) (Compared i)
      (.mark '=' :: rest) := by
  intro ls hls
  obtain ⟨hyes, hno⟩ := reads_column i ls hls
  obtain ⟨text, left, more, rfl, hmore⟩ := exists_of_map_token hls
  obtain ⟨text', left', behind, rfl, -⟩ := exists_of_map_token hmore
  cases hconstant : constantOf? i.name.toList with
  | some k =>
    have hkey : isKey i = true := by
      rw [isKey, isConstant, hconstant, Option.isSome_some, Bool.true_or]
    exact ⟨fun _ => ⟨.constant k, _, subject_of_constant hconstant, .constant hconstant, hmore⟩,
      fun h => absurd hkey h⟩
  | none =>
    have hkey : isKey i = (isPlain i && !isOneOf openingWords i.name.toList) := by
      rw [isKey, isConstant, hconstant, Option.isSome_none, Bool.false_or]
    cases hopening : isOneOf openingWords i.name.toList with
    | true =>
      have hfalse : isKey i = false := by
        rw [hkey, hopening, Bool.not_true, Bool.and_false]
      rw [hfalse]
      exact ⟨fun h => absurd h Bool.false_ne_true,
        fun _ => ⟨_, subject_of_opening hconstant hopening⟩⟩
    | false =>
      have hsubject : subject (⟨Identifier.token i, text, left⟩ ::
          ⟨.mark '=', text', left'⟩ :: behind) = _ := subject_of_name hconstant hopening
      rw [hkey, hopening, Bool.not_false, Bool.and_true, hsubject]
      refine ⟨fun hplain => ?_, hno⟩
      obtain ⟨_, more', hrun, ⟨n, rfl, hn⟩, hmore'⟩ := hyes hplain
      exact ⟨.column n, more', hrun, .column hconstant hn, hmore'⟩

theorem reads_assignment (i : Identifier) (n : Nat) :
    Reads change (assignmentTokens i n ++ rest) (isPlain i = true)
      (fun c => c.1.text = i.name ∧ c.2 = .param n) rest := by
  exact (reads_identifier i).before fun c hc => (reads_mark '=').after fun _ _ =>
    (reads_param n).after fun o ho => reads_pure ⟨hc, ho⟩

theorem reads_filter (i : Identifier) (n : Nat) :
    Reads filter (.word "WHERE".toList :: assignmentTokens i n ++ rest) (isKey i = true)
      (fun f => ∃ s, Compared i s ∧ f = .equal s (.param n)) rest := by
  apply Reads.chosen (by decide)
  exact (reads_subject i).before fun s hs => (reads_goesOn _).after fun _ _ =>
    (reads_mark '=').after fun _ _ => (reads_param n).after fun o ho =>
      reads_pure ⟨s, hs, by rw [ho]⟩

/-! ## Lists -/

theorem listTokens_cons_cons (x y : List Token) (xs : List (List Token)) :
    listTokens (x :: y :: xs) = x ++ .mark ',' :: listTokens (y :: xs) := by
  rw [listTokens, List.intercalate_cons_cons, List.append_assoc]
  rfl

/-- There is a comma between each two items, and so a lexeme for every item but one. -/
theorem length_listTokens (items : List (List Token)) :
    items.length ≤ (listTokens items).length + 1 := by
  induction items with
  | nil => exact Nat.zero_le _
  | cons x xs ih =>
    cases xs with
    | nil => exact Nat.le_add_left 1 _
    | cons y ys =>
      simp only [listTokens_cons_cons, List.length_append, List.length_cons] at ih ⊢
      omega

section

variable {ι : Type} {item : Parser α} {toks : ι → List Token} {okay : ι → Prop}
  {means : ι → α → Prop}

section

variable {ls more : List Lexeme} {a : α}

theorem separated_error {e : Fault} (h : item ls = .error e) (n : Nat) :
    separated item n ls = .error e := by
  cases n with
  | zero =>
    show (item ls >>= fun r => _) = _
    rw [h]
    rfl
  | succ n => simp only [separated, h]

/-- An item with no comma behind it is the last one. -/
theorem separated_last (h : item ls = .ok (a, more))
    (hmore : (more.map Lexeme.token).head? ≠ some (.mark ',')) (n : Nat) :
    separated item n ls = .ok ([a], more) := by
  cases n with
  | zero =>
    show (item ls >>= fun r => _) = _
    rw [h]
    rfl
  | succ n =>
    simp only [separated, h]
    split
    · cases ‹Except.ok _ = Except.error _›
    · rename_i heq
      cases heq
      exact absurd rfl hmore
    · rename_i heq
      cases heq
      rfl

theorem separated_comma {text : List Char} {left : Nat}
    (h : item ls = .ok (a, ⟨.mark ',', text, left⟩ :: more)) (n : Nat) :
    separated item (n + 1) ls =
      (separated item n more).map fun found => (a :: found.1, found.2) := by
  simp only [separated, h]
  cases separated item n more with
  | error e => rfl
  | ok found => rfl

end

/-- A list is read item by item, if it cannot go on behind its last one.  The induction is on the
items; the bound on their number only has to be large enough. -/
theorem reads_separated (hrest : rest.head? ≠ some (.mark ',')) (x : ι) (xs : List ι)
    (hitem : ∀ y ∈ x :: xs, ∀ more, Reads item (toks y ++ more) (okay y) (means y) more)
    {n : Nat} (hn : xs.length ≤ n) :
    Reads (separated item n) (listTokens ((x :: xs).map toks) ++ rest) (∀ y ∈ x :: xs, okay y)
      (List.Forall₂ means (x :: xs)) rest := by
  induction xs generalizing x n with
  | nil =>
    intro ls hls
    have hsingle : listTokens ([x].map toks) = toks x := by simp [listTokens]
    rw [hsingle] at hls
    obtain ⟨hyes, hno⟩ := hitem x List.mem_cons_self rest ls hls
    rw [List.forall_mem_singleton]
    constructor
    · intro hok
      obtain ⟨a, more, hrun, ha, hmore⟩ := hyes hok
      have hlast := separated_last hrun (by rwa [hmore]) n
      exact ⟨[a], more, hlast, .cons ha .nil, hmore⟩
    · intro hok
      obtain ⟨place, hrun⟩ := hno hok
      exact ⟨place, separated_error hrun n⟩
  | cons y ys ih =>
    obtain ⟨k, rfl⟩ := Nat.exists_eq_add_of_le' (Nat.le_trans (Nat.le_add_left 1 _) hn)
    intro ls hls
    rw [List.map_cons, List.map_cons, listTokens_cons_cons, List.append_assoc] at hls
    obtain ⟨hyes, hno⟩ := hitem x List.mem_cons_self _ ls hls
    rw [List.forall_mem_cons]
    by_cases hok : okay x
    · obtain ⟨a, more, hrun, ha, hmore⟩ := hyes hok
      obtain ⟨text, left, behind, rfl, hbehind⟩ := exists_of_map_token hmore
      have hnext := ih y (fun z hz => hitem z (List.mem_cons_of_mem x hz))
        (Nat.le_of_succ_le_succ hn) behind hbehind
      rw [separated_comma hrun]
      constructor
      · rintro ⟨-, hall⟩
        obtain ⟨as, last, hrun, has, hlast⟩ := hnext.1 hall
        rw [hrun]
        exact ⟨a :: as, last, rfl, .cons ha has, hlast⟩
      · intro hnot
        obtain ⟨place, hrun⟩ := hnext.2 fun hall => hnot ⟨hok, hall⟩
        rw [hrun]
        exact ⟨place, rfl⟩
    · obtain ⟨place, hrun⟩ := hno hok
      exact ⟨fun h => absurd h.1 hok, fun _ => ⟨place, separated_error hrun _⟩⟩

theorem reads_list (hrest : rest.head? ≠ some (.mark ',')) {xs : List ι} (hne : xs ≠ [])
    (hitem : ∀ y ∈ xs, ∀ more, Reads item (toks y ++ more) (okay y) (means y) more) :
    Reads (list item) (listTokens (xs.map toks) ++ rest) (∀ y ∈ xs, okay y)
      (List.Forall₂ means xs) rest := by
  obtain ⟨x, xs, rfl⟩ := List.exists_cons_of_ne_nil hne
  intro ls hls
  have hlength : xs.length ≤ ls.length := by
    have hitems := length_listTokens ((x :: xs).map toks)
    have hall := congrArg List.length hls
    rw [List.length_map, List.length_append] at hall
    rw [List.length_map, List.length_cons] at hitems
    omega
  exact reads_separated hrest x xs hitem hlength ls hls

end

/-! ## Statements -/

/-- Whether a statement can be read. -/
def Readable : Statement → Prop
  | .select table key | .delete table key => isPlain table = true ∧ isKey key = true
  | .insert table columns => isPlain table = true ∧ ∀ c ∈ columns, isPlain c = true
  | .update table columns key =>
    isPlain table = true ∧ (∀ c ∈ columns, isPlain c = true) ∧ isKey key = true

/-- The command that a statement is, but for the places of its names. -/
inductive Denotes : Statement → Command → Prop where
  | select {table key : Identifier} {n : Name} {s : Subject} (hn : n.text = table.name)
      (hs : Compared key s) : Denotes (.select table key) (.select n (.equal s (.param 1)))
  | insert {table : Identifier} {columns : List Identifier} {n : Name} {names : List Name}
      (hn : n.text = table.name)
      (hnames : List.Forall₂ (fun c (m : Name) => m.text = c.name) columns names) :
      Denotes (.insert table columns)
        (.insert n names ((List.range' 1 columns.length).map .param))
  | update {table key : Identifier} {columns : List Identifier} {n : Name} {s : Subject}
      {changes : List (Name × Operand)} (hn : n.text = table.name)
      (hchanges : List.Forall₂ (fun p (c : Name × Operand) =>
        c.1.text = p.1.name ∧ c.2 = .param (p.2 + 1)) columns.zipIdx changes)
      (hs : Compared key s) :
      Denotes (.update table columns key)
        (.update n changes (.equal s (.param (columns.length + 1))))
  | delete {table key : Identifier} {n : Name} {s : Subject} (hn : n.text = table.name)
      (hs : Compared key s) : Denotes (.delete table key) (.delete n (.equal s (.param 1)))

theorem reads_select (table key : Identifier) :
    Reads statement (statementTokens (.select table key)) (Readable (.select table key))
      (Denotes (.select table key)) [] := by
  refine Reads.chosen (by decide) ((reads_mark '*').after fun _ _ =>
    (reads_goesOn _).after fun _ _ => (reads_keyword (by decide)).after fun _ _ => ?_)
  refine (reads_identifier table).bind fun n hn => ?_
  refine (reads_filter key 1).before fun f hf => ?_
  obtain ⟨s, hs, rfl⟩ := hf
  exact reads_pure (.select hn hs)

theorem reads_delete (table key : Identifier) :
    Reads statement (statementTokens (.delete table key)) (Readable (.delete table key))
      (Denotes (.delete table key)) [] := by
  refine Reads.skipped (by decide) <| Reads.skipped (by decide) <| Reads.skipped (by decide) <|
    Reads.chosen (by decide) ((reads_keyword (by decide)).after fun _ _ => ?_)
  refine (reads_identifier table).bind fun n hn => ?_
  refine (reads_filter key 1).before fun f hf => ?_
  obtain ⟨s, hs, rfl⟩ := hf
  exact reads_pure (.delete hn hs)

/-- The columns of an insert. -/
theorem reads_names (hrest : rest.head? ≠ some (.mark ',')) {columns : List Identifier}
    (hne : columns ≠ []) :
    Reads (list name) (listTokens (columns.map fun c => [Identifier.token c]) ++ rest)
      (∀ c ∈ columns, isPlain c = true)
      (List.Forall₂ (fun c (n : Name) => n.text = c.name) columns) rest :=
  reads_list hrest hne fun c _ _ => reads_identifier c

/-- The placeholders of an insert. -/
theorem reads_params (hrest : rest.head? ≠ some (.mark ',')) {positions : List Nat}
    (hne : positions ≠ []) :
    Reads (list operand) (listTokens (positions.map fun n => [Token.param n]) ++ rest) True
      (fun cells => cells = positions.map .param) rest := by
  have hlist : Reads (list operand) (listTokens (positions.map fun n => [Token.param n]) ++ rest)
      (∀ n ∈ positions, True) (List.Forall₂ (fun n o => o = .param n) positions) rest :=
    reads_list hrest hne fun n _ _ => reads_param n
  have hmeans : List.Forall₂ (fun n o => o = Operand.param n) positions =
      fun cells => cells = positions.map .param := by
    funext cells
    refine propext ⟨List.eq_map_of_forall₂, ?_⟩
    rintro rfl
    rw [List.forall₂_map_right_iff, List.forall₂_same]
    exact fun _ _ => rfl
  rw [← hmeans]
  exact hlist.congr (iff_true_intro fun _ _ => trivial)

/-- The changes of an update. -/
theorem reads_changes (hrest : rest.head? ≠ some (.mark ',')) {columns : List Identifier}
    (hne : columns ≠ []) :
    Reads (list change)
      (listTokens (columns.zipIdx.map fun p => assignmentTokens p.1 (p.2 + 1)) ++ rest)
      (∀ c ∈ columns, isPlain c = true)
      (List.Forall₂ (fun p (c : Name × Operand) => c.1.text = p.1.name ∧ c.2 = .param (p.2 + 1))
        columns.zipIdx) rest := by
  have hpairs : columns.zipIdx ≠ [] := by simpa using hne
  have hlist : Reads (list change)
      (listTokens (columns.zipIdx.map fun p => assignmentTokens p.1 (p.2 + 1)) ++ rest)
      (∀ p ∈ columns.zipIdx, isPlain p.1 = true)
      (List.Forall₂ (fun p (c : Name × Operand) => c.1.text = p.1.name ∧ c.2 = .param (p.2 + 1))
        columns.zipIdx) rest :=
    reads_list hrest hpairs fun p _ _ => reads_assignment p.1 (p.2 + 1)
  refine hlist.congr ?_
  conv => rhs; rw [← List.zipIdx_map_fst 0 columns]
  rw [List.forall_mem_map]

theorem reads_insert (table : Identifier) {columns : List Identifier} (hne : columns ≠ []) :
    Reads statement (statementTokens (.insert table columns)) (Readable (.insert table columns))
      (Denotes (.insert table columns)) [] := by
  have hpositions : List.range' 1 columns.length ≠ [] := by
    simpa [List.range'_eq_nil_iff] using hne
  have htokens : statementTokens (.insert table columns) =
      .word "INSERT".toList :: .word "INTO".toList :: Identifier.token table :: .mark '(' ::
        (listTokens (columns.map fun c => [Identifier.token c]) ++
          (.mark ')' :: .word "VALUES".toList :: .mark '(' ::
            (listTokens ((List.range' 1 columns.length).map fun n => [Token.param n]) ++
              [.mark ')']))) := by
    simp [statementTokens]
  rw [htokens]
  refine Reads.skipped (by decide) <| Reads.chosen (by decide) <|
    (reads_keyword (by decide)).after fun _ _ => ?_
  refine (reads_identifier table).bind fun n hn => (reads_mark '(').after fun _ _ => ?_
  refine (reads_names (by simp) hne).before fun names hnames => (reads_mark ')').after fun _ _ => ?_
  refine (reads_keyword (by decide)).after fun _ _ => (reads_mark '(').after fun _ _ => ?_
  refine (reads_params (by simp) hpositions).after fun cells hcells =>
    (reads_mark ')').after fun _ _ => ?_
  rw [hcells]
  exact reads_pure (.insert hn hnames)

theorem reads_update (table key : Identifier) {columns : List Identifier} (hne : columns ≠ []) :
    Reads statement (statementTokens (.update table columns key))
      (Readable (.update table columns key)) (Denotes (.update table columns key)) [] := by
  have htokens : statementTokens (.update table columns key) =
      .word "UPDATE".toList :: Identifier.token table :: .word "SET".toList ::
        (listTokens (columns.zipIdx.map fun p => assignmentTokens p.1 (p.2 + 1)) ++
          (.word "WHERE".toList :: assignmentTokens key (columns.length + 1) ++ [])) := by
    simp [statementTokens]
  rw [htokens]
  refine Reads.skipped (by decide) <| Reads.skipped (by decide) <| Reads.chosen (by decide) ?_
  by_cases hor : upper table.name.toList = "OR".toList
  · -- This table is taken for the word, and is a reserved one.
    have hreserved : isPlain table = false := by
      have hupper : String.ofList (upper table.name.toList) = "OR" := by rw [hor]; rfl
      rw [isPlain, isReserved, isOneOf, hupper]
      decide
    have hreadable : ¬ Readable (.update table columns key) := by
      intro h
      have hplain := h.1
      rw [hreserved] at hplain
      cases hplain
    have hset : isOneOf resolvingWords "SET".toList = false := by decide
    refine Reads.congr (Reads.chosen hor ?_) (iff_of_false not_false hreadable)
    exact (reads_refuseUnless hset).before fun _ h => h.elim
  · refine Reads.skipped hor <| (reads_identifier table).bind fun n hn =>
      (reads_keyword (by decide)).after fun _ _ => ?_
    refine (reads_changes (by simp) hne).bind fun changes hchanges => ?_
    refine (reads_filter key (columns.length + 1)).before fun f hf => ?_
    obtain ⟨s, hs, rfl⟩ := hf
    exact reads_pure (.update hn hchanges hs)

end

/-! ## Texts -/

/-- A statement that writes columns writes one at least. -/
def WritesSome : Statement → Prop
  | .select .. | .delete .. => True
  | .insert _ columns | .update _ columns _ => columns ≠ []

theorem reads_statement {s : Statement} (h : WritesSome s) :
    Reads statement (statementTokens s) (Readable s) (Denotes s) [] := by
  cases s with
  | select table key => exact reads_select table key
  | insert table columns => exact reads_insert table h
  | update table columns key => exact reads_update table key h
  | delete table key => exact reads_delete table key

/-- A text without semicolons is one statement. -/
theorem statements_eq {ls : List Lexeme} (hne : ls ≠ [])
    (h : ∀ l ∈ ls, l.endsStatement = false) : Lexeme.statements ls = [ls] := by
  induction ls with
  | nil => exact absurd rfl hne
  | cons l ls ih =>
    obtain ⟨hl, hls⟩ := List.forall_mem_cons.1 h
    rw [Lexeme.statements, if_neg (by rw [hl]; exact Bool.false_ne_true)]
    cases ls with
    | nil => rfl
    | cons l' ls => rw [ih (List.cons_ne_nil _ _) hls]

theorem mem_listTokens {token : Token} {items : List (List Token)} (h : token ∈ listTokens items) :
    token = .mark ',' ∨ ∃ item ∈ items, token ∈ item := by
  induction items with
  | nil => cases h
  | cons x xs ih =>
    cases xs with
    | nil => exact .inr ⟨x, List.mem_cons_self, by simpa [listTokens] using h⟩
    | cons y ys =>
      rw [listTokens_cons_cons, List.mem_append, List.mem_cons] at h
      rcases h with hx | rfl | hrest
      · exact .inr ⟨x, List.mem_cons_self, hx⟩
      · exact .inl rfl
      · rcases ih hrest with rfl | ⟨item, hitem, hmem⟩
        · exact .inl rfl
        · exact .inr ⟨item, List.mem_cons_of_mem x hitem, hmem⟩

theorem semicolon_not_mem_assignmentTokens (i : Identifier) (n : Nat) :
    Token.mark ';' ∉ assignmentTokens i n := by
  simp [assignmentTokens, Identifier.token]

theorem semicolon_not_mem_listTokens {items : List (List Token)}
    (h : ∀ item ∈ items, Token.mark ';' ∉ item) : Token.mark ';' ∉ listTokens items := by
  intro hmem
  rcases mem_listTokens hmem with hcomma | ⟨item, hitem, hmem⟩
  · cases hcomma
  · exact h item hitem hmem

theorem semicolon_not_mem_statementTokens (s : Statement) :
    Token.mark ';' ∉ statementTokens s := by
  have hassignment := semicolon_not_mem_assignmentTokens
  have htable : ∀ i : Identifier, Token.mark ';' ≠ Identifier.token i := fun i => nofun
  cases s with
  | select table key => simp [statementTokens, htable, hassignment]
  | delete table key => simp [statementTokens, htable, hassignment]
  | insert table columns =>
    have hcolumns : Token.mark ';' ∉ listTokens (columns.map fun c => [Identifier.token c]) :=
      semicolon_not_mem_listTokens (List.forall_mem_map.2 fun c _ => by simp [htable])
    have hmarks : Token.mark ';' ∉
        listTokens ((List.range' 1 columns.length).map fun n => [Token.param n]) :=
      semicolon_not_mem_listTokens (List.forall_mem_map.2 fun n _ => by simp)
    simp [statementTokens, htable, hcolumns, hmarks]
  | update table columns key =>
    have hchanges : Token.mark ';' ∉
        listTokens (columns.zipIdx.map fun p => assignmentTokens p.1 (p.2 + 1)) :=
      semicolon_not_mem_listTokens (List.forall_mem_map.2 fun p _ => hassignment _ _)
    simp [statementTokens, htable, hassignment, hchanges]

theorem Denotes.defined {s : Statement} {c : Command} (h : Denotes s c) (definition : String) :
    c.defined definition = c := by
  cases h <;> rfl

section

variable {text : List Char} {ls : List Lexeme} {c : Command} {fault : Fault}

theorem not_ends_at_once {l : Lexeme} {more : List Lexeme}
    (hend : ∀ other ∈ l :: more, other.endsStatement = false) :
    ¬ (l.endsStatement = true ∧ more = []) := by
  rintro ⟨hl, -⟩
  rw [hend l List.mem_cons_self] at hl
  cases hl

/-- A statement that does not end early is read to its end. -/
theorem ofStatement_of_ok (hne : ls ≠ []) (hend : ∀ l ∈ ls, l.endsStatement = false)
    (h : statement ls = .ok (c, [])) :
    ofStatement text ls = .ok (some (c.defined (definition text ls))) := by
  obtain ⟨l, more, rfl⟩ := List.exists_cons_of_ne_nil hne
  rw [ofStatement, if_neg (not_ends_at_once hend), h]

theorem ofStatement_of_error (hne : ls ≠ []) (hend : ∀ l ∈ ls, l.endsStatement = false)
    (h : statement ls = .error fault) : ofStatement text ls = .error fault := by
  obtain ⟨l, more, rfl⟩ := List.exists_cons_of_ne_nil hne
  rw [ofStatement, if_neg (not_ends_at_once hend), h]

end

/-- A prepared statement is a command exactly if it can be read. -/
theorem parse_chars {s : Statement} (h : WritesSome s) :
    (Readable s → ∃ c, parse (s.chars .indexed) = .ok (some c) ∧ Denotes s c) ∧
      (¬ Readable s → ∃ place, parse (s.chars .indexed) = .error (unexpectedAt place)) := by
  have htokens := tokens_chars s
  obtain ⟨hyes, hno⟩ := reads_statement h (Lexeme.scan (s.chars .indexed)) htokens
  have hend : ∀ l ∈ Lexeme.scan (s.chars .indexed), l.endsStatement = false := by
    intro l hl
    refine decide_eq_false fun heq => semicolon_not_mem_statementTokens s ?_
    rw [← htokens, ← heq]
    exact List.mem_map_of_mem hl
  have hne : Lexeme.scan (s.chars .indexed) ≠ [] := by
    intro hnil
    rw [tokens, hnil] at htokens
    cases s <;> simp [statementTokens] at htokens
  have hparse : parse (s.chars .indexed) =
      ofStatement (s.chars .indexed) (Lexeme.scan (s.chars .indexed)) := by
    rw [parse, statements_eq hne hend]
  rw [hparse]
  constructor
  · intro hreadable
    obtain ⟨c, rest, hrun, hc, hrest⟩ := hyes hreadable
    obtain rfl := List.map_eq_nil_iff.1 hrest
    exact ⟨c, by rw [ofStatement_of_ok hne hend hrun, hc.defined], hc⟩
  · intro hreadable
    obtain ⟨place, hrun⟩ := hno hreadable
    exact ⟨place, ofStatement_of_error hne hend hrun⟩

/-! ## Parameters -/

/-- The positions of columns, counted from one. -/
theorem map_zipIdx_succ (columns : List Identifier) {β : Type} (f : Nat → β) :
    (columns.zipIdx.map fun p => f (p.2 + 1)) = (List.range' 1 columns.length).map f := by
  have hsucc : List.range' 1 columns.length = (columns.zipIdx.map Prod.snd).map (1 + ·) := by
    rw [List.zipIdx_map_snd, List.map_add_range']
  rw [hsucc, List.map_map, List.map_map]
  refine List.map_congr_left fun p _ => ?_
  rw [Function.comp_apply, Function.comp_apply, Nat.add_comm]

end Command

end Database

end CrudByName
