import CrudByName.Proofs.Dispatch.Trace
import CrudByName.Proofs.Identifier.Words

/-!
# The table and the column that a name means

Whoever calls an operation by a name has a table and a column in mind.  `Addresses` says that the
operations named by two tokens ask every connection for just that table and column, in the words of
the statement; `InsertsInto` says the same of an insert, which has no field token.

That the statement comes out so hangs on two things only: the name has to be decoded to the tokens
it was made of, and each token has to be normalized to the identifier that was meant
(`addresses_of_normalize`).  Both hold of words that are capitalised and put together, within the
limits of `Words.Phrase`, and of identifiers that are written as they are
(`names_reach_identifiers`).
-/

namespace CrudByName

/-! ## The text of a statement -/

namespace Statement

variable (style : PlaceholderStyle)

/-- Columns with commas between them. -/
def columnList (columns : List Identifier) : String :=
  ", ".intercalate (columns.map (·.name))

/-- The placeholders of the positions up to `count`, with commas between them. -/
def placeholderList (count : Nat) : String :=
  ", ".intercalate ((List.range' 1 count).map style.placeholder)

/-- Each column with the placeholder of its position. -/
def setList (columns : List Identifier) : String :=
  ", ".intercalate (columns.zipIdx.map fun (column, i) =>
    column.name ++ " = " ++ style.placeholder (i + 1))

theorem text_select (table key : Identifier) :
    (select table key).text style =
      "SELECT * FROM " ++ table.name ++ " WHERE " ++ key.name ++ " = " ++ style.placeholder 1 := by
  rw [← String.toList_inj]
  unfold text chars assignment PlaceholderStyle.placeholder
  simp only [String.toList_append, String.toList_ofList, List.append_assoc]

theorem text_delete (table key : Identifier) :
    (delete table key).text style =
      "DELETE FROM " ++ table.name ++ " WHERE " ++ key.name ++ " = " ++ style.placeholder 1 := by
  rw [← String.toList_inj]
  unfold text chars assignment PlaceholderStyle.placeholder
  simp only [String.toList_append, String.toList_ofList, List.append_assoc]

theorem toList_commaSeparated (parts : List String) :
    (", ".intercalate parts).toList = commaSeparated (parts.map String.toList) := by
  rw [String.toList_intercalate]
  rfl

theorem text_insert (table : Identifier) (columns : List Identifier) :
    (insert table columns).text style =
      "INSERT INTO " ++ table.name ++ " (" ++ columnList columns ++ ") VALUES (" ++
        placeholderList style columns.length ++ ")" := by
  have hcolumns : (columnList columns).toList = commaSeparated (columns.map (·.name.toList)) := by
    rw [columnList, toList_commaSeparated, List.map_map]
    rfl
  have hmarks : (placeholderList style columns.length).toList =
      commaSeparated (marks style 1 columns.length) := by
    rw [placeholderList, toList_commaSeparated, List.map_map]
    refine congrArg commaSeparated (List.map_congr_left fun position _ => ?_)
    simp [PlaceholderStyle.placeholder]
  rw [← String.toList_inj]
  unfold text chars
  simp only [hcolumns, hmarks, String.toList_append, String.toList_ofList, List.append_assoc]

theorem text_update (table key : Identifier) (columns : List Identifier) :
    (update table columns key).text style =
      "UPDATE " ++ table.name ++ " SET " ++ setList style columns ++ " WHERE " ++ key.name ++
        " = " ++ style.placeholder (columns.length + 1) := by
  have hset : (setList style columns).toList = commaSeparated (assignments style columns) := by
    rw [setList, toList_commaSeparated, List.map_map]
    refine congrArg commaSeparated (List.map_congr_left fun pair _ => ?_)
    simp [assignment, PlaceholderStyle.placeholder]
  rw [← String.toList_inj]
  unfold text chars assignment PlaceholderStyle.placeholder
  simp only [hset, String.toList_append, String.toList_ofList, List.append_assoc]

end Statement

namespace Dispatch

/-! ## What an operation asks for -/

variable {σ : Type}

/-- An operation with a name, a table and a field that are identifiers comes down to what is
prepared for it. -/
theorem plan_spelling {operation : Operation} (hnamed : operation.Named) {token : String}
    (htoken : operation.table? = some token) {table : Identifier}
    (htable : Identifier.normalize token = .ok table) {field : Option Identifier}
    (hfield : operation.field?.mapM Identifier.normalize = .ok field) (args : List Argument)
    (style : PlaceholderStyle) :
    plan style operation.spelling args =
      (prepare operation.verb table field args).map (Prepared.request style) := by
  have hparse := Operation.parse_eq_ok_iff.2 ⟨hnamed, rfl⟩
  simp only [plan, hparse, htoken, prepareNamed, htable, hfield, bind, Except.bind]
  cases prepare operation.verb table field args with
  | error e => rfl
  | ok prepared => rfl

/-- A plan asks for the last id, or it is prepared by the verb of the operation. -/
theorem of_plan {style : PlaceholderStyle} {name : String} {args : List Argument}
    {request : Request} (h : plan style name args = .ok request) :
    ∃ operation, Operation.parse name = .ok operation ∧
      (request = .lastInsertId ∨ ∃ table field prepared,
        Prepares table operation.verb field args prepared ∧ request = prepared.request style) := by
  obtain ⟨operation, hparse, h⟩ := Except.bind_eq_ok_iff.1 h
  refine ⟨operation, hparse, ?_⟩
  cases operation with
  | lastInsertId =>
    simp only [Operation.table?] at h
    split at h
    · exact .inl (Except.ok.inj h).symm
    · cases h
  | get | insert | update | delete =>
    obtain ⟨prepared, hprepared, h⟩ := Except.bind_eq_ok_iff.1 h
    obtain ⟨table, -, hprepared⟩ := Except.bind_eq_ok_iff.1 hprepared
    obtain ⟨field, -, hprepare⟩ := Except.bind_eq_ok_iff.1 hprepared
    exact .inr ⟨table, field, prepared, prepare_eq_ok_iff.1 hprepare, (Except.ok.inj h).symm⟩

/-- With arguments that can be prepared, such an operation asks for the prepared statement. -/
theorem requests_of_prepare {operation : Operation} (hnamed : operation.Named) {token : String}
    (htoken : operation.table? = some token) {table : Identifier}
    (htable : Identifier.normalize token = .ok table) {field : Option Identifier}
    (hfield : operation.field?.mapM Identifier.normalize = .ok field) {args : List Argument}
    {prepared : Prepared} (hprepare : prepare operation.verb table field args = .ok prepared)
    (c : Connection σ) (s : σ) :
    (step c ⟨operation.spelling, args⟩ s).requests = [prepared.request (c.style s)] := by
  have hplan := plan_spelling hnamed htoken htable hfield args (c.style s)
  rw [hprepare] at hplan
  rw [step_of_plan_ok hplan]

/-- The operations named by a table token and a field token address one table by one column.  Each
of them makes the single call that is given here, on any connection in any state. -/
structure Addresses (tableToken fieldToken table column : String) : Prop where
  get {σ : Type} (c : Connection σ) (s : σ) (v : Value) :
    (step c ⟨"get" ++ tableToken ++ "By" ++ fieldToken, [.scalar v]⟩ s).requests =
      [.query ("SELECT * FROM " ++ table ++ " WHERE " ++ column ++ " = " ++
        (c.style s).placeholder 1) [v]]
  delete {σ : Type} (c : Connection σ) (s : σ) (v : Value) :
    (step c ⟨"delete" ++ tableToken ++ "By" ++ fieldToken, [.scalar v]⟩ s).requests =
      [.execute ("DELETE FROM " ++ table ++ " WHERE " ++ column ++ " = " ++
        (c.style s).placeholder 1) [v]]
  /-- The columns that are set are those of the keys of the field map. -/
  update {σ : Type} (c : Connection σ) (s : σ) (v : Value) {r : Record} (usable : Usable r) :
    ∃ columns, KeysName r.names columns ∧
      (step c ⟨"update" ++ tableToken ++ "By" ++ fieldToken, [.scalar v, .fields r]⟩ s).requests =
        [.execute ("UPDATE " ++ table ++ " SET " ++ Statement.setList (c.style s) columns ++
          " WHERE " ++ column ++ " = " ++ (c.style s).placeholder (columns.length + 1))
          (r.values ++ [v])]

/-- An insert named by a table token goes into one table. -/
def InsertsInto (tableToken table : String) : Prop :=
  ∀ {σ : Type} (c : Connection σ) (s : σ) {r : Record}, Usable r →
    ∃ columns, KeysName r.names columns ∧
      (step c ⟨"insert" ++ tableToken, [.fields r]⟩ s).requests =
        [.execute ("INSERT INTO " ++ table ++ " (" ++ Statement.columnList columns ++
          ") VALUES (" ++ Statement.placeholderList (c.style s) columns.length ++ ")") r.values]

/-- A field map that a statement can use has a column for each of its keys. -/
theorem exists_columns_of_usable {r : Record} (h : Usable r) (position : Nat) :
    ∃ columns, (Argument.fields r).columnsAt position = .ok columns ∧
      KeysName r.names (columns.map Prod.fst) ∧ columns.map Prod.snd = r.values := by
  obtain ⟨columns, hcolumns⟩ := (usable_iff position).1 h
  obtain ⟨-, hgo, -⟩ := (columnsAt_eq_ok_iff position).1 hcolumns
  exact ⟨columns, hcolumns, keysName_of_goesTo hgo, values_of_goesTo hgo⟩

/-- The tokens of a name address what they are normalized to. -/
theorem addresses_of_normalize {t f : String} (htokens : Operation.Tokens t f)
    {table column : Identifier} (htable : Identifier.normalize t = .ok table)
    (hcolumn : Identifier.normalize f = .ok column) :
    Addresses t f table.name column.name := by
  have hfield : (some f).mapM Identifier.normalize = .ok (some column) :=
    Except.map_eq_ok_iff.2 ⟨column, hcolumn, rfl⟩
  refine ⟨fun c s v => ?_, fun c s v => ?_, fun c s v r usable => ?_⟩
  · have hget := requests_of_prepare (.get htokens) rfl htable hfield
      (prepare_eq_ok_iff.2 (.get column v)) c s
    rw [← Statement.text_select]
    exact hget
  · have hdelete := requests_of_prepare (.delete htokens) rfl htable hfield
      (prepare_eq_ok_iff.2 (.delete column v)) c s
    rw [← Statement.text_delete]
    exact hdelete
  · obtain ⟨columns, hcolumns, hkeys, hvalues⟩ := exists_columns_of_usable usable 2
    have hupdate := requests_of_prepare (.update htokens) rfl htable hfield
      (prepare_eq_ok_iff.2 (.update column v hcolumns)) c s
    refine ⟨columns.map Prod.fst, hkeys, ?_⟩
    rw [← Statement.text_update, ← hvalues]
    exact hupdate

theorem insertsInto_of_normalize {t : String} (ht : t ≠ "") {table : Identifier}
    (htable : Identifier.normalize t = .ok table) : InsertsInto t table.name := by
  intro σ c s r usable
  obtain ⟨columns, hcolumns, hkeys, hvalues⟩ := exists_columns_of_usable usable 1
  have hinsert := requests_of_prepare (.insert ht) rfl htable rfl
    (prepare_eq_ok_iff.2 (.insert hcolumns)) c s
  refine ⟨columns.map Prod.fst, hkeys, ?_⟩
  rw [← Statement.text_insert, ← hvalues]
  exact hinsert

/-! ## Words and identifiers -/

open Words (Phrase camel snake)

/-- The words of a name reach the table and the column of the same words; only the table of a lookup
must have no word that could be taken for the separator.  Identifiers reach themselves. -/
theorem names_reach_identifiers :
    (∀ ts fs, Phrase ts → Phrase fs → (∀ w ∈ ts, ¬ ['b', 'y'] <+: w.toList) →
      Addresses (camel ts) (camel fs) (snake ts) (snake fs)) ∧
    (∀ ts, Phrase ts → InsertsInto (camel ts) (snake ts)) ∧
    ∀ t f, Identifier.isSafe t.toList → Identifier.isSafe f.toList →
      Addresses t f t f ∧ InsertsInto t t := by
  refine ⟨fun ts fs ht hf hby => ?_, fun ts ht => ?_, fun t f ht hf => ⟨?_, ?_⟩⟩
  · obtain ⟨table, htable, htableName⟩ := Words.normalize_camel ht
    obtain ⟨column, hcolumn, hcolumnName⟩ := Words.normalize_camel hf
    rw [← htableName, ← hcolumnName]
    exact addresses_of_normalize (Words.tokens_camel ht hf hby) htable hcolumn
  · obtain ⟨table, htable, htableName⟩ := Words.normalize_camel ht
    rw [← htableName]
    exact insertsInto_of_normalize (Words.camel_ne_empty ht) htable
  · exact addresses_of_normalize (Words.tokens_of_isSafe ht hf)
      (Identifier.normalize_of_isSafe ht) (Identifier.normalize_of_isSafe hf)
  · exact insertsInto_of_normalize (Words.tokens_of_isSafe ht hf).table_ne
      (Identifier.normalize_of_isSafe ht)

/-- A table whose last word is a single letter, the first of the separator, and a column with a word
that begins like it. -/
theorem names_reach_identifiers_job :
    (Phrase ["job", "b"] ∧ Phrase ["sorted", "by", "rank2"] ∧
        ∀ w ∈ ["job", "b"], ¬ ['b', 'y'] <+: w.toList) ∧
      (step Recorder.connection ⟨"getJobBBySortedByRank2", [.scalar (.integer 7)]⟩
          { style := .dollar }).requests =
        [.query "SELECT * FROM job_b WHERE sorted_by_rank2 = $1" [.integer 7]] := by
  have htable : Phrase ["job", "b"] := .cons rfl (by decide) rfl (.last rfl)
  have hcolumn : Phrase ["sorted", "by", "rank2"] :=
    .cons rfl (by decide) rfl (.cons rfl (by decide) rfl (.last rfl))
  have hby : ∀ w ∈ ["job", "b"], ¬ ['b', 'y'] <+: w.toList := by decide
  have hname : "get" ++ camel ["job", "b"] ++ "By" ++ camel ["sorted", "by", "rank2"] =
      "getJobBBySortedByRank2" := by decide
  have hsql : "SELECT * FROM " ++ snake ["job", "b"] ++ " WHERE " ++
      snake ["sorted", "by", "rank2"] ++ " = " ++ PlaceholderStyle.dollar.placeholder 1 =
      "SELECT * FROM job_b WHERE sorted_by_rank2 = $1" := by decide +kernel
  have hget := (names_reach_identifiers.1 _ _ htable hcolumn hby).get Recorder.connection
    { style := .dollar } (.integer 7)
  rw [hname] at hget
  exact ⟨⟨htable, hcolumn, hby⟩, hsql ▸ hget⟩

end Dispatch

end CrudByName
