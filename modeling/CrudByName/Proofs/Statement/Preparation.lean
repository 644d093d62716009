import CrudByName.Proofs.Statement.Columns
import CrudByName.Proofs.Statement.Reading

/-!
# Which statements are prepared

`prepare` decides for a verb, a table, a lookup field and arguments whether there is a statement,
and which one.  `Prepares` lists the four ways in which it succeeds, each with the statement and the
parameters (`prepare_eq_ok_iff`); everything else is refused.

A refusal has one of two causes.  If the arguments have the number and the kinds that the verb asks
for and their field map is not empty (`FieldMapOf`), the first faulty key of the map decides
(`prepare_eq_error_iff`).  In every other case the error is an invalid argument
(`invalidArgument_of_prepare`), and so no refusal is anything but an invalid argument or identifier
(`refusal_of_prepare`).

The two main results put this together with the text.  `prepare_exact` is the whole contract of
`prepare`.  `text_determines_operation` says that no two operations have one text, and that the
placeholders in the text are those of the parameters.
-/

namespace CrudByName

/-! ## Success -/

/-- The statements that are prepared, with their parameters. -/
inductive Prepares (table : Identifier) :
    Verb → Option Identifier → List Argument → Prepared → Prop where
  | get (key : Identifier) (value : Value) :
      Prepares table .get (some key) [.scalar value] ⟨.select table key, [value]⟩
  | delete (key : Identifier) (value : Value) :
      Prepares table .delete (some key) [.scalar value] ⟨.delete table key, [value]⟩
  | insert {r : Record} {columns : List (Identifier × Value)}
      (h : (Argument.fields r).columnsAt 1 = .ok columns) :
      Prepares table .insert none [.fields r]
        ⟨.insert table (columns.map Prod.fst), columns.map Prod.snd⟩
  | update (key : Identifier) (value : Value) {r : Record}
      {columns : List (Identifier × Value)}
      (h : (Argument.fields r).columnsAt 2 = .ok columns) :
      Prepares table .update (some key) [.scalar value, .fields r]
        ⟨.update table (columns.map Prod.fst) key, columns.map Prod.snd ++ [value]⟩

section

variable {verb : Verb} {table key : Identifier} {field : Option Identifier}
  {args : List Argument} {p : Prepared} {e : CrudError}

theorem Argument.scalarAt_eq_ok_iff {position : Nat} {arg : Argument} {value : Value} :
    arg.scalarAt position = .ok value ↔ arg = .scalar value := by
  cases arg <;> simp [Argument.scalarAt]

theorem Argument.exists_fields_of_columnsAt {position : Nat} {arg : Argument}
    {columns : List (Identifier × Value)} (h : arg.columnsAt position = .ok columns) :
    ∃ r, arg = .fields r := by
  cases arg with
  | scalar value => cases h
  | fields r => exact ⟨r, rfl⟩

theorem exists_of_prepareKeyed {statement : Statement}
    (h : prepareKeyed verb statement args = .ok p) :
    ∃ value, args = [.scalar value] ∧ p = ⟨statement, [value]⟩ := by
  unfold prepareKeyed at h
  split at h
  · obtain ⟨value, hvalue, hp⟩ := Except.bind_eq_ok_iff.1 h
    rw [Argument.scalarAt_eq_ok_iff.1 hvalue]
    exact ⟨value, rfl, (Except.ok.inj hp).symm⟩
  · cases h

theorem exists_of_prepareInsert (h : prepareInsert table args = .ok p) :
    ∃ r columns, args = [.fields r] ∧ (Argument.fields r).columnsAt 1 = .ok columns ∧
      p = ⟨.insert table (columns.map Prod.fst), columns.map Prod.snd⟩ := by
  unfold prepareInsert at h
  split at h
  · obtain ⟨columns, hcolumns, hp⟩ := Except.bind_eq_ok_iff.1 h
    obtain ⟨r, rfl⟩ := Argument.exists_fields_of_columnsAt hcolumns
    exact ⟨r, columns, rfl, hcolumns, (Except.ok.inj hp).symm⟩
  · cases h

theorem exists_of_prepareUpdate (h : prepareUpdate table key args = .ok p) :
    ∃ value r columns, args = [.scalar value, .fields r] ∧
      (Argument.fields r).columnsAt 2 = .ok columns ∧
      p = ⟨.update table (columns.map Prod.fst) key, columns.map Prod.snd ++ [value]⟩ := by
  unfold prepareUpdate at h
  split at h
  · obtain ⟨value, hvalue, h⟩ := Except.bind_eq_ok_iff.1 h
    obtain ⟨columns, hcolumns, hp⟩ := Except.bind_eq_ok_iff.1 h
    obtain ⟨r, rfl⟩ := Argument.exists_fields_of_columnsAt hcolumns
    rw [Argument.scalarAt_eq_ok_iff.1 hvalue]
    exact ⟨value, r, columns, rfl, hcolumns, (Except.ok.inj hp).symm⟩
  · cases h

/-- `prepare` succeeds in these ways, and in no other. -/
theorem prepare_eq_ok_iff :
    prepare verb table field args = .ok p ↔ Prepares table verb field args p := by
  constructor
  · intro h
    unfold prepare at h
    split at h
    · obtain ⟨value, rfl, rfl⟩ := exists_of_prepareKeyed h
      exact .get _ value
    · obtain ⟨value, rfl, rfl⟩ := exists_of_prepareKeyed h
      exact .delete _ value
    · obtain ⟨r, columns, rfl, hcolumns, rfl⟩ := exists_of_prepareInsert h
      exact .insert hcolumns
    · obtain ⟨value, r, columns, rfl, hcolumns, rfl⟩ := exists_of_prepareUpdate h
      exact .update _ value hcolumns
    · cases h
  · rintro (⟨key, value⟩ | ⟨key, value⟩ | hcolumns | ⟨key, value, hcolumns⟩)
    · rfl
    · rfl
    · simp only [prepare, prepareInsert, hcolumns]
      rfl
    · simp only [prepare, prepareUpdate, hcolumns]
      rfl

/-! ## Refusal -/

/-- The field map of arguments that have the number and the kinds that the verb asks for.  It is not
empty. -/
inductive FieldMapOf : Verb → Option Identifier → List Argument → Record → Prop where
  | insert {r : Record} (nonempty : r.fields ≠ []) : FieldMapOf .insert none [.fields r] r
  | update (key : Identifier) (value : Value) {r : Record} (nonempty : r.fields ≠ []) :
      FieldMapOf .update (some key) [.scalar value, .fields r] r

/-- With a field map to look at, the first faulty key decides. -/
theorem prepare_eq_error_iff {r : Record} (h : FieldMapOf verb field args r) :
    prepare verb table field args = .error e ↔ First (KeyFault r.names) e := by
  cases h with
  | insert nonempty =>
    rw [← columnsAt_eq_error_iff 1 nonempty]
    simp only [prepare, prepareInsert, Except.bind_eq_error_iff]
    exact or_iff_left fun ⟨_, _, h⟩ => nomatch h
  | update key value nonempty =>
    rw [← columnsAt_eq_error_iff 2 nonempty]
    change ((Argument.fields r).columnsAt 2 >>= _) = _ ↔ _
    rw [Except.bind_eq_error_iff]
    exact or_iff_left fun ⟨_, _, h⟩ => nomatch h

theorem Argument.invalidArgument_of_scalarAt {position : Nat} {arg : Argument}
    (h : arg.scalarAt position = .error e) : ∃ fault, e = .invalidArgument fault := by
  cases arg with
  | scalar value => cases h
  | fields r => exact ⟨_, (Except.error.inj h).symm⟩

theorem Argument.invalidArgument_of_columnsAt {position : Nat} {arg : Argument}
    (h : arg.columnsAt position = .error e) :
    (∃ fault, e = .invalidArgument fault) ∨ ∃ r, arg = .fields r ∧ r.fields ≠ [] := by
  cases arg with
  | scalar value => exact .inl ⟨_, (Except.error.inj h).symm⟩
  | fields r =>
    by_cases hempty : r.fields = []
    · simp only [Argument.columnsAt, Record.isEmpty, hempty, List.isEmpty_nil, if_true] at h
      exact .inl ⟨_, (Except.error.inj h).symm⟩
    · exact .inr ⟨r, rfl, hempty⟩

theorem invalidArgument_of_prepareKeyed {statement : Statement}
    (h : prepareKeyed verb statement args = .error e) : ∃ fault, e = .invalidArgument fault := by
  unfold prepareKeyed at h
  split at h
  · obtain hlookup | ⟨value, hvalue, hp⟩ := Except.bind_eq_error_iff.1 h
    · exact Argument.invalidArgument_of_scalarAt hlookup
    · cases hp
  · exact ⟨_, (Except.error.inj h).symm⟩

/-- Without a field map to look at, the error is an invalid argument. -/
theorem invalidArgument_of_prepare (h : ∀ r, ¬ FieldMapOf verb field args r)
    (he : prepare verb table field args = .error e) : ∃ fault, e = .invalidArgument fault := by
  unfold prepare at he
  split at he
  · exact invalidArgument_of_prepareKeyed he
  · exact invalidArgument_of_prepareKeyed he
  · unfold prepareInsert at he
    split at he
    · rename_i data
      obtain hdata | ⟨columns, hcolumns, hp⟩ := Except.bind_eq_error_iff.1 he
      · obtain hfault | ⟨r, rfl, nonempty⟩ := Argument.invalidArgument_of_columnsAt hdata
        · exact hfault
        · exact absurd (.insert nonempty) (h r)
      · cases hp
    · exact ⟨_, (Except.error.inj he).symm⟩
  · unfold prepareUpdate at he
    split at he
    · rename_i key _ lookup changes
      obtain hlookup | ⟨value, hvalue, he⟩ := Except.bind_eq_error_iff.1 he
      · exact Argument.invalidArgument_of_scalarAt hlookup
      · obtain hchanges | ⟨columns, hcolumns, hp⟩ := Except.bind_eq_error_iff.1 he
        · obtain hfault | ⟨r, rfl, nonempty⟩ := Argument.invalidArgument_of_columnsAt hchanges
          · exact hfault
          · obtain rfl := Argument.scalarAt_eq_ok_iff.1 hvalue
            exact absurd (.update key value nonempty) (h r)
        · cases hp
    · exact ⟨_, (Except.error.inj he).symm⟩
  · exact ⟨_, (Except.error.inj he).symm⟩

/-- A refusal is an invalid identifier or an invalid argument. -/
theorem refusal_of_prepare (h : prepare verb table field args = .error e) :
    (∃ token, e = .invalidIdentifier token) ∨ ∃ fault, e = .invalidArgument fault := by
  by_cases hmap : ∃ r, FieldMapOf verb field args r
  · obtain ⟨r, hmap⟩ := hmap
    obtain ⟨i, hfault, -⟩ := (prepare_eq_error_iff hmap).1 h
    cases hfault with
    | noColumn => exact .inl ⟨_, rfl⟩
    | repeated => exact .inr ⟨_, rfl⟩
  · exact .inr (invalidArgument_of_prepare (fun r hr => hmap ⟨r, hr⟩) h)

end

/-! ## The whole contract -/

/-- The combinations of a verb, a field and arguments that have a statement. -/
inductive Accepted : Verb → Option Identifier → List Argument → Prop where
  | get (key : Identifier) (value : Value) : Accepted .get (some key) [.scalar value]
  | delete (key : Identifier) (value : Value) : Accepted .delete (some key) [.scalar value]
  | insert {r : Record} (usable : Usable r) : Accepted .insert none [.fields r]
  | update (key : Identifier) (value : Value) {r : Record} (usable : Usable r) :
      Accepted .update (some key) [.scalar value, .fields r]

/-- The named values in the field maps among arguments. -/
def namedValues (args : List Argument) : List (String × Value) :=
  args.flatMap fun
    | .fields r => r.fields
    | .scalar _ => []

/-- The scalars among arguments. -/
def scalars (args : List Argument) : List Value :=
  args.flatMap fun
    | .fields _ => []
    | .scalar value => [value]

/-- What a prepared statement owes to the operation it was prepared for. -/
structure Describes (style : PlaceholderStyle) (verb : Verb) (table : Identifier)
    (field : Option Identifier) (args : List Argument) (p : Prepared) : Prop where
  verb_eq : p.statement.verb = verb
  table_eq : p.statement.table = table
  field_eq : p.statement.key? = field
  /-- The values of the map in its order, and the lookup value behind them. -/
  params_eq : p.params = (namedValues args).map Prod.snd ++ scalars args
  /-- There is a placeholder for each parameter. -/
  paramCount_eq : p.statement.paramCount = p.params.length
  /-- The columns are those of the keys, in the order of the map. -/
  columns_eq : KeysName ((namedValues args).map Prod.fst) p.statement.columns
  /-- No column is named twice. -/
  nodup : p.statement.columns.Nodup
  /-- The identifiers in the text are the table, the columns and the lookup field. -/
  names_eq : Statement.namesIn (p.statement.text style) =
    table.name :: (p.statement.columns.map (·.name) ++ field.toList.map (·.name))

theorem describes_of_prepare (style : PlaceholderStyle) {verb : Verb} {table : Identifier}
    {field : Option Identifier} {args : List Argument} {p : Prepared}
    (h : prepare verb table field args = .ok p) : Describes style verb table field args p := by
  have hnames : ∀ s : Statement, Statement.namesIn (s.text style) =
      s.table.name :: (s.columns.map (·.name) ++ s.key?.toList.map (·.name)) := by
    intro s
    rw [Statement.namesIn_text, Statement.names, List.map_cons, List.map_append]
  cases prepare_eq_ok_iff.1 h with
  | get key value | delete key value =>
    exact ⟨rfl, rfl, rfl, rfl, rfl, .nil, .nil, hnames _⟩
  | @insert r columns hcolumns =>
    obtain ⟨-, hgo, hnodup⟩ := (columnsAt_eq_ok_iff 1).1 hcolumns
    have hfields : namedValues [.fields r] = r.fields := List.append_nil _
    refine ⟨rfl, rfl, rfl, ?_, ?_, ?_, hnodup, hnames _⟩
    · rw [hfields, values_of_goesTo hgo]
      exact (List.append_nil _).symm
    · rw [Statement.paramCount, List.length_map, List.length_map]
    · rw [hfields]
      exact keysName_of_goesTo hgo
  | @update key value r columns hcolumns =>
    obtain ⟨-, hgo, hnodup⟩ := (columnsAt_eq_ok_iff 2).1 hcolumns
    have hfields : namedValues [.scalar value, .fields r] = r.fields := List.append_nil _
    refine ⟨rfl, rfl, rfl, ?_, ?_, ?_, hnodup, hnames _⟩
    · rw [hfields, values_of_goesTo hgo]
      rfl
    · rw [Statement.paramCount, List.length_append, List.length_map, List.length_map]
      rfl
    · rw [hfields]
      exact keysName_of_goesTo hgo

theorem exists_prepare_iff {verb : Verb} {table : Identifier} {field : Option Identifier}
    {args : List Argument} :
    (∃ p, prepare verb table field args = .ok p) ↔ Accepted verb field args := by
  simp only [prepare_eq_ok_iff]
  constructor
  · rintro ⟨p, ⟨key, value⟩ | ⟨key, value⟩ | hcolumns | ⟨key, value, hcolumns⟩⟩
    · exact .get key value
    · exact .delete key value
    · exact .insert ((usable_iff 1).2 ⟨_, hcolumns⟩)
    · exact .update key value ((usable_iff 2).2 ⟨_, hcolumns⟩)
  · rintro (⟨key, value⟩ | ⟨key, value⟩ | usable | ⟨key, value, usable⟩)
    · exact ⟨_, .get key value⟩
    · exact ⟨_, .delete key value⟩
    · obtain ⟨columns, hcolumns⟩ := (usable_iff 1).1 usable
      exact ⟨_, .insert hcolumns⟩
    · obtain ⟨columns, hcolumns⟩ := (usable_iff 2).1 usable
      exact ⟨_, .update key value hcolumns⟩

/-- When `prepare` succeeds, what it gives then, and with which error it fails otherwise.  With a
field map to look at, the error is that of the first key without a column of its own; and without
one it is an invalid argument. -/
theorem prepare_exact (style : PlaceholderStyle) (verb : Verb) (table : Identifier)
    (field : Option Identifier) (args : List Argument) :
    ((∃ p, prepare verb table field args = .ok p) ↔ Accepted verb field args) ∧
      (∀ p, prepare verb table field args = .ok p → Describes style verb table field args p) ∧
      (∀ r, FieldMapOf verb field args r → ∀ e,
        prepare verb table field args = .error e ↔ First (KeyFault r.names) e) ∧
      ((∀ r, ¬ FieldMapOf verb field args r) → ∀ e,
        prepare verb table field args = .error e → ∃ fault, e = .invalidArgument fault) := by
  refine ⟨exists_prepare_iff, fun p h => describes_of_prepare style h, ?_, ?_⟩
  · exact fun r hmap e => prepare_eq_error_iff hmap
  · exact fun hmap e h => invalidArgument_of_prepare hmap h

/-- Two keys that fall on one column: the later one is refused. -/
theorem prepare_exact_collision :
    FieldMapOf .insert none [.fields ⟨[("userName", .text "a"), ("user_name", .text "b")]⟩]
        ⟨[("userName", .text "a"), ("user_name", .text "b")]⟩ ∧
      First (KeyFault ["userName", "user_name"])
        (.invalidArgument (.repeatedColumn "user_name" "user_name")) :=
  have hmap : FieldMapOf .insert none
      [.fields ⟨[("userName", .text "a"), ("user_name", .text "b")]⟩]
      ⟨[("userName", .text "a"), ("user_name", .text "b")]⟩ := .insert (by simp)
  ⟨hmap, ((prepare_exact .question .insert ⟨"users", by decide⟩ none
    [.fields ⟨[("userName", .text "a"), ("user_name", .text "b")]⟩]).2.2.1 _ hmap _).1 (by decide)⟩

/-! ## Texts and operations -/

/-- One text, one operation; and the placeholders in it are those of the parameters, in order, with
no mark anywhere else. -/
theorem text_determines_operation (style : PlaceholderStyle) :
    (∀ verb₁ verb₂ table₁ table₂ field₁ field₂ args₁ args₂ p₁ p₂,
      prepare verb₁ table₁ field₁ args₁ = .ok p₁ → prepare verb₂ table₂ field₂ args₂ = .ok p₂ →
      p₁.statement.text style = p₂.statement.text style →
      verb₁ = verb₂ ∧ table₁ = table₂ ∧ field₁ = field₂ ∧
        ∃ columns, KeysName ((namedValues args₁).map Prod.fst) columns ∧
          KeysName ((namedValues args₂).map Prod.fst) columns) ∧
    (∀ verb table field args p, prepare verb table field args = .ok p →
      Statement.placeholdersIn (p.statement.text style) =
          (List.range' 1 p.params.length).map style.placeholder ∧
        (p.statement.text style).toList.countP PlaceholderStyle.isMark = p.params.length) := by
  constructor
  · intro verb₁ verb₂ table₁ table₂ field₁ field₂ args₁ args₂ p₁ p₂ h₁ h₂ htext
    have d₁ := describes_of_prepare style h₁
    have d₂ := describes_of_prepare style h₂
    have hstatement := Statement.eq_of_text_eq htext
    refine ⟨?_, ?_, ?_, p₁.statement.columns, d₁.columns_eq, ?_⟩
    · rw [← d₁.verb_eq, ← d₂.verb_eq, hstatement]
    · rw [← d₁.table_eq, ← d₂.table_eq, hstatement]
    · rw [← d₁.field_eq, ← d₂.field_eq, hstatement]
    · rw [hstatement]
      exact d₂.columns_eq
  · intro verb table field args p h
    have d := describes_of_prepare style h
    rw [Statement.placeholdersIn_text, Statement.countP_isMark_text, d.paramCount_eq]
    exact ⟨rfl, rfl⟩

/-- A table and a field that are spelled like words of the statement, and keys that are spelled in
two ways. -/
theorem text_determines_operation_where :
    ∃ p₁ p₂,
      prepare .update ⟨"set", by decide⟩ (some ⟨"where", by decide⟩)
        [.scalar (.integer 7), .fields ⟨[("whereSet", .text "?"), ("b", .null)]⟩] = .ok p₁ ∧
      prepare .update ⟨"set", by decide⟩ (some ⟨"where", by decide⟩)
        [.scalar .null, .fields ⟨[("where_set", .text "$1"), ("B", .integer 1)]⟩] = .ok p₂ ∧
      p₁.statement.text .dollar = p₂.statement.text .dollar ∧
      ∃ columns, KeysName ["whereSet", "b"] columns ∧ KeysName ["where_set", "B"] columns := by
  have h₁ : prepare .update ⟨"set", by decide⟩ (some ⟨"where", by decide⟩)
      [.scalar (.integer 7), .fields ⟨[("whereSet", .text "?"), ("b", .null)]⟩] =
      .ok ⟨.update ⟨"set", by decide⟩ [⟨"where_set", by decide⟩, ⟨"b", by decide⟩]
        ⟨"where", by decide⟩, [.text "?", .null, .integer 7]⟩ := by decide
  have h₂ : prepare .update ⟨"set", by decide⟩ (some ⟨"where", by decide⟩)
      [.scalar .null, .fields ⟨[("where_set", .text "$1"), ("B", .integer 1)]⟩] =
      .ok ⟨.update ⟨"set", by decide⟩ [⟨"where_set", by decide⟩, ⟨"b", by decide⟩]
        ⟨"where", by decide⟩, [.text "$1", .integer 1, .null]⟩ := by decide
  have hcolumns := ((text_determines_operation .dollar).1 _ _ _ _ _ _ _ _ _ _ h₁ h₂ rfl).2.2.2
  exact ⟨_, _, h₁, h₂, rfl, hcolumns⟩

end CrudByName
