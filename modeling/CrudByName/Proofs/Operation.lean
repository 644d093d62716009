import CrudByName.Operation

/-!
# Names and what they spell

An operation name is decoded by cutting a verb off its front and splitting the rest.  The split is
at the first `By` (`splitFirstBy_eq_some_iff`): a table token has none inside it, and a token that
ends in `B` makes none with what follows.  So the tokens of a name are determined by it, and `parse`
gives exactly the operation that has a name and spells it (`parse_eq_ok_iff`).  `Named` says which
operations have one.
-/

namespace CrudByName

namespace Operation

/-! ## Operations that have a name -/

/-- `By` occurs in a token. -/
def HasSeparator (token : String) : Prop :=
  ['B', 'y'] <:+: token.toList

instance (token : String) : Decidable (HasSeparator token) :=
  inferInstanceAs (Decidable (['B', 'y'] <:+: token.toList))

/-- A table token and a field token that a name can carry. -/
structure Tokens (table field : String) : Prop where
  table_ne : table ≠ ""
  field_ne : field ≠ ""
  /-- The first `By` of the name is the one between the tokens. -/
  first : ¬ HasSeparator table

/-- The operations that have a name. -/
inductive Named : Operation → Prop where
  | get {table field : String} (h : Tokens table field) : Named (get table field)
  | insert {table : String} (h : table ≠ "") : Named (insert table)
  | update {table field : String} (h : Tokens table field) : Named (update table field)
  | delete {table field : String} (h : Tokens table field) : Named (delete table field)
  | lastInsertId : Named lastInsertId

/-! ## The first separator -/

theorem splitFirstBy_cons {c : Char} {s : List Char} (h : ¬ ['B', 'y'] <+: c :: s) :
    splitFirstBy (c :: s) = (splitFirstBy s).map fun split => (c :: split.1, split.2) := by
  rw [splitFirstBy]
  rintro rest rfl rfl
  exact h ⟨rest, rfl⟩

theorem not_separator_of_splitFirstBy {s table field : List Char}
    (h : splitFirstBy s = some (table, field)) : ¬ ['B', 'y'] <:+: table := by
  fun_induction splitFirstBy s generalizing table with
  | case1 => cases h
  | case2 rest =>
    cases h
    decide
  | case3 c rest hnot ih =>
    obtain ⟨⟨t, f⟩, hs, heq⟩ := Option.map_eq_some_iff.1 h
    cases heq
    rw [List.infix_cons_iff]
    rintro (⟨u, hu⟩ | hinfix)
    · -- The separator would begin with `c`, and so it would in the text itself.
      obtain ⟨rfl, rfl⟩ := List.cons.inj hu
      have hrest := eq_append_of_splitFirstBy hs
      exact hnot _ rfl hrest
    · exact ih hs hinfix

theorem splitFirstBy_append {table : List Char} (h : ¬ ['B', 'y'] <:+: table)
    (field : List Char) : splitFirstBy (table ++ 'B' :: 'y' :: field) = some (table, field) := by
  induction table with
  | nil => rfl
  | cons c table ih =>
    rw [List.infix_cons_iff, not_or] at h
    obtain ⟨hhead, htail⟩ := h
    have hprefix : ¬ ['B', 'y'] <+: c :: (table ++ 'B' :: 'y' :: field) := by
      rw [List.cons_prefix_cons]
      rintro ⟨rfl, hnext⟩
      cases table with
      -- A table that ends in `B` is no trouble, since the separator goes on with `B` as well.
      | nil => simp at hnext
      | cons d table =>
        obtain ⟨rfl, -⟩ := List.cons_prefix_cons.1 hnext
        exact hhead ⟨table, rfl⟩
    rw [List.cons_append, splitFirstBy_cons hprefix, ih htail]
    rfl

/-- The split is at the first separator. -/
theorem splitFirstBy_eq_some_iff {s table field : List Char} :
    splitFirstBy s = some (table, field) ↔
      s = table ++ 'B' :: 'y' :: field ∧ ¬ ['B', 'y'] <:+: table := by
  constructor
  · exact fun h => ⟨eq_append_of_splitFirstBy h, not_separator_of_splitFirstBy h⟩
  · rintro ⟨rfl, h⟩
    exact splitFirstBy_append h field

theorem toList_eq_cons_of_ne {s : String} (h : s ≠ "") : ∃ c rest, s.toList = c :: rest := by
  cases hs : s.toList with
  | nil => exact absurd (String.toList_eq_nil_iff.1 hs) h
  | cons c rest => exact ⟨c, rest, rfl⟩

/-! ## Decoding and spelling -/

theorem toList_of_tokens? {s : List Char} {table field : String}
    (h : tokens? s = some (table, field)) : s = table.toList ++ 'B' :: 'y' :: field.toList := by
  unfold tokens? at h
  split at h
  · rename_i t ts f fs hsplit
    simp only [Option.some.injEq, Prod.mk.injEq] at h
    obtain ⟨rfl, rfl⟩ := h
    rw [String.toList_ofList, String.toList_ofList]
    exact eq_append_of_splitFirstBy hsplit
  · cases h

theorem tokens?_eq_some_iff {s : List Char} {table field : String} :
    tokens? s = some (table, field) ↔
      s = table.toList ++ 'B' :: 'y' :: field.toList ∧ Tokens table field := by
  constructor
  · intro h
    refine ⟨toList_of_tokens? h, ?_⟩
    unfold tokens? at h
    split at h
    · rename_i t ts f fs hsplit
      cases h
      refine ⟨by simp, by simp, ?_⟩
      rw [HasSeparator, String.toList_ofList]
      exact not_separator_of_splitFirstBy hsplit
    · cases h
  · rintro ⟨rfl, h⟩
    obtain ⟨t, ts, htable⟩ := toList_eq_cons_of_ne h.table_ne
    obtain ⟨f, fs, hfield⟩ := toList_eq_cons_of_ne h.field_ne
    have hsplit := splitFirstBy_append h.first field.toList
    rw [htable, hfield] at hsplit ⊢
    rw [tokens?, hsplit]
    simp only [← htable, ← hfield, String.ofList_toList]

theorem spelling_of_parse? {name : String} {operation : Operation}
    (h : parse? name = some operation) : operation.spelling = name := by
  unfold parse? at h
  split at h
  · rename_i hname
    obtain rfl := Option.some.inj h
    exact hname.symm
  · apply String.toList_injective
    split at h
    -- The three verbs with a field: what follows the verb is split into its tokens.
    iterate 3
      rename_i rest hname
      obtain ⟨⟨table, field⟩, htokens, rfl⟩ := Option.map_eq_some_iff.1 h
      rw [hname, toList_of_tokens? htokens]
      simp [spelling]
    · rename_i c rest hname
      obtain rfl := Option.some.inj h
      rw [hname]
      simp [spelling]
    · cases h

theorem named_of_parse? {name : String} {operation : Operation}
    (h : parse? name = some operation) : operation.Named := by
  unfold parse? at h
  split at h
  · cases h
    exact .lastInsertId
  · split at h
    · obtain ⟨⟨table, field⟩, htokens, rfl⟩ := Option.map_eq_some_iff.1 h
      exact .get (tokens?_eq_some_iff.1 htokens).2
    · obtain ⟨⟨table, field⟩, htokens, rfl⟩ := Option.map_eq_some_iff.1 h
      exact .update (tokens?_eq_some_iff.1 htokens).2
    · obtain ⟨⟨table, field⟩, htokens, rfl⟩ := Option.map_eq_some_iff.1 h
      exact .delete (tokens?_eq_some_iff.1 htokens).2
    · cases h
      exact .insert (by simp)
    · cases h

theorem parse?_spelling {operation : Operation} (h : operation.Named) :
    parse? operation.spelling = some operation := by
  have hne : ∀ {a b : String}, a.toList ≠ b.toList → a ≠ b := fun h heq => h (congrArg _ heq)
  cases h with
  | lastInsertId => rfl
  | @get table field h | @update table field h | @delete table field h =>
    have htokens := tokens?_eq_some_iff.2 ⟨rfl, h⟩
    rw [parse?, if_neg (hne (by simp [spelling]))]
    simp [spelling, htokens]
  | @insert table h =>
    obtain ⟨c, rest, htable⟩ := toList_eq_cons_of_ne h
    have hinsert : insert (String.ofList (c :: rest)) = insert table := by
      rw [← htable, String.ofList_toList]
    rw [parse?, if_neg (hne (by simp [spelling])), spelling, String.toList_append, htable]
    exact congrArg some hinsert

theorem parse_eq_ok_iff_parse? {name : String} {operation : Operation} :
    parse name = .ok operation ↔ parse? name = some operation := by
  unfold parse
  cases parse? name <;> simp

/-- `parse` gives the one operation with a name that spells its text. -/
theorem parse_eq_ok_iff {name : String} {operation : Operation} :
    parse name = .ok operation ↔ operation.Named ∧ operation.spelling = name := by
  rw [parse_eq_ok_iff_parse?]
  constructor
  · exact fun h => ⟨named_of_parse? h, spelling_of_parse? h⟩
  · rintro ⟨h, rfl⟩
    exact parse?_spelling h

/-- The decoded operation spells its name. -/
theorem spelling_of_parse {name : String} {operation : Operation}
    (h : parse name = .ok operation) : operation.spelling = name := by
  unfold parse at h
  split at h
  · rename_i found hfound
    obtain rfl := Except.ok.inj h
    exact spelling_of_parse? hfound
  · cases h

/-- The only error of `parse` is the name that it was given. -/
theorem eq_invalidOperationName_of_parse {name : String} {e : CrudError}
    (h : parse name = .error e) : e = .invalidOperationName name := by
  unfold parse at h
  split at h
  · cases h
  · exact (Except.error.inj h).symm

end Operation

end CrudByName
