import CrudByName.Proofs.Except
import CrudByName.Statement
import Mathlib.Data.List.Forall2

/-!
# The columns of a field map

`columnsOf` walks over the named values of a field map and remembers the columns it has met.  This
module says what the walk comes to, without the walk.

It succeeds exactly if every key has a column and these columns are pairwise distinct and none of
those taken before (`columnsOf_eq_ok_iff`).  It fails with the fault of the *first* key that has no
column or the column of an earlier key (`columnsOf_eq_error_iff`), and `KeyFault` says which error
that is.  `First` is the least place at which something is found, with the two facts about it that
an induction over a list needs.

`Usable` is the condition on a whole field map under which an insert or an update can use it.
-/

namespace CrudByName

namespace Identifier

/-- The only error of `normalize` is the token that it was given. -/
theorem eq_invalidIdentifier_of_normalize {token : String} {e : CrudError}
    (h : normalize token = .error e) : e = .invalidIdentifier token := by
  simp only [normalize] at h
  split at h
  · cases h
  · exact (Except.error.inj h).symm

/-- A token without an identifier is refused with the token itself. -/
theorem normalize_eq_error {token : String} (h : ∀ column, normalize token ≠ .ok column) :
    normalize token = .error (.invalidIdentifier token) := by
  cases hn : normalize token with
  | ok column => exact absurd hn (h column)
  | error e => rw [eq_invalidIdentifier_of_normalize hn]

end Identifier

/-! ## The first place -/

/-- What is found at the least place where anything is found. -/
def First (P : Nat → α → Prop) (a : α) : Prop :=
  ∃ i, P i a ∧ ∀ j < i, ∀ b, ¬ P j b

theorem first_iff_of_zero {P : Nat → α → Prop} {found : α} (h : P 0 found)
    (hunique : ∀ b, P 0 b → b = found) (a : α) : First P a ↔ a = found := by
  constructor
  · rintro ⟨i, hi, hbefore⟩
    rcases Nat.eq_zero_or_pos i with rfl | hpos
    · exact hunique a hi
    · exact absurd h (hbefore 0 hpos found)
  · rintro rfl
    exact ⟨0, h, fun j hj => absurd hj (Nat.not_lt_zero j)⟩

theorem first_iff_of_not_zero {P : Nat → α → Prop} (h : ∀ b, ¬ P 0 b) (a : α) :
    First P a ↔ First (fun i => P (i + 1)) a := by
  constructor
  · rintro ⟨i, hi, hbefore⟩
    cases i with
    | zero => exact absurd hi (h a)
    | succ i => exact ⟨i, hi, fun j hj => hbefore (j + 1) (by omega)⟩
  · rintro ⟨i, hi, hbefore⟩
    refine ⟨i + 1, hi, fun j hj => ?_⟩
    cases j with
    | zero => exact h
    | succ j => exact hbefore j (by omega)

/-! ## Faulty keys -/

/-- What is wrong with the key at place `i`: it has no column, or the column of an earlier key. -/
inductive KeyFault (keys : List String) (i : Nat) : CrudError → Prop where
  | noColumn {key : String} (here : keys[i]? = some key)
      (h : ∀ column, Identifier.normalize key ≠ .ok column) :
      KeyFault keys i (.invalidIdentifier key)
  | repeated {key earlier : String} {column : Identifier} (here : keys[i]? = some key)
      (h : Identifier.normalize key = .ok column) (before : earlier ∈ keys.take i)
      (same : Identifier.normalize earlier = .ok column) :
      KeyFault keys i (.invalidArgument (.repeatedColumn key column.name))

/-- `KeyFault` in the middle of a walk, where some columns are taken already. -/
def KeyFaultAfter (taken : List Identifier) (keys : List String) (i : Nat) (e : CrudError) : Prop :=
  ∃ key, keys[i]? = some key ∧
    ((∀ column, Identifier.normalize key ≠ .ok column) ∧ e = .invalidIdentifier key ∨
      ∃ column, Identifier.normalize key = .ok column ∧
        (column ∈ taken ∨ ∃ earlier ∈ keys.take i, Identifier.normalize earlier = .ok column) ∧
        e = .invalidArgument (.repeatedColumn key column.name))

theorem keyFaultAfter_nil_iff (keys : List String) (i : Nat) (e : CrudError) :
    KeyFaultAfter [] keys i e ↔ KeyFault keys i e := by
  constructor
  · rintro ⟨key, here, ⟨h, rfl⟩ | ⟨column, h, hmem, rfl⟩⟩
    · exact .noColumn here h
    · obtain hmem | ⟨earlier, hbefore, hsame⟩ := hmem
      · exact absurd hmem List.not_mem_nil
      · exact .repeated here h hbefore hsame
  · rintro (⟨here, h⟩ | ⟨here, h, hbefore, hsame⟩)
    · exact ⟨_, here, .inl ⟨h, rfl⟩⟩
    · exact ⟨_, here, .inr ⟨_, h, .inr ⟨_, hbefore, hsame⟩, rfl⟩⟩

/-- A key with a column joins it to the columns that are taken for the keys behind it. -/
theorem keyFaultAfter_cons_succ_iff {taken : List Identifier} {key : String} {column : Identifier}
    (h : Identifier.normalize key = .ok column) (keys : List String) (i : Nat) (e : CrudError) :
    KeyFaultAfter taken (key :: keys) (i + 1) e ↔ KeyFaultAfter (column :: taken) keys i e := by
  have hmem : ∀ other, (other ∈ taken ∨
      ∃ earlier ∈ (key :: keys).take (i + 1), Identifier.normalize earlier = .ok other) ↔
      (other ∈ column :: taken ∨
        ∃ earlier ∈ keys.take i, Identifier.normalize earlier = .ok other) := by
    intro other
    simp only [List.take_succ_cons, List.mem_cons, exists_eq_or_imp, h, Except.ok.injEq]
    rw [eq_comm (a := column)]
    exact or_left_comm.trans (or_assoc.symm)
  simp only [KeyFaultAfter, List.getElem?_cons_succ, hmem]

/-! ## The walk

One lemma for each way the walk can take its next step. -/

variable {taken : List Identifier} {key : String} {value : Value} {fields : List (String × Value)}

theorem columnsOf_cons_of_noColumn (h : ∀ column, Identifier.normalize key ≠ .ok column) :
    columnsOf taken ((key, value) :: fields) = .error (.invalidIdentifier key) := by
  simp only [columnsOf, Identifier.normalize_eq_error h]

theorem columnsOf_cons_of_taken {column : Identifier} (h : Identifier.normalize key = .ok column)
    (htaken : column ∈ taken) :
    columnsOf taken ((key, value) :: fields) =
      .error (.invalidArgument (.repeatedColumn key column.name)) := by
  simp only [columnsOf, h, htaken, if_true]

theorem columnsOf_cons_of_free {column : Identifier} (h : Identifier.normalize key = .ok column)
    (hfree : column ∉ taken) :
    columnsOf taken ((key, value) :: fields) =
      (columnsOf (column :: taken) fields).map ((column, value) :: ·) := by
  simp only [columnsOf, h, hfree, if_false]
  cases columnsOf (column :: taken) fields <;> rfl

/-- A named value and the column it goes to. -/
def GoesTo (field : String × Value) (column : Identifier × Value) : Prop :=
  Identifier.normalize field.1 = .ok column.1 ∧ field.2 = column.2

/-- The walk succeeds exactly if all keys have columns, which are new and pairwise distinct. -/
theorem columnsOf_eq_ok_iff {columns : List (Identifier × Value)} :
    columnsOf taken fields = .ok columns ↔
      List.Forall₂ GoesTo fields columns ∧ (columns.map Prod.fst).Nodup ∧
        ∀ column ∈ columns.map Prod.fst, column ∉ taken := by
  induction fields generalizing taken columns with
  | nil => cases columns <;> simp [columnsOf]
  | cons field fields ih =>
    obtain ⟨key, value⟩ := field
    by_cases hkey : ∃ column, Identifier.normalize key = .ok column
    · obtain ⟨column, hkey⟩ := hkey
      by_cases htaken : column ∈ taken
      · -- The walk stops here, and on the right the column of this key would be a taken one.
        rw [columnsOf_cons_of_taken hkey htaken]
        refine ⟨nofun, ?_⟩
        rintro ⟨hgo, -, hnew⟩
        obtain ⟨c, rest, ⟨hc, -⟩, -, rfl⟩ := List.forall₂_cons_left_iff.1 hgo
        have hcolumn : column = c.1 := Except.ok.inj (hkey.symm.trans hc)
        exact absurd htaken (hnew column (hcolumn ▸ List.mem_cons_self))
      · rw [columnsOf_cons_of_free hkey htaken]
        constructor
        · intro h
          obtain ⟨rest, hrest, rfl⟩ := Except.map_eq_ok_iff.1 h
          obtain ⟨hgo, hnodup, hnew⟩ := ih.1 hrest
          refine ⟨.cons ⟨hkey, rfl⟩ hgo, ?_, ?_⟩
          · exact List.nodup_cons.2 ⟨fun hmem => hnew column hmem List.mem_cons_self, hnodup⟩
          · rintro c hc
            obtain rfl | hc := List.mem_cons.1 hc
            · exact htaken
            · exact fun hmem => hnew c hc (List.mem_cons_of_mem _ hmem)
        · rintro ⟨hgo, hnodup, hnew⟩
          obtain ⟨⟨c, v⟩, rest, ⟨hc, rfl⟩, hrestgo, rfl⟩ := List.forall₂_cons_left_iff.1 hgo
          obtain rfl := Except.ok.inj (hkey.symm.trans hc)
          obtain ⟨hnot, hnodup⟩ := List.nodup_cons.1 hnodup
          have hrest : columnsOf (column :: taken) fields = .ok rest := by
            refine ih.2 ⟨hrestgo, hnodup, fun d hd hmem => ?_⟩
            obtain rfl | hmem := List.mem_cons.1 hmem
            · exact hnot hd
            · exact hnew d (List.mem_cons_of_mem _ hd) hmem
          rw [hrest]
          rfl
    · push Not at hkey
      rw [columnsOf_cons_of_noColumn hkey]
      refine ⟨nofun, ?_⟩
      rintro ⟨hgo, -⟩
      obtain ⟨c, rest, ⟨hc, -⟩, -, -⟩ := List.forall₂_cons_left_iff.1 hgo
      exact absurd hc (hkey c.1)

/-- The walk fails with the fault of the first key that has one. -/
theorem columnsOf_eq_error_iff {e : CrudError} :
    columnsOf taken fields = .error e ↔ First (KeyFaultAfter taken (fields.map Prod.fst)) e := by
  induction fields generalizing taken with
  | nil =>
    simp only [columnsOf, reduceCtorEq, false_iff]
    rintro ⟨i, ⟨key, here, -⟩, -⟩
    simp at here
  | cons field fields ih =>
    obtain ⟨key, value⟩ := field
    rw [List.map_cons]
    by_cases hkey : ∃ column, Identifier.normalize key = .ok column
    · obtain ⟨column, hkey⟩ := hkey
      have hzero : ∀ e, KeyFaultAfter taken (key :: fields.map Prod.fst) 0 e ↔
          column ∈ taken ∧ e = .invalidArgument (.repeatedColumn key column.name) := by
        intro e
        simp [KeyFaultAfter, hkey]
      by_cases htaken : column ∈ taken
      · rw [columnsOf_cons_of_taken hkey htaken,
          first_iff_of_zero ((hzero _).2 ⟨htaken, rfl⟩) (fun e he => ((hzero e).1 he).2)]
        exact ⟨fun h => (Except.error.inj h).symm, fun h => by rw [h]⟩
      · rw [columnsOf_cons_of_free hkey htaken,
          first_iff_of_not_zero (fun e he => htaken ((hzero e).1 he).1)]
        have hsucc : (fun i => KeyFaultAfter taken (key :: fields.map Prod.fst) (i + 1)) =
            KeyFaultAfter (column :: taken) (fields.map Prod.fst) := by
          funext i e
          exact propext (keyFaultAfter_cons_succ_iff hkey _ i e)
        rw [hsucc, ← ih]
        exact Except.map_eq_error_iff
    · push Not at hkey
      have hzero : ∀ e, KeyFaultAfter taken (key :: fields.map Prod.fst) 0 e ↔
          e = .invalidIdentifier key := by
        intro e
        simp [KeyFaultAfter, hkey]
      rw [columnsOf_cons_of_noColumn hkey,
        first_iff_of_zero ((hzero _).2 rfl) (fun e he => (hzero e).1 he)]
      exact ⟨fun h => (Except.error.inj h).symm, fun h => by rw [h]⟩

/-! ## A whole field map -/

/-- The columns of a list of keys, one for each key and in the same order. -/
def KeysName (keys : List String) (columns : List Identifier) : Prop :=
  List.Forall₂ (fun key column => Identifier.normalize key = .ok column) keys columns

/-- Two keys that do not fall on one column. -/
def Apart (a b : String) : Prop :=
  ∀ column, Identifier.normalize a = .ok column → Identifier.normalize b ≠ .ok column

/-- A field map that a statement can use: it is not empty, every key has a column, and no two keys
fall on one column. -/
structure Usable (r : Record) : Prop where
  nonempty : r.fields ≠ []
  named : ∀ key ∈ r.names, ∃ column, Identifier.normalize key = .ok column
  apart : r.names.Pairwise Apart

theorem exists_keysName_iff {keys : List String} :
    (∃ columns, KeysName keys columns) ↔
      ∀ key ∈ keys, ∃ column, Identifier.normalize key = .ok column := by
  induction keys with
  | nil => exact ⟨fun _ key hkey => absurd hkey List.not_mem_nil, fun _ => ⟨[], .nil⟩⟩
  | cons key keys ih =>
    rw [List.forall_mem_cons, ← ih]
    constructor
    · rintro ⟨columns, h⟩
      obtain ⟨column, rest, hcolumn, hrest, rfl⟩ := List.forall₂_cons_left_iff.1 h
      exact ⟨⟨column, hcolumn⟩, ⟨rest, hrest⟩⟩
    · rintro ⟨⟨column, hcolumn⟩, ⟨rest, hrest⟩⟩
      exact ⟨column :: rest, .cons hcolumn hrest⟩

/-- A column belongs to some key of the list. -/
theorem KeysName.mem_iff {keys : List String} {columns : List Identifier}
    (h : KeysName keys columns) (column : Identifier) :
    column ∈ columns ↔ ∃ key ∈ keys, Identifier.normalize key = .ok column := by
  induction h with
  | nil => simp
  | cons hkey _ ih =>
    rw [List.mem_cons, ih]
    simp only [List.mem_cons, exists_eq_or_imp, hkey, Except.ok.injEq]
    rw [eq_comm]

theorem KeysName.nodup_iff {keys : List String} {columns : List Identifier}
    (h : KeysName keys columns) : columns.Nodup ↔ keys.Pairwise Apart := by
  induction h with
  | nil => simp
  | @cons key column keys columns hkey hrest ih =>
    have hnot : column ∉ columns ↔ ∀ other ∈ keys, Apart key other := by
      rw [KeysName.mem_iff hrest]
      push Not
      refine forall₂_congr fun other _ => ⟨fun hne c hc => ?_, fun hapart => hapart column hkey⟩
      obtain rfl : column = c := Except.ok.inj (hkey.symm.trans hc)
      exact hne
    rw [List.nodup_cons, List.pairwise_cons, hnot, ih]

theorem keysName_of_goesTo {fields : List (String × Value)} {columns : List (Identifier × Value)}
    (h : List.Forall₂ GoesTo fields columns) :
    KeysName (fields.map Prod.fst) (columns.map Prod.fst) := by
  rw [KeysName, List.forall₂_map_left_iff, List.forall₂_map_right_iff]
  exact h.imp fun _ _ hgo => hgo.1

theorem values_of_goesTo {fields : List (String × Value)} {columns : List (Identifier × Value)}
    (h : List.Forall₂ GoesTo fields columns) : columns.map Prod.snd = fields.map Prod.snd := by
  induction h with
  | nil => rfl
  | cons hgo _ ih => rw [List.map_cons, List.map_cons, ih, hgo.2]

/-- Columns for all keys can be joined to the values of their fields. -/
theorem exists_goesTo {fields : List (String × Value)} {columns : List Identifier}
    (h : KeysName (fields.map Prod.fst) columns) :
    ∃ pairs : List (Identifier × Value), List.Forall₂ GoesTo fields pairs ∧
      pairs.map Prod.fst = columns := by
  induction fields generalizing columns with
  | nil =>
    cases h
    exact ⟨[], .nil, rfl⟩
  | cons field fields ih =>
    obtain ⟨column, rest, hcolumn, hrest, rfl⟩ := List.forall₂_cons_left_iff.1 h
    obtain ⟨pairs, hgo, hpairs⟩ := ih hrest
    exact ⟨(column, field.2) :: pairs, .cons ⟨hcolumn, rfl⟩ hgo, by rw [List.map_cons, hpairs]⟩

section columnsAt

variable {r : Record}

theorem columnsAt_eq_ok_iff (position : Nat) {columns : List (Identifier × Value)} :
    (Argument.fields r).columnsAt position = .ok columns ↔
      r.fields ≠ [] ∧ List.Forall₂ GoesTo r.fields columns ∧ (columns.map Prod.fst).Nodup := by
  by_cases hempty : r.fields = []
  · simp [Argument.columnsAt, Record.isEmpty, hempty]
  · have hsome : r.isEmpty = false := by simpa [Record.isEmpty] using hempty
    simp only [Argument.columnsAt, hsome, Bool.false_eq_true, if_false, columnsOf_eq_ok_iff]
    simp [hempty]

theorem usable_iff (position : Nat) :
    Usable r ↔ ∃ columns, (Argument.fields r).columnsAt position = .ok columns := by
  simp only [columnsAt_eq_ok_iff]
  constructor
  · rintro ⟨hnonempty, hnamed, hapart⟩
    obtain ⟨columns, hcolumns⟩ := exists_keysName_iff.2 hnamed
    obtain ⟨pairs, hgo, rfl⟩ := exists_goesTo hcolumns
    exact ⟨pairs, hnonempty, hgo, hcolumns.nodup_iff.2 hapart⟩
  · rintro ⟨columns, hnonempty, hgo, hnodup⟩
    have hcolumns := keysName_of_goesTo hgo
    exact ⟨hnonempty, exists_keysName_iff.1 ⟨_, hcolumns⟩, hcolumns.nodup_iff.1 hnodup⟩

theorem columnsAt_eq_error_iff (position : Nat) (h : r.fields ≠ []) {e : CrudError} :
    (Argument.fields r).columnsAt position = .error e ↔ First (KeyFault r.names) e := by
  have hsome : r.isEmpty = false := by simpa [Record.isEmpty] using h
  have hfault : KeyFaultAfter [] r.names = KeyFault r.names := by
    funext i e
    exact propext (keyFaultAfter_nil_iff _ i e)
  simp only [Argument.columnsAt, hsome, Bool.false_eq_true, if_false]
  rw [columnsOf_eq_error_iff, ← hfault, Record.names]

end columnsAt

end CrudByName
