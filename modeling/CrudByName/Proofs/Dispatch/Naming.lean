import CrudByName.Proofs.Dispatch.Trace

/-!
# The names of operations

`Operation.IsName` is the grammar of names, as it would be written down for someone who calls
operations by them.  A name has one reading only, and `Operation.parse` finds it.

What is decoded has a field exactly if its verb looks rows up by one.  The preparation of a
statement has a complaint for a verb with a field that it cannot use, or without one that it needs;
since the field comes with the verb, this complaint is never made to anybody who calls an operation
by name.
`HasShape` says that a stage does not make it, and passes through the stages of an operation one by
one (`HasShape.bind`).
-/

namespace CrudByName

/-! ## The grammar -/

namespace Operation

/-- The names that are operations. -/
def IsName (name : String) : Prop :=
  name = "lastInsertId" ∨ (∃ table, table ≠ "" ∧ name = "insert" ++ table) ∨
    ∃ verb ∈ [Verb.get, Verb.update, Verb.delete], ∃ table field,
      Tokens table field ∧ name = verb.spelling ++ table ++ "By" ++ field

theorem isName_spelling {operation : Operation} (h : operation.Named) :
    IsName operation.spelling := by
  cases h with
  | lastInsertId => exact .inl rfl
  | @insert table h => exact .inr (.inl ⟨table, h, rfl⟩)
  | @get table field h => exact .inr (.inr ⟨.get, by decide, table, field, h, rfl⟩)
  | @update table field h => exact .inr (.inr ⟨.update, by decide, table, field, h, rfl⟩)
  | @delete table field h => exact .inr (.inr ⟨.delete, by decide, table, field, h, rfl⟩)

theorem exists_named_of_isName {name : String} (h : IsName name) :
    ∃ operation : Operation, operation.Named ∧ operation.spelling = name := by
  obtain rfl | ⟨table, htable, rfl⟩ | ⟨verb, hverb, table, field, htokens, rfl⟩ := h
  · exact ⟨lastInsertId, .lastInsertId, rfl⟩
  · exact ⟨insert table, .insert htable, rfl⟩
  · simp only [List.mem_cons, List.not_mem_nil, or_false] at hverb
    obtain rfl | rfl | rfl := hverb
    · exact ⟨get table field, .get htokens, rfl⟩
    · exact ⟨update table field, .update htokens, rfl⟩
    · exact ⟨delete table field, .delete htokens, rfl⟩

/-- The names that are decoded are those of the grammar. -/
theorem exists_parse_iff {name : String} :
    (∃ operation, parse name = .ok operation) ↔ IsName name := by
  constructor
  · rintro ⟨operation, h⟩
    obtain ⟨hnamed, rfl⟩ := parse_eq_ok_iff.1 h
    exact isName_spelling hnamed
  · intro h
    obtain ⟨operation, hoperation⟩ := exists_named_of_isName h
    exact ⟨operation, parse_eq_ok_iff.2 hoperation⟩

theorem parse_eq_error_of_not_isName {name : String} (h : ¬ IsName name) :
    parse name = .error (.invalidOperationName name) := by
  cases hparse : parse name with
  | ok operation => exact absurd (exists_parse_iff.1 ⟨operation, hparse⟩) h
  | error e => rw [eq_invalidOperationName_of_parse hparse]

end Operation

/-! ## The shape of a statement -/

variable {α β : Type}

/-- A stage that does not complain of a verb without a statement. -/
def HasShape (x : Except CrudError α) : Prop :=
  ∀ verb table, x ≠ .error (.invalidArgument (.noShape verb table))

section

variable {x : Except CrudError α} {f : α → Except CrudError β} {e : CrudError}

theorem hasShape_ok (a : α) : HasShape (.ok a) :=
  fun _ _ => nofun

theorem hasShape_error (h : ∀ verb table, e ≠ .invalidArgument (.noShape verb table)) :
    HasShape (.error e : Except CrudError α) :=
  fun verb table heq => h verb table (Except.error.inj heq)

theorem HasShape.bind (hx : HasShape x) (hf : ∀ a, x = .ok a → HasShape (f a)) :
    HasShape (x >>= f) := by
  intro verb table h
  obtain h | ⟨a, ha, h⟩ := Except.bind_eq_error_iff.1 h
  · exact hx verb table h
  · exact hf a ha verb table h

end

theorem hasShape_normalize (token : String) : HasShape (Identifier.normalize token) := by
  intro verb table h
  cases Identifier.eq_invalidIdentifier_of_normalize h

theorem hasShape_scalarAt (position : Nat) (arg : Argument) : HasShape (arg.scalarAt position) := by
  cases arg with
  | scalar value => exact hasShape_ok value
  | fields r => exact hasShape_error (by simp)

theorem hasShape_columnsAt (position : Nat) (arg : Argument) :
    HasShape (arg.columnsAt position) := by
  cases arg with
  | scalar value => exact hasShape_error (by simp)
  | fields r =>
    by_cases hempty : r.fields = []
    · have hnone : (Argument.fields r).columnsAt position =
          .error (.invalidArgument (.noFields position)) := by
        simp [Argument.columnsAt, Record.isEmpty, hempty]
      rw [hnone]
      exact hasShape_error (by simp)
    · intro verb table h
      obtain ⟨i, hfault, -⟩ := (columnsAt_eq_error_iff position hempty).1 h
      cases hfault

theorem hasShape_prepareKeyed (verb : Verb) (statement : Statement) (args : List Argument) :
    HasShape (prepareKeyed verb statement args) := by
  unfold prepareKeyed
  split
  · exact (hasShape_scalarAt 1 _).bind fun _ _ => hasShape_ok _
  · exact hasShape_error (by simp)

theorem hasShape_prepareInsert (table : Identifier) (args : List Argument) :
    HasShape (prepareInsert table args) := by
  unfold prepareInsert
  split
  · exact (hasShape_columnsAt 1 _).bind fun _ _ => hasShape_ok _
  · exact hasShape_error (by simp)

theorem hasShape_prepareUpdate (table key : Identifier) (args : List Argument) :
    HasShape (prepareUpdate table key args) := by
  unfold prepareUpdate
  split
  · exact (hasShape_scalarAt 1 _).bind fun _ _ =>
      (hasShape_columnsAt 2 _).bind fun _ _ => hasShape_ok _
  · exact hasShape_error (by simp)

/-- With a field exactly if the verb asks for one, there is a statement to prepare. -/
theorem hasShape_prepare {verb : Verb} {field : Option Identifier} (table : Identifier)
    (args : List Argument) (hverb : verb ≠ .lastInsertId) (h : field.isSome = verb.hasField) :
    HasShape (prepare verb table field args) := by
  unfold prepare
  split
  · exact hasShape_prepareKeyed _ _ args
  · exact hasShape_prepareKeyed _ _ args
  · exact hasShape_prepareInsert table args
  · exact hasShape_prepareUpdate table _ args
  · rename_i hget hdelete hinsert hupdate
    cases verb <;> cases field <;> simp_all [Verb.hasField]

namespace Dispatch

theorem hasShape_prepareNamed (verb : Verb) (table : String) (field : Option String)
    (args : List Argument) (hverb : verb ≠ .lastInsertId) (h : field.isSome = verb.hasField) :
    HasShape (prepareNamed verb table field args) := by
  refine (hasShape_normalize table).bind fun table _ => ?_
  cases field with
  | none => exact hasShape_prepare table args hverb h
  | some token =>
    refine HasShape.bind ?_ fun field hfield => ?_
    · intro verb table he
      exact hasShape_normalize token verb table (Except.map_eq_error_iff.1 he)
    · obtain ⟨key, -, rfl⟩ := Except.map_eq_ok_iff.1 hfield
      exact hasShape_prepare table args hverb h

/-- Whatever a name is decoded to, its verb has a statement for the field that comes with it. -/
theorem hasShape_plan (style : PlaceholderStyle) (name : String) (args : List Argument) :
    HasShape (plan style name args) := by
  have hparse : HasShape (Operation.parse name) := by
    intro verb table h
    cases Operation.eq_invalidOperationName_of_parse h
  refine hparse.bind fun operation _ => ?_
  cases operation with
  | lastInsertId =>
    simp only [Operation.table?]
    split
    · exact hasShape_ok _
    · exact hasShape_error (by simp)
  | insert table =>
    have hprepared := hasShape_prepareNamed .insert table none args (by simp) rfl
    exact hprepared.bind fun _ _ => hasShape_ok _
  | get table field =>
    have hprepared := hasShape_prepareNamed .get table field args (by simp) rfl
    exact hprepared.bind fun _ _ => hasShape_ok _
  | update table field =>
    have hprepared := hasShape_prepareNamed .update table field args (by simp) rfl
    exact hprepared.bind fun _ _ => hasShape_ok _
  | delete table field =>
    have hprepared := hasShape_prepareNamed .delete table field args (by simp) rfl
    exact hprepared.bind fun _ _ => hasShape_ok _

/-- No connection, and no answer of one, brings the complaint about. -/
theorem hasShape_invoke {σ : Type} (c : Connection σ) (name : String) (args : List Argument)
    (s : σ) : HasShape (invoke c name args s).1 := by
  cases hplan : plan (c.style s) name args with
  | error e =>
    rw [invoke_of_plan_error hplan]
    refine hasShape_error fun verb table he => ?_
    exact hasShape_plan (c.style s) name args verb table (by rw [hplan, he])
  | ok request =>
    rw [invoke_of_plan_ok hplan]
    exact fun verb table h => Request.not_rejects_of_run h (.argument _)

/-! ## Names and operations -/

/-- A name is decoded exactly if the grammar has it, to the one operation that spells it; its field
is there exactly if the verb looks rows up by one, so that no operation by name lacks a statement;
and any other name is refused as it is. -/
theorem decoding_inverts_spelling (name : String) :
    ((∃ operation, Operation.parse name = .ok operation) ↔ Operation.IsName name) ∧
      (∀ operation, Operation.parse name = .ok operation ↔
        operation.Named ∧ operation.spelling = name) ∧
      (∀ operation, Operation.parse name = .ok operation →
        (operation.field?.isSome ↔ operation.verb ∈ [Verb.get, Verb.update, Verb.delete])) ∧
      (¬ Operation.IsName name → Operation.parse name = .error (.invalidOperationName name)) ∧
      ∀ (σ : Type) (c : Connection σ) (args : List Argument) (s : σ),
        HasShape (invoke c name args s).1 := by
  refine ⟨Operation.exists_parse_iff, fun operation => Operation.parse_eq_ok_iff, ?_,
    Operation.parse_eq_error_of_not_isName, fun σ c args s => hasShape_invoke c name args s⟩
  intro operation _
  cases operation <;> simp [Operation.field?, Operation.verb]

/-- A field token with a separator of its own, behind a table token that ends in the first letter of
one. -/
theorem decoding_inverts_spelling_first :
    ((Operation.get "JobB" "SortedBy").Named ∧
        (Operation.get "JobB" "SortedBy").spelling = "getJobBBySortedBy") ∧
      Operation.parse "getJobBBySortedBy" = .ok (.get "JobB" "SortedBy") := by
  have hnamed : (Operation.get "JobB" "SortedBy").Named := .get ⟨by decide, by decide, by decide⟩
  exact ⟨⟨hnamed, rfl⟩, ((decoding_inverts_spelling _).2.1 _).2 ⟨hnamed, rfl⟩⟩

end Dispatch

end CrudByName
