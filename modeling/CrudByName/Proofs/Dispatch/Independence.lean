import CrudByName.Proofs.Dispatch.Trace

/-!
# Texts that do not depend on values

Two calls have the same shape if they name one operation and their arguments differ in bound values
only (`Call.SameShape`).  This module runs such calls side by side, on connections which may answer
them in any way, and compares what the connections are asked.

Each stage of an operation is compared with itself on arguments of one shape (`Except.Agree`): both
runs of the stage fail with one error, or both succeed, and what they give differs in values only.
The stages are the columns of a field map (`agree_columnsOf`), the preparation of a statement
(`agree_prepare`) and the plan of an operation (`agree_plan`).  A step makes the planned call, so
two steps are alike if the connections spell placeholders in one way (`alike_step`).  By induction
over the calls, so are two runs (`texts_independent_of_values`).
-/

namespace CrudByName

/-! ## Differing in values only -/

/-- One operation on arguments that are pairwise of one shape. -/
structure Call.SameShape (x y : Call) : Prop where
  operation_eq : x.operation = y.operation
  args : List.Forall₂ Argument.SameShape x.args y.args

/-- One statement with as many parameters. -/
structure Prepared.Alike (p q : Prepared) : Prop where
  statement_eq : p.statement = q.statement
  length_eq : p.params.length = q.params.length

/-- Two calls of one kind, with one text and as many parameters. -/
inductive Request.Alike : Request → Request → Prop where
  | execute (sql : String) {ps qs : List Value} (h : ps.length = qs.length) :
      Alike (.execute sql ps) (.execute sql qs)
  | query (sql : String) {ps qs : List Value} (h : ps.length = qs.length) :
      Alike (.query sql ps) (.query sql qs)
  | lastInsertId : Alike .lastInsertId .lastInsertId

open Except (Agree)

/-! ## Field maps -/

/-- Columns that differ in their values only. -/
def SameColumns (xs ys : List (Identifier × Value)) : Prop :=
  xs.map Prod.fst = ys.map Prod.fst

theorem agree_columnsOf {fields others : List (String × Value)}
    (h : fields.map Prod.fst = others.map Prod.fst) (taken : List Identifier) :
    Agree SameColumns (columnsOf taken fields) (columnsOf taken others) := by
  -- Both walks have taken the same columns whenever they reach a key, so they stop together.
  induction fields generalizing others taken with
  | nil =>
    obtain rfl := List.map_eq_nil_iff.1 h.symm
    exact .ok rfl
  | cons field fields ih =>
    obtain ⟨key, value⟩ := field
    obtain ⟨⟨key', other⟩, others, rfl, hkey, hrest⟩ := List.map_eq_cons_iff.1 h.symm
    obtain rfl : key' = key := hkey
    by_cases hnormalize : ∃ column, Identifier.normalize key' = .ok column
    · obtain ⟨column, hcolumn⟩ := hnormalize
      by_cases htaken : column ∈ taken
      · rw [columnsOf_cons_of_taken hcolumn htaken, columnsOf_cons_of_taken hcolumn htaken]
        exact .error _
      · rw [columnsOf_cons_of_free hcolumn htaken, columnsOf_cons_of_free hcolumn htaken]
        exact (ih hrest.symm (column :: taken)).map fun _ _ h => congrArg (column :: ·) h
    · push Not at hnormalize
      rw [columnsOf_cons_of_noColumn hnormalize, columnsOf_cons_of_noColumn hnormalize]
      exact .error _

/-! ## Arguments -/

variable {arg other : Argument} {args others : List Argument}

theorem Argument.agree_scalarAt (h : arg.SameShape other) (position : Nat) :
    Agree (fun _ _ => True) (arg.scalarAt position) (other.scalarAt position) := by
  cases arg with
  | scalar v =>
    cases other with
    | scalar w => exact .ok trivial
    | fields r => exact h.elim
  | fields r =>
    cases other with
    | scalar w => exact h.elim
    | fields s => exact .error _

theorem Argument.agree_columnsAt (h : arg.SameShape other) (position : Nat) :
    Agree SameColumns (arg.columnsAt position) (other.columnsAt position) := by
  cases arg with
  | scalar v =>
    cases other with
    | scalar w => exact .error _
    | fields r => exact h.elim
  | fields r =>
    cases other with
    | scalar w => exact h.elim
    | fields s =>
      have hnames : r.fields.map Prod.fst = s.fields.map Prod.fst := h
      have hempty : r.isEmpty = s.isEmpty := by
        rw [Record.isEmpty, Record.isEmpty, ← List.isEmpty_map (f := Prod.fst), hnames,
          List.isEmpty_map]
      simp only [Argument.columnsAt, hempty]
      split
      · exact .error _
      · exact agree_columnsOf hnames []

/-! ## Statements -/

theorem agree_prepareKeyed (h : List.Forall₂ Argument.SameShape args others) (verb : Verb)
    (statement : Statement) :
    Agree Prepared.Alike (prepareKeyed verb statement args)
      (prepareKeyed verb statement others) := by
  match h with
  | .cons hlookup .nil =>
    exact (Argument.agree_scalarAt hlookup 1).bind fun _ _ _ => .ok ⟨rfl, rfl⟩
  | .nil => exact .error _
  | .cons _ (.cons _ hrest) =>
    simp only [prepareKeyed, List.length_cons, hrest.length_eq]
    exact .error _

theorem agree_prepareInsert (h : List.Forall₂ Argument.SameShape args others)
    (table : Identifier) :
    Agree Prepared.Alike (prepareInsert table args) (prepareInsert table others) := by
  match h with
  | .cons hdata .nil =>
    refine (Argument.agree_columnsAt hdata 1).bind fun xs ys hcolumns => .ok ⟨?_, ?_⟩
    · exact congrArg (Statement.insert table) hcolumns
    · simpa using congrArg List.length hcolumns
  | .nil => exact .error _
  | .cons _ (.cons _ hrest) =>
    simp only [prepareInsert, List.length_cons, hrest.length_eq]
    exact .error _

theorem agree_prepareUpdate (h : List.Forall₂ Argument.SameShape args others)
    (table key : Identifier) :
    Agree Prepared.Alike (prepareUpdate table key args) (prepareUpdate table key others) := by
  match h with
  | .cons hlookup (.cons hchanges .nil) =>
    refine (Argument.agree_scalarAt hlookup 1).bind fun _ _ _ => ?_
    refine (Argument.agree_columnsAt hchanges 2).bind fun xs ys hcolumns => .ok ⟨?_, ?_⟩
    · exact congrArg (Statement.update table · key) hcolumns
    · simpa using congrArg List.length hcolumns
  | .nil => exact .error _
  | .cons _ .nil => exact .error _
  | .cons _ (.cons _ (.cons _ hrest)) =>
    simp only [prepareUpdate, List.length_cons, hrest.length_eq]
    exact .error _

/-- Statements are prepared without a look at the values. -/
theorem agree_prepare (h : List.Forall₂ Argument.SameShape args others) (verb : Verb)
    (table : Identifier) (field : Option Identifier) :
    Agree Prepared.Alike (prepare verb table field args) (prepare verb table field others) := by
  unfold prepare
  split
  · exact agree_prepareKeyed h _ _
  · exact agree_prepareKeyed h _ _
  · exact agree_prepareInsert h table
  · exact agree_prepareUpdate h table _
  · exact .error _

theorem Prepared.Alike.request {p q : Prepared} (h : p.Alike q) (style : PlaceholderStyle) :
    (p.request style).Alike (q.request style) := by
  unfold Prepared.request
  rw [h.statement_eq]
  split
  · exact .query _ h.length_eq
  · exact .execute _ h.length_eq

namespace Dispatch

/-! ## Plans -/

theorem agree_plan (h : List.Forall₂ Argument.SameShape args others) (style : PlaceholderStyle)
    (name : String) : Agree Request.Alike (plan style name args) (plan style name others) := by
  refine (Agree.of_eq rfl).bind fun operation _ hoperation => ?_
  subst hoperation
  cases operation.table? with
  | none =>
    cases h with
    | nil => exact .ok .lastInsertId
    | cons hfirst hrest =>
      simp only [List.isEmpty_cons, List.length_cons, hrest.length_eq]
      exact .error _
  | some table =>
    refine Agree.bind (R := Prepared.Alike) ?_ fun _ _ hprepared => .ok (hprepared.request style)
    refine (Agree.of_eq rfl).bind fun table _ htable => ?_
    refine (Agree.of_eq rfl).bind fun field _ hfield => ?_
    subst htable hfield
    exact agree_prepare h operation.verb table field

/-! ## Steps and runs -/

variable {σ τ : Type}

/-- Two steps that ask for the same, up to values, and are refused together. -/
structure Step.Alike (p : Step σ) (q : Step τ) : Prop where
  requests : List.Forall₂ Request.Alike p.requests q.requests
  /-- Where one is refused without a call, so is the other, with the same error. -/
  refused : p.requests = [] ∨ q.requests = [] →
    ∃ e, e.Rejects ∧ p.answer = .error e ∧ q.answer = .error e
  rejected_iff : ∀ e, e.Rejects → (p.answer = .error e ↔ q.answer = .error e)

/-- Calls of one shape make alike steps wherever the placeholders are spelled alike. -/
theorem alike_step {c : Connection σ} {d : Connection τ} {x y : Call} {s : σ} {t : τ}
    (hshape : x.SameShape y) (hstyle : c.style s = d.style t) :
    (step c x s).Alike (step d y t) := by
  -- The plans agree before either connection is asked, and the two replies are never compared.
  have hplan := agree_plan hshape.args (c.style s) x.operation
  generalize hx : plan (c.style s) x.operation x.args = px at hplan
  generalize hy : plan (c.style s) x.operation y.args = py at hplan
  rw [hstyle, hshape.operation_eq] at hy
  cases hplan with
  | error e =>
    rw [step_of_plan_error hx, step_of_plan_error hy]
    exact ⟨.nil, fun _ => ⟨e, rejects_of_plan hx, rfl, rfl⟩, fun _ _ => Iff.rfl⟩
  | ok halike =>
    rw [step_of_plan_ok hx, step_of_plan_ok hy]
    refine ⟨.cons halike .nil, ?_, fun e hrejects => ?_⟩
    · rintro (hnil | hnil)
      · exact absurd hnil (List.cons_ne_nil _ _)
      · exact absurd hnil (List.cons_ne_nil _ _)
    · exact iff_of_false (fun hanswer => Request.not_rejects_of_run hanswer hrejects)
        (fun hanswer => Request.not_rejects_of_run hanswer hrejects)

/-- Two runs of calls of one shape ask their connections for the same texts, in whatever way the
connections answer and whatever the values are. -/
theorem texts_independent_of_values (c : Connection σ) (d : Connection τ) {xs ys : List Call}
    (hshape : List.Forall₂ Call.SameShape xs ys) (s : σ) (t : τ)
    (hstyle : List.Forall₂ (fun p q => c.style p.before = d.style q.before)
      (trace c xs s) (trace d ys t)) :
    List.Forall₂ Step.Alike (trace c xs s) (trace d ys t) := by
  induction hshape generalizing s t with
  | nil => exact .nil
  | @cons x y xs ys hcall hrest ih =>
    obtain ⟨hhere, hbehind⟩ := List.forall₂_cons.1 hstyle
    exact .cons (alike_step hcall hhere) (ih _ _ hbehind)

/-- One connection that takes an insert and one that fails it, and a call behind it that both
refuse.
-/
theorem texts_independent_of_values_recorded :
    List.Forall₂ Step.Alike
      (trace Recorder.connection
        [⟨"insertUser", [.fields ⟨[("name", .text "Ann")]⟩]⟩, ⟨"deleteUserById", []⟩]
        { affected := 1 })
      (trace Recorder.connection
        [⟨"insertUser", [.fields ⟨[("name", .text "?, ?); DROP TABLE user")]⟩]⟩,
          ⟨"deleteUserById", []⟩]
        { failure := some ⟨19, "constraint failed"⟩ }) := by
  refine texts_independent_of_values _ _ ?_ _ _ ?_
  · exact .cons ⟨rfl, .cons rfl .nil⟩ (.cons ⟨rfl, .nil⟩ .nil)
  · exact .cons (by decide) (.cons (by decide) .nil)

end Dispatch

end CrudByName
