import CrudByName.Record

/-!
# Outcomes

What an operation gives: the rows of a lookup, told apart by whether there are none, one or more;
the number of rows that a change touched; or the last generated id.
-/

namespace CrudByName

/-- The result of an operation. -/
inductive Outcome where
  | noRows
  | singleRecord (r : Record)
  | recordSet (rs : List Record)
  | affectedCount (n : Nat)
  | generatedId (id : Int64)
  deriving DecidableEq, Inhabited

namespace Outcome

/-- The outcome of a lookup by the number of its rows. -/
def ofRows : List Record → Outcome
  | [] => noRows
  | [r] => singleRecord r
  | rows => recordSet rows

/-- The records of an outcome. -/
def records : Outcome → List Record
  | singleRecord r => [r]
  | recordSet rs => rs
  | noRows | affectedCount _ | generatedId _ => []

/-- The number of rows that were touched, if the outcome tells it. -/
def affected? : Outcome → Option Nat
  | affectedCount n => some n
  | _ => none

/-- The last id, if the outcome tells it. -/
def generated? : Outcome → Option Int64
  | generatedId id => some id
  | _ => none

theorem records_ofRows (rows : List Record) : (ofRows rows).records = rows := by
  match rows with
  | [] | [_] | _ :: _ :: _ => rfl

end Outcome

end CrudByName
