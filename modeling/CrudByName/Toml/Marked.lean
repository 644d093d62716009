import CrudByName.Toml.Item
import CrudByName.Toml.Moment

/-!
# Tables that stand for moments

A table whose first key is the mark of moments (`momentMark`) stands for a moment, which it holds as
text; what else is in the table does not count.  `Item.stated` puts the moments in the place of such
tables, inside out of lists and other tables, and refuses a table that has the mark but no moment.
The outermost table has to be a table (`Entries.stated`).
-/

namespace CrudByName

namespace Toml

/-- The key of a table that stands for a moment. -/
def momentMark : String := "$__toml_private_datetime"

/-- The moment that a table stands for, if it has the mark. -/
def markedMoment? : List (String × Item) → Option (Except Fault Item)
  | (key, item) :: _ =>
    if key = momentMark then
      match item with
      | .text s =>
        match Moment.ofText? s with
        | some moment => some (.ok (.moment moment))
        | none => some (.error .noMoment)
      | _ => some (.error .noMoment)
    else none
  | [] => none

theorem markedMoment?_nil : markedMoment? [] = none :=
  rfl

theorem markedMoment?_cons_of_ne {key : String} (h : key ≠ momentMark) (item : Item)
    (rest : List (String × Item)) : markedMoment? ((key, item) :: rest) = none := by
  simp [markedMoment?, h]

mutual

/-- An item with moments in the place of the tables that stand for them. -/
def Item.stated : Item → Except Fault Item
  | .list items => do return .list (← statedItems items)
  | .table standing entries =>
    match markedMoment? entries with
    | some moment => moment
    | none => do return .table standing (← statedEntries entries)
  | .tables parts => do return .list (← statedParts parts)
  | item => .ok item

/-- Items with moments in the place of the tables that stand for them. -/
def statedItems : List Item → Except Fault (List Item)
  | [] => .ok []
  | item :: rest => do return (← item.stated) :: (← statedItems rest)

/-- Entries with moments in the place of the tables that stand for them. -/
def statedEntries : List (String × Item) → Except Fault (List (String × Item))
  | [] => .ok []
  | (key, item) :: rest => do return (key, ← item.stated) :: (← statedEntries rest)

/-- The parts of a list of tables as items, some of which may stand for moments. -/
def statedParts : List (List (String × Item)) → Except Fault (List Item)
  | [] => .ok []
  | part :: rest =>
    match markedMoment? part with
    | some moment => do return (← moment) :: (← statedParts rest)
    | none => do
      let entries ← statedEntries part
      return .table .opened entries :: (← statedParts rest)

end

/-- The outermost table with moments in the place of tables that stand for them. -/
def Entries.stated (entries : Entries) : Except Fault Entries :=
  match markedMoment? entries with
  | some _ => .error .noMoment
  | none => statedEntries entries

end Toml

end CrudByName
