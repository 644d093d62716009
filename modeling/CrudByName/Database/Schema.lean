import CrudByName.Database.Store

/-!
# Schemas

A `TableDef` describes a table that is to be created, and `TableDef.sql` writes the statement that
creates it.  Names are written between double quotes, so that every name will do.
-/

namespace CrudByName

namespace Database

/-- A column of a table that is to be created. -/
structure ColumnSpec where
  name : String
  type : String
  isKey : Bool
  autoincrement : Bool
  notNull : Bool
  unique : Bool
  deriving DecidableEq, Repr

/-- A table that is to be created. -/
structure TableDef where
  name : String
  columns : List ColumnSpec
  deriving DecidableEq, Repr

/-- A name between double quotes; one inside is written twice. -/
def quotedName (s : String) : String :=
  let inside := s.toList.flatMap fun c => if c = '"' then ['"', '"'] else [c]
  String.ofList ('"' :: inside ++ ['"'])

/-- A column in the statement that creates its table. -/
def ColumnSpec.sql (c : ColumnSpec) : String :=
  quotedName c.name ++ " " ++ c.type ++
    (if c.isKey then " PRIMARY KEY" else "") ++
    (if c.isKey && c.autoincrement then " AUTOINCREMENT" else "") ++
    (if c.notNull then " NOT NULL" else "") ++
    (if c.unique then " UNIQUE" else "")

/-- The statement that creates a table. -/
def TableDef.sql (t : TableDef) : String :=
  s!"CREATE TABLE {quotedName t.name} (" ++ ", ".intercalate (t.columns.map ColumnSpec.sql) ++ ");"

/-- The statements that create several tables. -/
def schemaSql (tables : List TableDef) : String :=
  " ".intercalate (tables.map TableDef.sql)

end Database

end CrudByName
