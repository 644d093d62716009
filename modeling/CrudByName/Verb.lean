/-!
# Verbs

The five things an operation can do.  Three of them look rows up by a field.
-/

namespace CrudByName

/-- What an operation does. -/
inductive Verb where
  | get
  | insert
  | update
  | delete
  | lastInsertId
  deriving DecidableEq, Repr

namespace Verb

/-- How a name begins that has the verb. -/
def spelling : Verb → String
  | get => "get"
  | insert => "insert"
  | update => "update"
  | delete => "delete"
  | lastInsertId => "lastInsertId"

/-- Whether the name of the operation carries a field token. -/
def hasField : Verb → Bool
  | get | update | delete => true
  | insert | lastInsertId => false

/-- All verbs. -/
def all : List Verb :=
  [get, insert, update, delete, lastInsertId]

/-- The verb of its spelling. -/
def ofSpelling? (s : String) : Option Verb :=
  all.find? fun v => v.spelling == s

end Verb

end CrudByName
