import PersistedOps.Text.JsonQuoted

/-!
The statements that attach identifiers to a unit's exported operations, and a unit's source with
them appended.
-/

namespace PersistedOps.Script

/-- The name a unit binds its result to. -/
def exportsName : String := "exports"

/-- The name of the call that pulls in another unit. -/
def requireName : String := "require"

/-- The key an identifier is stored under. -/
def documentIdKey : String := "documentId"

/-- A subscript by a quoted key. -/
def subscript (key : String) : String := "[" ++ JsonQuoted.ascii key ++ "]"

/-- The statement that stores an identifier on an exported operation. -/
def documentIdStatement (operation identifier : String) : String :=
  exportsName ++ subscript operation ++ subscript documentIdKey ++ " = "
    ++ JsonQuoted.ascii identifier

/-- A source followed by one statement for each identifier, each on a line of its own. -/
def appendIdentifiers (source : String) (identifiers : List (String × String)) : String :=
  source ++ String.join (identifiers.map fun e => "\n" ++ documentIdStatement e.1 e.2)

end PersistedOps.Script
