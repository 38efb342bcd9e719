import PersistedOps.Document.Tree

/-!
Documents merged by the names of their definitions. The documents stand in a list, a unit's own
first; of two definitions of one name the later replaces the earlier, in the earlier one's place.
Fragments and operations have separate name spaces.
-/

namespace PersistedOps

/-- The named definitions of a list of documents. -/
structure Merged where
  fragments : Entries Tree
  operations : Entries Tree
deriving Inhabited

/-- Why documents cannot be merged. -/
inductive MergeError where
  | anonymousOperation (definition : Tree)
  | malformed (m : Malformed)

namespace Merged

/-- A unit's own document, followed by the lists of its dependencies in their order. -/
def aggregate (own : Tree) (resolved : List (List Tree)) : List Tree := own :: resolved.flatten

/-- The definitions of all documents, one after the other. -/
def allDefinitions (documents : List Tree) : Except Malformed (List Tree) := do
  return (← documents.mapM Tree.definitions).flatten

/-- Adds a definition if it is a fragment. -/
def putFragment (fragments : Entries Tree) (definition : Tree) :
    Except Malformed (Entries Tree) :=
  if definition.kind? = some .fragmentDefinition then do
    return fragments.put (← definition.nameOf) definition
  else .ok fragments

/-- The name of an operation; one without a name, or with a name that counts as false, has none. -/
def operationName (definition : Tree) : Except MergeError Scalar :=
  if (definition.get? .name).isNone then .error (.anonymousOperation definition)
  else match definition.nameOf with
    | .error m => .error (.malformed m)
    | .ok name => if name.truthy then .ok name else .error (.anonymousOperation definition)

/-- Adds a definition if it is an operation. -/
def putOperation (operations : Entries Tree) (definition : Tree) :
    Except MergeError (Entries Tree) :=
  if definition.kind? = some .operationDefinition then do
    return operations.put (← operationName definition) definition
  else .ok operations

def fragmentsOf (documents : List Tree) : Except Malformed (Entries Tree) := do
  (← allDefinitions documents).foldlM putFragment []

def operationsOf (documents : List Tree) : Except MergeError (Entries Tree) :=
  match allDefinitions documents with
  | .error m => .error (.malformed m)
  | .ok definitions => definitions.foldlM putOperation []

/-- Merges a list of documents. -/
def ofDocuments (documents : List Tree) : Except MergeError Merged :=
  match fragmentsOf documents with
  | .error m => .error (.malformed m)
  | .ok fragments => do return ⟨fragments, ← operationsOf documents⟩

/-- One document of every merged fragment and then every operation. -/
def toDocument (m : Merged) : Tree :=
  Tree.document (m.fragments.map (·.2) ++ m.operations.map (·.2))

end Merged

end PersistedOps
