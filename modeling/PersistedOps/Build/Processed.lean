import PersistedOps.Build.Resolution
import PersistedOps.Build.Signing
import PersistedOps.Script.Extract

/-!
Units processed: the source with the identifiers of its operations attached, all documents the unit
stands for, and its signed operations.
-/

namespace PersistedOps

structure Processed where
  path : Option String
  source : String
  documents : List Tree
  operations : List SignedOperation
deriving Inhabited

namespace Processed

/-- The identifier of each operation, in merged order. -/
def identifiers (p : Processed) : List (String × String) :=
  p.operations.map fun o => (o.name, o.identifier)

/-- How messages name a unit. -/
def fileName (path : Option String) : String :=
  match path with
  | none => "<unit>"
  | some path => if path = "" then "<unit>" else path

/-- Processes a unit whose dependencies have been resolved. -/
def ofDocuments (options : Options) (signer : Signer) (path : Option String) (source : String)
    (own : Tree) (resolved : List (List Tree)) : Except Failure Processed := do
  let documents := Merged.aggregate own resolved
  let operations ← SignedOperation.ofDocuments options signer documents
  return ⟨path, Script.appendIdentifiers source (operations.map fun o => (o.name, o.identifier)),
    documents, operations⟩

/-- Processes a unit given the answers to its requests. -/
def ofAnswers (options : Options) (signer : Signer) (path : Option String) (source : String)
    (unit : Script.Extracted) (answers : List Answer) : Except Failure Processed := do
  ofDocuments options signer path source unit.document
    (← Resolution.conclude unit.dependencies answers)

end Processed

end PersistedOps
