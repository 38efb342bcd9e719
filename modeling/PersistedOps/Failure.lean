import PersistedOps.Script.Fault

/-!
The failures a build can report, with their wording and their hierarchy.
-/

namespace PersistedOps

/-- The classes of failure. -/
inductive FailureClass where
  | persistedDocument | documentDomain | anonymousOperation | loader | extraction | unitNotFound
  | dependencyCycle | dependencyResolution | signing
deriving DecidableEq, Repr

namespace FailureClass

def label : FailureClass → String
  | persistedDocument => "PersistedDocumentError"
  | documentDomain => "DocumentDomainError"
  | anonymousOperation => "AnonymousOperationError"
  | loader => "LoaderError"
  | extraction => "ExtractionError"
  | unitNotFound => "UnitNotFoundError"
  | dependencyCycle => "DependencyCycleError"
  | dependencyResolution => "DependencyResolutionError"
  | signing => "SigningError"

/-- The classes above a class, nearest first. -/
def ancestors : FailureClass → List FailureClass
  | persistedDocument => []
  | documentDomain | loader | signing => [persistedDocument]
  | anonymousOperation => [documentDomain, persistedDocument]
  | extraction | unitNotFound | dependencyCycle | dependencyResolution =>
    [loader, persistedDocument]

end FailureClass

/-- A failure. The last one stands for all that no class describes. -/
inductive Failure where
  | persistedDocument (text : String)
  | documentDomain (text : String)
  | anonymousOperation (text : String) (definition : Tree)
  | loader (text : String)
  | extraction (fault : Script.Fault) (file : String) (line : Option Int)
  | unitNotFound (reference : String) (path : Option String)
  | dependencyCycle (chain : List String)
  | dependencyResolution (failures : List (String × Failure)) (total : Nat)
  | signing (text : String)
  | unexpected
deriving Inhabited

namespace Failure

/-- The class of a failure that has one. -/
def class? : Failure → Option FailureClass
  | persistedDocument _ => some .persistedDocument
  | documentDomain _ => some .documentDomain
  | anonymousOperation _ _ => some .anonymousOperation
  | loader _ => some .loader
  | extraction _ _ _ => some .extraction
  | unitNotFound _ _ => some .unitNotFound
  | dependencyCycle _ => some .dependencyCycle
  | dependencyResolution _ _ => some .dependencyResolution
  | signing _ => some .signing
  | unexpected => none

/-- The name a failure is listed under. -/
def label (f : Failure) : String := (f.class?.map FailureClass.label).getD "Exception"

/-- An operation that has no name cannot be persisted. -/
def ofAnonymous (definition : Tree) : Failure :=
  anonymousOperation "Apollo does not support anonymous operations" definition

/-- What an extraction failure points at: a file, and a line of it when one is known. -/
def location (file : String) : Option Int → String
  | some line => file ++ ":" ++ toString line
  | none => file

/-- The path that was looked for, where it says more than the reference. -/
def lookedFor (reference : String) : Option String → String
  | some path => if path = "" ∨ path = reference then "" else " (looked for " ++ path ++ ")"
  | none => ""

mutual

def message : Failure → String
  | persistedDocument text => text
  | documentDomain text => text
  | anonymousOperation text _ => text
  | loader text => text
  | extraction fault file line => location file line ++ ": " ++ fault.message
  | unitNotFound reference path =>
    "Compiled unit not found: " ++ reference ++ lookedFor reference path
  | dependencyCycle chain => "Dependency cycle: " ++ String.intercalate " -> " chain
  | dependencyResolution failures total =>
    "Failed to resolve " ++ toString failures.length ++ "/" ++ toString total ++ " dependencies:\n"
      ++ String.intercalate "\n" (lines failures)
  | signing text => text
  | unexpected => ""

/-- One line for each failed dependency. -/
def lines : List (String × Failure) → List String
  | [] => []
  | (reference, f) :: rest =>
    ("  " ++ reference ++ ": " ++ label f ++ ": " ++ message f) :: lines rest

end

/-- The failure that a failure is chained to: of several dependencies that fail the first. -/
def cause? : Failure → Option Failure
  | dependencyResolution ((_, f) :: _) _ => some f
  | _ => none

/-- A signing failure about an operation that a document lacks. -/
def ofMissingOperation (name : String) : Failure :=
  signing ("Operation '" ++ name ++ "' not found in document")

end Failure

end PersistedOps
