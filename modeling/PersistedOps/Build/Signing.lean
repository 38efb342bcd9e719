import PersistedOps.Document.Signature
import PersistedOps.Document.Typename
import PersistedOps.Failure
import PersistedOps.Options

/-!
Operations signed: each with its closed document, its signature and the identifier drawn from it.
-/

namespace PersistedOps

/-- Signs the named operation of a closed document, keeping literals or not. -/
abbrev Signer := Tree → String → Bool → Except Failure String

namespace Signer

/-- The signer of operation registries. -/
def registry : Signer := fun document name preserveLiterals =>
  match Signature.ofOperation document name preserveLiterals with
  | .ok signature => .ok signature
  | .error (.noOperation name) => .error (.ofMissingOperation name)
  | .error (.malformed _) => .error .unexpected

end Signer

structure SignedOperation where
  name : String
  document : Tree
  signature : String
deriving Repr, Inhabited

namespace SignedOperation

def identifier (o : SignedOperation) : String := Signature.identifier o.signature

/-- Signs a closed document, with type names added first where the options ask for them. Names of
operations are texts. -/
def ofClosed (options : Options) (signer : Signer) (name : Scalar) (closed : Tree) :
    Except Failure SignedOperation := do
  let document ← if options.addTypename
    then (Typename.add closed).mapError fun _ => Failure.unexpected
    else .ok closed
  match name with
  | .text name => return ⟨name, document, ← signer document name options.preserveLiterals⟩
  | _ => throw .unexpected

/-- Merges documents and signs every operation, in merged order. -/
def ofDocuments (options : Options) (signer : Signer) (documents : List Tree) :
    Except Failure (List SignedOperation) :=
  match Merged.ofDocuments documents with
  | .error (.anonymousOperation d) => .error (.ofAnonymous d)
  | .error (.malformed _) => .error .unexpected
  | .ok merged => match Separate.ofMerged merged with
    | .error _ => .error .unexpected
    | .ok closed => closed.mapM fun e => ofClosed options signer e.1 e.2

end SignedOperation

end PersistedOps
