import PersistedOps.Failure
import PersistedOps.Script.Evaluate
import PersistedOps.Script.Parse

/-!
What a unit's source says: the document it defines and the units it requires.
-/

namespace PersistedOps.Script

/-- The document, and the distinct references required, in the order of their first use. -/
structure Extracted where
  document : Tree
  references : List Scalar
deriving Repr, Inhabited

/-- The text by which a unit asks for a reference: text in which surrogates stand alone, which names
no unit, is spelled with their escapes. -/
def askedBy : Scalar → Option String
  | .text s => some s
  | .surrogates points => some (String.ofList (points.flatMap (Quoted.showPoint '\'')))
  | _ => none

/-- The texts by which a unit asks for the units it requires. -/
def Extracted.dependencies (e : Extracted) : List String := e.references.filterMap askedBy

/-- The document that a finished evaluation exports. -/
def Sandbox.exported (file : String) (s : Sandbox) : Except Failure Tree :=
  match s.lookup? exportsName with
  | none => .error (.extraction .noExports file none)
  | some v => match Decode.document s.heap.view s.heap.depth v with
    | .ok d => .ok d
    | .error e => match e.message? with
      | some reason => .error (.extraction (.notDocument reason) file none)
      | none => .error .unexpected

/-- The failure that a halted evaluation reports. -/
def Halt.failure (file : String) : Halt → Failure
  | .fault f line => .extraction f file (some line)
  | .unexpected => .unexpected

/-- Reads and evaluates a source. Text with a null character is no source at all. -/
def extract (file source : String) : Except Failure Extracted :=
  if '\x00' ∈ source.toList then .error .unexpected
  else match parse source with
    | .error line => .error (.extraction .invalidSource file (some line))
    | .ok statements => match Evaluation.run statements with
      | .error h => .error (h.failure file)
      | .ok s => (s.exported file).map (⟨·, s.references⟩)

end PersistedOps.Script
