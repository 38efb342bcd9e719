import PersistedOps.Document.Merge
import PersistedOps.Document.Walk

/-!
One closed document for each operation: the operation with every fragment that it reaches through
fragment spreads, at any depth and through other fragments, in the order of the whole document.
-/

namespace PersistedOps.Separate

/-- For each fragment name the names that the fragment spreads. -/
abbrev SpreadGraph := Entries (List Scalar)

/-- The spreads below a definition's selection set, which must be there. -/
def spreadsOf (definition : Tree) : Except Malformed (List Scalar) := do
  match ← definition.attr .selectionSet with
  | .node k attributes => (Tree.node k attributes).spreads
  | _ => .error .noNode

/-- Of two fragments of one name the later one's spreads count. -/
def graph (definitions : List Tree) : Except Malformed SpreadGraph :=
  definitions.foldlM (fun g d =>
    if d.kind? = some .fragmentDefinition then do
      let name ← d.nameOf
      return g.put name (← spreadsOf d)
    else pure g) []

/-- The names reached from a list of pending ones, added to those already seen. -/
def reachFrom (g : SpreadGraph) : (fuel : Nat) → (pending seen : List Scalar) → List Scalar
  | 0, _, seen => seen
  | _ + 1, [], seen => seen
  | fuel + 1, name :: pending, seen =>
    if seen.any (·.same name) then reachFrom g fuel pending seen
    else reachFrom g fuel ((g.get? name).getD [] ++ pending) (seen ++ [name])

/-- The names reached from some spreads. Each pending name is one of these or stands once in the
list of a fragment that is visited once, which bounds the steps. -/
def reach (g : SpreadGraph) (start : List Scalar) : List Scalar :=
  reachFrom g (start.length + (g.flatMap (·.2)).length + 1) start []

/-- Whether a definition is a fragment of one of the names. -/
def isFragmentIn (names : List Scalar) (definition : Tree) : Except Malformed Bool :=
  if definition.kind? = some .fragmentDefinition then do
    let name ← definition.nameOf
    return names.any (·.same name)
  else .ok false

/-- The definitions that belong to the operation at a position. -/
def closure (names : List Scalar) (position : Nat) :
    List (Tree × Nat) → Except Malformed (List Tree)
  | [] => .ok []
  | (definition, i) :: rest => do
    let keep ← if i = position then pure true else isFragmentIn names definition
    let others ← closure names position rest
    return if keep then definition :: others else others

/-- The name an operation is filed under; that of an operation without a name is empty. -/
def keyOf (operation : Tree) : Except Malformed Scalar :=
  if (operation.get? .name).isNone then .ok (.text "") else operation.nameOf

/-- The closed documents of a document's operations by name. A later operation of the same name
replaces the earlier one's document and keeps its place. -/
def ofDocument (document : Tree) : Except Malformed (Entries Tree) := do
  let definitions ← document.definitions
  let g ← graph definitions
  let numbered := definitions.zipIdx
  let operations := numbered.filter fun d => d.1.kind? = some .operationDefinition
  operations.foldlM (fun acc d => do
    let names := reach g (← spreadsOf d.1)
    let key ← keyOf d.1
    return acc.put key (Tree.document (← closure names d.2 numbered))) []

/-- The closed document of every merged operation, in merged order. -/
def ofMerged (m : Merged) : Except Malformed (Entries Tree) := do
  let separated ← ofDocument m.toDocument
  m.operations.mapM fun e => match separated.get? e.1 with
    | some document => .ok (e.1, document)
    | none => .error .noName

end PersistedOps.Separate
