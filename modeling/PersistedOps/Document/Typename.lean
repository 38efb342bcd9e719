import PersistedOps.Document.Walk

/-!
`__typename` selections made canonical: every selection set of a field, a fragment or an operation
begins with exactly one, and there is no other.
-/

namespace PersistedOps.Typename

def name : String := "__typename"

/-- A fresh selection of the type name. -/
def field : Tree :=
  .node .field [(.name, .node .name [(.value, .text name)]), (.arguments, .list []),
    (.directives, .list [])]

/-- Whether a selection is a field of that name, under whatever alias. -/
def isTypenameField (selection : Tree) : Except Malformed Bool :=
  if selection.kind? = some .field then do
    let n ← selection.attr .name
    return (← n.attr .value) == .text name
  else .ok false

mutual

/-- Deletes every selection of the type name, with its whole subtree. -/
def strip : Tree → Except Malformed Tree
  | .node .selectionSet attributes => do
    if (Attributes.get? attributes .selections).isNone then .error .noSequence
    else return .node .selectionSet (← stripSelectionSet attributes)
  | .node k attributes => do return .node k (← stripAttributes k attributes)
  | .list items => do return .list (← stripItems items)
  | _ => .error .noNode

/-- The attributes of a selection set: its selections. -/
def stripSelectionSet : List (Attribute × Tree) → Except Malformed (List (Attribute × Tree))
  | [] => .ok []
  | (a, .list items) :: rest => do
    return (a, .list (← stripSelections items)) :: (← stripSelectionSet rest)
  | _ :: _ => .error .noSequence

def stripAttributes (k : Kind) :
    List (Attribute × Tree) → Except Malformed (List (Attribute × Tree))
  | [] => .ok []
  | (a, t) :: rest =>
    if a ∈ k.visited then do return (a, ← strip t) :: (← stripAttributes k rest)
    else do return (a, t) :: (← stripAttributes k rest)

/-- Items outside selection sets: none is deleted. -/
def stripItems : List Tree → Except Malformed (List Tree)
  | [] => .ok []
  | t :: rest =>
    if t.isNull then do return t :: (← stripItems rest)
    else do return (← strip t) :: (← stripItems rest)

def stripSelections : List Tree → Except Malformed (List Tree)
  | [] => .ok []
  | t :: rest => do
    if ← isTypenameField t then stripSelections rest
    else if t.isNull then return t :: (← stripSelections rest)
    else return (← strip t) :: (← stripSelections rest)

end

/-- The kinds whose selection sets begin with a type name; inline fragments rely on the field or
definition around them. -/
def owns (k : Kind) : Bool :=
  k == .field || k == .fragmentDefinition || k == .operationDefinition

/-- Puts a type name in front of an owner's selections. -/
def prepend (t : Tree) : Except Malformed Tree :=
  match t with
  | .node k attributes =>
    if owns k then
      match Attributes.get? attributes .selectionSet with
      | none => .ok t
      | some set => do
        let selections ← (← set.attr .selections).items
        return t.set .selectionSet (set.set .selections (.list (field :: selections)))
    else .ok t
  | _ => .ok t

/-- Makes the type names of a document canonical. -/
def add (document : Tree) : Except Malformed Tree := do
  (← strip document).revise prepend

end PersistedOps.Typename
