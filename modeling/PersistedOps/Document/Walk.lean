import PersistedOps.Document.Tree

/-!
Traversals of a document tree along the attributes that its kinds let a traversal see: revising
from the leaves up, and collecting the names of fragment spreads.
-/

namespace PersistedOps.Tree

mutual

/-- Revises every visible node, those below before the node itself. What hides in attributes that a
traversal does not walk stays as it is; null items are passed over. -/
def revise (f : Tree → Except Malformed Tree) : Tree → Except Malformed Tree
  | .node k attributes => do f (.node k (← reviseAttributes f k attributes))
  | .list items => do return .list (← reviseItems f items)
  | _ => .error .noNode

def reviseAttributes (f : Tree → Except Malformed Tree) (k : Kind) :
    List (Attribute × Tree) → Except Malformed (List (Attribute × Tree))
  | [] => .ok []
  | (a, t) :: rest =>
    if a ∈ k.visited then do return (a, ← revise f t) :: (← reviseAttributes f k rest)
    else do return (a, t) :: (← reviseAttributes f k rest)

def reviseItems (f : Tree → Except Malformed Tree) : List Tree → Except Malformed (List Tree)
  | [] => .ok []
  | t :: rest =>
    if t.isNull then do return t :: (← reviseItems f rest)
    else do return (← revise f t) :: (← reviseItems f rest)

end

mutual

/-- The names of all visible fragment spreads, in the order in which a traversal enters them. -/
def spreads : Tree → Except Malformed (List Scalar)
  | .node k attributes => do
    let here ← if k = .fragmentSpread then do pure [← nameOf (.node k attributes)] else pure []
    return here ++ (← spreadsInAttributes k attributes)
  | .list items => spreadsInItems items
  | _ => .error .noNode

def spreadsInAttributes (k : Kind) : List (Attribute × Tree) → Except Malformed (List Scalar)
  | [] => .ok []
  | (a, t) :: rest =>
    if a ∈ k.visited then do return (← spreads t) ++ (← spreadsInAttributes k rest)
    else spreadsInAttributes k rest

def spreadsInItems : List Tree → Except Malformed (List Scalar)
  | [] => .ok []
  | t :: rest =>
    if t.isNull then spreadsInItems rest
    else do return (← spreads t) ++ (← spreadsInItems rest)

end

end PersistedOps.Tree
