/-!
Who waits for what: a finite relation on paths, and the search for a chain in it.
-/

namespace PersistedOps

/-- Pairs of a path and a path that it awaits, without repeats. -/
abbrev Waiting := List (String × String)

namespace Waiting

def add (w : Waiting) (issuer path : String) : Waiting :=
  if (issuer, path) ∈ w then w else w ++ [(issuer, path)]

def discard (w : Waiting) (issuer path : String) : Waiting := w.filter (· ≠ (issuer, path))

/-- The paths that a path awaits. -/
def awaitedBy (w : Waiting) (path : String) : List String :=
  (w.filter fun e => e.1 = path).map (·.2)

/-- Searches depth first from pending paths, each with the reversed chain that leads to it, for one
that is the issuer. -/
def search (w : Waiting) (issuer : String) :
    (fuel : Nat) → (pending : List (String × List String)) → (seen : List String) →
      Option (List String)
  | 0, _, _ => none
  | _ + 1, [], _ => none
  | fuel + 1, (current, chain) :: pending, seen =>
    if current = issuer then some chain.reverse
    else if current ∈ seen then search w issuer fuel pending seen
    else
      let next := (w.awaitedBy current).map fun path => (path, path :: chain)
      search w issuer fuel (next.reverse ++ pending) (current :: seen)

/-- The chain from an issuer through a path back to the issuer, if waiting for the path would close
one. Each pair is pending at most once, which bounds the search. -/
def cycle? (w : Waiting) (issuer path : String) : Option (List String) :=
  search w issuer (w.length + 2) [(path, [path, issuer])] []

end Waiting

end PersistedOps
