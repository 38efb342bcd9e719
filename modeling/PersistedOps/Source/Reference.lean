import PersistedOps.Failure
import PersistedOps.Path

/-!
References to units. A reference is taken relative to the directory of the unit that requires it; one
that begins with a slash, or that no unit requires, is relative to the root.
-/

namespace PersistedOps.Reference

/-- The directory a reference is relative to. -/
def base (reference : String) (issuer : Option String) : String :=
  if reference.startsWith "/" then ""
  else match issuer with
    | none => ""
    | some path => Path.directory path

/-- The normal path of a reference, which may not leave the root. -/
def join (reference : String) (issuer : Option String) : Except Failure String :=
  let path := Path.normalize (Path.join (base reference issuer) (Path.dropLeadingSlashes reference))
  if Path.escapes path then .error (.unitNotFound reference (some path)) else .ok path

/-- What the names of compiled units end in. -/
def suffix : String := ".py"

/-- The paths at which the unit of a path may stand: the path itself, and with the suffix of compiled
units unless it has that. -/
def candidates (path : String) : List String :=
  if path.endsWith suffix then [path] else [path, path ++ suffix]

/-- The first candidate of a reference that names a unit. -/
def locate (isUnit : String → Bool) (reference : String) (issuer : Option String) :
    Except Failure String := do
  let path ← join reference issuer
  match (candidates path).find? isUnit with
  | some found => return found
  | none => throw (.unitNotFound reference (some path))

end PersistedOps.Reference
