import PersistedOps.Source.Reference

/-!
Where units are read from, and units held in memory.
-/

namespace PersistedOps

/-- A collection of unit sources under a root. `locate` finds the canonical path of the unit that a
reference names, `read` the text at a located path, and `paths` lists those that can be located. -/
class UnitSource (σ : Type) where
  locate : σ → String → Option String → Except Failure String
  read : σ → String → Except Failure String
  paths : σ → List String

/-- Units by normal path. -/
structure MemorySource where
  units : List (String × String)
deriving Repr, Inhabited

namespace MemorySource

def get? (m : MemorySource) (path : String) : Option String := m.units.lookup path

/-- Registers a unit, or replaces its text. -/
def add (m : MemorySource) (path source : String) : MemorySource :=
  ⟨(Path.normalize path, source) :: m.units⟩

def ofUnits (units : List (String × String)) : MemorySource :=
  units.foldl (fun m e => m.add e.1 e.2) ⟨[]⟩

def locate (m : MemorySource) (reference : String) (issuer : Option String) :
    Except Failure String :=
  Reference.locate (fun path => (m.get? path).isSome) reference issuer

/-- The text at exactly this path. -/
def read (m : MemorySource) (path : String) : Except Failure String :=
  match m.get? path with
  | some source => .ok source
  | none => .error (.unitNotFound path none)

def paths (m : MemorySource) : List String := (m.units.map (·.1)).eraseDups

instance : UnitSource MemorySource := ⟨locate, read, paths⟩

end MemorySource

end PersistedOps
