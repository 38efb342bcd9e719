import PersistedOps.Document.Decode

/-!
The values of units. Lists and dictionaries stand in cells and are held by address, so that all who
hold one see what is assigned into it.
-/

namespace PersistedOps.Script

inductive Value where
  | scalar (s : Scalar)
  | cell (address : Nat)
deriving DecidableEq, Repr, Inhabited

/-- What a cell holds. -/
inductive Cell where
  | list (items : List Value)
  | dict (entries : Entries Value)
deriving Repr, Inhabited

/-- All cells, by address. No cell is ever given up. -/
structure Heap where
  cells : Array Cell
deriving Repr, Inhabited

namespace Heap

def empty : Heap := ⟨#[]⟩

/-- A new cell and its address. -/
def allocate (h : Heap) (c : Cell) : Value × Heap := (.cell h.cells.size, ⟨h.cells.push c⟩)

def get? (h : Heap) (address : Nat) : Option Cell := h.cells[address]?

def set (h : Heap) (address : Nat) (c : Cell) : Heap := ⟨h.cells.setIfInBounds address c⟩

/-- One layer of a value. Values only hold addresses of cells that are there. -/
def layer (h : Heap) : Value → Layer Value
  | .scalar s => .scalar s
  | .cell address => match h.get? address with
    | some (.list items) => .list items
    | some (.dict entries) => .dict entries
    | none => .list []

def typeName (h : Heap) (v : Value) : String := (h.layer v).typeName

/-- A bound on how deep values nest, unless they hold themselves. -/
def depth (h : Heap) : Nat := h.cells.size + 1

/-- A value as a unit would write it; a list or dictionary inside itself is shown as dots. -/
def show? (h : Heap) : (depth : Nat) → (around : List Value) → Value → Option String
  | 0, _, _ => none
  | depth + 1, around, v =>
    match h.layer v with
    | .scalar s => s.shown?
    | .list items =>
      if v ∈ around then some "[...]"
      else do
        let shown ← items.mapM (show? h depth (v :: around))
        return "[" ++ String.intercalate ", " shown ++ "]"
    | .dict entries =>
      if v ∈ around then some "\x7b...\x7d"
      else do
        let shown ← entries.mapM fun e => do
          return (← e.1.shown?) ++ ": " ++ (← show? h depth (v :: around) e.2)
        return "\x7b" ++ String.intercalate ", " shown ++ "\x7d"

/-- The written form of a value. -/
def shown? (h : Heap) (v : Value) : Option String := h.show? (h.depth + 1) [] v

/-- How documents are read off the heap. -/
def view (h : Heap) : View Value := ⟨h.layer, h.shown?⟩

end Heap

end PersistedOps.Script
