import PersistedOps.Text.Hex

/-!
Sets of characters given by the borders of their ranges, read from a compact text of differences.
-/

namespace PersistedOps

/-- A set of code points: it holds those with an odd number of borders at or below them. -/
structure Ranges where
  borders : Array Nat
deriving Repr

namespace Ranges

/-- Hexadecimal numbers separated by spaces. -/
def numbers (text : List Char) : List Nat :=
  let step (acc : List Nat × Nat × Bool) (c : Char) : List Nat × Nat × Bool :=
    let (done, n, pending) := acc
    match Hex.digit? c with
    | some d => (done, 16 * n + d, true)
    | none => if pending then (n :: done, 0, false) else acc
  let (done, n, pending) := text.foldl step ([], 0, false)
  (if pending then n :: done else done).reverse

/-- Running sums. -/
def sums (start : Nat) : List Nat → List Nat
  | [] => []
  | d :: ds => (start + d) :: sums (start + d) ds

/-- The set whose borders differ by the numbers on the given lines, the first from zero. -/
def ofDifferences (lines : List String) : Ranges :=
  ⟨(sums 0 (lines.flatMap fun line => numbers line.toList)).toArray⟩

/-- How many of the borders `low` to `high` lie at or below `n`, where `fuel` halvings suffice. -/
def countBelow (borders : Array Nat) (n : Nat) : (fuel low high : Nat) → Nat
  | 0, low, _ => low
  | fuel + 1, low, high =>
    if low < high then
      let middle := (low + high) / 2
      if borders.getD middle 0 ≤ n then countBelow borders n fuel (middle + 1) high
      else countBelow borders n fuel low middle
    else low

def contains (r : Ranges) (n : Nat) : Bool :=
  countBelow r.borders n 32 0 r.borders.size % 2 == 1

end Ranges

end PersistedOps
