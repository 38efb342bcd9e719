import PersistedOps.Text.Normalization.Tables

/-!
Compatibility normalization of identifiers: decompose fully, put combining marks in the order of
their classes, and compose pairs from the left.
-/

namespace PersistedOps.Text

namespace Normalization

/-- How many leading entries have a first number at or below `n`; `fuel` halvings of the places `low`
to `high` suffice. -/
def countBelow (key : Nat → Nat) (n : Nat) : (fuel low high : Nat) → Nat
  | 0, low, _ => low
  | fuel + 1, low, high =>
    if low < high then
      let middle := (low + high) / 2
      if key middle ≤ n then countBelow key n fuel (middle + 1) high
      else countBelow key n fuel low middle
    else low

/-- The first code points of the syllable blocks and of their parts. -/
def syllableBase : Nat := 0xac00

def leadBase : Nat := 0x1100

def vowelBase : Nat := 0x1161

def tailBase : Nat := 0x11a7

def isSyllable (n : Nat) : Bool := syllableBase ≤ n && n < syllableBase + 11172

/-- The parts of a syllable. -/
def syllableParts (n : Nat) : List Nat :=
  let i := n - syllableBase
  let parts := [leadBase + i / 588, vowelBase + i % 588 / 28]
  if i % 28 = 0 then parts else parts ++ [tailBase + i % 28]

/-- The full decomposition of a code point. -/
def decompose (n : Nat) : List Nat :=
  if isSyllable n then syllableParts n
  else
    let place := countBelow (fun i => (decompositions.getD i default).first) n 32 0
      decompositions.size
    if place = 0 then [n]
    else
      let run := decompositions.getD (place - 1) default
      if n < run.first + run.count then
        match run.targets with
        | [target] => [target + (n - run.first)]
        | targets => targets
      else [n]

/-- The combining class of a code point; zero for all that does not combine. -/
def classOf (n : Nat) : Nat :=
  let place := countBelow (fun i => (classes.getD i (0, 0, 0)).1) n 32 0 classes.size
  if place = 0 then 0
  else
    let (first, count, value) := classes.getD (place - 1) (0, 0, 0)
    if n < first + count then value else 0

/-- Puts a combining mark behind those before it of no greater class. -/
def insertMark (mark : Nat × Nat) : List (Nat × Nat) → List (Nat × Nat)
  | [] => [mark]
  | m :: rest => if mark.2 < m.2 then mark :: m :: rest else m :: insertMark mark rest

/-- Sorts each run of combining marks by class, keeping the order within a class. -/
def reorder (pending : List (Nat × Nat)) : List Nat → List Nat
  | [] => pending.map (·.1)
  | n :: rest =>
    match classOf n with
    | 0 => pending.map (·.1) ++ n :: reorder [] rest
    | value => reorder (insertMark (n, value) pending) rest

/-- What two code points compose to. -/
def compose? (a b : Nat) : Option Nat :=
  if leadBase ≤ a ∧ a < leadBase + 19 ∧ vowelBase ≤ b ∧ b < vowelBase + 21 then
    some (syllableBase + ((a - leadBase) * 21 + (b - vowelBase)) * 28)
  else if isSyllable a && (a - syllableBase) % 28 == 0 && tailBase < b && b < tailBase + 28 then
    some (a + (b - tailBase))
  else
    let last := countBelow (fun i => (compositions.getD i (0, 0, 0)).1) a 32 0 compositions.size
    let first := countBelow (fun i => (compositions.getD i (0, 0, 0)).1 + 1) a 32 0
      compositions.size
    ((List.range (last - first)).findSome? fun i =>
      let (_, second, result) := compositions.getD (first + i) (0, 0, 0)
      if second = b then some result else none)

/-- Composes from a starter on: `between` holds what follows it uncomposed, last first, and `top` the
class of the last of these. -/
def composeFrom (starter : Nat) (between : List Nat) (top : Nat) : List Nat → List Nat
  | [] => starter :: between.reverse
  | n :: rest =>
    let value := classOf n
    let blocked := !between.isEmpty && (top = 0 || value ≤ top)
    match if blocked then none else compose? starter n with
    | some composed => composeFrom composed between top rest
    | none =>
      if value = 0 then starter :: between.reverse ++ composeFrom n [] 0 rest
      else composeFrom starter (n :: between) value rest

/-- Composes all that follows the first starter. -/
def composeAll : List Nat → List Nat
  | [] => []
  | n :: rest => if classOf n = 0 then composeFrom n [] 0 rest else n :: composeAll rest

end Normalization

/-- The compatibility normal form of a name. A name in ASCII is its own. -/
def normalizeIdentifier (name : String) : String :=
  if name.toList.all fun c => c.toNat < 0x80 then name
  else
    let decomposed := name.toList.flatMap fun c => Normalization.decompose c.toNat
    let ordered := Normalization.reorder [] decomposed
    String.ofList ((Normalization.composeAll ordered).map Char.ofNat)

end PersistedOps.Text
