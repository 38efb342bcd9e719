import PersistedOps.Number.Shortest
import PersistedOps.Text.Quoted

/-!
Atomic values and the insertion-ordered dictionaries that they key. Numbers and booleans are one
ordered world: `true`, 1 and 1.0 are the same key.
-/

namespace PersistedOps

inductive Scalar where
  | null
  | bool (b : Bool)
  | int (n : Int)
  | float (x : Binary64)
  | text (s : String)
  /-- Text in which surrogates stand alone, as its code points. -/
  | surrogates (points : List Nat)
deriving DecidableEq, Repr, Inhabited

namespace Scalar

/-- The name of a scalar's type, as units know it. -/
def typeName : Scalar → String
  | null => "NoneType"
  | bool _ => "bool"
  | int _ => "int"
  | float _ => "float"
  | text _ | surrogates _ => "str"

/-- The integer that a boolean or an integer stands for. -/
def toInt? : Scalar → Option Int
  | bool b => some (if b then 1 else 0)
  | int n => some n
  | _ => none

/-- Equality of values across the numeric types. -/
def same : Scalar → Scalar → Bool
  | null, null => true
  | text s, text t => s == t
  | surrogates s, surrogates t => s == t
  | float x, float y => x.eqv y
  | float x, b => match b.toInt? with
    | some n => x.eqInt n
    | none => false
  | a, float y => match a.toInt? with
    | some n => y.eqInt n
    | none => false
  | a, b => match a.toInt?, b.toInt? with
    | some m, some n => m == n
    | _, _ => false

/-- The code points of a text. -/
def points? : Scalar → Option (List Nat)
  | text s => some (s.toList.map Char.toNat)
  | surrogates points => some points
  | _ => none

def isText (s : Scalar) : Bool := s.points?.isSome

/-- The text of code points. -/
def ofPoints (points : List Nat) : Scalar :=
  if points.any Quoted.isSurrogate then surrogates points
  else text (String.ofList (points.map Char.ofNat))

/-- Two texts, one behind the other. -/
def append? : Scalar → Scalar → Option Scalar
  | text s, text t => some (text (s ++ t))
  | a, b => do return ofPoints ((← a.points?) ++ (← b.points?))

/-- Empty text, zero, `false` and null count as false. -/
def truthy : Scalar → Bool
  | null => false
  | bool b => b
  | int n => n != 0
  | float x => !x.isZero
  | text s => s != ""
  | surrogates points => !points.isEmpty

/-- Integers of more digits than this are not written out. -/
def digitLimit : Nat := 4300

/-- The decimal text of an integer within the limit. -/
def decimal? (n : Int) : Option String :=
  if n.natAbs < Nat.pow 10 digitLimit then some (toString n) else none

/-- A scalar as a unit would write it. -/
def shown? : Scalar → Option String
  | null => some "None"
  | bool b => some (if b then "True" else "False")
  | int n => decimal? n
  | float x => some x.text
  | text s => some (Quoted.ofText s)
  | surrogates points => some (Quoted.ofPoints points)

end Scalar

/-- A dictionary as its pairs, in the order in which keys were first put. -/
abbrev Entries (α : Type) := List (Scalar × α)

namespace Entries

variable {α : Type}

def get? (entries : Entries α) (key : Scalar) : Option α :=
  (entries.find? fun e => e.1.same key).map (·.2)

def contains (entries : Entries α) (key : Scalar) : Bool := (entries.get? key).isSome

/-- A key that is there keeps its place and its spelling and takes the new value. -/
def put (entries : Entries α) (key : Scalar) (value : α) : Entries α :=
  match entries with
  | [] => [(key, value)]
  | (k, v) :: rest => if k.same key then (k, value) :: rest else (k, v) :: put rest key value

/-- Puts all pairs of another dictionary, in their order. -/
def update (entries others : Entries α) : Entries α :=
  others.foldl (fun acc e => acc.put e.1 e.2) entries

def getText? (entries : Entries α) (key : String) : Option α := entries.get? (.text key)

end Entries

end PersistedOps
