import PersistedOps.Script.Fault
import PersistedOps.Script.Heap
import PersistedOps.Script.Statement
import PersistedOps.Script.Syntax

/-!
The evaluation of units: statements bind names to values and assign into them, and each required unit
is stood in for by an empty document of its own.
-/

namespace PersistedOps.Script

/-- The state of an evaluation: the heap, what names are bound to (the latest first), and the distinct
references required so far, in order. -/
structure Sandbox where
  heap : Heap
  bindings : List (String × Value)
  references : List Scalar
deriving Repr, Inhabited

/-- Why an evaluation ends early. -/
inductive Halt where
  | fault (fault : Fault) (line : Nat)
  | unexpected
deriving DecidableEq, Repr

abbrev Evaluation := StateT Sandbox (Except Halt)

namespace Sandbox

def initial : Sandbox := ⟨.empty, [], []⟩

def lookup? (s : Sandbox) (name : String) : Option Value := s.bindings.lookup name

def bind (s : Sandbox) (name : String) (v : Value) : Sandbox :=
  { s with bindings := (name, v) :: s.bindings }

/-- Notes a reference, unless it has been noted. -/
def require (s : Sandbox) (reference : Scalar) : Sandbox :=
  if reference ∈ s.references then s else { s with references := s.references ++ [reference] }

end Sandbox

namespace Evaluation

def fail {α : Type} (line : Nat) (f : Fault) : Evaluation α := throw (.fault f line)

/-- Fails with a message that shows a value. -/
def failShowing {α : Type} (line : Nat) (shown? : Option String) (f : String → Fault) :
    Evaluation α :=
  match shown? with
  | some shown => fail line (f shown)
  | none => throw .unexpected

def allocate (c : Cell) : Evaluation Value :=
  modifyGet fun s =>
    let (v, heap) := s.heap.allocate c
    (v, { s with heap })

def write (address : Nat) (c : Cell) : Evaluation Unit :=
  modify fun s => { s with heap := s.heap.set address c }

def layerOf (v : Value) : Evaluation (Layer Value) := return (← get).heap.layer v

/-- The empty document that stands in for a required unit. -/
def placeholder : Evaluation Value := do
  let definitions ← allocate (.list [])
  allocate (.dict [(.text "kind", .scalar (.text "Document")), (.text "definitions", definitions)])

/-! Operations -/

/-- Lists and texts can be added; the sum is new. -/
def add (line : Nat) (left right : Value) : Evaluation Value := do
  match ← layerOf left, ← layerOf right with
  | .list xs, .list ys => allocate (.list (xs ++ ys))
  | .scalar s, .scalar t => match s.append? t with
    | some sum => return .scalar sum
    | none => fail line (.cannotAdd s.typeName t.typeName)
  | l, r => fail line (.cannotAdd l.typeName r.typeName)

def negate (line : Nat) (v : Value) : Evaluation Value := do
  match ← layerOf v with
  | .scalar (.int n) => return .scalar (.int (-n))
  | .scalar (.float x) => return .scalar (.float x.neg)
  | _ => fail line .minusNeedsNumber

/-- The key that a value is, if it can be one. -/
def keyOf (line : Nat) (v : Value) : Evaluation Scalar := do
  match ← layerOf v with
  | .scalar s => return s
  | l => fail line (.unhashableKey l.typeName)

/-- The place in a sequence that an index names: the first is 0, the last is -1. -/
def position (length : Nat) (index : Int) : Option Nat :=
  let i := if index < 0 then index + length else index
  if 0 ≤ i ∧ i < length then some i.toNat else none

/-- The least integer too great for an index: 64 bits with a sign hold all indices. -/
def indexLimit : Int := 9223372036854775808

/-- Whether an integer is small enough to be an index at all. -/
def isIndex (n : Int) : Bool := -indexLimit ≤ n && n < indexLimit

/-- Looks an index up in a sequence. -/
def element {α : Type} (items : List α) (outside : SubscriptFault) (index : Int) :
    Except SubscriptFault α :=
  if !isIndex index then .error .hugeIndex
  else match (position items.length index).bind (items[·]?) with
    | some a => .ok a
    | none => .error outside

/-- Looks a key up in a value, given the layers of both. -/
def lookup (container key : Layer Value) : Except SubscriptFault Value :=
  match container, key with
  | .dict entries, .scalar k => match entries.get? k with
    | some v => .ok v
    | none => .error .missingKey
  | .dict _, k => .error (.unhashable k.typeName)
  | .list items, k => match k.toInt? with
    | some n => element items .listRange n
    | none => .error (.listIndexType k.typeName)
  | .scalar s, k => match s.points?, k.toInt? with
    | some points, some n =>
      (element points .textRange n).map fun point => .scalar (.ofPoints [point])
    | some _, none => .error (.textIndexType k.typeName)
    | none, _ => .error (.notSubscriptable s.typeName)

def subscript (line : Nat) (container key : Value) : Evaluation Value := do
  match lookup (← layerOf container) (← layerOf key) with
  | .ok v => return v
  | .error reason => failShowing line ((← get).heap.shown? key) fun shown =>
      .invalidSubscript shown reason

/-- Assigns into a list or a dictionary. -/
def assignInto (line : Nat) (container key value : Value) : Evaluation Unit := do
  match container, ← layerOf container, ← layerOf key with
  | .cell address, .dict entries, _ =>
    let k ← keyOf line key
    write address (.dict (entries.put k value))
  | .cell address, .list items, .scalar k => match k.toInt? with
    | some n => match (if isIndex n then position items.length n else none) with
      | some i => write address (.list (items.set i value))
      | none => failShowing line k.shown? .indexOutOfRange
    | none => fail line (.cannotAssignInto "list")
  | _, c, _ => fail line (.cannotAssignInto c.typeName)

/-- Requires another unit, which any text but the empty one may name. -/
def require (line : Nat) (reference : Value) : Evaluation Value := do
  match ← layerOf reference with
  | .scalar s =>
    if s.isText && s.truthy then
      modify (·.require s)
      placeholder
    else fail line .requireText
  | _ => fail line .requireText

/-- The value of a literal, if units may use it. -/
def literal (line : Nat) : Literal → Evaluation Value
  | .null => return .scalar .null
  | .bool b => return .scalar (.bool b)
  | .int n => return .scalar (.int n)
  | .float x => return .scalar (.float x)
  | .text s => return .scalar s
  | .bytes => fail line (.unsupportedLiteral "bytes")
  | .imaginary => fail line (.unsupportedLiteral "complex")
  | .ellipsis => fail line (.unsupportedLiteral "ellipsis")

def isStarred : Expr → Bool
  | .starred _ _ => true
  | _ => false

/-- Whether a call is one of `require`. -/
def callsRequire : Expr → Bool
  | .name _ n => n = requireName
  | _ => false

mutual

/-- The value of an expression. -/
def expression : Expr → Evaluation Value
  | .literal l v => literal l v
  | .name l n => do
    match (← get).lookup? n with
    | some v => return v
    | none => fail l (.unknownName n)
  | .list l items | .tuple l items =>
    if items.any isStarred then fail l .starred
    else do allocate (.list (← expressions items))
  | .dict l parts => do allocate (.dict (← entries l [] parts))
  | .subscript l container key => do
    let c ← expression container
    let k ← expression key
    subscript l c k
  | .call l function arguments keywords =>
    if !callsRequire function then fail l .onlyRequireCalls
    else match arguments, keywords with
      | [argument], false => do require l (← expression argument)
      | _, _ => fail l .requireArguments
  | .negate l operand => do negate l (← expression operand)
  | .add l left right => do
    let a ← expression left
    let b ← expression right
    add l a b
  | .starred l _ => fail l (.unsupportedExpression .starred)
  | .other l kind => fail l (.unsupportedExpression kind)

def expressions : List Expr → Evaluation (List Value)
  | [] => return []
  | e :: rest => do
    let v ← expression e
    return v :: (← expressions rest)

/-- Adds the entries of a dictionary display, a value before its key. -/
def entries (line : Nat) (acc : Entries Value) :
    List (Option Expr × Expr) → Evaluation (Entries Value)
  | [] => return acc
  | (none, other) :: rest => do
    let v ← expression other
    match ← layerOf v with
    | .dict others => entries line (acc.update others) rest
    | layer => fail line (.cannotUnpack layer.typeName)
  | (some key, value) :: rest => do
    let v ← expression value
    let k ← keyOf line (← expression key)
    entries line (acc.put k v) rest

end

/-- Assigns a value to a target. -/
def assign (value : Value) : Expr → Evaluation Unit
  | .name l n =>
    if n = requireName then fail l .rebindRequire else modify (·.bind n value)
  | .subscript l container key => do
    let c ← expression container
    let k ← expression key
    assignInto l c k value
  | e => fail e.line (.unsupportedTarget e.kind)

def statement : Statement → Evaluation Unit
  | .assign _ targets value => do
    let v ← expression value
    targets.forM (assign v)
  | .augmented l target .add value => do
    let current ← expression target
    let more ← expression value
    assign (← add l current more) target
  | .augmented l _ operator _ => fail l (.unsupportedOperator operator)
  | .expression _ value => do
    let _ ← expression value
  | .pass _ => return ()
  | .other l kind => fail l (.unsupportedStatement kind)

/-- The state in which statements leave an empty sandbox. -/
def run (statements : List Statement) : Except Halt Sandbox :=
  (StateT.run (statements.forM statement) Sandbox.initial).map (·.2)

end Evaluation

end PersistedOps.Script
