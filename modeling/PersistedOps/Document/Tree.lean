import PersistedOps.Document.Kind
import PersistedOps.Scalar
import PersistedOps.Text.Camel

/-!
Document trees. A node has a kind and attributes; an attribute holds a node, a list, an atom or,
in odd documents, a plain dictionary. Attributes are kept in their listing order without absent
ones, so two nodes with the same attributes are the same tree.
-/

namespace PersistedOps

inductive OperationType where
  | query | mutation | subscription
deriving DecidableEq, Repr, Inhabited

namespace OperationType

def word : OperationType → String
  | query => "query"
  | mutation => "mutation"
  | subscription => "subscription"

def ofWord? : String → Option OperationType
  | "query" => some query
  | "mutation" => some mutation
  | "subscription" => some subscription
  | _ => none

@[simp] theorem ofWord?_word (o : OperationType) : ofWord? o.word = some o := by cases o <;> rfl

end OperationType

/-- Why an operation on a tree has no answer. -/
inductive Malformed where
  | noAttribute (a : Attribute)
  | noNode
  | noSequence
  | noText
  | noName
  | notPrintable (k : Kind)
  | undecodable
deriving DecidableEq, Repr

inductive Tree where
  | node (kind : Kind) (attributes : List (Attribute × Tree))
  | list (items : List Tree)
  | dict (entries : List (Scalar × Tree))
  | scalar (s : Scalar)
  | operation (o : OperationType)
deriving Repr, Inhabited

/-- The attributes of a node that are there. -/
abbrev Attributes := List (Attribute × Tree)

namespace Tree

def null : Tree := scalar .null

def text (s : String) : Tree := scalar (.text s)

def isNull : Tree → Bool
  | scalar .null => true
  | _ => false

mutual

def beq : Tree → Tree → Bool
  | node k as, node l bs => k == l && beqAttributes as bs
  | list xs, list ys => beqItems xs ys
  | dict xs, dict ys => beqEntries xs ys
  | scalar s, scalar t => s == t
  | operation o, operation p => o == p
  | _, _ => false

def beqItems : List Tree → List Tree → Bool
  | [], [] => true
  | x :: xs, y :: ys => beq x y && beqItems xs ys
  | _, _ => false

def beqAttributes : Attributes → Attributes → Bool
  | [], [] => true
  | (a, x) :: xs, (b, y) :: ys => a == b && beq x y && beqAttributes xs ys
  | _, _ => false

def beqEntries : List (Scalar × Tree) → List (Scalar × Tree) → Bool
  | [], [] => true
  | (a, x) :: xs, (b, y) :: ys => a == b && beq x y && beqEntries xs ys
  | _, _ => false

end

instance : BEq Tree := ⟨beq⟩

end Tree

namespace Attributes

def get? (attributes : Attributes) (a : Attribute) : Option Tree := attributes.lookup a

/-- Puts an attribute in its place; a null value is an absent attribute. -/
def set (attributes : Attributes) (a : Attribute) (value : Tree) : Attributes :=
  match attributes with
  | [] => if value.isNull then [] else [(a, value)]
  | (b, old) :: rest =>
    if a = b then if value.isNull then rest else (a, value) :: rest
    else if a.rank < b.rank then
      if value.isNull then (b, old) :: rest else (a, value) :: (b, old) :: rest
    else (b, old) :: set rest a value

end Attributes

namespace Tree

/-- A node of the given attributes. -/
def ofAttributes (kind : Kind) (attributes : Attributes) : Tree :=
  node kind (attributes.foldl (fun acc e => Attributes.set acc e.1 e.2) [])

/-- The kind of a node. -/
def kind? : Tree → Option Kind
  | node k _ => some k
  | _ => none

/-- An attribute that is there. -/
def get? : Tree → Attribute → Option Tree
  | node _ attributes, a => Attributes.get? attributes a
  | _, _ => none

/-- An attribute of a node whose kind has it; null when it is absent. -/
def attr : Tree → Attribute → Except Malformed Tree
  | node k attributes, a =>
    if a ∈ k.attributes then .ok ((Attributes.get? attributes a).getD null) else .error (.noAttribute a)
  | _, a => .error (.noAttribute a)

def set : Tree → Attribute → Tree → Tree
  | node k attributes, a, value => node k (Attributes.set attributes a value)
  | t, _, _ => t

/-- The items of a sequence. -/
def items : Tree → Except Malformed (List Tree)
  | list xs => .ok xs
  | _ => .error .noSequence

/-- The atom under the name of a node, which is what identifies a definition. -/
def nameOf (t : Tree) : Except Malformed Scalar := do
  let name ← t.attr .name
  match ← name.attr .value with
  | scalar s => .ok s
  | _ => .error .noName

def toText : Tree → Except Malformed String
  | scalar (.text s) => .ok s
  | _ => .error .noText

/-- Whether a value counts as true: empty sequences and dictionaries do not. -/
def truthy : Tree → Bool
  | node _ _ => true
  | list xs => !xs.isEmpty
  | dict entries => !entries.isEmpty
  | scalar s => s.truthy
  | operation _ => true

/-- The definitions of a document. -/
def definitions (document : Tree) : Except Malformed (List Tree) := do
  (← document.attr .definitions).items

def document (definitions : List Tree) : Tree := node .document [(.definitions, list definitions)]

end Tree

/-- The kind as traversals and sorts name it: without its constant variant, with underscores. -/
def Kind.sortName (k : Kind) : String := Camel.toSnake k.base.label

end PersistedOps
