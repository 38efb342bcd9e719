import PersistedOps.Document.Walk

/-!
Documents in a fixed order: definitions and selections by kind and then by name, arguments and the
directives of selections and fragments by name, variables by name. Sorting is stable.
-/

namespace PersistedOps.Sort

/-- What an item is sorted by: its kind where kinds matter, and its name. -/
structure Key where
  kind : String
  name : Option Scalar
deriving Repr, DecidableEq

/-- The text of a key's name; an item without a name has none. -/
def Key.nameText : Key → Except Malformed (Option String)
  | ⟨_, none⟩ => .ok none
  | ⟨_, some (.text s)⟩ => .ok (some s)
  | ⟨_, some _⟩ => .error .noText

/-- Names are ordered by code points; items without a name come last. -/
def nameLe : Option String → Option String → Bool
  | some a, some b => a ≤ b
  | none, some _ => false
  | _, none => true

/-- Kinds first, then names. -/
def keyLe (a b : String × Option String) : Bool :=
  a.1 < b.1 || (a.1 == b.1 && nameLe a.2 b.2)

/-- The name under which an item is sorted. -/
def nameKey (t : Tree) : Except Malformed (Option Scalar) :=
  match t.get? .name with
  | none => .ok none
  | some name => do
    match ← name.attr .value with
    | .scalar s => return some s
    | _ => .error .noName

def byName (t : Tree) : Except Malformed Key := do return ⟨"", ← nameKey t⟩

def byKindAndName (t : Tree) : Except Malformed Key :=
  match t.kind? with
  | some k => do return ⟨k.sortName, ← nameKey t⟩
  | none => .error .noNode

/-- A variable definition is sorted by the name of its variable. -/
def byVariable (t : Tree) : Except Malformed Key := do
  return ⟨"", some (← (← t.attr .var).nameOf)⟩

/-- Items sorted by their keys. A single item needs no order, so its name may be anything. -/
def sortItems (key : Tree → Except Malformed Key) (items : List Tree) :
    Except Malformed (List Tree) := do
  let keys ← items.mapM key
  if keys.length ≤ 1 then return items
  let names ← keys.mapM Key.nameText
  let keyed := ((keys.map Key.kind).zip names).zip items
  return (keyed.mergeSort fun a b => keyLe a.1 b.1).map (·.2)

/-- Sorts the sequence under an attribute; an absent one stays absent. -/
def sortAttribute (a : Attribute) (key : Tree → Except Malformed Key) (t : Tree) :
    Except Malformed Tree :=
  match t.get? a with
  | none => .ok t
  | some value => do return t.set a (.list (← sortItems key (← value.items)))

/-- Sorts the sequences of one node. The directives of operations, fields and variables keep their
order. -/
def sortNode (t : Tree) : Except Malformed Tree :=
  match t.kind?.map Kind.base with
  | some .document => sortAttribute .definitions byKindAndName t
  | some .operationDefinition => sortAttribute .variableDefinitions byVariable t
  | some .selectionSet => sortAttribute .selections byKindAndName t
  | some .field => sortAttribute .arguments byName t
  | some .fragmentSpread => sortAttribute .directives byName t
  | some .inlineFragment => sortAttribute .directives byName t
  | some .fragmentDefinition => do
    sortAttribute .variableDefinitions byVariable (← sortAttribute .directives byName t)
  | some .directive => sortAttribute .arguments byName t
  | _ => .ok t

/-- Sorts a document at every depth. -/
def sort (document : Tree) : Except Malformed Tree := document.revise sortNode

end PersistedOps.Sort
