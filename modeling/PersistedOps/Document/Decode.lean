import PersistedOps.Document.Tree
import PersistedOps.Json.Basic

/-!
Document trees read from plain nested data: dictionaries with a `kind` become nodes. The data may be
held in any way that shows one layer at a time, so that a holder with sharing or cycles is never
unfolded further than the reading goes.
-/

namespace PersistedOps

/-- One layer of a value. -/
inductive Layer (α : Type) where
  | scalar (s : Scalar)
  | list (items : List α)
  | dict (entries : Entries α)

/-- How values of a type are looked into, and how they are shown in messages. A value may be past
showing when it holds an integer beyond the digit limit. -/
structure View (α : Type) where
  layer : α → Layer α
  shown? : α → Option String

namespace Layer

variable {α : Type}

def typeName : Layer α → String
  | scalar s => s.typeName
  | list _ => "list"
  | dict _ => "dict"

def truthy : Layer α → Bool
  | scalar s => s.truthy
  | list items => !items.isEmpty
  | dict entries => !entries.isEmpty

def text? : Layer α → Option String
  | scalar (.text s) => some s
  | _ => none

/-- The integer that can be an index. -/
def toInt? : Layer α → Option Int
  | scalar s => s.toInt?
  | _ => none

end Layer

/-- Why data is no document. -/
inductive DecodeError where
  | notDocument (typeName : String)
  | definitionsNotList (typeName : String)
  | definitionNotNode (typeName : String)
  | unknownKind (shown : String)
  | unknownOperation (shown : String)
  | keyNotText (typeName : String)
  | digitLimit
  | endless
deriving DecidableEq, Repr

/-- The wording of an error. Data without an end has none: reading it never comes back. -/
def DecodeError.message? : DecodeError → Option String
  | notDocument t => some ("Exported value is not a GraphQL Document: " ++ t)
  | definitionsNotList t => some ("Document definitions must be a list, not " ++ t)
  | definitionNotNode t => some ("Document definition is not an AST node: " ++ t)
  | unknownKind shown => some ("Unknown AST node kind: " ++ shown)
  | unknownOperation shown => some (shown ++ " is not a valid OperationType")
  | keyNotText t => some ("expected string or bytes-like object, got '" ++ t ++ "'")
  | digitLimit => some ("Exceeds the limit (" ++ toString Scalar.digitLimit
      ++ " digits) for integer string conversion; use sys.set_int_max_str_digits() to increase the "
      ++ "limit")
  | endless => none

namespace Decode

variable {α : Type}

/-- The kind that a dictionary's `kind` entry names. -/
def kindOf (view : View α) (entries : Entries α) : Except DecodeError Kind :=
  match entries.getText? "kind" with
  | none => .error (.unknownKind "None")
  | some value =>
    match (view.layer value).text?.bind Kind.ofLabel? with
    | some kind => .ok kind
    | none => match view.shown? value with
      | some shown => .error (.unknownKind shown)
      | none => .error .digitLimit

/-- Keys that say something about the node itself. -/
def isReserved (key : Scalar) : Bool := key == .text "kind" || key == .text "loc"

/-- Whether a key is another spelling of the location, which is read before it is dropped. -/
def isLocation (key : String) : Bool := Camel.toSnake key == "loc"

/-- The attribute that a key stands for in a node of the kind. -/
def attributeOf? (kind : Kind) (key : String) : Option Attribute :=
  (Attribute.ofSnake? (Camel.toSnake key)).filter fun a => a ∈ kind.attributes

/-- The value of an attribute: text under `operation` must name an operation type. -/
def attributeValue (view : View α) (decode : α → Except DecodeError Tree) (a : Attribute)
    (value : α) : Except DecodeError Tree :=
  match a, view.layer value with
  | .operation, .scalar (.text word) => match OperationType.ofWord? word with
    | some o => .ok (.operation o)
    | none => .error (.unknownOperation (Quoted.ofText word))
  | .operation, .scalar (.surrogates points) => .error (.unknownOperation (Quoted.ofPoints points))
  | _, _ => decode value

/-- Reads a dictionary's entries in order; unknown keys are passed over with what they hold, and of
two keys for one attribute the later counts. -/
def attributes (view : View α) (decode : α → Except DecodeError Tree) (kind : Kind)
    (acc : Attributes) : Entries α → Except DecodeError Attributes
  | [] => .ok acc
  | (key, value) :: rest =>
    if isReserved key then attributes view decode kind acc rest
    else match key with
      | .text name => match attributeOf? kind name with
        | some a => do
          let t ← attributeValue view decode a value
          attributes view decode kind (acc.set a t) rest
        | none => do
          if isLocation name then
            let _ ← decode value
          attributes view decode kind acc rest
      | .surrogates _ => attributes view decode kind acc rest
      | other => .error (.keyNotText other.typeName)

def node (view : View α) (decode : α → Except DecodeError Tree) (entries : Entries α) :
    Except DecodeError Tree := do
  let kind ← kindOf view entries
  return .node kind (← attributes view decode kind [] entries)

/-- Reads any value; `depth` bounds how deep it nests. -/
def value (view : View α) : (depth : Nat) → α → Except DecodeError Tree
  | 0, _ => .error .endless
  | depth + 1, a => match view.layer a with
    | .scalar s => .ok (.scalar s)
    | .list items => do return .list (← items.mapM (value view depth))
    | .dict entries =>
      if entries.contains (.text "kind") then node view (value view depth) entries
      else do
        return .dict (← entries.mapM fun e => do return (e.1, ← value view depth e.2))

/-- The definitions a document lists; one that counts as false lists none. -/
def definitionEntries (view : View α) (definitions : Option α) :
    Except DecodeError (List (Entries α)) :=
  match definitions.map view.layer with
  | none => .ok []
  | some layer =>
    if !layer.truthy then .ok []
    else match layer with
      | .list items => items.mapM fun item => match view.layer item with
        | .dict entries => .ok entries
        | other => .error (.definitionNotNode other.typeName)
      | other => .error (.definitionsNotList other.typeName)

/-- Reads a document. All definitions are looked at before the first is read, and entries other than
the definitions do not matter. -/
def document (view : View α) (depth : Nat) (a : α) : Except DecodeError Tree :=
  match view.layer a with
  | .dict entries =>
    if ((entries.getText? "kind").bind fun k => (view.layer k).text?) = some "Document" then do
      let definitions ← definitionEntries view (entries.getText? "definitions")
      return Tree.document (← definitions.mapM (node view (value view depth)))
    else .error (.notDocument "dict")
  | layer => .error (.notDocument layer.typeName)

end Decode

namespace Json

mutual

/-- How deep a value nests. -/
def depth : Json → Nat
  | arr items => depthItems items + 1
  | obj fields => depthFields fields + 1
  | _ => 1

def depthItems : List Json → Nat
  | [] => 0
  | v :: rest => max (depth v) (depthItems rest)

def depthFields : List (String × Json) → Nat
  | [] => 0
  | (_, v) :: rest => max (depth v) (depthFields rest)

end

def layer : Json → Layer Json
  | null => .scalar .null
  | bool b => .scalar (.bool b)
  | int n => .scalar (.int n)
  | float x => .scalar (.float x)
  | str s => .scalar (.text s)
  | arr items => .list items
  | obj fields => .dict (fields.map fun f => (.text f.1, f.2))

mutual

/-- A value as a unit would write it. -/
def shown? : Json → Option String
  | arr items => do return "[" ++ String.intercalate ", " (← shownItems? items) ++ "]"
  | obj fields => do return "\x7b" ++ String.intercalate ", " (← shownFields? fields) ++ "\x7d"
  | null => Scalar.null.shown?
  | bool b => (Scalar.bool b).shown?
  | int n => (Scalar.int n).shown?
  | float x => (Scalar.float x).shown?
  | str s => (Scalar.text s).shown?

def shownItems? : List Json → Option (List String)
  | [] => some []
  | v :: rest => do return (← shown? v) :: (← shownItems? rest)

def shownFields? : List (String × Json) → Option (List String)
  | [] => some []
  | (key, v) :: rest => do return (Quoted.ofText key ++ ": " ++ (← shown? v)) :: (← shownFields? rest)

end

def view : View Json := ⟨layer, shown?⟩

/-- The document that a JSON value spells. -/
def toDocument (v : Json) : Except DecodeError Tree := Decode.document view v.depth v

/-- The node that a JSON object spells. -/
def toNode (v : Json) : Except DecodeError Tree :=
  match v.layer with
  | .dict entries => Decode.node view (Decode.value view v.depth) entries
  | layer => .error (.notDocument layer.typeName)

end Json

end PersistedOps
