import PersistedOps.Document.Tree
import PersistedOps.Text.Hex

/-!
Documents written as GraphQL text with two spaces of indentation. Empty parts vanish together with
what would wrap them.
-/

namespace PersistedOps.Printer

/-- The lines longer than this have their arguments written one to a line. -/
def maxLine : Nat := 80

/-- Joins the pieces that are not empty. -/
def join (separator : String) (pieces : List String) : String :=
  String.intercalate separator (pieces.filter (· ≠ ""))

/-- Puts text between two others unless it is empty. -/
def wrap (before text after : String) : String :=
  if text = "" then "" else before ++ text ++ after

/-- Indents a text's lines by two spaces. -/
def indent (text : String) : String :=
  wrap "  " (String.ofList (text.toList.flatMap fun c =>
    if c = '\n' then ['\n', ' ', ' '] else [c])) ""

/-- Lines in braces. -/
def block (lines : List String) : String := wrap "\x7b\n" (indent (join "\n" lines)) "\n\x7d"

/-- A character of a quoted string. -/
def escape (c : Char) : List Char :=
  match c with
  | '"' => ['\\', '"']
  | '\\' => ['\\', '\\']
  | '\n' => ['\\', 'n']
  | '\r' => ['\\', 'r']
  | '\t' => ['\\', 't']
  | '\x08' => ['\\', 'b']
  | '\x0c' => ['\\', 'f']
  | c =>
    if c.toNat < 0x20 || (0x7f ≤ c.toNat && c.toNat < 0xa0) then
      '\\' :: 'u' :: (Hex.ofNat 4 c.toNat).map Char.toUpper
    else [c]

/-- A string as an ordinary quoted literal. -/
def quote (s : String) : String := String.ofList ('"' :: s.toList.flatMap escape ++ ['"'])

/-- What an attribute prints as. -/
inductive Part where
  | one (text : String)
  | many (texts : List String)

/-- The printed attributes of a node. -/
abbrev Parts := List (Attribute × Part)

namespace Parts

/-- The text of an attribute, empty when it is absent. -/
def one (parts : Parts) (a : Attribute) : Except Malformed String :=
  match parts.lookup a with
  | none => .ok ""
  | some (.one s) => .ok s
  | some (.many _) => .error .noNode

/-- The texts of a sequence, none when it is absent. -/
def many (parts : Parts) (a : Attribute) : Except Malformed (List String) :=
  match parts.lookup a with
  | none => .ok []
  | some (.many texts) => .ok texts
  | some (.one _) => .error .noSequence

def directives (parts : Parts) : Except Malformed String := do
  return join " " (← many parts .directives)

/-- Variable definitions in parentheses. -/
def variableList (parts : Parts) : Except Malformed String := do
  return wrap "(" (join ", " (← many parts .variableDefinitions)) ")"

/-- Variable definitions in parentheses, one to a line when one of them has several lines. -/
def variableLines (parts : Parts) : Except Malformed String := do
  let texts ← many parts .variableDefinitions
  if texts.any (·.toList.contains '\n') then return wrap "(\n" (join "\n" texts) "\n)"
  else variableList parts

end Parts

def documentText (parts : Parts) : Except Malformed String := do
  return join "\n\n" (← parts.many .definitions)

/-- An operation; a query that is nothing but its selections is written without the word. -/
def operationText (attributes : Attributes) (parts : Parts) : Except Malformed String := do
  let word ← match Attributes.get? attributes .operation with
    | some (.operation o) => pure o.word
    | _ => throw .noText
  let head := join " " [word, join "" [← parts.one .name, ← parts.variableLines],
    ← parts.directives]
  let described := wrap "" (← parts.one .description) "\n" ++ head
  return join " " [if described = "query" then "" else described, ← parts.one .selectionSet]

def fragmentText (parts : Parts) : Except Malformed String := do
  let head := "fragment " ++ (← parts.one .name) ++ (← parts.variableList) ++ " on "
    ++ (← parts.one .typeCondition) ++ " " ++ wrap "" (← parts.directives) " "
  return wrap "" (← parts.one .description) "\n" ++ head ++ (← parts.one .selectionSet)

def variableText (parts : Parts) : Except Malformed String := do
  return wrap "" (← parts.one .description) "\n" ++ (← parts.one .var) ++ ": "
    ++ (← parts.one .type) ++ wrap " = " (← parts.one .defaultValue) ""
    ++ wrap " " (← parts.directives) ""

/-- A field's name under its alias, with its arguments. -/
def fieldHead (label : String) (arguments : List String) : String :=
  let line := label ++ wrap "(" (join ", " arguments) ")"
  if maxLine < line.length then label ++ wrap "(\n" (indent (join "\n" arguments)) "\n)" else line

def fieldText (parts : Parts) : Except Malformed String := do
  let label := wrap "" (← parts.one .aliasName) ": " ++ (← parts.one .name)
  let head := fieldHead label (← parts.many .arguments)
  return join " " [head, ← parts.directives, ← parts.one .selectionSet]

def spreadText (parts : Parts) : Except Malformed String := do
  return "..." ++ (← parts.one .name) ++ wrap " " (← parts.directives) ""

def inlineText (parts : Parts) : Except Malformed String := do
  return join " " ["...", wrap "on " (← parts.one .typeCondition) "", ← parts.directives,
    ← parts.one .selectionSet]

/-- A name and a value, as arguments and object fields have them. -/
def pairText (parts : Parts) : Except Malformed String := do
  return (← parts.one .name) ++ ": " ++ (← parts.one .value)

def directiveText (parts : Parts) : Except Malformed String := do
  return "@" ++ (← parts.one .name) ++ wrap "(" (join ", " (← parts.many .arguments)) ")"

/-- The text an atom's value holds. -/
def valueText (attributes : Attributes) : Except Malformed String :=
  match Attributes.get? attributes .value with
  | some t => t.toText
  | none => .error .noText

/-- A node's text from its own attributes and its printed ones. -/
def nodeText (k : Kind) (attributes : Attributes) (parts : Parts) : Except Malformed String :=
  match k.base with
  | .document => documentText parts
  | .operationDefinition => operationText attributes parts
  | .fragmentDefinition => fragmentText parts
  | .variableDefinition => variableText parts
  | .selectionSet => do return block (← parts.many .selections)
  | .field => fieldText parts
  | .fragmentSpread => spreadText parts
  | .inlineFragment => inlineText parts
  | .argument | .objectField => pairText parts
  | .directive => directiveText parts
  | .name | .intValue | .floatValue | .enumValue => valueText attributes
  | .var => do return "$" ++ (← parts.one .name)
  | .stringValue => do return quote (← valueText attributes)
  | .booleanValue =>
    .ok (if (Attributes.get? attributes .value).any Tree.truthy then "true" else "false")
  | .nullValue => .ok "null"
  | .listValue => do return "[" ++ join ", " (← parts.many .values) ++ "]"
  | .objectValue => do return "\x7b" ++ join ", " (← parts.many .fields) ++ "\x7d"
  | .namedType => parts.one .name
  | .listType => do return "[" ++ (← parts.one .type) ++ "]"
  | .nonNullType => do return (← parts.one .type) ++ "!"
  | _ => .error (.notPrintable k)

mutual

def part : Tree → Except Malformed Part
  | .node k attributes => do
    return .one (← nodeText k attributes (← attributeParts k attributes))
  | .list items => do return .many (← itemTexts items)
  | _ => .error .noNode

def attributeParts (k : Kind) : List (Attribute × Tree) → Except Malformed (List (Attribute × Part))
  | [] => .ok []
  | (a, t) :: rest =>
    if a ∈ k.visited then do return (a, ← part t) :: (← attributeParts k rest)
    else attributeParts k rest

def itemTexts : List Tree → Except Malformed (List String)
  | [] => .ok []
  | t :: rest =>
    if t.isNull then itemTexts rest
    else do
      match ← part t with
      | .one text => return text :: (← itemTexts rest)
      | .many _ => throw .noNode

end

/-- The text of a document. -/
def print (document : Tree) : Except Malformed String := do
  match ← part document with
  | .one text => return text
  | .many _ => .error .noNode

end PersistedOps.Printer
