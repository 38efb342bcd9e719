import PersistedOps.Document.Signature

/-!
Executable documents as the language's grammar makes them: one rule a construct, with names and
numbers spelled as the grammar spells them. A list without items may be absent or empty, and a string
may say or leave open whether it is a block; the plain form of a tree forgets both.
-/

namespace PersistedOps

/-! ### Names and numbers -/

/-- A letter or an underscore with word characters behind it. -/
def IsName (n : String) : Prop :=
  ∃ c cs, n.toList = c :: cs ∧ (c.isAlpha ∨ c = '_') ∧ ∀ d ∈ cs, Signature.isWord d

/-- A run of digits. -/
def IsDigits (ds : List Char) : Prop := ds ≠ [] ∧ ∀ d ∈ ds, d.isDigit

/-- A whole number: zero, or digits that do not begin with zero, behind a minus sign or not. -/
def IsInt (cs : List Char) : Prop :=
  ∃ sign ∈ [[], ['-']], ∃ ds, IsDigits ds ∧ (ds.head? = some '0' → ds = ['0']) ∧ cs = sign ++ ds

/-- A point and the digits behind it. -/
def IsFraction (cs : List Char) : Prop := ∃ ds, IsDigits ds ∧ cs = '.' :: ds

/-- The letter e, a sign or none, and digits. -/
def IsExponent (cs : List Char) : Prop :=
  ∃ e ∈ ['e', 'E'], ∃ sign ∈ [[], ['+'], ['-']], ∃ ds, IsDigits ds ∧ cs = e :: sign ++ ds

/-- A whole number with a fraction, an exponent or both. -/
def IsFloat (cs : List Char) : Prop :=
  ∃ whole fraction exponent, IsInt whole ∧ (fraction = [] ∨ IsFraction fraction) ∧
    (exponent = [] ∨ IsExponent exponent) ∧ (fraction ≠ [] ∨ exponent ≠ []) ∧
    cs = whole ++ fraction ++ exponent

/-! ### Nodes -/

namespace Tree

/-- A node whose absent attributes are left out. -/
def ofOptions (k : Kind) (entries : List (Attribute × Option Tree)) : Tree :=
  .node k (entries.filterMap fun e => e.2.map (e.1, ·))

def name (n : String) : Tree := .node .name [(.value, .text n)]

def var (n : String) : Tree := .node .var [(.name, .name n)]

def namedType (n : String) : Tree := .node .namedType [(.name, .name n)]

end Tree

/-- The constructs of an executable document below the document itself. -/
inductive Category where
  | literal | value | objectField | argument | nullableType | type | directive | variableDefinition
  | selection | selectionSet | definition

open Category in
/-- The nodes that the grammar makes of each construct. -/
inductive Grammatical : Category → Tree → Prop
  | literal (s : String) (block : Option Bool) :
      Grammatical literal (.ofOptions .stringValue
        [(.value, some (.text s)), (.block, block.map fun b => .scalar (.bool b))])
  | var {n : String} (name : IsName n) : Grammatical value (.var n)
  | int {s : String} (number : IsInt s.toList) :
      Grammatical value (.node .intValue [(.value, .text s)])
  | float {s : String} (number : IsFloat s.toList) :
      Grammatical value (.node .floatValue [(.value, .text s)])
  | string {t : Tree} (text : Grammatical literal t) : Grammatical value t
  | boolean (b : Bool) : Grammatical value (.node .booleanValue [(.value, .scalar (.bool b))])
  | null : Grammatical value (.node .nullValue [])
  | enum {n : String} (name : IsName n) (other : n ∉ ["true", "false", "null"]) :
      Grammatical value (.node .enumValue [(.value, .text n)])
  | list {values : Option (List Tree)} (items : ∀ t ∈ values.getD [], Grammatical value t) :
      Grammatical value (.ofOptions .listValue [(.values, values.map .list)])
  | object {fields : Option (List Tree)} (items : ∀ t ∈ fields.getD [], Grammatical objectField t) :
      Grammatical value (.ofOptions .objectValue [(.fields, fields.map .list)])
  | objectField {n : String} {v : Tree} (name : IsName n) (given : Grammatical value v) :
      Grammatical objectField (.node .objectField [(.name, .name n), (.value, v)])
  | argument {n : String} {v : Tree} (name : IsName n) (given : Grammatical value v) :
      Grammatical argument (.node .argument [(.name, .name n), (.value, v)])
  | named {n : String} (name : IsName n) : Grammatical nullableType (.namedType n)
  | listOf {t : Tree} (item : Grammatical type t) :
      Grammatical nullableType (.node .listType [(.type, t)])
  | nullable {t : Tree} (bare : Grammatical nullableType t) : Grammatical type t
  | nonNull {t : Tree} (bare : Grammatical nullableType t) :
      Grammatical type (.node .nonNullType [(.type, t)])
  | directive {n : String} {arguments : Option (List Tree)} (name : IsName n)
      (items : ∀ t ∈ arguments.getD [], Grammatical argument t) :
      Grammatical directive
        (.ofOptions .directive [(.name, some (.name n)), (.arguments, arguments.map .list)])
  | variableDefinition {description default : Option Tree} {n : String} {t : Tree}
      {directives : Option (List Tree)} (described : ∀ d ∈ description, Grammatical literal d)
      (name : IsName n) (typed : Grammatical type t) (given : ∀ v ∈ default, Grammatical value v)
      (directed : ∀ d ∈ directives.getD [], Grammatical directive d) :
      Grammatical variableDefinition (.ofOptions .variableDefinition
        [(.description, description), (.var, some (.var n)), (.type, some t),
          (.defaultValue, default), (.directives, directives.map .list)])
  | field {label : Option String} {n : String} {arguments directives : Option (List Tree)}
      {set : Option Tree} (renamed : ∀ l ∈ label, IsName l) (name : IsName n)
      (items : ∀ t ∈ arguments.getD [], Grammatical argument t)
      (directed : ∀ d ∈ directives.getD [], Grammatical directive d)
      (selected : ∀ s ∈ set, Grammatical selectionSet s) :
      Grammatical selection (.ofOptions .field
        [(.aliasName, label.map .name), (.name, some (.name n)), (.arguments, arguments.map .list),
          (.directives, directives.map .list), (.selectionSet, set)])
  | spread {n : String} {directives : Option (List Tree)} (name : IsName n) (other : n ≠ "on")
      (directed : ∀ d ∈ directives.getD [], Grammatical directive d) :
      Grammatical selection (.ofOptions .fragmentSpread
        [(.name, some (.name n)), (.directives, directives.map .list)])
  | inline {condition : Option String} {directives : Option (List Tree)} {set : Tree}
      (conditioned : ∀ c ∈ condition, IsName c)
      (directed : ∀ d ∈ directives.getD [], Grammatical directive d)
      (selected : Grammatical selectionSet set) :
      Grammatical selection (.ofOptions .inlineFragment
        [(.typeCondition, condition.map .namedType), (.directives, directives.map .list),
          (.selectionSet, some set)])
  | selectionSet {selections : List Tree} (some : selections ≠ [])
      (items : ∀ t ∈ selections, Grammatical selection t) :
      Grammatical selectionSet (.node .selectionSet [(.selections, .list selections)])
  | operation {description : Option Tree} (o : OperationType) {n : Option String}
      {vars directives : Option (List Tree)} {set : Tree}
      (described : ∀ d ∈ description, Grammatical literal d) (name : ∀ m ∈ n, IsName m)
      (declared : ∀ v ∈ vars.getD [], Grammatical variableDefinition v)
      (directed : ∀ d ∈ directives.getD [], Grammatical directive d)
      (selected : Grammatical selectionSet set) :
      Grammatical definition (.ofOptions .operationDefinition
        [(.description, description), (.operation, some (.operation o)), (.name, n.map .name),
          (.variableDefinitions, vars.map .list), (.directives, directives.map .list),
          (.selectionSet, some set)])
  | fragment {description : Option Tree} {n condition : String}
      {vars directives : Option (List Tree)} {set : Tree}
      (described : ∀ d ∈ description, Grammatical literal d) (name : IsName n) (other : n ≠ "on")
      (declared : ∀ v ∈ vars.getD [], Grammatical variableDefinition v)
      (conditioned : IsName condition)
      (directed : ∀ d ∈ directives.getD [], Grammatical directive d)
      (selected : Grammatical selectionSet set) :
      Grammatical definition (.ofOptions .fragmentDefinition
        [(.description, description), (.name, some (.name n)),
          (.variableDefinitions, vars.map .list), (.typeCondition, some (.namedType condition)),
          (.directives, directives.map .list), (.selectionSet, some set)])

/-- A document of operations and fragments. -/
inductive WellFormed : Tree → Prop
  | document {definitions : Option (List Tree)}
      (items : ∀ d ∈ definitions.getD [], Grammatical .definition d) :
      WellFormed (.ofOptions .document [(.definitions, definitions.map .list)])

/-! ### Plain form -/

namespace Tree

/-- The items of a list, unless there are none. -/
def listOption : List Tree → Option Tree
  | [] => none
  | t :: ts => some (.list (t :: ts))

/-- Whether an attribute makes no difference: a block flag or an empty list. -/
def isIdle : Attribute → Tree → Bool
  | .block, _ => true
  | _, .list [] => true
  | _, _ => false

mutual

/-- A tree without the attributes that make no difference. -/
def plain : Tree → Tree
  | .node k attributes => .node k (plainAttributes attributes)
  | .list items => .list (plainItems items)
  | .dict entries => .dict entries
  | .scalar s => .scalar s
  | .operation o => .operation o

def plainAttributes : List (Attribute × Tree) → List (Attribute × Tree)
  | [] => []
  | (a, t) :: rest =>
    if isIdle a t then plainAttributes rest else (a, plain t) :: plainAttributes rest

def plainItems : List Tree → List Tree
  | [] => []
  | t :: rest => plain t :: plainItems rest

end

theorem plainItems_eq_map (ts : List Tree) : plainItems ts = ts.map plain := by
  induction ts with
  | nil => rfl
  | cons t ts ih => rw [plainItems, ih, List.map_cons]

@[simp] theorem plain_name (n : String) : (name n).plain = name n := rfl

@[simp] theorem plain_var (n : String) : (var n).plain = var n := rfl

@[simp] theorem plain_namedType (n : String) : (namedType n).plain = namedType n := rfl

/-- The plain form of an attribute, which may be absent. -/
def plainOption (a : Attribute) (o : Option Tree) : Option Tree :=
  o.bind fun t => if isIdle a t then none else some t.plain

theorem plain_ofOptions (k : Kind) (entries : List (Attribute × Option Tree)) :
    (ofOptions k entries).plain = ofOptions k (entries.map fun e => (e.1, plainOption e.1 e.2)) := by
  have hentries : plainAttributes (entries.filterMap fun e => e.2.map (e.1, ·))
      = (entries.map fun e => (e.1, plainOption e.1 e.2)).filterMap fun e => e.2.map (e.1, ·) := by
    induction entries with
    | nil => rfl
    | cons e entries ih =>
        obtain ⟨a, o⟩ := e
        cases o with
        | none => simpa [plainOption] using ih
        | some t => cases hidle : isIdle a t <;> simpa [plainOption, plainAttributes, hidle] using ih
  rw [ofOptions, plain, hentries, ofOptions]

/-- A list counts when it has items. -/
theorem plainOption_list {a : Attribute} (h : a ≠ .block) (ts : Option (List Tree)) :
    plainOption a (ts.map .list) = listOption ((ts.getD []).map plain) := by
  match ts with
  | none => rfl
  | some [] => cases a <;> rfl
  | some (t :: ts) =>
      have hidle : isIdle a (.list (t :: ts)) = false := by cases a <;> first | rfl | exact absurd rfl h
      simp [plainOption, hidle, plain, plainItems_eq_map, listOption]

/-- A node always counts. -/
theorem isIdle_node {a : Attribute} (h : a ≠ .block) {t : Tree} (hnode : t.kind?.isSome) :
    isIdle a t = false := by
  cases t with
  | node k attributes => cases a <;> first | rfl | exact absurd rfl h
  | list _ | dict _ | scalar _ | operation _ => simp [kind?] at hnode

theorem plainAttributes_cons {a : Attribute} (h : a ≠ .block) {t : Tree} (hnode : t.kind?.isSome)
    (rest : List (Attribute × Tree)) :
    plainAttributes ((a, t) :: rest) = (a, t.plain) :: plainAttributes rest := by
  rw [plainAttributes, isIdle_node h hnode, if_neg (by simp)]

theorem plainOption_some {a : Attribute} (h : a ≠ .block) {t : Tree} (hnode : t.kind?.isSome) :
    plainOption a (some t) = some t.plain := by
  simp [plainOption, isIdle_node h hnode]

theorem plainOption_option {a : Attribute} (h : a ≠ .block) {o : Option Tree}
    (hnode : ∀ t ∈ o, t.kind?.isSome) : plainOption a o = o.map plain := by
  cases o with
  | none => rfl
  | some t => exact plainOption_some h (hnode t rfl)

@[simp] theorem plainOption_name (n : String) :
    plainOption .name (some (name n)) = some (name n) := rfl

@[simp] theorem plainOption_var (n : String) :
    plainOption .var (some (var n)) = some (var n) := rfl

@[simp] theorem plainOption_namedType (n : String) :
    plainOption .typeCondition (some (namedType n)) = some (namedType n) := rfl

@[simp] theorem plainOption_operation (o : OperationType) :
    plainOption .operation (some (.operation o)) = some (.operation o) := rfl

@[simp] theorem plainOption_name? {a : Attribute} (h : a ≠ .block) (n : Option String) :
    plainOption a (n.map name) = n.map name := by
  rw [plainOption_option h (by cases n <;> simp [name, kind?])]
  cases n <;> rfl

@[simp] theorem plainOption_condition (n : Option String) :
    plainOption .typeCondition (n.map namedType) = n.map namedType := by
  cases n <;> rfl

end Tree

end PersistedOps
