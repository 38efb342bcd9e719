import PersistedOps.Proofs.Document.Printing
import PersistedOps.Proofs.Document.Traversal

/-!
The strings of a document in the order in which they are printed, and the one place where two of them
may come to stand side by side: between the variables of an operation, which are written on lines of
their own when one of them is described.
-/

namespace PersistedOps

namespace Tree

mutual

/-- The values of the strings in a tree. -/
def strings : Tree → List String
  | .node k attributes =>
    if k = .stringValue then
      match Attributes.get? attributes .value with
      | some (.scalar (.text s)) => [s]
      | _ => []
    else attributeStrings attributes
  | .list items => itemStrings items
  | _ => []

def attributeStrings : List (Attribute × Tree) → List String
  | [] => []
  | (_, t) :: rest => strings t ++ attributeStrings rest

def itemStrings : List Tree → List String
  | [] => []
  | t :: rest => strings t ++ itemStrings rest

end

/-- A string without characters. -/
def IsEmptyString (t : Tree) : Prop := t.kind? = some .stringValue ∧ t.get? .value = some (.text "")

/-- A variable that has the empty string for its default value, with no directives behind it. -/
def EndsEmpty (v : Tree) : Prop :=
  (∃ t, v.get? .defaultValue = some t ∧ t.IsEmptyString) ∧ ∀ ds, v.get? .directives = some ds → ds = .list []

/-- A variable with a description. -/
def Described (v : Tree) : Prop := (v.get? .description).isSome

/-- An operation that has a described variable right behind one that ends in the empty string. -/
def Glued (d : Tree) : Prop :=
  d.kind? = some .operationDefinition ∧ ∃ vs, d.get? .variableDefinitions = some (.list vs) ∧
    ∃ xs v v' ys, vs = xs ++ v :: v' :: ys ∧ v.EndsEmpty ∧ v'.Described

theorem itemStrings_eq (items : List Tree) : itemStrings items = items.flatMap strings := by
  induction items with
  | nil => rfl
  | cons t items ih => rw [itemStrings, ih, List.flatMap_cons]

theorem strings_ofOptions {k : Kind} (hk : k ≠ .stringValue) (es : List (Attribute × Option Tree)) :
    (ofOptions k es).strings = es.flatMap fun e => e.2.toList.flatMap strings := by
  have hattributes : attributeStrings (es.filterMap fun e => e.2.map (e.1, ·))
      = es.flatMap fun e => e.2.toList.flatMap strings := by
    induction es with
    | nil => rfl
    | cons e es ih =>
        obtain ⟨a, o⟩ := e
        cases o with
        | none => simpa using ih
        | some t => simpa [attributeStrings] using ih
  rw [ofOptions, strings, if_neg hk, hattributes]

@[simp] theorem strings_name (n : String) : (name n).strings = [] := rfl

@[simp] theorem strings_var (n : String) : (var n).strings = [] := rfl

@[simp] theorem strings_namedType (n : String) : (namedType n).strings = [] := rfl

@[simp] theorem strings_operation (o : OperationType) : (operation o).strings = [] := rfl

@[simp] theorem strings_list (items : List Tree) : (list items).strings = items.flatMap strings := by
  rw [strings, itemStrings_eq]

/-- The strings of a list that may be absent. -/
@[simp] theorem strings_list? (items : Option (List Tree)) :
    (items.map list).toList.flatMap strings = (items.getD []).flatMap strings := by
  cases items <;> simp

@[simp] theorem strings_name? (n : Option String) : (n.map name).toList.flatMap strings = [] := by
  cases n <;> simp

@[simp] theorem strings_namedType? (n : Option String) :
    (n.map namedType).toList.flatMap strings = [] := by
  cases n <;> simp

theorem strings_literal (s : String) (block : Option Bool) :
    (ofOptions .stringValue [(.value, some (.text s)),
      (.block, block.map fun b => .scalar (.bool b))]).strings = [s] := by
  cases block <;> rfl

end Tree

namespace Lexeme

/-- The literals of a line. -/
def texts (line : List Lexeme) : List String :=
  line.filterMap fun
    | .text s => some s
    | _ => none

@[simp] theorem texts_nil : texts [] = [] := rfl

@[simp] theorem texts_word (w : List Char) (ts : List Lexeme) : texts (.word w :: ts) = texts ts := rfl

@[simp] theorem texts_mark (c : Char) (ts : List Lexeme) : texts (.mark c :: ts) = texts ts := rfl

@[simp] theorem texts_text (s : String) (ts : List Lexeme) :
    texts (.text s :: ts) = s :: texts ts := rfl

@[simp] theorem texts_append (ts us : List Lexeme) : texts (ts ++ us) = texts ts ++ texts us :=
  List.filterMap_append ..

@[simp] theorem texts_paren (ts : List Lexeme) : texts (paren ts) = texts ts := by
  cases ts with
  | nil => rfl
  | cons t ts => rw [paren, texts_mark, texts_append, texts_mark, texts_nil, List.append_nil]

@[simp] theorem texts_assign (ts : List Lexeme) : texts (assign ts) = texts ts := by
  cases ts <;> simp [assign]

@[simp] theorem texts_ofName? (n : Option String) : texts (ofName? n) = [] := by
  cases n <;> rfl

@[simp] theorem texts_number (negative : Bool) (w : List Char) (tail : Tail) :
    texts (numberLine negative w tail) = [] := by
  have htail : texts tail.line = [] := by
    induction tail with
    | nil => rfl
    | cons e tail ih => simpa [Tail.line] using ih
  cases negative <;> simp [numberLine, htail]

@[simp] theorem texts_aliasLine (label : Option String) : texts (Tree.aliasLine label) = [] := by
  cases label <;> rfl

@[simp] theorem texts_conditionLine (condition : Option String) :
    texts (Tree.conditionLine condition) = [] := by
  cases condition <;> rfl

/-! ### Ends -/

/-- The line ends with no literal. -/
def EndsOpen (line : List Lexeme) : Prop := ∀ s, line.getLast? ≠ some (.text s)

theorem endsOpen_nil : EndsOpen [] := by simp [EndsOpen]

theorem endsOpen_word (w : List Char) : EndsOpen [.word w] := by simp [EndsOpen]

theorem endsOpen_concat_mark (ts : List Lexeme) (c : Char) : EndsOpen (ts ++ [.mark c]) := by
  simp [EndsOpen]

theorem EndsOpen.append {ts us : List Lexeme} (hts : EndsOpen ts) (hus : EndsOpen us) :
    EndsOpen (ts ++ us) := by
  intro s
  rw [List.getLast?_append]
  cases hlast : us.getLast? with
  | none => simpa using hts s
  | some u =>
      rw [Option.some_or]
      exact hlast ▸ hus s

/-- What comes last decides, if there is something. -/
theorem EndsOpen.append_right {us : List Lexeme} (h : EndsOpen us) (hne : us ≠ []) (ts : List Lexeme) :
    EndsOpen (ts ++ us) := by
  intro s
  rw [List.getLast?_append_of_ne_nil ts hne]
  exact h s

theorem EndsOpen.cons_mark {ts : List Lexeme} (h : EndsOpen ts) (c : Char) : EndsOpen (.mark c :: ts) :=
  (endsOpen_concat_mark [] c).append h

theorem EndsOpen.cons_word {ts : List Lexeme} (h : EndsOpen ts) (w : List Char) :
    EndsOpen (.word w :: ts) :=
  (endsOpen_word w).append h

theorem endsOpen_flatten {tss : List (List Lexeme)} (h : ∀ ts ∈ tss, EndsOpen ts) :
    EndsOpen tss.flatten := by
  induction tss with
  | nil => exact endsOpen_nil
  | cons ts tss ih =>
      obtain ⟨hts, htss⟩ := List.forall_mem_cons.mp h
      exact hts.append (ih htss)

theorem endsOpen_paren (ts : List Lexeme) : EndsOpen (paren ts) := by
  cases ts with
  | nil => exact endsOpen_nil
  | cons t ts => exact (endsOpen_concat_mark (t :: ts) ')').cons_mark '('

theorem endsOpen_number (negative : Bool) (w : List Char) (tail : Tail) :
    EndsOpen (numberLine negative w tail) := by
  have htail : EndsOpen tail.line := by
    induction tail with
    | nil => exact endsOpen_nil
    | cons e tail ih => exact (ih.cons_word e.2).cons_mark e.1
  cases negative with
  | false => exact htail.cons_word w
  | true => exact (htail.cons_word w).cons_mark '-'

end Lexeme

end PersistedOps
