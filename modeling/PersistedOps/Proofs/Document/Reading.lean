import PersistedOps.Proofs.Document.Printing

/-!
Reading the lexemes of an executable document back, commas aside. Each construct is read to its end,
which the lexeme behind it tells, so a document is told by its lexemes but for what its plain form
leaves out.
-/

namespace PersistedOps

open PersistedOps.Tree (ofOptions listOption)

/-- Reads a construct at the front of a line and leaves what follows it. -/
abbrev Reader := List Lexeme → Option (Tree × List Lexeme)

namespace Reader

/-! ### Readers -/

/-- At most `n` constructs, up to a lexeme that stops them. -/
def many (stop : Lexeme → Bool) (item : Reader) :
    (n : Nat) → List Lexeme → Option (List Tree × List Lexeme)
  | _, [] => some ([], [])
  | 0, ts => some ([], ts)
  | n + 1, t :: ts =>
    if stop t then some ([], t :: ts)
    else do
      let (x, ts) ← item (t :: ts)
      let (xs, ts) ← many stop item n ts
      return (x :: xs, ts)

/-- What stands behind a mark. -/
def skip (c : Char) : List Lexeme → Option (List Lexeme)
  | .mark d :: ts => if d = c then some ts else none
  | _ => none

/-- Constructs up to a closing bracket. -/
def items (close : Char) (item : Reader) (n : Nat) (ts : List Lexeme) :
    Option (List Tree × List Lexeme) := do
  let (xs, ts) ← many (· == .mark close) item n ts
  return (xs, ← skip close ts)

/-- Constructs in parentheses, or none. -/
def parens (item : Reader) (n : Nat) (ts : List Lexeme) : Option (List Tree × List Lexeme) :=
  match skip '(' ts with
  | some ts => items ')' item n ts
  | none => some ([], ts)

def number (negative : Bool) (w : List Char) (ts : List Lexeme) : Tree × List Lexeme :=
  let cs := Lexeme.numberChars negative w [] ++ (Lexeme.readTail w ts).1
  (.node (if Lexeme.isFloat cs then .floatValue else .intValue) [(.value, .text (String.ofList cs))],
    (Lexeme.readTail w ts).2)

def word (n : String) : Tree :=
  if n = "true" then .node .booleanValue [(.value, .scalar (.bool true))]
  else if n = "false" then .node .booleanValue [(.value, .scalar (.bool false))]
  else if n = "null" then .node .nullValue []
  else .node .enumValue [(.value, .text n)]

def literal (s : String) : Tree := .node .stringValue [(.value, .text s)]

/-- A name, a colon and a value. -/
def pair (k : Kind) (value : Reader) : Reader
  | .word w :: ts => do
    let (v, ts) ← value (← skip ':' ts)
    return (.node k [(.name, .name (String.ofList w)), (.value, v)], ts)
  | _ => none

def value : Nat → Reader
  | 0, _ => none
  | n + 1, ts => match ts with
    | .text s :: ts => some (literal s, ts)
    | .word w :: ts =>
      if w.head?.any Char.isDigit then some (number false w ts)
      else some (word (String.ofList w), ts)
    | .mark c :: ts =>
      if c = '[' then do
        let (xs, ts) ← items ']' (value n) n ts
        return (ofOptions .listValue [(.values, listOption xs)], ts)
      else if c = '{' then do
        let (xs, ts) ← items '}' (pair .objectField (value n)) n ts
        return (ofOptions .objectValue [(.fields, listOption xs)], ts)
      else match ts with
        | .word w :: ts =>
          if c = '$' then some (.var (String.ofList w), ts)
          else if c = '-' then some (number true w ts)
          else none
        | _ => none
    | [] => none

/-- A type with the exclamation mark behind it, if there is one. -/
def marked (t : Tree) (ts : List Lexeme) : Tree × List Lexeme :=
  match skip '!' ts with
  | some ts => (.node .nonNullType [(.type, t)], ts)
  | none => (t, ts)

/-- A type without an exclamation mark behind it. -/
def nullableType : Nat → Reader
  | 0, _ => none
  | n + 1, ts => match ts with
    | .word w :: ts => some (.namedType (String.ofList w), ts)
    | ts => do
      let (t, ts) ← nullableType n (← skip '[' ts)
      let (t, ts) := marked t ts
      return (.node .listType [(.type, t)], ← skip ']' ts)

def type (n : Nat) (ts : List Lexeme) : Option (Tree × List Lexeme) := do
  let (t, ts) ← nullableType n ts
  return marked t ts

def argument (n : Nat) : Reader := pair .argument (value n)

def directive (n : Nat) (ts : List Lexeme) : Option (Tree × List Lexeme) := do
  match ← skip '@' ts with
  | .word w :: ts =>
    let (xs, ts) ← parens (argument n) n ts
    return (ofOptions .directive
      [(.name, some (.name (String.ofList w))), (.arguments, listOption xs)], ts)
  | _ => none

def directives (n : Nat) (ts : List Lexeme) : Option (List Tree × List Lexeme) :=
  many (· != .mark '@') (directive n) n ts

/-- A description, if there is one. -/
def description : List Lexeme → Option Tree × List Lexeme
  | .text s :: ts => (some (literal s), ts)
  | ts => (none, ts)

/-- A value behind an equals sign, if there is one. -/
def default (n : Nat) (ts : List Lexeme) : Option (Option Tree × List Lexeme) :=
  match skip '=' ts with
  | some ts => do
    let (v, ts) ← value n ts
    return (some v, ts)
  | none => some (none, ts)

def variableDefinition (n : Nat) (ts : List Lexeme) : Option (Tree × List Lexeme) := do
  let (d, ts) := description ts
  match ← skip '$' ts with
  | .word w :: ts =>
    let (t, ts) ← type n (← skip ':' ts)
    let (v, ts) ← default n ts
    let (ds, ts) ← directives n ts
    return (ofOptions .variableDefinition [(.description, d), (.var, some (.var (String.ofList w))),
      (.type, some t), (.defaultValue, v), (.directives, listOption ds)], ts)
  | _ => none

/-- Selections in braces. -/
def selectionSet (selection : Reader) (n : Nat) (ts : List Lexeme) :
    Option (Tree × List Lexeme) := do
  let (xs, ts) ← items '}' selection n (← skip '{' ts)
  return (.node .selectionSet [(.selections, .list xs)], ts)

/-- A name, if there is one. -/
def name? : List Lexeme → Option String × List Lexeme
  | .word w :: ts => (some (String.ofList w), ts)
  | ts => (none, ts)

def field (selection : Reader) (n : Nat) (label : Option String) (name : String)
    (ts : List Lexeme) : Option (Tree × List Lexeme) := do
  let (as, ts) ← parens (argument n) n ts
  let (ds, ts) ← directives n ts
  let (set, ts) ← match skip '{' ts with
    | some _ => do
      let (s, ts) ← selectionSet selection n ts
      pure (some s, ts)
    | none => pure (none, ts)
  return (ofOptions .field [(.aliasName, label.map .name), (.name, some (.name name)),
    (.arguments, listOption as), (.directives, listOption ds), (.selectionSet, set)], ts)

def inline (selection : Reader) (n : Nat) (condition : Option String) (ts : List Lexeme) :
    Option (Tree × List Lexeme) := do
  let (ds, ts) ← directives n ts
  let (s, ts) ← selectionSet selection n ts
  return (ofOptions .inlineFragment [(.typeCondition, condition.map .namedType),
    (.directives, listOption ds), (.selectionSet, some s)], ts)

/-- A spread or an inline fragment behind its dots. -/
def dotted (selection : Reader) (n : Nat) (ts : List Lexeme) : Option (Tree × List Lexeme) :=
  match name? ts with
  | (none, ts) => inline selection n none ts
  | (some m, ts) =>
    if m = "on" then match name? ts with
      | (some c, ts) => inline selection n (some c) ts
      | (none, _) => none
    else do
      let (ds, ts) ← directives n ts
      return (ofOptions .fragmentSpread [(.name, some (.name m)), (.directives, listOption ds)], ts)

def selection : Nat → Reader
  | 0, _ => none
  | n + 1, ts => match ts with
    | .word w :: ts => match skip ':' ts with
      | some (.word v :: ts) => field (selection n) n (some (String.ofList w)) (String.ofList v) ts
      | _ => field (selection n) n none (String.ofList w) ts
    | ts => do dotted (selection n) n (← skip '.' (← skip '.' (← skip '.' ts)))

def operation (n : Nat) (d : Option Tree) (o : OperationType) (m : Option String)
    (ts : List Lexeme) : Option (Tree × List Lexeme) := do
  let (vs, ts) ← parens (variableDefinition n) n ts
  let (ds, ts) ← directives n ts
  let (s, ts) ← selectionSet (selection n) n ts
  return (ofOptions .operationDefinition [(.description, d), (.operation, some (.operation o)),
    (.name, m.map .name), (.variableDefinitions, listOption vs), (.directives, listOption ds),
    (.selectionSet, some s)], ts)

def fragment (n : Nat) (d : Option Tree) (m : String) (ts : List Lexeme) :
    Option (Tree × List Lexeme) := do
  let (vs, ts) ← parens (variableDefinition n) n ts
  match name? ts with
  | (some _, ts) => match name? ts with
    | (some c, ts) =>
      let (ds, ts) ← directives n ts
      let (s, ts) ← selectionSet (selection n) n ts
      return (ofOptions .fragmentDefinition [(.description, d), (.name, some (.name m)),
        (.variableDefinitions, listOption vs), (.typeCondition, some (.namedType c)),
        (.directives, listOption ds), (.selectionSet, some s)], ts)
    | _ => none
  | _ => none

def definition (n : Nat) (ts : List Lexeme) : Option (Tree × List Lexeme) :=
  let (d, ts) := description ts
  match name? ts with
  | (none, ts) => operation n d .query none ts
  | (some w, ts) =>
    if w = "fragment" then match name? ts with
      | (some m, ts) => fragment n d m ts
      | _ => none
    else do
      let (m, ts) := name? ts
      operation n d (← OperationType.ofWord? w) m ts

/-! ### Where constructs begin and end -/

/-- What a construct can begin with. -/
def begins : Category → Lexeme → Bool
  | .literal, l => (l matches .text _)
  | .value, .mark c => ['$', '-', '[', '{'].contains c
  | .value, _ => true
  | .objectField, l | .argument, l => (l matches .word _)
  | .nullableType, l | .type, l => (l matches .word _) || l == .mark '['
  | .directive, l => l == .mark '@'
  | .variableDefinition, l => (l matches .text _) || l == .mark '$'
  | .selection, l => (l matches .word _) || l == .mark '.'
  | .selectionSet, l => l == .mark '{'
  | .definition, .mark c => c == '{'
  | .definition, _ => true

/-- What can stand behind a construct. -/
def ends : Category → Lexeme → Bool
  | .value, l | .objectField, l | .argument, l => l != .mark '.'
  | .type, l => l != .mark '!'
  | .directive, l => l != .mark '('
  | .variableDefinition, .text _ => true
  | .variableDefinition, l => l == .mark '$' || l == .mark ')'
  | .selection, .word _ => true
  | .selection, l => l == .mark '.' || l == .mark '}'
  | .literal, _ | .nullableType, _ | .selectionSet, _ | .definition, _ => true

/-- The reader of a construct. -/
def of : Category → Nat → Reader
  | .literal, _ => fun ts => match description ts with
    | (some t, ts) => some (t, ts)
    | (none, _) => none
  | .value, n => value n
  | .objectField, n => pair .objectField (value n)
  | .argument, n => argument n
  | .nullableType, n => nullableType n
  | .type, n => type n
  | .directive, n => directive n
  | .variableDefinition, n => variableDefinition n
  | .selection, n => selection n
  | .selectionSet, n => selectionSet (selection n) n
  | .definition, n => definition n

/-- The lexemes are read as the tree's plain form wherever the construct can end. -/
structure Reads (c : Category) (t : Tree) (ts : List Lexeme) : Prop where
  node : t.kind?.isSome
  opened : ∃ l ls, ts = l :: ls ∧ begins c l
  read : ∀ n rest, ts.length ≤ n → (∀ l ∈ rest.head?, ends c l) →
    of c n (ts ++ rest) = some (t.plain, rest)

/-- A construct may follow another of its kind and does not begin with a closing bracket. -/
theorem begins_spec {c : Category} {l : Lexeme} (h : begins c l) :
    ends c l ∧ l ≠ .mark ']' ∧ l ≠ .mark '}' ∧ l ≠ .mark ')' := by
  cases l with
  | word w => cases c <;> simp_all [begins, ends]
  | text s => cases c <;> simp_all [begins, ends]
  | mark d =>
      cases c with
      | literal | objectField | argument => simp [begins] at h
      | value =>
          obtain rfl | rfl | rfl | rfl : d = '$' ∨ d = '-' ∨ d = '[' ∨ d = '{' := by
            simpa [begins] using h
          all_goals decide
      | nullableType | type | directive | variableDefinition | selection | selectionSet | definition =>
          simp only [begins, Bool.false_or, beq_iff_eq, Lexeme.mark.injEq] at h
          subst h
          decide

section

variable {c : Category} {n : Nat} {ts rest : List Lexeme} {trees : List Tree}
  {tss : List (List Lexeme)}

@[simp] theorem skip_mark (c : Char) (ts : List Lexeme) : skip c (.mark c :: ts) = some ts := by
  simp [skip]

theorem skip_eq_none {c : Char} (h : ∀ l ∈ ts.head?, l ≠ .mark c) : skip c ts = none := by
  match ts with
  | [] | .word _ :: _ | .text _ :: _ => rfl
  | .mark d :: ts =>
      have hd : d ≠ c := by simpa using h
      simp [skip, hd]

/-- Behind one of several constructs stands the next or what follows them all. -/
theorem head?_flatten (h : List.Forall₂ (Reads c) trees tss) {p : Lexeme → Prop}
    (hbegins : ∀ l, begins c l → p l) (hrest : ∀ l ∈ rest.head?, p l) :
    ∀ l ∈ (tss.flatten ++ rest).head?, p l := by
  cases h with
  | nil => exact hrest
  | cons ht _ =>
      obtain ⟨l, ls, rfl, hl⟩ := ht.opened
      simpa using hbegins l hl

theorem opened_of_head? (hne : ts ≠ []) (h : ∀ l ∈ ts.head?, begins c l) :
    ∃ l ls, ts = l :: ls ∧ begins c l := by
  obtain ⟨l, ls, rfl⟩ := List.exists_cons_of_ne_nil hne
  exact ⟨l, ls, rfl, h l rfl⟩

theorem many_flatten (stop : Lexeme → Bool) (rest : List Lexeme) {m : Nat}
    (h : List.Forall₂ (Reads c) trees tss)
    (hn : tss.flatten.length ≤ n) (hm : tss.flatten.length ≤ m)
    (hbegins : ∀ l, begins c l → stop l = false ∧ ends c l)
    (hrest : ∀ l ∈ rest.head?, stop l ∧ ends c l) :
    many stop (of c m) n (tss.flatten ++ rest) = some (trees.map Tree.plain, rest) := by
  induction h generalizing n with
  | nil =>
      match n, rest with
      | _, [] => simp [many]
      | 0, l :: ls => simp [many]
      | n + 1, l :: ls => simp [many, (hrest l rfl).1]
  | @cons t ts trees tss ht h ih =>
      obtain ⟨l, ls, rfl, hl⟩ := ht.opened
      rw [List.flatten_cons, List.length_append, List.length_cons] at hn hm
      obtain ⟨n, rfl⟩ := Nat.exists_eq_add_of_le' (show 1 ≤ n by omega)
      have hnext := head?_flatten h (fun l hl => (hbegins l hl).2) fun l hl => (hrest l hl).2
      have hread := ht.read m (tss.flatten ++ rest) (by rw [List.length_cons]; omega) hnext
      rw [List.flatten_cons, List.append_assoc, List.cons_append, many, (hbegins l hl).1]
      rw [List.cons_append] at hread
      have hrest := ih (n := n) (by omega) (by omega)
      simp [hread, hrest]

theorem items_flatten (close : Char) (rest : List Lexeme) {m : Nat}
    (h : List.Forall₂ (Reads c) trees tss)
    (hn : tss.flatten.length ≤ n) (hm : tss.flatten.length ≤ m)
    (hbegins : ∀ l, begins c l → l ≠ .mark close ∧ ends c l) (hclose : ends c (.mark close)) :
    items close (of c m) n (tss.flatten ++ .mark close :: rest)
      = some (trees.map Tree.plain, rest) := by
  have hmany := many_flatten (· == .mark close) (.mark close :: rest) h hn hm
    (fun l hl => by simpa using hbegins l hl) (by simpa using hclose)
  simp [items, hmany]

theorem flatten_eq_nil_iff (h : List.Forall₂ (Reads c) trees tss) :
    tss.flatten = [] ↔ trees = [] := by
  cases h with
  | nil => simp
  | cons ht _ =>
      obtain ⟨l, ls, rfl, -⟩ := ht.opened
      simp

theorem parens_flatten {m : Nat} (h : List.Forall₂ (Reads c) trees tss)
    (hn : tss.flatten.length ≤ n) (hm : tss.flatten.length ≤ m)
    (hbegins : ∀ l, begins c l → l ≠ .mark ')' ∧ ends c l) (hclose : ends c (.mark ')'))
    (hrest : ∀ l ∈ rest.head?, l ≠ .mark '(') :
    parens (of c m) n (Lexeme.paren tss.flatten ++ rest) = some (trees.map Tree.plain, rest) := by
  match hflat : tss.flatten with
  | [] =>
      obtain rfl := (flatten_eq_nil_iff h).mp hflat
      simp [parens, Lexeme.paren, skip_eq_none hrest]
  | l :: ls =>
      have hitems := items_flatten ')' rest h hn hm hbegins hclose
      rw [hflat] at hitems
      simpa [parens, Lexeme.paren] using hitems

theorem directives_flatten (rest : List Lexeme) (h : List.Forall₂ (Reads .directive) trees tss)
    (hn : tss.flatten.length ≤ n)
    (hrest : ∀ l ∈ rest.head?, l ≠ .mark '@' ∧ l ≠ .mark '(') :
    directives n (tss.flatten ++ rest) = some (trees.map Tree.plain, rest) := by
  refine many_flatten (· != .mark '@') rest h hn hn ?_ ?_
  · intro l hl
    obtain rfl : l = .mark '@' := by simpa [begins] using hl
    decide
  · intro l hl
    simpa [ends] using hrest l hl

/-! ### Rules -/

open PersistedOps.Tree (plain_ofOptions plainOption_list plainOption_some plainOption_option)

theorem reads_literal (s : String) (block : Option Bool) :
    Reads .literal (ofOptions .stringValue [(.value, some (.text s)),
      (.block, block.map fun b => .scalar (.bool b))]) [.text s] := by
  refine ⟨rfl, ⟨_, _, rfl, rfl⟩, fun n rest _ _ => ?_⟩
  cases block <;> rfl

theorem reads_string {t : Tree} (h : Reads .literal t ts) : Reads .value t ts := by
  obtain ⟨l, ls, rfl, hl⟩ := h.opened
  match l with
  | .text s =>
      refine ⟨h.node, ⟨_, _, rfl, rfl⟩, fun n rest hn _ => ?_⟩
      obtain ⟨n, rfl⟩ := Nat.exists_eq_add_of_le' (Nat.le_of_add_left_le hn)
      exact h.read (n + 1) rest hn (by simp [ends])
  | .word w | .mark d => simp [begins] at hl

theorem reads_var {m : String} : Reads .value (.var m) [.mark '$', .word m.toList] := by
  refine ⟨rfl, ⟨_, _, rfl, rfl⟩, fun n rest hn _ => ?_⟩
  obtain ⟨n, rfl⟩ := Nat.exists_eq_add_of_le' (Nat.le_of_add_left_le hn)
  simp [of, value]

theorem reads_number {k : Kind} {s : String} {negative : Bool} {w : List Char}
    {tail : Lexeme.Tail} (hs : s.toList = Lexeme.numberChars negative w tail)
    (h : Lexeme.IsNumber w tail)
    (hk : (if Lexeme.isFloat s.toList then .floatValue else .intValue) = k) :
    Reads .value (.node k [(.value, .text s)]) (Lexeme.numberLine negative w tail) := by
  refine ⟨rfl, ?_, fun n rest hn hrest => ?_⟩
  · cases negative with
    | true => exact ⟨_, _, rfl, rfl⟩
    | false => exact ⟨_, _, rfl, rfl⟩
  · have hstop : ∀ v ts, rest ≠ .mark '.' :: .word v :: ts := by
      rintro v ts rfl
      exact absurd (hrest (.mark '.') rfl) (by decide)
    have hchars : Lexeme.numberChars negative w [] ++ tail.chars = s.toList := by
      simp [hs, Lexeme.numberChars, Lexeme.Tail.chars]
    have hnumber : number negative w (tail.line ++ rest) = (.node k [(.value, .text s)], rest) := by
      simp only [number, Lexeme.readTail_line h.continued hstop, hchars, hk, String.ofList_toList]
    obtain ⟨d, hd, hdigit⟩ := h.digit
    have hfirst : w.head?.any Char.isDigit := by
      rw [Option.mem_def.mp hd]
      exact hdigit
    have hplain : Tree.plain (.node k [(.value, .text s)]) = .node k [(.value, .text s)] := rfl
    rw [Lexeme.numberLine, List.length_append, List.length_cons] at hn
    have hsome : 1 ≤ n := by omega
    obtain ⟨n, rfl⟩ := Nat.exists_eq_add_of_le' hsome
    cases negative with
    | true => simp [Lexeme.numberLine, of, value, hnumber, hplain]
    | false => simp [Lexeme.numberLine, of, value, hfirst, hnumber, hplain]

theorem reads_word {t : Tree} {m : String} (hm : ∀ c ∈ m.toList.head?, c.isDigit = false)
    (ht : word m = t) (hplain : t.plain = t) (hnode : t.kind?.isSome) :
    Reads .value t [.word m.toList] := by
  refine ⟨hnode, ⟨_, _, rfl, rfl⟩, fun n rest hn _ => ?_⟩
  obtain ⟨n, rfl⟩ := Nat.exists_eq_add_of_le' (Nat.le_of_add_left_le hn)
  have hfirst : m.toList.head?.any Char.isDigit = false := by simpa [Option.any_eq_false] using hm
  simp [of, value, hfirst, ht, hplain]

theorem reads_list {values : Option (List Tree)}
    (h : List.Forall₂ (Reads .value) (values.getD []) tss) :
    Reads .value (ofOptions .listValue [(.values, values.map .list)])
      (.mark '[' :: (tss.flatten ++ [.mark ']'])) := by
  refine ⟨rfl, ⟨_, _, rfl, rfl⟩, fun n rest hn _ => ?_⟩
  rw [List.length_cons, List.length_append] at hn
  obtain ⟨n, rfl⟩ := Nat.exists_eq_add_of_le' (Nat.le_of_add_left_le hn)
  have hitems := items_flatten ']' rest h (n := n) (m := n) (by omega) (by omega)
    (fun l hl => by simp [begins_spec hl]) (by decide)
  rw [of] at hitems
  simp [of, value, hitems, plain_ofOptions, plainOption_list]

theorem reads_object {fields : Option (List Tree)}
    (h : List.Forall₂ (Reads .objectField) (fields.getD []) tss) :
    Reads .value (ofOptions .objectValue [(.fields, fields.map .list)])
      (.mark '{' :: (tss.flatten ++ [.mark '}'])) := by
  refine ⟨rfl, ⟨_, _, rfl, rfl⟩, fun n rest hn _ => ?_⟩
  rw [List.length_cons, List.length_append] at hn
  obtain ⟨n, rfl⟩ := Nat.exists_eq_add_of_le' (Nat.le_of_add_left_le hn)
  have hitems := items_flatten '}' rest h (n := n) (m := n) (by omega) (by omega)
    (fun l hl => by simp [begins_spec hl]) (by decide)
  rw [of] at hitems
  simp [of, value, hitems, plain_ofOptions, plainOption_list]

theorem reads_pair {c : Category} {k : Kind} (hc : (c = .argument ∧ k = .argument)
      ∨ c = .objectField ∧ k = .objectField) {m : String} {v : Tree} (hv : Reads .value v ts) :
    Reads c (.node k [(.name, .name m), (.value, v)]) (.word m.toList :: .mark ':' :: ts) := by
  have hof (n : Nat) : of c n = pair k (value n) := by obtain ⟨rfl, rfl⟩ | ⟨rfl, rfl⟩ := hc <;> rfl
  refine ⟨rfl, ⟨_, _, rfl, by obtain ⟨rfl, -⟩ | ⟨rfl, -⟩ := hc <;> rfl⟩, fun n rest hn hrest => ?_⟩
  have hvalue := hv.read n rest (by simp only [List.length_cons] at hn; omega) fun l hl => by
    obtain ⟨rfl, -⟩ | ⟨rfl, -⟩ := hc <;> exact hrest l hl
  rw [of] at hvalue
  have hplain : Tree.plain (.node k [(.name, .name m), (.value, v)])
      = .node k [(.name, .name m), (.value, v.plain)] := by
    rw [Tree.plain, Tree.plainAttributes_cons (by decide) rfl,
      Tree.plainAttributes_cons (by decide) hv.node, Tree.plain_name, Tree.plainAttributes]
  rw [hof, hplain]
  simp [pair, hvalue]

theorem reads_namedType (m : String) : Reads .nullableType (.namedType m) [.word m.toList] := by
  refine ⟨rfl, ⟨_, _, rfl, rfl⟩, fun n rest hn _ => ?_⟩
  obtain ⟨n, rfl⟩ := Nat.exists_eq_add_of_le' (Nat.le_of_add_left_le hn)
  simp [of, nullableType]

theorem plain_type {k : Kind} {t : Tree} (h : t.kind?.isSome) :
    Tree.plain (.node k [(.type, t)]) = .node k [(.type, t.plain)] := by
  rw [Tree.plain, Tree.plainAttributes_cons (by decide) h, Tree.plainAttributes]

theorem reads_listType {t : Tree} (h : Reads .type t ts) :
    Reads .nullableType (.node .listType [(.type, t)]) (.mark '[' :: (ts ++ [.mark ']'])) := by
  refine ⟨rfl, ⟨_, _, rfl, rfl⟩, fun n rest hn _ => ?_⟩
  rw [List.length_cons, List.length_append] at hn
  obtain ⟨n, rfl⟩ := Nat.exists_eq_add_of_le' (Nat.le_of_add_left_le hn)
  have hitem := h.read n (.mark ']' :: rest) (by omega) (by simp [ends])
  rw [of, type] at hitem
  obtain ⟨⟨u, us⟩, hu, hmarked⟩ := Option.bind_eq_some_iff.mp hitem
  have hmarked : marked u us = (t.plain, .mark ']' :: rest) := Option.some.inj hmarked
  simp [of, nullableType, hu, hmarked, plain_type h.node]

theorem reads_nullable {t : Tree} (h : Reads .nullableType t ts) : Reads .type t ts := by
  refine ⟨h.node, ?_, fun n rest hn hrest => ?_⟩
  · obtain ⟨l, ls, hl, hbegins⟩ := h.opened
    exact ⟨l, ls, hl, hbegins⟩
  · have hmark : skip '!' rest = none := skip_eq_none fun l hl => by simpa [ends] using hrest l hl
    have hbare := h.read n rest hn (by simp [ends])
    rw [of] at hbare
    simp [of, type, hbare, marked, hmark]

theorem reads_nonNullType {t : Tree} (h : Reads .nullableType t ts) :
    Reads .type (.node .nonNullType [(.type, t)]) (ts ++ [.mark '!']) := by
  refine ⟨rfl, ?_, fun n rest hn _ => ?_⟩
  · obtain ⟨l, ls, rfl, hbegins⟩ := h.opened
    exact ⟨l, _, rfl, hbegins⟩
  · rw [List.length_append] at hn
    have hbare := h.read n (.mark '!' :: rest) (by omega) (by simp [ends])
    rw [of] at hbare
    simp [of, type, hbare, marked, plain_type h.node]

theorem length_le_paren (ts : List Lexeme) : ts.length ≤ (Lexeme.paren ts).length := by
  cases ts with
  | nil => simp
  | cons t ts =>
      simp only [Lexeme.paren, List.length_cons, List.length_append]
      omega

theorem arguments_paren (rest : List Lexeme) (h : List.Forall₂ (Reads .argument) trees tss)
    (hn : (Lexeme.paren tss.flatten).length ≤ n) (hrest : ∀ l ∈ rest.head?, l ≠ .mark '(') :
    parens (argument n) n (Lexeme.paren tss.flatten ++ rest) = some (trees.map Tree.plain, rest) := by
  have hlength := Nat.le_trans (length_le_paren tss.flatten) hn
  exact parens_flatten h hlength hlength (fun l hl => by simp [begins_spec hl]) (by decide) hrest

theorem variables_paren (rest : List Lexeme)
    (h : List.Forall₂ (Reads .variableDefinition) trees tss)
    (hn : (Lexeme.paren tss.flatten).length ≤ n) (hrest : ∀ l ∈ rest.head?, l ≠ .mark '(') :
    parens (variableDefinition n) n (Lexeme.paren tss.flatten ++ rest)
      = some (trees.map Tree.plain, rest) := by
  have hlength := Nat.le_trans (length_le_paren tss.flatten) hn
  exact parens_flatten h hlength hlength (fun l hl => by simp [begins_spec hl]) (by decide) hrest

theorem reads_directive {m : String} {arguments : Option (List Tree)}
    (h : List.Forall₂ (Reads .argument) (arguments.getD []) tss) :
    Reads .directive
      (ofOptions .directive [(.name, some (.name m)), (.arguments, arguments.map .list)])
      (.mark '@' :: .word m.toList :: Lexeme.paren tss.flatten) := by
  refine ⟨rfl, ⟨_, _, rfl, rfl⟩, fun n rest hn hrest => ?_⟩
  rw [List.length_cons, List.length_cons] at hn
  have harguments := arguments_paren rest (n := n) h (by omega)
    fun l hl => by simpa [ends] using hrest l hl
  simp [of, directive, harguments, plain_ofOptions, plainOption_list]

/-- The nodes of an optional part that is read. -/
theorem node_of_option {o : Option Tree} (h : List.Forall₂ (Reads c) o.toList tss) :
    ∀ t ∈ o, t.kind?.isSome := by
  rintro t rfl
  obtain ⟨_, _, ht, -⟩ := List.forall₂_cons_left_iff.mp h
  exact ht.node

theorem description_flatten (rest : List Lexeme) {o : Option Tree}
    (h : List.Forall₂ (Reads .literal) o.toList tss)
    (hrest : ∀ l ∈ rest.head?, ∀ s, l ≠ .text s) :
    description (tss.flatten ++ rest) = (o.map Tree.plain, rest) := by
  cases o with
  | none =>
      obtain rfl := List.forall₂_nil_left_iff.mp h
      match rest with
      | [] | .word _ :: _ | .mark _ :: _ => rfl
      | .text s :: _ => exact absurd rfl (hrest (.text s) rfl s)
  | some t =>
      obtain ⟨ts, tss, ht, htss, rfl⟩ := List.forall₂_cons_left_iff.mp h
      obtain rfl := List.forall₂_nil_left_iff.mp htss
      have hread := ht.read ts.length rest (Nat.le_refl _) (by simp [ends])
      obtain ⟨l, ls, rfl, hl⟩ := ht.opened
      match l with
      | .text s =>
          obtain ⟨htree, hls⟩ : literal s = t.plain ∧ ls ++ rest = rest := by
            simpa [of, description] using hread
          simp [description, htree, hls]
      | .word w | .mark d => simp [begins] at hl

theorem default_assign (rest : List Lexeme) {o : Option Tree}
    (h : List.Forall₂ (Reads .value) o.toList tss)
    (hn : tss.flatten.length ≤ n) (hrest : ∀ l ∈ rest.head?, l ≠ .mark '=' ∧ l ≠ .mark '.') :
    default n (Lexeme.assign tss.flatten ++ rest) = some (o.map Tree.plain, rest) := by
  cases o with
  | none =>
      obtain rfl := List.forall₂_nil_left_iff.mp h
      simp [default, Lexeme.assign, skip_eq_none fun l hl => (hrest l hl).1]
  | some t =>
      obtain ⟨ts, tss, ht, htss, rfl⟩ := List.forall₂_cons_left_iff.mp h
      obtain rfl := List.forall₂_nil_left_iff.mp htss
      have hread := ht.read n rest (by simpa using hn)
        fun l hl => by simpa [ends] using (hrest l hl).2
      rw [of] at hread
      obtain ⟨l, ls, rfl, -⟩ := ht.opened
      rw [List.cons_append] at hread
      simp [default, Lexeme.assign, hread]

theorem length_le_assign (ts : List Lexeme) : ts.length ≤ (Lexeme.assign ts).length := by
  cases ts with
  | nil => simp
  | cons t ts => simp [Lexeme.assign]

theorem head?_assign {p : Lexeme → Prop} (hassign : p (.mark '=')) (hrest : ∀ l ∈ rest.head?, p l) :
    ∀ l ∈ (Lexeme.assign ts ++ rest).head?, p l := by
  cases ts with
  | nil => exact hrest
  | cons t ts => simpa [Lexeme.assign] using hassign

theorem head?_paren {p : Lexeme → Prop} (hparen : p (.mark '(')) (hrest : ∀ l ∈ rest.head?, p l) :
    ∀ l ∈ (Lexeme.paren ts ++ rest).head?, p l := by
  cases ts with
  | nil => exact hrest
  | cons t ts => simpa [Lexeme.paren] using hparen

/-- What stands behind the type of a variable. -/
theorem head?_directives {p : Lexeme → Prop} (h : List.Forall₂ (Reads .directive) trees tss)
    (hat : p (.mark '@')) (hrest : ∀ l ∈ rest.head?, p l) :
    ∀ l ∈ (tss.flatten ++ rest).head?, p l := by
  refine head?_flatten h (fun l hl => ?_) hrest
  obtain rfl : l = .mark '@' := by simpa [begins] using hl
  exact hat

theorem reads_variableDefinition {description default : Option Tree} {m : String} {t : Tree}
    {directives : Option (List Tree)} {ds vs : List (List Lexeme)}
    (hdescription : List.Forall₂ (Reads .literal) description.toList ds) (ht : Reads .type t ts)
    (hdefault : List.Forall₂ (Reads .value) default.toList vs)
    (hdirectives : List.Forall₂ (Reads .directive) (directives.getD []) tss) :
    Reads .variableDefinition (ofOptions .variableDefinition
        [(.description, description), (.var, some (.var m)), (.type, some t),
          (.defaultValue, default), (.directives, directives.map .list)])
      (ds.flatten ++ (.mark '$' :: .word m.toList :: .mark ':' ::
        (ts ++ (Lexeme.assign vs.flatten ++ tss.flatten)))) := by
  refine ⟨rfl, ?_, fun n rest hn hrest => ?_⟩
  · exact opened_of_head? (by simp) (head?_flatten hdescription
      (fun l hl => by cases l <;> simp_all [begins]) (by simp [begins]))
  · have hstop : ∀ l ∈ rest.head?, l ≠ .mark '!' ∧ l ≠ .mark '=' ∧ l ≠ .mark '.' ∧ l ≠ .mark '@'
        ∧ l ≠ .mark '(' := by
      intro l hl
      have hends := hrest l hl
      match l with
      | .text s => simp
      | .mark d =>
          obtain rfl | rfl : d = '$' ∨ d = ')' := by simpa [ends] using hends
          all_goals decide
    simp only [List.length_append, List.length_cons] at hn
    have hassigned := length_le_assign vs.flatten
    have hdirected := directives_flatten rest (n := n) hdirectives (by omega)
      fun l hl => ⟨(hstop l hl).2.2.2.1, (hstop l hl).2.2.2.2⟩
    have hvalued := default_assign (tss.flatten ++ rest) (n := n) hdefault (by omega)
      (head?_directives hdirectives (by decide) fun l hl => ⟨(hstop l hl).2.1, (hstop l hl).2.2.1⟩)
    have htyped := ht.read n (Lexeme.assign vs.flatten ++ (tss.flatten ++ rest)) (by omega)
      (head?_assign (by decide) (head?_directives hdirectives (by decide)
        fun l hl => by simpa [ends] using (hstop l hl).1))
    have hdescribed := description_flatten (.mark '$' :: .word m.toList :: .mark ':' ::
      (ts ++ (Lexeme.assign vs.flatten ++ (tss.flatten ++ rest)))) hdescription (by simp)
    have hdplain : Tree.plainOption .description description = description.map Tree.plain :=
      plainOption_option (by decide) (node_of_option hdescription)
    have hvplain : Tree.plainOption .defaultValue default = default.map Tree.plain :=
      plainOption_option (by decide) (node_of_option hdefault)
    rw [of] at htyped
    simp [of, variableDefinition, hdescribed, htyped, hvalued, hdirected, plain_ofOptions, hdplain,
      hvplain, plainOption_list, plainOption_some, ht.node]

theorem reads_selectionSet {selections : List Tree} (hne : selections ≠ [])
    (h : List.Forall₂ (Reads .selection) selections tss) :
    Reads .selectionSet (.node .selectionSet [(.selections, .list selections)])
      (.mark '{' :: (tss.flatten ++ [.mark '}'])) := by
  refine ⟨rfl, ⟨_, _, rfl, rfl⟩, fun n rest hn _ => ?_⟩
  simp only [List.length_cons, List.length_append] at hn
  have hitems := items_flatten '}' rest h (n := n) (m := n) (by omega)
    (by omega) (fun l hl => by simp [begins_spec hl]) (by decide)
  have hplain : Tree.plain (.node .selectionSet [(.selections, .list selections)])
      = .node .selectionSet [(.selections, .list (selections.map Tree.plain))] := by
    obtain ⟨s, selections, rfl⟩ := List.exists_cons_of_ne_nil hne
    simp [Tree.plain, Tree.plainAttributes, Tree.isIdle, Tree.plainItems_eq_map]
  have hof : of .selection n = selection n := rfl
  rw [hof] at hitems
  simp [of, selectionSet, hitems, hplain]

/-- What may follow a selection neither labels it nor adds to it. -/
theorem ends_selection {l : Lexeme} (h : ends .selection l) : l ≠ .mark ':' ∧ l ≠ .mark '(' ∧
    l ≠ .mark '@' ∧ l ≠ .mark '{' := by
  match l with
  | .word w => simp
  | .mark d =>
      obtain rfl | rfl : d = '.' ∨ d = '}' := by simpa [ends] using h
      all_goals decide

theorem reads_spread {m : String} {directives : Option (List Tree)} (hother : m ≠ "on")
    (h : List.Forall₂ (Reads .directive) (directives.getD []) tss) :
    Reads .selection (ofOptions .fragmentSpread
        [(.name, some (.name m)), (.directives, directives.map .list)])
      (.mark '.' :: .mark '.' :: .mark '.' :: .word m.toList :: tss.flatten) := by
  refine ⟨rfl, ⟨_, _, rfl, rfl⟩, fun n rest hn hrest => ?_⟩
  simp only [List.length_cons] at hn
  obtain ⟨n, rfl⟩ := Nat.exists_eq_add_of_le' (Nat.le_of_add_left_le hn)
  have hdirected := directives_flatten rest (n := n) h (by omega)
    fun l hl => ⟨(ends_selection (hrest l hl)).2.2.1, (ends_selection (hrest l hl)).2.1⟩
  simp [of, selection, dotted, name?, hother, hdirected, plain_ofOptions, plainOption_list]

theorem name?_word (w : List Char) : name? (.word w :: ts) = (some (String.ofList w), ts) := rfl

theorem name?_eq_none (h : ∀ l ∈ ts.head?, ∀ w, l ≠ .word w) : name? ts = (none, ts) := by
  match ts with
  | [] | .mark _ :: _ | .text _ :: _ => rfl
  | .word w :: _ => exact absurd rfl (h (.word w) rfl w)

theorem head?_set {p : Lexeme → Prop} {set : Tree} (h : Reads .selectionSet set ts)
    (hbrace : p (.mark '{')) : ∀ l ∈ (ts ++ rest).head?, p l := by
  obtain ⟨l, ls, rfl, hl⟩ := h.opened
  obtain rfl : l = .mark '{' := by simpa [begins] using hl
  simpa using hbrace

theorem directives_set (rest : List Lexeme) {directives : Option (List Tree)} {set : Tree}
    (h : List.Forall₂ (Reads .directive) (directives.getD []) tss) (hset : Reads .selectionSet set ts)
    (hn : tss.flatten.length ≤ n) :
    Reader.directives n (tss.flatten ++ (ts ++ rest))
      = some ((directives.getD []).map Tree.plain, ts ++ rest) := by
  exact directives_flatten (ts ++ rest) h hn (head?_set hset (by decide))

theorem reads_inline {condition : Option String} {directives : Option (List Tree)} {set : Tree}
    (h : List.Forall₂ (Reads .directive) (directives.getD []) tss)
    (hset : Reads .selectionSet set ts) :
    Reads .selection (ofOptions .inlineFragment
        [(.typeCondition, condition.map .namedType), (.directives, directives.map .list),
          (.selectionSet, some set)])
      (.mark '.' :: .mark '.' :: .mark '.' :: (Tree.conditionLine condition ++ (tss.flatten ++ ts)))
      := by
  refine ⟨rfl, ⟨_, _, rfl, rfl⟩, fun n rest hn _ => ?_⟩
  simp only [List.length_cons, List.length_append] at hn
  obtain ⟨n, rfl⟩ := Nat.exists_eq_add_of_le' (Nat.le_of_add_left_le hn)
  have hdirected := directives_set rest (n := n) h hset (by omega)
  have hselected := hset.read n rest (by omega) (by simp [ends])
  rw [of] at hselected
  have hinline : inline (selection n) n condition (tss.flatten ++ (ts ++ rest))
      = some ((ofOptions .inlineFragment [(.typeCondition, condition.map .namedType),
        (.directives, directives.map .list), (.selectionSet, some set)]).plain, rest) := by
    simp [inline, hdirected, hselected, plain_ofOptions, plainOption_list, plainOption_some, hset.node]
  cases condition with
  | none =>
      have hname : name? (tss.flatten ++ (ts ++ rest)) = (none, tss.flatten ++ (ts ++ rest)) :=
        name?_eq_none (head?_directives h (by simp) (head?_set hset (by simp)))
      simpa [of, selection, dotted, Tree.conditionLine, hname] using hinline
  | some c => simpa [of, selection, dotted, Tree.conditionLine, name?] using hinline

theorem field_line (label : Option String) (m : String) {arguments directives : Option (List Tree)}
    {set : Option Tree} {as ss : List (List Lexeme)}
    (harguments : List.Forall₂ (Reads .argument) (arguments.getD []) as)
    (hdirectives : List.Forall₂ (Reads .directive) (directives.getD []) tss)
    (hset : List.Forall₂ (Reads .selectionSet) set.toList ss)
    (hn : (Lexeme.paren as.flatten).length + tss.flatten.length + ss.flatten.length ≤ n)
    (hrest : ∀ l ∈ rest.head?, ends .selection l) :
    field (selection n) n label m
      (Lexeme.paren as.flatten ++ (tss.flatten ++ (ss.flatten ++ rest)))
      = some ((ofOptions .field [(.aliasName, label.map .name), (.name, some (.name m)),
        (.arguments, arguments.map .list), (.directives, directives.map .list),
        (.selectionSet, set)]).plain, rest) := by
  have hbehind : ∀ l ∈ (ss.flatten ++ rest).head?, l ≠ .mark '@' ∧ l ≠ .mark '(' := by
    refine head?_flatten hset (fun l hl => ?_) fun l hl =>
      ⟨(ends_selection (hrest l hl)).2.2.1, (ends_selection (hrest l hl)).2.1⟩
    obtain rfl : l = .mark '{' := by simpa [begins] using hl
    decide
  have hargued := arguments_paren (tss.flatten ++ (ss.flatten ++ rest)) (n := n) harguments
    (by omega) (head?_directives hdirectives (by decide) fun l hl => (hbehind l hl).2)
  have hdirected := directives_flatten (ss.flatten ++ rest) (n := n) hdirectives (by omega) hbehind
  have hsplain : Tree.plainOption .selectionSet set = set.map Tree.plain :=
    plainOption_option (by decide) (node_of_option hset)
  cases set with
  | none =>
      obtain rfl := List.forall₂_nil_left_iff.mp hset
      have hnone : skip '{' rest = none :=
        skip_eq_none fun l hl => (ends_selection (hrest l hl)).2.2.2
      rw [List.flatten_nil, List.nil_append] at hargued hdirected ⊢
      simp [field, hargued, hdirected, hnone, plain_ofOptions, plainOption_list, hsplain]
  | some s =>
      obtain ⟨ts, ss, hs, hss, rfl⟩ := List.forall₂_cons_left_iff.mp hset
      obtain rfl := List.forall₂_nil_left_iff.mp hss
      rw [List.flatten_cons, List.flatten_nil, List.append_nil] at hargued hdirected hn ⊢
      have hread := hs.read n rest (by omega) (by simp [ends])
      rw [of] at hread
      obtain ⟨l, ls, rfl, hl⟩ := hs.opened
      obtain rfl : l = .mark '{' := by simpa [begins] using hl
      rw [List.cons_append] at hread hargued hdirected ⊢
      simp [field, hargued, hdirected, hread, plain_ofOptions, plainOption_list, hsplain]

theorem reads_field {label : Option String} {m : String} {arguments directives : Option (List Tree)}
    {set : Option Tree} {as ss : List (List Lexeme)}
    (harguments : List.Forall₂ (Reads .argument) (arguments.getD []) as)
    (hdirectives : List.Forall₂ (Reads .directive) (directives.getD []) tss)
    (hset : List.Forall₂ (Reads .selectionSet) set.toList ss) :
    Reads .selection (ofOptions .field
        [(.aliasName, label.map .name), (.name, some (.name m)), (.arguments, arguments.map .list),
          (.directives, directives.map .list), (.selectionSet, set)])
      (Tree.aliasLine label ++ .word m.toList ::
        (Lexeme.paren as.flatten ++ (tss.flatten ++ ss.flatten))) := by
  refine ⟨rfl, by cases label <;> exact ⟨_, _, rfl, rfl⟩, fun n rest hn hrest => ?_⟩
  simp only [List.length_append, List.length_cons] at hn
  obtain ⟨n, rfl⟩ := Nat.exists_eq_add_of_le' (show 1 ≤ n by omega)
  have hfield := field_line label m (n := n) harguments hdirectives hset (by omega) hrest
  cases label with
  | none =>
      have hcolon : skip ':' (Lexeme.paren as.flatten ++ (tss.flatten ++ (ss.flatten ++ rest))) = none := by
        refine skip_eq_none (head?_paren (by decide) (head?_directives hdirectives (by decide)
          (head?_flatten hset (fun l hl => ?_) fun l hl => (ends_selection (hrest l hl)).1)))
        obtain rfl : l = .mark '{' := by simpa [begins] using hl
        decide
      simpa [of, selection, Tree.aliasLine, hcolon] using hfield
  | some l => simpa [of, selection, Tree.aliasLine] using hfield

theorem operation_line (rest : List Lexeme) {o : OperationType} (d : Option Tree) {m : Option String}
    {description : Option Tree} {vars directives : Option (List Tree)} {set : Tree}
    {vs : List (List Lexeme)} (hd : Tree.plainOption .description description = d)
    (hvars : List.Forall₂ (Reads .variableDefinition) (vars.getD []) vs)
    (hdirectives : List.Forall₂ (Reads .directive) (directives.getD []) tss)
    (hset : Reads .selectionSet set ts)
    (hn : (Lexeme.paren vs.flatten).length + tss.flatten.length + ts.length ≤ n) :
    operation n d o m (Lexeme.paren vs.flatten ++ (tss.flatten ++ (ts ++ rest)))
      = some ((ofOptions .operationDefinition [(.description, description),
        (.operation, some (.operation o)), (.name, m.map .name),
        (.variableDefinitions, vars.map .list), (.directives, directives.map .list),
        (.selectionSet, some set)]).plain, rest) := by
  have hvaried := variables_paren (tss.flatten ++ (ts ++ rest)) (n := n) hvars (by omega)
    (head?_directives hdirectives (by decide) (head?_set hset (by decide)))
  have hdirected := directives_set rest (n := n) hdirectives hset (by omega)
  have hselected := hset.read n rest (by omega) (by simp [ends])
  rw [of] at hselected
  simp [operation, hvaried, hdirected, hselected, plain_ofOptions, plainOption_list,
    plainOption_some, hset.node, hd]

theorem reads_operation {description : Option Tree} (o : OperationType) {m : Option String}
    {vars directives : Option (List Tree)} {set : Tree} {ds vs : List (List Lexeme)}
    (hdescription : List.Forall₂ (Reads .literal) description.toList ds)
    (hvars : List.Forall₂ (Reads .variableDefinition) (vars.getD []) vs)
    (hdirectives : List.Forall₂ (Reads .directive) (directives.getD []) tss)
    (hset : Reads .selectionSet set ts) :
    Reads .definition (ofOptions .operationDefinition
        [(.description, description), (.operation, some (.operation o)), (.name, m.map .name),
          (.variableDefinitions, vars.map .list), (.directives, directives.map .list),
          (.selectionSet, some set)])
      (Tree.operationLine (Tree.operationHead o m ds.flatten vs.flatten tss.flatten) ts) := by
  have hdplain : Tree.plainOption .description description = description.map Tree.plain :=
    plainOption_option (by decide) (node_of_option hdescription)
  rw [Tree.operationLine]
  split
  · rename_i hbare
    obtain ⟨hds, rfl, rfl, hvs, htss⟩ := Tree.eq_of_operationHead hbare
    refine ⟨rfl, ?_, fun n rest hn _ => ?_⟩
    · obtain ⟨l, ls, rfl, hl⟩ := hset.opened
      obtain rfl : l = .mark '{' := by simpa [begins] using hl
      exact ⟨_, _, rfl, rfl⟩
    · have hdescribed := description_flatten (ts ++ rest) hdescription
        (head?_set hset (by simp))
      have hname : name? (ts ++ rest) = (none, ts ++ rest) := name?_eq_none (head?_set hset (by simp))
      have hoperation := operation_line rest (o := .query) (m := none) (n := n) _ hdplain
        hvars hdirectives hset (by simpa [hvs, htss] using hn)
      rw [hds, List.nil_append] at hdescribed
      rw [hvs, htss] at hoperation
      simpa [of, definition, hdescribed, hname] using hoperation
  · refine ⟨rfl, ?_, fun n rest hn _ => ?_⟩
    · rw [Tree.operationHead, List.append_assoc]
      exact opened_of_head? (by simp) (head?_flatten hdescription
        (fun l hl => by cases l <;> simp_all [begins]) (by simp [begins]))
    · simp only [Tree.operationHead, List.length_append, List.length_cons] at hn
      have hdescribed := description_flatten (.word o.word.toList :: (Lexeme.ofName? m ++
        (Lexeme.paren vs.flatten ++ (tss.flatten ++ (ts ++ rest))))) hdescription (by simp)
      have hname : name? (Lexeme.ofName? m ++ (Lexeme.paren vs.flatten ++ (tss.flatten ++
          (ts ++ rest)))) = (m, Lexeme.paren vs.flatten ++ (tss.flatten ++ (ts ++ rest))) := by
        cases m with
        | none => exact name?_eq_none (head?_paren (by simp) (head?_directives hdirectives (by simp)
            (head?_set hset (by simp))))
        | some m => simp [Lexeme.ofName?, name?_word]
      have hword : o.word ≠ "fragment" := by cases o <;> decide
      have hoperation := operation_line rest (o := o) (m := m) (n := n) _ hdplain hvars
        hdirectives hset (by omega)
      simpa [of, definition, Tree.operationHead, hdescribed, hword, name?_word, hname] using hoperation

theorem reads_fragment {description : Option Tree} {m condition : String}
    {vars directives : Option (List Tree)} {set : Tree} {ds vs : List (List Lexeme)}
    (hdescription : List.Forall₂ (Reads .literal) description.toList ds)
    (hvars : List.Forall₂ (Reads .variableDefinition) (vars.getD []) vs)
    (hdirectives : List.Forall₂ (Reads .directive) (directives.getD []) tss)
    (hset : Reads .selectionSet set ts) :
    Reads .definition (ofOptions .fragmentDefinition
        [(.description, description), (.name, some (.name m)),
          (.variableDefinitions, vars.map .list), (.typeCondition, some (.namedType condition)),
          (.directives, directives.map .list), (.selectionSet, some set)])
      (ds.flatten ++ .word "fragment".toList :: .word m.toList :: (Lexeme.paren vs.flatten ++
        .word "on".toList :: .word condition.toList :: (tss.flatten ++ ts))) := by
  refine ⟨rfl, ?_, fun n rest hn _ => ?_⟩
  · exact opened_of_head? (by simp) (head?_flatten hdescription
      (fun l hl => by cases l <;> simp_all [begins]) (by simp [begins]))
  · simp only [List.length_append, List.length_cons] at hn
    have hdescribed := description_flatten (.word "fragment".toList :: .word m.toList ::
      (Lexeme.paren vs.flatten ++ .word "on".toList :: .word condition.toList ::
        (tss.flatten ++ (ts ++ rest)))) hdescription (by simp)
    have hvaried := variables_paren (.word "on".toList :: .word condition.toList ::
      (tss.flatten ++ (ts ++ rest))) (n := n) hvars (by omega) (by simp)
    have hdirected := directives_set rest (n := n) hdirectives hset (by omega)
    have hselected := hset.read n rest (by omega) (by simp [ends])
    have hdplain : Tree.plainOption .description description = description.map Tree.plain :=
      plainOption_option (by decide) (node_of_option hdescription)
    rw [of] at hselected
    simp only [String.reduceToList] at hdescribed hvaried
    simp [of, definition, hdescribed, name?, fragment, hvaried, hdirected, hselected,
      plain_ofOptions, plainOption_list, plainOption_some, hset.node, hdplain]

end

end Reader

end PersistedOps
