import PersistedOps.Proofs.Document.Distinct
import PersistedOps.Proofs.Document.Traversal

/-!
Documents as signing meets them. Hidden literals, canonical type names and sorting take a well-formed
document out of the grammar by little: a number of one kind may be spelled as one of the other, and an
inline fragment may be left without selections.
-/

namespace PersistedOps

open PersistedOps.Tree (Walks Lifted Prints)

open Category in
/-- The constructs below selections. -/
inductive Signable : Category → Tree → Prop
  | literal (s : String) (block : Option Bool) :
      Signable literal (.ofOptions .stringValue
        [(.value, some (.text s)), (.block, block.map fun b => .scalar (.bool b))])
  | var {n : String} (name : IsName n) : Signable value (.var n)
  | number {k : Kind} {s : String} (kind : k = .intValue ∨ k = .floatValue)
      (number : IsInt s.toList ∨ IsFloat s.toList) : Signable value (.node k [(.value, .text s)])
  | string {t : Tree} (text : Signable literal t) : Signable value t
  | boolean (b : Bool) : Signable value (.node .booleanValue [(.value, .scalar (.bool b))])
  | null : Signable value (.node .nullValue [])
  | enum {n : String} (name : IsName n) (other : n ∉ ["true", "false", "null"]) :
      Signable value (.node .enumValue [(.value, .text n)])
  | list {values : Option (List Tree)} (items : ∀ t ∈ values.getD [], Signable value t) :
      Signable value (.ofOptions .listValue [(.values, values.map .list)])
  | object {fields : Option (List Tree)} (items : ∀ t ∈ fields.getD [], Signable objectField t) :
      Signable value (.ofOptions .objectValue [(.fields, fields.map .list)])
  | objectField {n : String} {v : Tree} (name : IsName n) (given : Signable value v) :
      Signable objectField (.node .objectField [(.name, .name n), (.value, v)])
  | argument {n : String} {v : Tree} (name : IsName n) (given : Signable value v) :
      Signable argument (.node .argument [(.name, .name n), (.value, v)])
  | named {n : String} (name : IsName n) : Signable nullableType (.namedType n)
  | listOf {t : Tree} (item : Signable type t) :
      Signable nullableType (.node .listType [(.type, t)])
  | nullable {t : Tree} (bare : Signable nullableType t) : Signable type t
  | nonNull {t : Tree} (bare : Signable nullableType t) :
      Signable type (.node .nonNullType [(.type, t)])
  | directive {n : String} {arguments : Option (List Tree)} (name : IsName n)
      (items : ∀ t ∈ arguments.getD [], Signable argument t) :
      Signable directive
        (.ofOptions .directive [(.name, some (.name n)), (.arguments, arguments.map .list)])
  | variableDefinition {description default : Option Tree} {n : String} {t : Tree}
      {directives : Option (List Tree)} (described : ∀ d ∈ description, Signable literal d)
      (name : IsName n) (typed : Signable type t) (given : ∀ v ∈ default, Signable value v)
      (directed : ∀ d ∈ directives.getD [], Signable directive d) :
      Signable variableDefinition (.ofOptions .variableDefinition
        [(.description, description), (.var, some (.var n)), (.type, some t),
          (.defaultValue, default), (.directives, directives.map .list)])

/-- Selections. -/
inductive SignableSelection : Tree → Prop
  | field {label : Option String} {n : String} {arguments directives selections : Option (List Tree)}
      (renamed : ∀ l ∈ label, IsName l) (name : IsName n)
      (items : ∀ t ∈ arguments.getD [], Signable .argument t)
      (directed : ∀ d ∈ directives.getD [], Signable .directive d)
      (filled : ∀ ts ∈ selections, ts ≠ []) (selected : ∀ t ∈ selections.getD [], SignableSelection t) :
      SignableSelection (.ofOptions .field
        [(.aliasName, label.map .name), (.name, some (.name n)), (.arguments, arguments.map .list),
          (.directives, directives.map .list), (.selectionSet, selections.map .selectionSet)])
  | spread {n : String} {directives : Option (List Tree)} (name : IsName n)
      (directed : ∀ d ∈ directives.getD [], Signable .directive d) :
      SignableSelection (.ofOptions .fragmentSpread
        [(.name, some (.name n)), (.directives, directives.map .list)])
  | inline {condition : Option String} {directives : Option (List Tree)} {selections : List Tree}
      (conditioned : ∀ c ∈ condition, IsName c)
      (directed : ∀ d ∈ directives.getD [], Signable .directive d)
      (selected : ∀ t ∈ selections, SignableSelection t) :
      SignableSelection (.ofOptions .inlineFragment
        [(.typeCondition, condition.map .namedType), (.directives, directives.map .list),
          (.selectionSet, some (.selectionSet selections))])

/-- Definitions of a kind under a name. -/
inductive SignableDefinition : Kind → Option String → Tree → Prop
  | operation {description : Option Tree} (o : OperationType) {n : Option String}
      {vars directives : Option (List Tree)} {selections : List Tree}
      (described : ∀ d ∈ description, Signable .literal d) (name : ∀ m ∈ n, IsName m)
      (declared : ∀ v ∈ vars.getD [], Signable .variableDefinition v)
      (directed : ∀ d ∈ directives.getD [], Signable .directive d)
      (filled : selections ≠ []) (selected : ∀ t ∈ selections, SignableSelection t) :
      SignableDefinition .operationDefinition n (.ofOptions .operationDefinition
        [(.description, description), (.operation, some (.operation o)), (.name, n.map .name),
          (.variableDefinitions, vars.map .list), (.directives, directives.map .list),
          (.selectionSet, some (.selectionSet selections))])
  | fragment {description : Option Tree} {n condition : String}
      {vars directives : Option (List Tree)} {selections : List Tree}
      (described : ∀ d ∈ description, Signable .literal d) (name : IsName n)
      (declared : ∀ v ∈ vars.getD [], Signable .variableDefinition v)
      (conditioned : IsName condition)
      (directed : ∀ d ∈ directives.getD [], Signable .directive d)
      (filled : selections ≠ []) (selected : ∀ t ∈ selections, SignableSelection t) :
      SignableDefinition .fragmentDefinition (some n) (.ofOptions .fragmentDefinition
        [(.description, description), (.name, some (.name n)),
          (.variableDefinitions, vars.map .list), (.typeCondition, some (.namedType condition)),
          (.directives, directives.map .list), (.selectionSet, some (.selectionSet selections))])

/-! ### The grammar's constructs -/

/-- What a construct of the grammar is to signing. -/
def Category.Signs : Category → Tree → Prop
  | .selection, t => SignableSelection t
  | .selectionSet, t => ∃ selections, selections ≠ [] ∧ (∀ s ∈ selections, SignableSelection s) ∧
      t = .selectionSet selections
  | .definition, t => ∃ k n, SignableDefinition k n t
  | c, t => Signable c t

theorem Grammatical.signs {c : Category} {t : Tree} (h : Grammatical c t) : c.Signs t := by
  induction h with
  | literal s block => exact .literal s block
  | var name => exact .var name
  | int number => exact .number (.inl rfl) (.inl number)
  | float number => exact .number (.inr rfl) (.inr number)
  | string _ ih => exact .string ih
  | boolean b => exact .boolean b
  | null => exact .null
  | enum name other => exact .enum name other
  | list _ ih => exact .list ih
  | object _ ih => exact .object ih
  | objectField name _ ih => exact .objectField name ih
  | argument name _ ih => exact .argument name ih
  | named name => exact .named name
  | listOf _ ih => exact .listOf ih
  | nullable _ ih => exact .nullable ih
  | nonNull _ ih => exact .nonNull ih
  | directive name _ ih => exact .directive name ih
  | variableDefinition _ name _ _ _ hdescribed htyped hgiven hdirected =>
      exact .variableDefinition hdescribed name htyped hgiven hdirected
  | @field label n arguments directives set renamed name _ _ _ hitems hdirected hselected =>
      cases set with
      | none =>
          have hnone : ∀ t ∈ (none : Option (List Tree)).getD [], SignableSelection t := by simp
          exact SignableSelection.field renamed name hitems hdirected (by simp) hnone
      | some set =>
          obtain ⟨selections, hne, hselections, rfl⟩ := hselected set rfl
          have hsome : ∀ ts ∈ some selections, ts ≠ [] := by simpa using hne
          exact SignableSelection.field renamed name hitems hdirected hsome hselections
  | spread name _ _ ih => exact .spread name ih
  | inline conditioned _ _ hdirected hselected =>
      obtain ⟨selections, -, hselections, rfl⟩ := hselected
      exact .inline conditioned hdirected hselections
  | @selectionSet selections filled _ ih => exact ⟨selections, filled, ih, rfl⟩
  | operation o _ name _ _ _ hdescribed hdeclared hdirected hselected =>
      obtain ⟨selections, hne, hselections, rfl⟩ := hselected
      exact ⟨_, _, .operation o hdescribed name hdeclared hdirected hne hselections⟩
  | fragment _ name _ _ conditioned _ _ hdescribed hdeclared hdirected hselected =>
      obtain ⟨selections, hne, hselections, rfl⟩ := hselected
      exact ⟨_, _, .fragment hdescribed name hdeclared conditioned hdirected hne hselections⟩

/-! ### Traversals -/

section

variable {R : Tree → Tree → Prop} {c : Category} {t : Tree}

/-- A traversal that keeps names and takes the node of a construct, once its attributes are walked, to
one takes all constructs to constructs. -/
theorem Signable.walk (hname : ∀ n, R (.name n) (.name n)) (hvar : ∀ n, R (.var n) (.var n))
    (hnode : ∀ {c k es es'}, Walks R k es es' → Signable c (.ofOptions k es') →
      ∃ u, R (.ofOptions k es) u ∧ Signable c u)
    (h : Signable c t) : ∃ u, R t u ∧ Signable c u := by
  -- Nothing is walked in the node of an atom.
  have hatom : ∀ {c : Category} {k : Kind} {v : Tree}, .value ∉ k.visited →
      Signable c (.node k [(.value, v)]) → ∃ u, R (.node k [(.value, v)]) u ∧ Signable c u := by
    intro c k v hk hv
    have hwalk : Walks R k [(.value, some v)] [(.value, some v)] := .kept hk .nil
    exact hnode hwalk hv
  have hpair : ∀ {c : Category} {k : Kind} {n : String} {v w : Tree},
      .name ∈ k.visited → .value ∈ k.visited → R v w →
      Signable c (.node k [(.name, .name n), (.value, w)]) →
      ∃ u, R (.node k [(.name, .name n), (.value, v)]) u ∧ Signable c u := by
    intro c k n v w hkname hkvalue hvw hw
    have hwalk : Walks R k [(.name, some (.name n)), (.value, some v)]
        [(.name, some (.name n)), (.value, some w)] :=
      .walked hkname (.one (hname n)) (.walked hkvalue (.one hvw) .nil)
    exact hnode hwalk hw
  have htype : ∀ {c : Category} {k : Kind} {t u : Tree}, .type ∈ k.visited → R t u →
      Signable c (.node k [(.type, u)]) → ∃ v, R (.node k [(.type, t)]) v ∧ Signable c v := by
    intro c k t u hk htu hu
    have hwalk : Walks R k [(.type, some t)] [(.type, some u)] := .walked hk (.one htu) .nil
    exact hnode hwalk hu
  induction h with
  | literal s block => exact hnode (.kept (by decide) (.kept (by decide) .nil)) (.literal s block)
  | @var n name => exact ⟨_, hvar n, .var name⟩
  | number kind number => exact hatom (by obtain rfl | rfl := kind <;> decide) (.number kind number)
  | string _ ih =>
      obtain ⟨u, htu, hu⟩ := ih
      exact ⟨u, htu, .string hu⟩
  | boolean b => exact hatom (by decide) (.boolean b)
  | null => exact hnode .nil .null
  | enum name other => exact hatom (by decide) (.enum name other)
  | list _ ih =>
      obtain ⟨values, hvalues, hitems⟩ := Tree.exists_lifted_list ih
      exact hnode (.walked (by decide) hvalues .nil) (.list hitems)
  | object _ ih =>
      obtain ⟨fields, hfields, hitems⟩ := Tree.exists_lifted_list ih
      exact hnode (.walked (by decide) hfields .nil) (.object hitems)
  | objectField name _ ih =>
      obtain ⟨w, hvw, hw⟩ := ih
      exact hpair (by decide) (by decide) hvw (.objectField name hw)
  | argument name _ ih =>
      obtain ⟨w, hvw, hw⟩ := ih
      exact hpair (by decide) (by decide) hvw (.argument name hw)
  | @named n name =>
      have hwalk : Walks R .namedType [(.name, some (.name n))] [(.name, some (.name n))] :=
        .walked (by decide) (.one (hname n)) .nil
      exact hnode hwalk (.named name)
  | listOf _ ih =>
      obtain ⟨u, htu, hu⟩ := ih
      exact htype (by decide) htu (.listOf hu)
  | nullable _ ih =>
      obtain ⟨u, htu, hu⟩ := ih
      exact ⟨u, htu, .nullable hu⟩
  | nonNull _ ih =>
      obtain ⟨u, htu, hu⟩ := ih
      exact htype (by decide) htu (.nonNull hu)
  | directive name _ ih =>
      obtain ⟨arguments, harguments, hitems⟩ := Tree.exists_lifted_list ih
      exact hnode (.walked (by decide) (.one (hname _)) (.walked (by decide) harguments .nil))
        (.directive name hitems)
  | variableDefinition _ name _ _ _ hdescribed htyped hgiven hdirected =>
      obtain ⟨description, hdescription, hdescribed⟩ := Tree.exists_lifted_option hdescribed
      obtain ⟨u, htu, hu⟩ := htyped
      obtain ⟨default, hdefault, hgiven⟩ := Tree.exists_lifted_option hgiven
      obtain ⟨directives, hdirectives, hdirected⟩ := Tree.exists_lifted_list hdirected
      exact hnode (.walked (by decide) hdescription (.walked (by decide) (.one (hvar _))
        (.walked (by decide) (.one htu) (.walked (by decide) hdefault
        (.walked (by decide) hdirectives .nil)))))
        (.variableDefinition hdescribed name hu hgiven hdirected)

end

/-! ### Printing -/

section

variable {c : Category} {k : Kind} {n : Option String} {i j : Nat} {t : Tree} {ts : List Tree}

theorem exists_prints (h : ∀ t ∈ ts, ∃ line, Prints False i j t line) :
    ∃ lines, List.Forall₂ (Prints False i j) ts lines := by
  induction ts with
  | nil => exact ⟨[], .nil⟩
  | cons t ts ih =>
      obtain ⟨⟨line, ht⟩, hts⟩ := List.forall_mem_cons.mp h
      obtain ⟨lines, hlines⟩ := ih hts
      exact ⟨line :: lines, .cons ht hlines⟩

theorem exists_prints_option {o : Option Tree} (h : ∀ t ∈ o, ∃ line, Prints False i j t line) :
    ∃ lines, List.Forall₂ (Prints False i j) o.toList lines :=
  exists_prints fun t ht => h t (Option.mem_toList.mp ht)

/-- Every construct prints as a text that spells lexemes. -/
theorem Signable.prints (h : Signable c t) : ∃ line, Prints False c.before c.after t line := by
  induction h with
  | literal s block => exact ⟨_, Tree.prints_literal s block⟩
  | var hn => exact ⟨_, (Tree.prints_var hn).mono (Nat.le_refl 0) (Nat.zero_le 1)⟩
  | number hk h =>
      obtain ⟨negative, w, tail, hs, hnumber⟩ : ∃ negative w tail,
          _ = Lexeme.numberChars negative w tail ∧ Lexeme.IsNumber w tail := by
        obtain hint | hfloat := h
        · obtain ⟨negative, w, hs, hnumber⟩ := Lexeme.isNumber_of_isInt hint
          exact ⟨negative, w, _, hs, hnumber⟩
        · exact Lexeme.isNumber_of_isFloat hfloat
      exact ⟨_, Tree.prints_number hk hs hnumber h⟩
  | string _ ih =>
      obtain ⟨line, hline⟩ := ih
      exact ⟨line, hline.mono (Nat.zero_le 1) (Nat.le_refl 1)⟩
  | boolean b =>
      obtain ⟨line, hline⟩ := told_boolean b
      exact ⟨line, hline.prints.weaken False.elim⟩
  | null =>
      obtain ⟨line, hline⟩ := told_null
      exact ⟨line, hline.prints.weaken False.elim⟩
  | enum hn hother => exact ⟨_, (told_enum hn hother).prints.weaken False.elim⟩
  | list _ ih =>
      obtain ⟨lines, hlines⟩ := exists_prints ih
      exact ⟨_, (Tree.prints_list hlines).mono (Nat.le_refl 0) (Nat.zero_le 1)⟩
  | object _ ih =>
      obtain ⟨lines, hlines⟩ := exists_prints ih
      have hcalm := hlines.imp fun _ _ h => h.mono (Nat.zero_le 2) (Nat.le_refl 1)
      exact ⟨_, (Tree.prints_object hcalm).mono (Nat.le_refl 0) (Nat.zero_le 1)⟩
  | objectField hn _ ih =>
      obtain ⟨line, hline⟩ := ih
      exact ⟨_, Tree.prints_pair (.inr rfl) hn hline⟩
  | argument hn _ ih =>
      obtain ⟨line, hline⟩ := ih
      exact ⟨_, Tree.prints_pair (.inl rfl) hn hline⟩
  | @named n hn => exact ⟨_, Tree.prints_word (fun _ => Tree.shows_namedType n) hn⟩
  | listOf _ ih =>
      obtain ⟨line, hline⟩ := ih
      exact ⟨_, Tree.prints_listType hline⟩
  | nullable _ ih =>
      obtain ⟨line, hline⟩ := ih
      exact ⟨line, hline⟩
  | nonNull _ ih =>
      obtain ⟨line, hline⟩ := ih
      exact ⟨_, Tree.prints_nonNullType hline⟩
  | directive hn _ ih =>
      obtain ⟨lines, hlines⟩ := exists_prints ih
      exact ⟨_, Tree.prints_directive hn hlines⟩
  | variableDefinition _ hn _ _ _ hdescribed htyped hgiven hdirected =>
      obtain ⟨ds, hds⟩ := exists_prints_option hdescribed
      obtain ⟨line, hline⟩ := htyped
      obtain ⟨vs, hvs⟩ := exists_prints_option hgiven
      obtain ⟨lines, hlines⟩ := exists_prints hdirected
      exact ⟨_, Tree.prints_variableDefinition hn hds hline hvs hlines⟩

/-- No selections print as nothing. -/
theorem shows_selectionSet_nil (w : Edition) : (Tree.selectionSet []).Shows w "" :=
  Tree.shows_atom (by decide) rfl rfl

theorem SignableSelection.prints (h : SignableSelection t) : ∃ line, Prints False 0 0 t line := by
  induction h with
  | @field label n arguments directives selections renamed name items directed filled _ ih =>
      obtain ⟨as, has⟩ := exists_prints fun t ht => (items t ht).prints
      obtain ⟨lines, hlines⟩ := exists_prints fun t ht => (directed t ht).prints
      obtain ⟨ss, hss⟩ : ∃ ss,
          List.Forall₂ (Prints False 2 0) (selections.map Tree.selectionSet).toList ss := by
        cases selections with
        | none => exact ⟨[], .nil⟩
        | some ts =>
            obtain ⟨sls, hsls⟩ := exists_prints ih
            exact ⟨_, .cons (Tree.prints_selectionSet (filled ts rfl) hsls) .nil⟩
      exact ⟨_, Tree.prints_field renamed name has hlines hss⟩
  | spread name directed =>
      obtain ⟨lines, hlines⟩ := exists_prints fun t ht => (directed t ht).prints
      exact ⟨_, Tree.prints_spread name hlines⟩
  | @inline condition directives selections conditioned directed _ ih =>
      obtain ⟨lines, hlines⟩ := exists_prints fun t ht => (directed t ht).prints
      by_cases hempty : selections = []
      · subst hempty
        exact ⟨_, Tree.prints_inline_of_fills conditioned hlines fun w =>
          ⟨"", shows_selectionSet_nil w, .none 0⟩⟩
      · obtain ⟨ss, hss⟩ := exists_prints ih
        exact ⟨_, Tree.prints_inline conditioned hlines (Tree.prints_selectionSet hempty hss)⟩

theorem SignableDefinition.prints (h : SignableDefinition k n t) : ∃ line, Prints False 0 0 t line := by
  cases h with
  | operation o described name declared directed filled selected =>
      obtain ⟨ds, hds⟩ := exists_prints_option fun t ht => (described t ht).prints
      obtain ⟨vs, hvs⟩ := exists_prints fun t ht => (declared t ht).prints
      obtain ⟨lines, hlines⟩ := exists_prints fun t ht => (directed t ht).prints
      obtain ⟨ss, hss⟩ := exists_prints fun t ht => (selected t ht).prints
      exact ⟨_, Tree.prints_operation o hds name hvs False.elim hlines
        (Tree.prints_selectionSet filled hss)⟩
  | fragment described name declared conditioned directed filled selected =>
      obtain ⟨ds, hds⟩ := exists_prints_option fun t ht => (described t ht).prints
      obtain ⟨vs, hvs⟩ := exists_prints fun t ht => (declared t ht).prints
      obtain ⟨lines, hlines⟩ := exists_prints fun t ht => (directed t ht).prints
      obtain ⟨ss, hss⟩ := exists_prints fun t ht => (selected t ht).prints
      exact ⟨_, Tree.prints_fragment hds name hvs conditioned hlines
        (Tree.prints_selectionSet filled hss)⟩

/-- A document of definitions has a reduced text. -/
theorem exists_printReduced (h : ∀ t ∈ ts, ∃ k n, SignableDefinition k n t) :
    ∃ s, Signature.printReduced (.document ts) = .ok s := by
  obtain ⟨lines, hlines⟩ : ∃ lines, List.Forall₂ (Prints False 0 0) ts lines := by
    refine exists_prints fun t ht => ?_
    obtain ⟨k, n, hdefinition⟩ := h t ht
    exact hdefinition.prints
  have hdefinitions : List.Forall₂ (Prints False 0 0) ((some ts).getD []) lines := hlines
  obtain ⟨text, hshows, hspells⟩ := Tree.shows_document .digits hdefinitions
  obtain ⟨line, hprinted, -⟩ := hshows.printReduced hspells
  exact ⟨_, hprinted⟩

end

end PersistedOps
