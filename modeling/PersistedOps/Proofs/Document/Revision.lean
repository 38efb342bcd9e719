import PersistedOps.Document.Literals
import PersistedOps.Proofs.Document.Signable
import PersistedOps.Proofs.Document.Sorting

/-!
Revising what signing meets. A revision of single nodes that keeps names and takes constructs to
constructs takes whole documents to documents; hiding literals and sorting are such revisions.
-/

namespace PersistedOps

open PersistedOps.Tree (Walks Lifted Revised inOrder replace)

variable {c : Category} {k : Kind} {n : Option String} {t : Tree} {ts : List Tree}

/-! ### Keys of selections and definitions -/

section

variable {label condition : Option String} {name : String}
  {arguments directives selections : Option (List Tree)} {set : Tree}

theorem byKindAndName_field : Sort.byKindAndName (.ofOptions .field
    [(.aliasName, label.map .name), (.name, some (.name name)), (.arguments, arguments.map .list),
      (.directives, directives.map .list), (.selectionSet, selections.map .selectionSet)])
    = .ok ⟨Kind.sortName .field, some (.text name)⟩ := by
  cases label <;> rfl

theorem byKindAndName_inline : Sort.byKindAndName (.ofOptions .inlineFragment
    [(.typeCondition, condition.map .namedType), (.directives, directives.map .list),
      (.selectionSet, some set)]) = .ok ⟨Kind.sortName .inlineFragment, none⟩ := by
  cases condition <;> cases directives <;> rfl

end

/-- A definition is sorted by its kind and its name. -/
theorem byKindAndName_definition (h : SignableDefinition k n t) :
    Sort.byKindAndName t = .ok ⟨k.sortName, n.map .text⟩ := by
  cases h with
  | @operation description o n vars directives selections described name declared directed filled
      selected =>
      cases description <;> cases n <;> cases vars <;> cases directives <;> rfl
  | @fragment description n condition vars directives selections described name declared conditioned
      directed filled selected =>
      cases description <;> rfl

/-! ### Revising parts, then what they are parts of -/

/-- A revision of nodes that takes constructs to constructs. -/
structure Keeps (f : Tree → Except Malformed Tree) : Prop where
  name (n : String) : f (.name n) = .ok (.name n)
  var (n : String) : f (.var n) = .ok (.var n)
  namedType (n : String) : f (.namedType n) = .ok (.namedType n)
  part {c : Category} {t : Tree} (h : Signable c t) : ∃ u, f t = .ok u ∧ Signable c u
  selections {ts : List Tree} (h : ∀ t ∈ ts, SignableSelection t) :
    ∃ us, f (.selectionSet ts) = .ok (.selectionSet us) ∧ (∀ u ∈ us, SignableSelection u) ∧
      (ts ≠ [] → us ≠ [])
  selection {t : Tree} (h : SignableSelection t) :
    ∃ u, f t = .ok u ∧ SignableSelection u ∧ Sort.byKindAndName u = Sort.byKindAndName t
  definition {k : Kind} {n : Option String} {t : Tree} (h : SignableDefinition k n t) :
    ∃ u, f t = .ok u ∧ SignableDefinition k n u

section

variable {f : Tree → Except Malformed Tree}

theorem Keeps.revised_name (hf : Keeps f) (n : String) : Revised f (.name n) (.name n) := by
  have hwalk : Walks (Revised f) .name [(.value, some (.text n))] [(.value, some (.text n))] :=
    .kept (by decide) .nil
  exact (Tree.revise_ofOptions hwalk).trans (hf.name n)

theorem Keeps.revised_var (hf : Keeps f) (n : String) : Revised f (.var n) (.var n) :=
  (Tree.revise_ofOptions (.walked (by decide) (.one (hf.revised_name n)) .nil)).trans (hf.var n)

theorem Keeps.revised_namedType (hf : Keeps f) (n : String) :
    Revised f (.namedType n) (.namedType n) :=
  (Tree.revise_ofOptions (.walked (by decide) (.one (hf.revised_name n)) .nil)).trans
    (hf.namedType n)

theorem Signable.revise (hf : Keeps f) (h : Signable c t) : ∃ u, Revised f t u ∧ Signable c u := by
  refine h.walk hf.revised_name hf.revised_var fun {c k es es'} hwalk hnode => ?_
  obtain ⟨u, hu, hsignable⟩ := hf.part hnode
  exact ⟨u, (Tree.revise_ofOptions hwalk).trans hu, hsignable⟩

theorem Keeps.exists_list (hf : Keeps f) {o : Option (List Tree)}
    (h : ∀ t ∈ o.getD [], Signable c t) :
    ∃ o' : Option (List Tree), Lifted (Revised f) (o.map .list) (o'.map .list) ∧
      ∀ u ∈ o'.getD [], Signable c u :=
  Tree.exists_lifted_list fun t ht => (h t ht).revise hf

theorem Keeps.exists_selections (hf : Keeps f)
    (h : ∀ t ∈ ts, ∃ u, Revised f t u ∧ SignableSelection u) :
    ∃ us, Revised f (.selectionSet ts) (.selectionSet us) ∧ (∀ u ∈ us, SignableSelection u) ∧
      (ts ≠ [] → us ≠ []) := by
  obtain ⟨us, hus, hselections⟩ := Tree.exists_related h
  obtain ⟨vs, hvs, hall, hne⟩ := hf.selections hselections
  refine ⟨vs, (Tree.revise_selectionSet hus).trans hvs, hall, fun hts => hne ?_⟩
  rintro rfl
  exact hts (List.forall₂_nil_right_iff.mp hus)

/-- A revised selection is sorted as the selection is. -/
theorem SignableSelection.revise_key (hf : Keeps f) (h : SignableSelection t) :
    ∃ u, Revised f t u ∧ SignableSelection u ∧ Sort.byKindAndName u = Sort.byKindAndName t := by
  induction h with
  | @field label n arguments directives selections renamed name items directed filled _ ih =>
      obtain ⟨arguments, harguments, hitems⟩ := hf.exists_list items
      obtain ⟨directives, hdirectives, hdirected⟩ := hf.exists_list directed
      obtain ⟨selections, hset, hfilled, hselected⟩ :
          ∃ o : Option (List Tree), Lifted (Revised f) (selections.map .selectionSet)
            (o.map .selectionSet) ∧ (∀ us ∈ o, us ≠ []) ∧
            ∀ u ∈ o.getD [], SignableSelection u := by
        cases selections with
        | none => exact ⟨none, .none, by simp, by simp⟩
        | some ts =>
            obtain ⟨us, hus, hall, hne⟩ := hf.exists_selections fun t ht =>
              (ih t ht).imp fun u hu => ⟨hu.1, hu.2.1⟩
            exact ⟨some us, .one hus, by simpa using hne (filled ts rfl), hall⟩
      obtain ⟨u, hu, hselection, hkey⟩ := hf.selection
        (.field renamed name hitems hdirected hfilled hselected)
      refine ⟨u, (Tree.revise_ofOptions ?_).trans hu, hselection, ?_⟩
      · exact .walked (by decide) (Tree.lifted_map hf.revised_name label)
          (.walked (by decide) (.one (hf.revised_name n)) (.walked (by decide) harguments
          (.walked (by decide) hdirectives (.walked (by decide) hset .nil))))
      · rw [hkey, byKindAndName_field, byKindAndName_field]
  | @spread n directives name directed =>
      obtain ⟨directives, hdirectives, hdirected⟩ := hf.exists_list directed
      obtain ⟨u, hu, hselection, hkey⟩ := hf.selection (.spread name hdirected)
      refine ⟨u, (Tree.revise_ofOptions ?_).trans hu, hselection, hkey⟩
      exact .walked (by decide) (.one (hf.revised_name n)) (.walked (by decide) hdirectives .nil)
  | @inline condition directives selections conditioned directed _ ih =>
      obtain ⟨directives, hdirectives, hdirected⟩ := hf.exists_list directed
      obtain ⟨selections, hset, hselected, -⟩ := hf.exists_selections fun t ht =>
        (ih t ht).imp fun u hu => ⟨hu.1, hu.2.1⟩
      obtain ⟨u, hu, hselection, hkey⟩ := hf.selection (.inline conditioned hdirected hselected)
      refine ⟨u, (Tree.revise_ofOptions ?_).trans hu, hselection, ?_⟩
      · exact .walked (by decide) (Tree.lifted_map hf.revised_namedType condition)
          (.walked (by decide) hdirectives (.walked (by decide) (.one hset) .nil))
      · rw [hkey, byKindAndName_inline, byKindAndName_inline]

theorem SignableSelection.revise (hf : Keeps f) (h : SignableSelection t) :
    ∃ u, Revised f t u ∧ SignableSelection u :=
  (h.revise_key hf).imp fun _ hu => ⟨hu.1, hu.2.1⟩

/-- A revised definition is of the same kind, under the same name. -/
theorem SignableDefinition.revise (hf : Keeps f) (h : SignableDefinition k n t) :
    ∃ u, Revised f t u ∧ SignableDefinition k n u := by
  cases h with
  | @operation description o n vars directives selections described name declared directed filled
      selected =>
      obtain ⟨description, hdescription, hdescribed⟩ := Tree.exists_lifted_option
        fun d hd => (described d hd).revise hf
      obtain ⟨vars, hvars, hdeclared⟩ := hf.exists_list declared
      obtain ⟨directives, hdirectives, hdirected⟩ := hf.exists_list directed
      obtain ⟨selections, hset, hselected, hne⟩ := hf.exists_selections
        fun s hs => (selected s hs).revise hf
      obtain ⟨u, hu, hdefinition⟩ := hf.definition
        (.operation o hdescribed name hdeclared hdirected (hne filled) hselected)
      refine ⟨u, (Tree.revise_ofOptions ?_).trans hu, hdefinition⟩
      exact .walked (by decide) hdescription (.kept (by decide)
        (.walked (by decide) (Tree.lifted_map hf.revised_name n) (.walked (by decide) hvars
        (.walked (by decide) hdirectives (.walked (by decide) (.one hset) .nil)))))
  | @fragment description n condition vars directives selections described name declared conditioned
      directed filled selected =>
      obtain ⟨description, hdescription, hdescribed⟩ := Tree.exists_lifted_option
        fun d hd => (described d hd).revise hf
      obtain ⟨vars, hvars, hdeclared⟩ := hf.exists_list declared
      obtain ⟨directives, hdirectives, hdirected⟩ := hf.exists_list directed
      obtain ⟨selections, hset, hselected, hne⟩ := hf.exists_selections
        fun s hs => (selected s hs).revise hf
      obtain ⟨u, hu, hdefinition⟩ := hf.definition
        (.fragment hdescribed name hdeclared conditioned hdirected (hne filled) hselected)
      refine ⟨u, (Tree.revise_ofOptions ?_).trans hu, hdefinition⟩
      exact .walked (by decide) hdescription (.walked (by decide) (.one (hf.revised_name n))
        (.walked (by decide) hvars (.walked (by decide) (.one (hf.revised_namedType condition))
        (.walked (by decide) hdirectives (.walked (by decide) (.one hset) .nil)))))

end

/-! ### Hiding literals -/

theorem isInt_zero : IsInt "0".toList := by
  refine ⟨[], by simp, ['0'], ⟨by simp, by simp⟩, by simp, by decide⟩

theorem Signable.hideNode (h : Signable c t) :
    ∃ u, Literals.hideNode t = .ok u ∧ Signable c u := by
  induction h with
  | literal s block =>
      refine ⟨_, rfl, ?_⟩
      cases block with
      | none => exact .literal "" (some false)
      | some b => exact .literal "" (some false)
  | @number k s kind _ =>
      obtain rfl | rfl := kind
      · exact ⟨_, rfl, .number (.inl rfl) (.inl isInt_zero)⟩
      · exact ⟨_, rfl, .number (.inr rfl) (.inl isInt_zero)⟩
  | string _ ih =>
      obtain ⟨u, hu, hliteral⟩ := ih
      exact ⟨u, hu, .string hliteral⟩
  | nullable _ ih =>
      obtain ⟨u, hu, hbare⟩ := ih
      exact ⟨u, hu, .nullable hbare⟩
  | var name => exact ⟨_, rfl, .var name⟩
  | boolean b => exact ⟨_, rfl, .boolean b⟩
  | null => exact ⟨_, rfl, .null⟩
  | enum name other => exact ⟨_, rfl, .enum name other⟩
  | list items => exact ⟨_, rfl, .list items⟩
  | object items => exact ⟨_, rfl, .object items⟩
  | objectField name given => exact ⟨_, rfl, .objectField name given⟩
  | argument name given => exact ⟨_, rfl, .argument name given⟩
  | named name => exact ⟨_, rfl, .named name⟩
  | listOf item => exact ⟨_, rfl, .listOf item⟩
  | nonNull bare => exact ⟨_, rfl, .nonNull bare⟩
  | directive name items => exact ⟨_, rfl, .directive name items⟩
  | variableDefinition described name typed given directed =>
      exact ⟨_, rfl, .variableDefinition described name typed given directed⟩

/-- Hiding literals touches nothing but literals. -/
theorem keeps_hideNode : Keeps Literals.hideNode where
  name _ := rfl
  var _ := rfl
  namedType _ := rfl
  part h := h.hideNode
  selections h := ⟨_, rfl, h, id⟩
  selection h := by
    cases h with
    | field renamed name items directed filled selected =>
        exact ⟨_, rfl, .field renamed name items directed filled selected, rfl⟩
    | spread name directed => exact ⟨_, rfl, .spread name directed, rfl⟩
    | inline conditioned directed selected =>
        exact ⟨_, rfl, .inline conditioned directed selected, rfl⟩
  definition h := by
    cases h with
    | operation o described name declared directed filled selected =>
        exact ⟨_, rfl, .operation o described name declared directed filled selected⟩
    | fragment described name declared conditioned directed filled selected =>
        exact ⟨_, rfl, .fragment described name declared conditioned directed filled selected⟩

/-! ### Sorting -/

end PersistedOps

namespace PersistedOps.Sort

open PersistedOps.Tree (inOrder replace)

variable {k : Kind} {n : Option String} {t : Tree}

theorem sortable_argument (h : Signable .argument t) : Sortable byName t := by
  cases h with
  | @argument n v name given => exact ⟨"", some n, rfl⟩

theorem sortable_directive (h : Signable .directive t) : Sortable byName t := by
  cases h with
  | @directive n arguments name items => exact ⟨"", some n, rfl⟩

theorem sortable_variable (h : Signable .variableDefinition t) : Sortable byVariable t := by
  cases h with
  | @variableDefinition description default n t directives described name typed given directed =>
      refine ⟨"", some n, ?_⟩
      cases description <;> rfl

theorem sortable_selection (h : SignableSelection t) : Sortable byKindAndName t := by
  cases h with
  | @field label n arguments directives selections renamed name items directed filled selected =>
      exact ⟨_, some n, byKindAndName_field⟩
  | @spread n directives name directed => exact ⟨_, some n, rfl⟩
  | inline conditioned directed selected => exact ⟨_, none, byKindAndName_inline⟩

section

variable {a : Attribute} {key : Tree → Except Malformed Key} {es : List (Attribute × Option Tree)}
  {o : Option (List Tree)}

/-- Sorting an attribute leaves a node with the same items in another order. -/
theorem exists_sortAttribute (horder : inOrder es) (hmem : (a, o.map .list) ∈ es)
    (h : ∀ t ∈ o.getD [], Sortable key t) :
    ∃ o' : Option (List Tree), sortAttribute a key (.ofOptions k es)
        = .ok (.ofOptions k (replace es a (o'.map .list))) ∧ (o'.getD []).Perm (o.getD []) := by
  cases o with
  | none =>
      refine ⟨none, ?_, List.Perm.refl _⟩
      rw [sortAttribute, Tree.get?_ofOptions horder hmem, Tree.replace_self horder hmem]
      rfl
  | some ts =>
      obtain ⟨sorted, hsorted, hperm⟩ : ∃ sorted, sortItems key ts = .ok sorted ∧ sorted.Perm ts :=
        exists_sortItems h
      refine ⟨some sorted, ?_, hperm⟩
      have hget : (Tree.ofOptions k es).get? a = some (.list ts) := Tree.get?_ofOptions horder hmem
      have hset : (Tree.ofOptions k es).set a (.list sorted)
          = .ofOptions k (replace es a (some (.list sorted))) := Tree.set_ofOptions horder hmem rfl
      simp only [sortAttribute, hget, Tree.items, bind, Except.bind, hsorted, hset]
      rfl

/-- Sorting an attribute keeps what does not depend on the order of its items. -/
theorem sortAttribute_keeps {P Q : Tree → Prop} (horder : inOrder es)
    (hmem : (a, o.map .list) ∈ es) (h : ∀ t ∈ o.getD [], P t) (hkey : ∀ t, P t → Sortable key t)
    (hbuild : ∀ o' : Option (List Tree), (∀ t ∈ o'.getD [], P t) →
      Q (.ofOptions k (replace es a (o'.map .list)))) :
    ∃ u, sortAttribute a key (.ofOptions k es) = .ok u ∧ Q u := by
  obtain ⟨o', hsort, hperm⟩ := exists_sortAttribute horder hmem fun t ht => hkey t (h t ht)
  exact ⟨_, hsort, hbuild o' fun t ht => h t (hperm.subset ht)⟩

theorem sortNode_part {c : Category} (h : Signable c t) :
    ∃ u, sortNode t = .ok u ∧ Signable c u := by
  induction h with
  | @directive n arguments name items =>
      show ∃ u, sortAttribute .arguments byName (.ofOptions .directive _) = .ok u ∧ _
      exact sortAttribute_keeps rfl (by simp) items (fun _ => sortable_argument)
        fun arguments hitems => .directive name hitems
  | string _ ih =>
      obtain ⟨u, hu, hliteral⟩ := ih
      exact ⟨u, hu, .string hliteral⟩
  | nullable _ ih =>
      obtain ⟨u, hu, hbare⟩ := ih
      exact ⟨u, hu, .nullable hbare⟩
  | literal s block => exact ⟨_, rfl, .literal s block⟩
  | @number k s kind number =>
      obtain rfl | rfl := kind
      · exact ⟨_, rfl, .number (.inl rfl) number⟩
      · exact ⟨_, rfl, .number (.inr rfl) number⟩
  | var name => exact ⟨_, rfl, .var name⟩
  | boolean b => exact ⟨_, rfl, .boolean b⟩
  | null => exact ⟨_, rfl, .null⟩
  | enum name other => exact ⟨_, rfl, .enum name other⟩
  | list items => exact ⟨_, rfl, .list items⟩
  | object items => exact ⟨_, rfl, .object items⟩
  | objectField name given => exact ⟨_, rfl, .objectField name given⟩
  | argument name given => exact ⟨_, rfl, .argument name given⟩
  | named name => exact ⟨_, rfl, .named name⟩
  | listOf item => exact ⟨_, rfl, .listOf item⟩
  | nonNull bare => exact ⟨_, rfl, .nonNull bare⟩
  | variableDefinition described name typed given directed =>
      exact ⟨_, rfl, .variableDefinition described name typed given directed⟩

theorem sortNode_selectionSet {ts : List Tree} (h : ∀ t ∈ ts, SignableSelection t) :
    ∃ us, sortNode (.selectionSet ts) = .ok (.selectionSet us) ∧ us.Perm ts := by
  have hkeys : ∀ t ∈ (some ts).getD [], Sortable byKindAndName t :=
    fun t ht => sortable_selection (h t ht)
  have hmem : (Attribute.selections, (some ts).map Tree.list)
      ∈ [(Attribute.selections, some (Tree.list ts))] := List.mem_singleton_self _
  obtain ⟨o, hsort, hperm⟩ := exists_sortAttribute (k := .selectionSet) rfl hmem hkeys
  cases o with
  | none =>
      obtain rfl : ts = [] := hperm.nil_eq.symm
      exact ⟨[], rfl, .refl _⟩
  | some us => exact ⟨us, hsort, hperm⟩

theorem sortNode_selection (h : SignableSelection t) :
    ∃ u, sortNode t = .ok u ∧ SignableSelection u ∧ byKindAndName u = byKindAndName t := by
  cases h with
  | field renamed name items directed filled selected =>
      show ∃ u, sortAttribute .arguments byName (.ofOptions .field _) = .ok u ∧ _
      exact sortAttribute_keeps rfl (by simp) items (fun _ => sortable_argument)
        fun arguments hitems => ⟨.field renamed name hitems directed filled selected,
          byKindAndName_field.trans byKindAndName_field.symm⟩
  | spread name directed =>
      show ∃ u, sortAttribute .directives byName (.ofOptions .fragmentSpread _) = .ok u ∧ _
      exact sortAttribute_keeps rfl (by simp) directed (fun _ => sortable_directive)
        fun directives hdirected => ⟨.spread name hdirected, rfl⟩
  | inline conditioned directed selected =>
      show ∃ u, sortAttribute .directives byName (.ofOptions .inlineFragment _) = .ok u ∧ _
      exact sortAttribute_keeps rfl (by simp) directed (fun _ => sortable_directive)
        fun directives hdirected => ⟨.inline conditioned hdirected selected,
          byKindAndName_inline.trans byKindAndName_inline.symm⟩

theorem sortNode_definition (h : SignableDefinition k n t) :
    ∃ u, sortNode t = .ok u ∧ SignableDefinition k n u := by
  cases h with
  | operation o described name declared directed filled selected =>
      show ∃ u, sortAttribute .variableDefinitions byVariable (.ofOptions .operationDefinition _)
        = .ok u ∧ _
      exact sortAttribute_keeps rfl (by simp) declared (fun _ => sortable_variable)
        fun vars hdeclared => .operation o described name hdeclared directed filled selected
  | @fragment description n condition vars directives selections described name declared conditioned
      directed filled selected =>
      -- The directives are sorted first, the variables of what comes out of that next.
      obtain ⟨u, hu, v, hv, hdefinition⟩ : ∃ u, sortAttribute .directives byName
          (.ofOptions .fragmentDefinition [(.description, description), (.name, some (.name n)),
            (.variableDefinitions, vars.map .list), (.typeCondition, some (.namedType condition)),
            (.directives, directives.map .list),
            (.selectionSet, some (.selectionSet selections))]) = .ok u ∧
          ∃ v, sortAttribute .variableDefinitions byVariable u = .ok v ∧
            SignableDefinition .fragmentDefinition (some n) v :=
        sortAttribute_keeps rfl (by simp) directed (fun _ => sortable_directive)
          fun directives hdirected => sortAttribute_keeps rfl (by simp [replace]) declared
            (fun _ => sortable_variable) fun vars hdeclared =>
              .fragment described name hdeclared conditioned hdirected filled selected
      exact ⟨v, bind_eq_ok_iff.mpr ⟨u, hu, hv⟩, hdefinition⟩

/-- Sorting changes nothing but the order of items. -/
theorem keeps_sortNode : Keeps sortNode where
  name _ := rfl
  var _ := rfl
  namedType _ := rfl
  part h := sortNode_part h
  selections h := by
    obtain ⟨us, hsort, hperm⟩ := sortNode_selectionSet h
    refine ⟨us, hsort, fun u hu => h u (hperm.subset hu), fun hts => ?_⟩
    rintro rfl
    exact hts hperm.nil_eq.symm
  selection h := sortNode_selection h
  definition h := sortNode_definition h

end

end PersistedOps.Sort

/-! ### Documents -/

namespace PersistedOps

open PersistedOps.Tree (Walks Revised)

variable {ds : List Tree} {f : Tree → Except Malformed Tree}

/-- Definitions that signing can take. -/
def AllSignable (ds : List Tree) : Prop := ∀ d ∈ ds, ∃ k n, SignableDefinition k n d

/-- A tree after a change that may fail. -/
def changed (f : Tree → Except Malformed Tree) (t : Tree) : Tree := (f t).toOption.getD t

theorem changed_eq {t u : Tree} (h : f t = .ok u) : changed f t = u := by
  rw [changed, h]
  rfl

theorem SignableDefinition.changed_revise {k : Kind} {n : Option String} {d : Tree} (hf : Keeps f)
    (h : SignableDefinition k n d) : Revised f d (changed (Tree.revise f) d) ∧
      SignableDefinition k n (changed (Tree.revise f) d) := by
  obtain ⟨u, hu, hdefinition⟩ := h.revise hf
  rw [changed_eq hu]
  exact ⟨hu, hdefinition⟩

theorem walks_document {R : Tree → Tree → Prop} {g : Tree → Tree} (h : ∀ d ∈ ds, R d (g d)) :
    Walks R .document [(.definitions, some (.list ds))]
      [(.definitions, some (.list (ds.map g)))] := by
  refine .walked (by decide) (.list ?_) .nil
  rw [List.forall₂_map_right_iff, List.forall₂_same]
  exact h

/-- A revision of a document revises its definitions, then the document. -/
theorem revise_document (hf : Keeps f) (h : AllSignable ds) :
    (Tree.document ds).revise f = f (.document (ds.map (changed (Tree.revise f)))) ∧
      AllSignable (ds.map (changed (Tree.revise f))) := by
  constructor
  · refine Tree.revise_ofOptions (walks_document fun d hd => ?_)
    obtain ⟨k, n, hdefinition⟩ := h d hd
    exact (hdefinition.changed_revise hf).1
  · intro u hu
    obtain ⟨d, hd, rfl⟩ := List.mem_map.mp hu
    obtain ⟨k, n, hdefinition⟩ := h d hd
    exact ⟨k, n, (hdefinition.changed_revise hf).2⟩

theorem hide_document (h : AllSignable ds) :
    Literals.hide (.document ds) = .ok (.document (ds.map (changed Literals.hide))) ∧
      AllSignable (ds.map (changed Literals.hide)) :=
  revise_document keeps_hideNode h

theorem sortNode_document (ds : List Tree) :
    Sort.sortNode (.document ds) = (Sort.sortItems Sort.byKindAndName ds).map Tree.document := by
  show (Sort.sortItems Sort.byKindAndName ds >>= fun us =>
    .ok ((Tree.document ds).set .definitions (.list us))) = _
  cases Sort.sortItems Sort.byKindAndName ds <;> rfl

theorem AllSignable.sortable (h : AllSignable ds) :
    ∀ d ∈ ds, Sort.Sortable Sort.byKindAndName d := by
  intro d hd
  obtain ⟨k, n, hdefinition⟩ := h d hd
  exact ⟨k.sortName, n, byKindAndName_definition hdefinition⟩

theorem exists_sort (h : AllSignable ds) :
    ∃ us, Sort.sort (.document ds) = .ok (.document us) ∧ AllSignable us := by
  obtain ⟨hrevise, hall⟩ := revise_document Sort.keeps_sortNode h
  obtain ⟨us, hsorted, hperm⟩ := Sort.exists_sortItems hall.sortable
  refine ⟨us, ?_, fun d hd => hall d (hperm.subset hd)⟩
  rw [Sort.sort, hrevise, sortNode_document, hsorted]
  rfl

/-- A document of definitions has a text that stands for it, with literals or without. -/
theorem exists_ofClosed (h : AllSignable ds) (literals : Bool) :
    ∃ s, Signature.ofClosed literals (.document ds) = .ok s := by
  have hprinted : ∀ {ds}, AllSignable ds → ∃ s,
      (Sort.sort (.document ds) >>= fun sorted => Signature.printReduced sorted) = .ok s := by
    intro ds h
    obtain ⟨us, hsort, hus⟩ := exists_sort h
    obtain ⟨s, hs⟩ := exists_printReduced hus
    exact ⟨s, bind_eq_ok_iff.mpr ⟨_, hsort, hs⟩⟩
  cases literals with
  | true => exact hprinted h
  | false =>
      obtain ⟨hhide, hall⟩ := hide_document h
      obtain ⟨s, hs⟩ := hprinted hall
      exact ⟨s, bind_eq_ok_iff.mpr ⟨_, hhide, hs⟩⟩

end PersistedOps
