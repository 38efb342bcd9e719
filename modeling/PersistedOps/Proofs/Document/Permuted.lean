import PersistedOps.Proofs.Document.Alike
import PersistedOps.Proofs.Document.Hidden
import PersistedOps.Proofs.Document.Ordered

/-!
Signatures and the order of what is named. Items of different keys are sorted into one order from any
other, at every depth at once, and closing and hiding look at neither; so documents whose arguments and
variables stand in different orders have the same signatures.
-/

namespace PersistedOps.Sort

open PersistedOps.Tree (Executable Revised PartRevised SameUpTo)

/-- What may become of the sequences at some places: items of different keys may stand in any order. -/
def Shuffled (places : List (Kind × Attribute)) (k : Kind) (a : Attribute) (xs ys : List Tree) : Prop :=
  xs = ys ∨ (k.base, a) ∈ places ∧ xs.Perm ys ∧ ∃ o ∈ order? k a, (xs.map o.key).Nodup

variable {places : List (Kind × Attribute)} {k : Kind} {a : Attribute} {attributes others : Attributes}
  {o : Order} {t u v w : Tree} {xs ys zs vs : List Tree}

theorem Shuffled.perm (h : Shuffled places k a xs ys) : xs.Perm ys := by
  obtain rfl | ⟨-, hperm, -⟩ := h
  · exact .refl _
  · exact hperm

/-! ### Keys -/

section

variable {R : Kind → Attribute → List Tree → List Tree → Prop} {S : List Tree → List Tree → Prop}

theorem nameText?_eq_of_sameUpTo (h : SameUpTo R S t u) : nameText? u = nameText? t := by
  rw [nameText?, nameText?]
  obtain ⟨ht, hu⟩ | ⟨n, n', S', ht, hu, hname⟩ := h.get?_rel .name
  · rw [ht, hu]
  · rw [ht, hu, Option.bind_some, Option.bind_some]
    obtain ⟨hn, hn'⟩ | ⟨v, v', S'', hn, hn', hvalue⟩ := hname.get?_rel .value
    · rw [hn, hn']
    · rw [hn, hn']
      cases hvalue with
      | atom => rfl
      | node | list => rfl

/-- What an item is ordered by is no matter of the order of what it holds. -/
theorem key_eq_of_sameUpTo (o : Order) (h : SameUpTo R S t u) : o.key u = o.key t := by
  cases o with
  | kindAndName => rw [Order.key, Order.key, h.kind?_eq, nameText?_eq_of_sameUpTo h]
  | name => rw [Order.key, Order.key, nameText?_eq_of_sameUpTo h]
  | varName =>
      rw [Order.key, Order.key]
      obtain ⟨ht, hu⟩ | ⟨n, n', S', ht, hu, hvar⟩ := h.get?_rel .var
      · rw [ht, hu]
      · rw [ht, hu, Option.bind_some, Option.bind_some, nameText?_eq_of_sameUpTo hvar]

theorem map_key_eq {Q : Tree → Tree → Prop} (hQ : ∀ {x y}, Q x y → o.key y = o.key x)
    (h : List.Forall₂ Q xs ys) : ys.map o.key = xs.map o.key :=
  map_eq_of_forall₂ (h.imp fun _ _ => hQ)

end

/-! ### Sorting -/

/-- Items of different keys are sorted into one order. -/
theorem sortItems_of_perm (h : sortItems o.read xs = .ok vs) (hperm : xs.Perm ys)
    (hnodup : (xs.map o.key).Nodup) : sortItems o.read ys = .ok vs := by
  obtain ⟨hfew, rfl⟩ | hsortable := sortable_of_sortItems h
  · match vs, hfew with
    | [], _ => rwa [hperm.nil_eq.symm]
    | [x], _ => rwa [List.perm_singleton.mp hperm.symm]
  · rw [← h]
    refine (sortItems_perm hsortable ?_ hperm).symm
    refine List.pairwise_map.mpr ((List.pairwise_map.mp hnodup).imp_of_mem fun {x y} hx hy hne heq => ?_)
    obtain ⟨kind, name, hread⟩ := hsortable x hx
    rw [hread] at heq
    exact hne (by rw [Order.key_of_read hread, Order.key_of_read (eq_ok_of_toOption heq.symm)])

theorem revised_list_of_sameUpTo (hnull : ∀ t ∈ xs, t.isNull = false)
    (ih : ∀ t ∈ xs, ∀ u v, SameUpTo (Shuffled places) Eq t u → Revised sortNode t v → Revised sortNode u v)
    (h : SameUpTo (Shuffled places) Eq (.list xs) u) (hv : Revised sortNode (.list xs) v) :
    Revised sortNode u v := by
  obtain ⟨vs, rfl, hvs⟩ := Tree.exists_revised_items hnull hv
  obtain ⟨ys, zs, rfl, hys, rfl⟩ := h.exists_list
  have heach : List.Forall₂ (Revised sortNode) ys vs :=
    forall₂_transfer (forall₂_imp_of_mem hys fun x hx y hxy v => ih x hx y v hxy) hvs
  rw [Revised, Tree.revise, Tree.reviseItems_eq heach]
  rfl

/-- An attribute that is revised and sorted is so from a permitted order. -/
theorem exists_part_of_sameUpTo (hparts : a ∈ k.visited → Executable t) (hatoms : a ∉ k.visited → t.isAtom)
    (ih : a ∈ k.visited → ∀ u v, SameUpTo (Shuffled places) Eq t u → Revised sortNode t v →
      Revised sortNode u v)
    (h : SameUpTo (Shuffled places) (Shuffled places k a) t u) (hv : PartRevised sortNode k (a, t) (a, v))
    (hw : SortedTo (order? k a) v w) :
    ∃ v', PartRevised sortNode k (a, u) (a, v') ∧ SortedTo (order? k a) v' w := by
  cases hv with
  | kept ha =>
      obtain rfl := h.eq_of_atom (hatoms ha)
      exact ⟨u, .kept ha, hw⟩
  | walked ha hv =>
      obtain ⟨m, hm, rfl | ⟨ys, zs, rfl, rfl, horder⟩⟩ := h.exists_before
      · exact ⟨v, .walked ha (ih ha m v hm hv), hw⟩
      · have hys : Revised sortNode (.list ys) v := ih ha _ v hm hv
        obtain rfl | ⟨-, hperm, o, ho, hnodup⟩ := horder
        · exact ⟨v, .walked ha hys, hw⟩
        · obtain ⟨xs, ys, rfl, heach, rfl⟩ := hm.exists_items
          cases hparts ha with
          | list each =>
              have hnull : ∀ y ∈ ys, y.isNull = false := by
                intro y hy
                obtain ⟨x, hx, hxy⟩ := exists_of_mem_left heach.flip hy
                exact hxy.isNull_eq.trans (each x hx).not_isNull
              obtain ⟨vs, rfl, hrevised⟩ :=
                Tree.exists_revised_items (Executable.not_isNull_of_mem each) hv
              obtain ⟨_, heq, hys⟩ := Tree.exists_revised_items hnull hys
              cases heq
              -- A sorted item has the key that it had, and so do the items of either order.
              have hkeys : vs.map o.key = ys.map o.key := by
                refine Eq.trans ?_ (map_key_eq (key_eq_of_sameUpTo o) heach).symm
                refine map_key_eq (fun h => h) (forall₂_imp_of_mem hrevised fun x hx v hxv => ?_)
                exact key_eq_of_sameUpTo o (outcome_of_executable (each x hx) hxv).arranged
              rw [show order? k a = some o from ho] at hw ⊢
              obtain ⟨_, ws, heq, rfl, hsort⟩ := hw
              cases heq
              obtain ⟨vs', hzs, hperm'⟩ := List.perm_comp_forall₂ hperm.symm hys
              refine ⟨.list vs', .walked ha ?_, vs', ws, rfl, rfl, ?_⟩
              · rw [Revised, Tree.revise, Tree.reviseItems_eq hzs]
                rfl
              · exact sortItems_of_perm hsort hperm'.symm (hkeys ▸ hnodup)

theorem revised_node_of_sameUpTo (order : attributes.Pairwise fun e f => e.1.rank < f.1.rank)
    (hparts : ∀ e ∈ attributes, e.1 ∈ k.visited → Executable e.2)
    (hatoms : ∀ e ∈ attributes, e.1 ∉ k.visited → e.2.isAtom)
    (ih : ∀ e ∈ attributes, e.1 ∈ k.visited → ∀ u v, SameUpTo (Shuffled places) Eq e.2 u →
      Revised sortNode e.2 v → Revised sortNode u v)
    (h : SameUpTo (Shuffled places) Eq (.node k attributes) u)
    (hv : Revised sortNode (.node k attributes) v) : Revised sortNode u v := by
  obtain ⟨others, rfl, hothers⟩ := h.exists_node
  obtain ⟨revised, hrevised, hsort⟩ := Tree.exists_revised_parts hv
  obtain ⟨sorted, rfl, hsorted⟩ :=
    (sortNode_eq_ok_iff (Tree.order_of_parts hrevised order)).mp hsort
  have hsteps := forall₂_comp_iff.mp ⟨revised, hrevised, hsorted⟩
  have heach : List.Forall₂ (fun e e' => ∀ s,
      Relation.Comp (PartRevised sortNode k) (PartSorted (sequences k)) e s →
        Relation.Comp (PartRevised sortNode k) (PartSorted (sequences k)) e' s) attributes others := by
    refine forall₂_imp_of_mem hothers ?_
    rintro ⟨a, t⟩ he ⟨b, u⟩ ⟨hkey, hrel⟩ ⟨d, w⟩ ⟨⟨c, v⟩, hv, hd, hw⟩
    obtain rfl : b = a := hkey
    obtain rfl : c = b := hv.key_eq
    obtain rfl : d = c := hd
    obtain ⟨v', hv', hw'⟩ := exists_part_of_sameUpTo (hparts _ he) (hatoms _ he) (ih _ he) hrel hv hw
    exact ⟨(d, v'), hv', rfl, hw'⟩
  obtain ⟨revised', hrevised', hsorted'⟩ := forall₂_comp_iff.mpr (forall₂_transfer heach hsteps)
  rw [Revised, Tree.revise, Tree.reviseAttributes_of_parts hrevised']
  have horder := Tree.order_of_parts hrevised' (SameUpTo.order_of_parts hothers order)
  exact (sortNode_eq_ok_iff horder).mpr ⟨sorted, rfl, hsorted'⟩

theorem revised_of_sameUpTo (ht : Executable t) (h : SameUpTo (Shuffled places) Eq t u)
    (hv : Revised sortNode t v) : Revised sortNode u v := by
  induction ht generalizing u v with
  | node _ order parts atoms _ _ ih =>
      exact revised_node_of_sameUpTo order parts atoms (fun e he ha u v => ih e he ha) h hv
  | @selectionSet items each ih =>
      refine revised_node_of_sameUpTo (List.pairwise_singleton _ _) ?_ ?_ ?_ h hv
      · rw [List.forall_mem_singleton]
        exact fun _ => .list each
      · rw [List.forall_mem_singleton]
        exact fun hnot => absurd (by decide : Attribute.selections ∈ Kind.selectionSet.visited) hnot
      · rw [List.forall_mem_singleton]
        exact fun _ u v => revised_list_of_sameUpTo (Executable.not_isNull_of_mem each)
          fun t ht u v => ih t ht
  | list each ih =>
      exact revised_list_of_sameUpTo (Executable.not_isNull_of_mem each) (fun t ht u v => ih t ht) h hv

/-- A document is sorted to one document from any permitted order. -/
theorem sort_eq_of_sameUpTo (ht : WellFormed t) (h : SameUpTo (Shuffled places) Eq t u) :
    sort u = sort t := by
  obtain ⟨v, hv⟩ := exists_sort_of_wellFormed ht
  rw [hv]
  exact revised_of_sameUpTo ht.executable h hv

end PersistedOps.Sort

/-! ### Signatures -/

namespace PersistedOps.Signature

open PersistedOps.Merged (spreadsFrom spreadsOf_eq)
open PersistedOps.Sort (Shuffled key_eq_of_sameUpTo)
open PersistedOps.Tree (SameUpTo mapLiterals)

variable {places : List (Kind × Attribute)} {k : Kind} {n : Option String} {d d' : Tree}
  {ds ds' : List Tree}

/-- A definition but for the order of sequences at some places. -/
def Reshuffled (places : List (Kind × Attribute)) (d d' : Tree) : Prop :=
  (∃ k n, SignableDefinition k n d) ∧ SameUpTo (Shuffled places) Eq d d'

/-- Definitions are filed and followed whatever the order of their sequences. -/
theorem Reshuffled.alike (h : Reshuffled places d d') : Alike d d' := by
  obtain ⟨⟨k, n, hd⟩, hsame⟩ := h
  refine ⟨⟨k, n, hd⟩, hsame.kind?_eq, hsame.nameOf_eq, ?_, ?_⟩
  · rw [Separate.keyOf, Separate.keyOf, hsame.nameOf_eq]
    obtain ⟨ht, hu⟩ | ⟨v, w, S, ht, hu, -⟩ := hsame.get?_rel .name
    · rw [ht, hu]
    · rw [ht, hu]
      rfl
  · have hspreads := spreadsOf_eq hd.exists_spreadsOf
    rw [Separate.spreadsOf] at hspreads ⊢
    obtain ⟨v, hv, hspreads⟩ := bind_eq_ok_iff.mp hspreads
    obtain ⟨m, ht, -⟩ | ⟨v', w, S, ht, hu, hset⟩ := hsame.attr_rel .selectionSet
    · cases hv.symm.trans ht
    · cases hv.symm.trans ht
      rw [hu]
      cases v with
      | node l attributes =>
          obtain ⟨others, rfl, hparts⟩ := hset.exists_node
          have hset : SameUpTo (Shuffled places) Eq (.node l attributes) (.node l others) :=
            .of_parts hparts
          exact hset.spreadsAs (fun _ _ _ _ => Shuffled.perm) (fun _ _ => .of_eq) _ hspreads
      | _ => cases hspreads

variable (hplaces : (.document, .definitions) ∉ places)

include hplaces

theorem exists_definitions (h : SameUpTo (Shuffled places) Eq (.document ds) d') :
    ∃ ds', d' = .document ds' ∧ List.Forall₂ (SameUpTo (Shuffled places) Eq) ds ds' := by
  obtain ⟨ds', _, rfl, heach, rfl | ⟨hmem, -⟩⟩ := h.exists_one
  · exact ⟨ds', rfl, heach⟩
  · exact absurd hmem hplaces

omit hplaces in
theorem ofClosed_eq_of_shuffled (h : WellFormed d) (hd : SameUpTo (Shuffled places) Eq d d')
    (literals : Bool) : ofClosed literals d' = ofClosed literals d := by
  have hsort := Sort.sort_eq_of_sameUpTo h hd
  cases literals with
  | true =>
      rw [ofClosed, ofClosed, if_pos rfl, if_pos rfl]
      simp only [bind, Except.bind, pure, Except.pure, hsort]
  | false =>
      have hshaped : Tree.Shaped false d' :=
        SameUpTo.shaped (fun _ _ _ _ => Shuffled.perm) (fun _ _ => .of_eq) h.shaped hd
      -- What is hidden stands where it stood, so that hidden documents are sorted alike.
      have hcommute := Tree.revise_mapLiterals keepsLiterals_hidden
        (Sort.commutes_sortNode keepsLiterals_hidden) false
      have hhidden : Sort.sort (mapLiterals hidden false d') = Sort.sort (mapLiterals hidden false d) :=
        (hcommute d').trans ((congrArg _ hsort).trans (hcommute d).symm)
      rw [ofClosed, ofClosed, if_neg Bool.false_ne_true, if_neg Bool.false_ne_true, hshaped.hide_eq,
        h.shaped.hide_eq]
      simp only [bind, Except.bind, hhidden]

/-- Signatures are no matter of the order of sequences at some places. -/
theorem ofOperation_eq_of_shuffled (h : WellFormed d) (hd : SameUpTo (Shuffled places) Eq d d')
    (name : String) (literals : Bool) : ofOperation d' name literals = ofOperation d name literals := by
  obtain @⟨definitions, items⟩ := h
  cases definitions with
  | none =>
      obtain ⟨others, rfl, hparts⟩ := hd.exists_node
      cases hparts
      rfl
  | some ds =>
      have h : WellFormed (.document ds) := .document items
      have hdocument : SameUpTo (Shuffled places) Eq (.document ds) d' := hd
      obtain ⟨ds', rfl, heach⟩ := exists_definitions hplaces hdocument
      have hdefinitions : List.Forall₂ (Reshuffled places) ds ds' :=
        forall₂_imp_of_mem heach fun d hd d' hsame => ⟨allSignable_of_wellFormed h d hd, hsame⟩
      obtain ⟨separated, separated', hseparated, hseparated', hrelated⟩ :=
        Separate.exists_ofDocument_of_alike Reshuffled.alike hdefinitions
      show ofOperation (.document ds') name literals = ofOperation (.document ds) name literals
      rw [ofOperation, ofOperation, closeOver, closeOver, hseparated, hseparated']
      simp only
      have hget := hrelated.rel_get? (.text name)
      generalize hclosed : separated.get? (.text name) = found at hget ⊢
      generalize separated'.get? (.text name) = found' at hget ⊢
      cases hget with
      | none => rfl
      | some hrel =>
          obtain ⟨cs, cs', rfl, rfl, hcs⟩ := hrel
          have hwellFormed := h.closed hseparated _ (Entries.mem_of_get?_text hclosed)
          have hsame : SameUpTo (Shuffled places) Eq (.document cs) (.document cs') :=
            .of_parts (.cons ⟨rfl, .of_items (hcs.imp fun _ _ hd => hd.2) (.inl rfl)⟩ .nil)
          simp only [ofClosed_eq_of_shuffled hwellFormed hsame]

omit hplaces

/-- Where arguments and variable definitions stand. -/
def namedPlaces : List (Kind × Attribute) :=
  [(.field, .arguments), (.directive, .arguments), (.operationDefinition, .variableDefinitions),
    (.fragmentDefinition, .variableDefinitions)]

/-- Documents that differ in the order of arguments and of variable definitions, at any depth and in any
number of places. Where the order differs the names do. -/
def Permuted : Tree → Tree → Prop := SameUpTo (Shuffled namedPlaces) Eq

/-- Signatures are no matter of the order of arguments and variables, and each operation of the document
has one. -/
theorem ofOperation_of_permuted (h : WellFormed d) (hd : Permuted d d') :
    (∀ name literals, ofOperation d' name literals = ofOperation d name literals) ∧
    ∀ name literals ds, d.definitions = .ok ds → (∃ o ∈ ds, o.kind? = some .operationDefinition ∧
      Separate.keyOf o = .ok (.text name)) → ∃ s, ofOperation d name literals = .ok s :=
  ⟨ofOperation_eq_of_shuffled (by decide) h hd, fun _ _ _ => exists_ofOperation h⟩

/-- A definition of a variable of whole numbers. -/
def wholeNumber (n : String) : Tree := .ofOptions .variableDefinition
  [(.description, none), (.var, some (.var n)), (.type, some (.namedType "Int")),
    (.defaultValue, none), (.directives, (none : Option (List Tree)).map .list)]

/-- A variable given under its name. -/
def given (n : String) : Tree := .node .argument [(.name, .name n), (.value, .var n)]

/-- A field with arguments. -/
def fieldWith (arguments : List Tree) : Tree := .ofOptions .field
  [(.aliasName, (none : Option String).map .name), (.name, some (.name "f")),
    (.arguments, (some arguments).map .list), (.directives, (none : Option (List Tree)).map .list),
    (.selectionSet, none)]

/-- A query that declares variables and gives them to a directive and to a field. -/
def giving (vars arguments arguments' : List Tree) : Tree := .ofOptions .operationDefinition
  [(.description, none), (.operation, some (.operation .query)), (.name, (some "Q").map .name),
    (.variableDefinitions, (some vars).map .list),
    (.directives, (some [Tree.ofOptions .directive [(.name, some (.name "d")),
      (.arguments, (some arguments).map .list)]]).map .list),
    (.selectionSet, some (.selectionSet [fieldWith arguments']))]

theorem wellFormed_giving {vars arguments arguments' : List Tree}
    (hvars : ∀ t ∈ vars, Grammatical .variableDefinition t)
    (harguments : ∀ t ∈ arguments, Grammatical .argument t)
    (harguments' : ∀ t ∈ arguments', Grammatical .argument t) :
    WellFormed (.document [giving vars arguments arguments']) := by
  have hdirective : Grammatical .directive (.ofOptions .directive [(.name, some (.name "d")),
      (.arguments, (some arguments).map .list)]) := .directive (.of_toList rfl rfl rfl) harguments
  have hfield : Grammatical .selection (fieldWith arguments') :=
    .field (by simp) (.of_toList rfl rfl rfl) harguments' (by simp) (by simp)
  have hdefinition : Grammatical .definition (giving vars arguments arguments') :=
    .operation .query (by simp) (by simpa using .of_toList rfl rfl rfl) hvars
      (List.forall_mem_singleton.mpr hdirective)
      (.selectionSet (by simp) (List.forall_mem_singleton.mpr hfield))
  have hdefinitions : ∀ t ∈ (some [giving vars arguments arguments']).getD [],
      Grammatical .definition t := List.forall_mem_singleton.mpr hdefinition
  exact .document hdefinitions

theorem permuted_giving {vars vars' arguments arguments' : List Tree} (hvars : vars.Perm vars')
    (harguments : arguments.Perm arguments') (hnames : (vars.map Sort.Order.varName.key).Nodup)
    (hnames' : (arguments.map Sort.Order.name.key).Nodup)
    (hdeclared : ∀ t ∈ vars, Tree.Executable t) (hgiven : ∀ t ∈ arguments, Tree.Executable t) :
    Permuted (.document [giving vars arguments arguments])
      (.document [giving vars' arguments' arguments']) := by
  have hself {t : Tree} {S : List Tree → List Tree → Prop} (hS : ∀ xs, S xs xs) (ht : Tree.Executable t) :
      SameUpTo (Shuffled namedPlaces) S t t := .refl (fun _ _ _ => .inl rfl) hS ht
  have hname (n : String) {k : Kind} {a : Attribute} :
      SameUpTo (Shuffled namedPlaces) (Shuffled namedPlaces k a) (.name n) (.name n) := by
    have hshaped : Tree.Shaped false (.name n) := Tree.shaped_name n
    exact hself (fun _ => .inl rfl) hshaped.executable
  have heach {ts : List Tree} (hts : ∀ t ∈ ts, Tree.Executable t) :
      List.Forall₂ (SameUpTo (Shuffled namedPlaces) Eq) ts ts :=
    List.forall₂_same.mpr fun t ht => hself (fun _ => rfl) (hts t ht)
  have hitem {t u : Tree} {k : Kind} {a : Attribute} (h : SameUpTo (Shuffled namedPlaces) Eq t u) :
      SameUpTo (Shuffled namedPlaces) (Shuffled namedPlaces k a) (.list [t]) (.list [u]) :=
    .of_items (.cons h .nil) (.inl rfl)
  have hlists {k : Kind} (hk : (k.base, Attribute.arguments) ∈ namedPlaces)
      (horder : Sort.order? k .arguments = some .name) :
      SameUpTo (Shuffled namedPlaces) (Shuffled namedPlaces k .arguments) (.list arguments)
        (.list arguments') :=
    .of_items (heach hgiven) (.inr ⟨hk, harguments, .name, horder, hnames'⟩)
  refine .of_parts (.cons ⟨rfl, hitem ?_⟩ .nil)
  refine .of_parts (.cons ⟨rfl, .atom rfl⟩ (.cons ⟨rfl, hname "Q"⟩ (.cons ⟨rfl, ?_⟩ (.cons ⟨rfl, ?_⟩
    (.cons ⟨rfl, ?_⟩ .nil)))))
  · exact .of_items (heach hdeclared) (.inr ⟨by simp [namedPlaces, Kind.base], hvars, .varName, rfl, hnames⟩)
  · exact hitem (.of_parts (.cons ⟨rfl, hname "d"⟩ (.cons ⟨rfl, hlists (by decide) rfl⟩ .nil)))
  · refine .of_parts (.cons ⟨rfl, hitem ?_⟩ .nil)
    exact .of_parts (.cons ⟨rfl, hname "f"⟩ (.cons ⟨rfl, hlists (by decide) rfl⟩ .nil))

/-- Two variables and two arguments in either order, at three places at once. -/
theorem ofOperation_of_permuted_giving :
    let d := Tree.document [giving [wholeNumber "x", wholeNumber "y"] [given "x", given "y"]
      [given "x", given "y"]]
    let d' := Tree.document [giving [wholeNumber "y", wholeNumber "x"] [given "y", given "x"]
      [given "y", given "x"]]
    WellFormed d ∧ Permuted d d' ∧
      ∃ s, ofOperation d "Q" false = .ok s ∧ ofOperation d' "Q" false = .ok s := by
  intro d d'
  have hvar {n : String} (hn : IsName n) : Grammatical .variableDefinition (wholeNumber n) :=
    .variableDefinition (by simp) hn (.nullable (.named (.of_toList rfl rfl rfl))) (by simp) (by simp)
  have hgiven {n : String} (hn : IsName n) : Grammatical .argument (given n) :=
    .argument hn (.var hn)
  have hvars : ∀ t ∈ [wholeNumber "x", wholeNumber "y"], Grammatical .variableDefinition t :=
    List.forall_mem_cons.mpr ⟨hvar (.of_toList rfl rfl rfl),
      List.forall_mem_singleton.mpr (hvar (.of_toList rfl rfl rfl))⟩
  have harguments : ∀ t ∈ [given "x", given "y"], Grammatical .argument t :=
    List.forall_mem_cons.mpr ⟨hgiven (.of_toList rfl rfl rfl),
      List.forall_mem_singleton.mpr (hgiven (.of_toList rfl rfl rfl))⟩
  have hd : WellFormed d := wellFormed_giving hvars harguments harguments
  have hpermuted : Permuted d d' := permuted_giving (.swap _ _ _) (.swap _ _ _) (by decide) (by decide)
    (fun t ht => (hvars t ht).shaped.1.executable) fun t ht => (harguments t ht).shaped.1.executable
  obtain ⟨hsame, hsome⟩ := ofOperation_of_permuted hd hpermuted
  obtain ⟨s, hs⟩ := hsome "Q" false _ rfl ⟨_, List.mem_singleton_self _, rfl, rfl⟩
  exact ⟨hd, hpermuted, s, hs, (hsame "Q" false).trans hs⟩

end PersistedOps.Signature
