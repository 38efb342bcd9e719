import PersistedOps.Proofs.Document.Alike
import PersistedOps.Proofs.Document.Rearranged

/-!
Signatures and the order of selections. Closing an operation follows the same spreads in whatever order
they stand, and what is closed is hidden and sorted alike, so rearranged documents have the same
signatures.
-/

namespace PersistedOps

open PersistedOps.Tree (Walks Revised Spreading SameSpreads)
open PersistedOps.Merged (spreadsFrom spreadsOf_eq)

variable {k : Kind} {n : Option String} {d d' : Tree} {ds ds' : List Tree}

/-! ### Definitions -/

/-- A definition whose selections are rearranged. -/
def Turned (d d' : Tree) : Prop := ∃ k n, SignableDefinition k n d ∧ Rearranged d d'

namespace SignableDefinition

theorem rearranged (h : SignableDefinition k n d) (hd : Rearranged d d') : SignableDefinition k n d' :=
  (hd.definition Moves.sort_eq h).right

theorem sort_eq (h : SignableDefinition k n d) (hd : Rearranged d d') : Sort.sort d = Sort.sort d' :=
  (hd.definition Moves.sort_eq h).sort_eq

theorem hide (h : SignableDefinition k n d) (hd : Rearranged d d') :
    Rearranged (changed Literals.hide d) (changed Literals.hide d') := by
  have hselections : ∀ {t u}, Moves SignableSelection (fun x y =>
      Rearranged (changed Literals.hide x) (changed Literals.hide y)) t u →
      Rearranged (changed Literals.hide t) (changed Literals.hide u) :=
    Moves.hide fun ht => (ht.revise keeps_hideNode).imp fun _ hu => hu.1
  exact Moves.hide (fun ht => (ht.revise keeps_hideNode).imp fun _ hu => hu.1)
    (hd.definition hselections h)

theorem spreads_perm (h : SignableDefinition k n d) (hd : Rearranged d d') :
    (spreadsFrom d).Perm (spreadsFrom d') := by
  have hmoves := hd.definition (Moves.sameSpreads SignableSelection.spreading) h
  have h' := hmoves.right
  cases hmoves with
  | same => exact .refl _
  | @selections l es xs ys zs owns each selected order =>
      have hnames : ∀ {t : Tree} {ts : List Tree}, SignableDefinition k n t →
          t.get? .selectionSet = some (.selectionSet ts) →
          spreadsFrom t = Tree.spreadNames (.selectionSet ts) := by
        intro t ts ht hget
        obtain ⟨selections, hset, hspreads, -⟩ := ht.exists_selections
        obtain rfl := selectionSet_inj (Option.some.inj (hset.symm.trans hget))
        rw [spreadsFrom, hspreads, Tree.spreadNames]
      rw [hnames h (Tree.get?_ofOptions owns.order owns.mem), hnames h'
        (Tree.get?_ofOptions (Tree.inOrder_replace owns.order _) (Tree.mem_replace owns.mem _))]
      exact (sameSpreads_selectionSet (Tree.sameSpreads_list each order.perm)).perm

end SignableDefinition

/-- A rearranged definition is filed where the definition is, and the names it spreads are the same. -/
theorem Turned.alike (h : Turned d d') : Alike d d' := by
  obtain ⟨k, n, hd, hrearranged⟩ := h
  have hd' := hd.rearranged hrearranged
  exact ⟨⟨k, n, hd⟩, hd'.kind_eq.trans hd.kind_eq.symm, hd.nameOf_congr hd',
    (Separate.keyOf_eq hd').trans (Separate.keyOf_eq hd).symm, spreadsFrom d',
    spreadsOf_eq hd'.exists_spreadsOf, hd.spreads_perm hrearranged⟩

theorem allSignable_left (h : List.Forall₂ Turned ds ds') : AllSignable ds := by
  intro d hd
  obtain ⟨d', -, k, n, hdefinition, -⟩ := exists_of_mem_left h hd
  exact ⟨k, n, hdefinition⟩

theorem allSignable_right (h : List.Forall₂ Turned ds ds') : AllSignable ds' := by
  intro d' hd'
  obtain ⟨d, -, k, n, hdefinition, hrearranged⟩ := exists_of_mem_left h.flip hd'
  exact ⟨k, n, hdefinition.rearranged hrearranged⟩

/-! ### Closing -/

namespace Separate

/-- Closed documents whose definitions are rearranged. -/
def TurnedDocument (t u : Tree) : Prop :=
  ∃ ds ds', t = .document ds ∧ u = .document ds' ∧ List.Forall₂ Turned ds ds'

/-- Separation closes each operation of rearranged definitions over the same names. -/
theorem exists_ofDocument (h : List.Forall₂ Turned ds ds') :
    ∃ separated separated', ofDocument (.document ds) = .ok separated ∧
      ofDocument (.document ds') = .ok separated' ∧
      Entries.Related TurnedDocument separated separated' :=
  exists_ofDocument_of_alike Turned.alike h

/-- An operation of a document has a closed document under its name. -/
theorem exists_get?_ofDocument {m : String} {separated : Entries Tree}
    (h : ofDocument (.document ds) = .ok separated) (hd : d ∈ ds)
    (hkind : d.kind? = some .operationDefinition) (hkey : keyOf d = .ok (.text m)) :
    ∃ closed, separated.get? (.text m) = some closed := by
  obtain ⟨g, es, -, hes, rfl⟩ := ofDocument_eq_ok_iff.mp h
  obtain ⟨i, hi⟩ : ∃ i, (d, i) ∈ ds.zipIdx := by
    have hmap : d ∈ ds.zipIdx.map Prod.fst := by rwa [List.zipIdx_map_fst]
    obtain ⟨⟨_, i⟩, hi, rfl⟩ := List.mem_map.mp hmap
    exact ⟨i, hi⟩
  have hmem : (d, i) ∈ ds.zipIdx.filter fun d => d.1.kind? = some .operationDefinition :=
    List.mem_filter.mpr ⟨hi, decide_eq_true hkind⟩
  obtain ⟨e, he, hclosed⟩ := exists_of_mem_left (mapM_eq_ok_iff.mp hes) hmem
  have hfound : e ∈ es.filter (·.1 = .text m) := by
    obtain ⟨names, -, hclosed⟩ := bind_eq_ok_iff.mp hclosed
    obtain ⟨key, hfiled, hclosed⟩ := bind_eq_ok_iff.mp hclosed
    obtain ⟨closed, -, heq⟩ := bind_eq_ok_iff.mp hclosed
    cases heq
    cases hkey.symm.trans hfiled
    exact List.mem_filter.mpr ⟨he, by simp⟩
  have hlast := List.getLast?_eq_some_getLast (List.ne_nil_of_mem hfound)
  exact ⟨_, by rw [Entries.get?_update rfl, hlast]; rfl⟩

end Separate

/-! ### Signatures -/

namespace Signature

open PersistedOps.Separate (TurnedDocument)

theorem map_hide (h : List.Forall₂ Turned ds ds') : List.Forall₂ Turned
    (ds.map (changed Literals.hide)) (ds'.map (changed Literals.hide)) := by
  rw [List.forall₂_map_left_iff, List.forall₂_map_right_iff]
  refine h.imp fun d d' hd => ?_
  obtain ⟨k, n, hdefinition, hrearranged⟩ := hd
  exact ⟨k, n, (hdefinition.changed_revise keeps_hideNode).2, hdefinition.hide hrearranged⟩

theorem sort_eq (h : List.Forall₂ Turned ds ds') :
    Sort.sort (.document ds) = Sort.sort (.document ds') := by
  have heach : List.Forall₂ (fun d d' => Sort.sort d = Sort.sort d') ds ds' := by
    refine h.imp fun d d' hd => ?_
    obtain ⟨k, n, hdefinition, hrearranged⟩ := hd
    exact hdefinition.sort_eq hrearranged
  have hsorts : ∀ d ∈ ds, ∃ u, Sort.sort d = .ok u := by
    intro d hd
    obtain ⟨k, n, hdefinition⟩ := allSignable_left h d hd
    exact (hdefinition.revise Sort.keeps_sortNode).imp fun _ hu => hu.1
  have hleft := (revise_document Sort.keeps_sortNode (allSignable_left h)).1
  have hright := (revise_document Sort.keeps_sortNode (allSignable_right h)).1
  have hmap : ds.map (changed (Tree.revise Sort.sortNode)) = ds'.map (changed (Tree.revise Sort.sortNode)) :=
    map_changed_eq hsorts heach
  rw [Sort.sort, Sort.sort, hleft, hright, hmap]

/-- What stands for closed documents does not tell the order of their selections. -/
theorem ofClosed_eq (h : List.Forall₂ Turned ds ds') (literals : Bool) :
    ofClosed literals (.document ds) = ofClosed literals (.document ds') := by
  cases literals with
  | true => exact congrArg (· >>= printReduced) (sort_eq h)
  | false =>
      rw [ofClosed, ofClosed, if_neg Bool.false_ne_true, (hide_document (allSignable_left h)).1,
        (hide_document (allSignable_right h)).1]
      exact congrArg (· >>= printReduced) (sort_eq (map_hide h))

theorem allSignable_of_wellFormed (h : WellFormed (.document ds)) : AllSignable ds := by
  generalize ht : Tree.document ds = t at h
  obtain @⟨definitions, items⟩ := h
  cases definitions with
  | none => cases ht
  | some definitions =>
      cases ht
      exact fun d hd => (items d hd).signs

theorem turned_of_rearranged (h : AllSignable ds) (hd : List.Forall₂ Rearranged ds ds') :
    List.Forall₂ Turned ds ds' := by
  induction hd with
  | nil => exact .nil
  | cons hd _ ih =>
      obtain ⟨⟨k, n, hdefinition⟩, hrest⟩ := List.forall_mem_cons.mp h
      exact .cons ⟨k, n, hdefinition, hd⟩ (ih hrest)

/-- Rearranging selections, those of one kind and name in their order, leaves an operation with the
signature it has. -/
theorem ofOperation_of_rearranged (literals : Bool) {m : String} (hds : WellFormed (.document ds))
    (h : List.Forall₂ Rearranged ds ds')
    (hm : ∃ d ∈ ds, d.kind? = some .operationDefinition ∧ Separate.keyOf d = .ok (.text m)) :
    ∃ s, ofOperation (.document ds) m literals = .ok s ∧
      ofOperation (.document ds') m literals = .ok s := by
  have hsignable := allSignable_of_wellFormed hds
  have hturned : List.Forall₂ Turned ds ds' := turned_of_rearranged hsignable h
  obtain ⟨separated, separated', hseparated, hseparated', hrelated⟩ := Separate.exists_ofDocument hturned
  obtain ⟨d, hd, hkind, hkey⟩ := hm
  obtain ⟨closed, hclosed⟩ := Separate.exists_get?_ofDocument hseparated hd hkind hkey
  obtain ⟨closed', hclosed', cs, cs', rfl, rfl, hcs⟩ := hrelated.exists_get? hclosed
  obtain ⟨s, hs⟩ := exists_ofClosed (allSignable_left hcs) literals
  have hs' := (ofClosed_eq hcs literals).symm.trans hs
  refine ⟨s, ?_, ?_⟩
  · rw [ofOperation, closeOver, hseparated]
    simp only [hclosed, hs]
  · rw [ofOperation, closeOver, hseparated']
    simp only [hclosed', hs']

/-- A query of some fields, each under a label. -/
def labelled (n : String) (fields : List (String × String)) : Tree := .ofOptions .operationDefinition
  [(.description, none), (.operation, some (.operation .query)), (.name, (some n).map .name),
    (.variableDefinitions, (none : Option (List Tree)).map .list),
    (.directives, (none : Option (List Tree)).map .list),
    (.selectionSet, some (.selectionSet (fields.map labelledField)))]
where
  labelledField (field : String × String) : Tree := .ofOptions .field
    [(.aliasName, (some field.1).map .name), (.name, some (.name field.2)),
      (.arguments, (none : Option (List Tree)).map .list),
      (.directives, (none : Option (List Tree)).map .list),
      (.selectionSet, (none : Option (List Tree)).map .selectionSet)]

theorem wellFormed_labelled {m : String} {fields : List (String × String)} (hm : IsName m)
    (hfields : ∀ f ∈ fields, IsName f.1 ∧ IsName f.2) (hfilled : fields ≠ []) :
    WellFormed (.document [labelled m fields]) := by
  have hselections : ∀ t ∈ fields.map labelled.labelledField, Grammatical .selection t := by
    intro t ht
    obtain ⟨f, hf, rfl⟩ := List.mem_map.mp ht
    exact .field (by simpa using (hfields f hf).1) (hfields f hf).2 (by simp) (by simp) (by simp)
  have hdefinition : Grammatical .definition (labelled m fields) :=
    .operation .query (by simp) (by simpa using hm) (by simp) (by simp)
      (.selectionSet (by simpa using hfilled) hselections)
  have hitems : ∀ t ∈ (some [labelled m fields]).getD [], Grammatical .definition t := by
    simpa using hdefinition
  exact .document hitems

/-- Two fields of different names in either order. -/
theorem ofOperation_of_rearranged_fields : ∃ s,
    ofOperation (.document [labelled "Q" [("x", "f"), ("y", "g")]]) "Q" false = .ok s ∧
    ofOperation (.document [labelled "Q" [("y", "g"), ("x", "f")]]) "Q" false = .ok s := by
  have hfields : ∀ f ∈ [("x", "f"), ("y", "g")], IsName f.1 ∧ IsName f.2 := by
    simp only [List.forall_mem_cons]
    exact ⟨⟨.of_toList rfl rfl rfl, .of_toList rfl rfl rfl⟩,
      ⟨.of_toList rfl rfl rfl, .of_toList rfl rfl rfl⟩, by simp⟩
  refine ofOperation_of_rearranged false (wellFormed_labelled (.of_toList rfl rfl rfl) hfields
    (by simp)) (.cons ?_ .nil) ⟨_, List.mem_singleton_self _, rfl, rfl⟩
  exact rearranged_of_reordered rfl (reordered_swap (by decide) [])

/-- Fields of one name are sorted already. -/
theorem sort_labelled {m : String} {fields : List (String × String)}
    (hfields : ∀ f ∈ fields, f.2 = "f") :
    Sort.sort (.document [labelled m fields]) = .ok (.document [labelled m fields]) := by
  have hfield : ∀ f : String × String, Revised Sort.sortNode (labelled.labelledField f)
      (labelled.labelledField f) := fun _ => rfl
  have hitems : Sort.sortItems Sort.byKindAndName (fields.map labelled.labelledField)
      = .ok (fields.map labelled.labelledField) := by
    refine Sort.sortItems_of_one_key (Kind.sortName .field) (some "f") fun t ht => ?_
    obtain ⟨f, hf, rfl⟩ := List.mem_map.mp ht
    rw [← hfields f hf]
    exact byKindAndName_field
  have hset : Revised Sort.sortNode (.selectionSet (fields.map labelled.labelledField))
      (.selectionSet (fields.map labelled.labelledField)) := by
    have hrevised : List.Forall₂ (Revised Sort.sortNode) (fields.map labelled.labelledField)
        (fields.map labelled.labelledField) := by
      rw [List.forall₂_map_left_iff, List.forall₂_map_right_iff, List.forall₂_same]
      exact fun f _ => hfield f
    refine (Tree.revise_selectionSet hrevised).trans ?_
    rw [sortNode_selectionSet_eq, hitems]
    rfl
  have hdefinition : Revised Sort.sortNode (labelled m fields) (labelled m fields) := by
    have hname := Sort.keeps_sortNode.revised_name m
    have hwalk : Walks (Revised Sort.sortNode) .operationDefinition
        [(.description, none), (.operation, some (.operation .query)), (.name, some (.name m)),
          (.variableDefinitions, none), (.directives, none),
          (.selectionSet, some (.selectionSet (fields.map labelled.labelledField)))]
        [(.description, none), (.operation, some (.operation .query)), (.name, some (.name m)),
          (.variableDefinitions, none), (.directives, none),
          (.selectionSet, some (.selectionSet (fields.map labelled.labelledField)))] :=
      .walked (by decide) .none (.kept (by decide) (.walked (by decide) (.one hname)
        (.walked (by decide) .none (.walked (by decide) .none
        (.walked (by decide) (.one hset) .nil)))))
    exact Tree.revise_ofOptions hwalk
  have hdocument : Walks (Revised Sort.sortNode) .document
      [(.definitions, some (.list [labelled m fields]))]
      [(.definitions, some (.list [labelled m fields]))] :=
    .walked (by decide) (.list (.cons hdefinition .nil)) .nil
  exact (Tree.revise_ofOptions hdocument).trans rfl

/-- Two fields of one name in either order: the signatures tell the order. -/
theorem ofOperation_of_swapped_fields :
    WellFormed (.document [labelled "Q" [("x", "f"), ("y", "f")]]) ∧
    ofOperation (.document [labelled "Q" [("x", "f"), ("y", "f")]]) "Q" false
      = .ok "query Q{x:f y:f}" ∧
    ofOperation (.document [labelled "Q" [("y", "f"), ("x", "f")]]) "Q" false
      = .ok "query Q{y:f x:f}" := by
  have hfields : ∀ f ∈ [("x", "f"), ("y", "f")], IsName f.1 ∧ IsName f.2 := by
    simp only [List.forall_mem_cons]
    exact ⟨⟨.of_toList rfl rfl rfl, .of_toList rfl rfl rfl⟩,
      ⟨.of_toList rfl rfl rfl, .of_toList rfl rfl rfl⟩, by simp⟩
  -- Nothing is left of signing but to print.
  have hsigned : ∀ {fields s}, (∀ f ∈ fields, f.2 = "f") →
      closeOver (.document [labelled "Q" fields]) "Q" = .ok (.document [labelled "Q" fields]) →
      Literals.hide (.document [labelled "Q" fields]) = .ok (.document [labelled "Q" fields]) →
      (printReduced (.document [labelled "Q" fields])).toOption = some s →
      ofOperation (.document [labelled "Q" fields]) "Q" false = .ok s := by
    intro fields s hnames hclosed hhide hprinted
    rw [ofOperation, hclosed]
    simp only [ofClosed, if_neg Bool.false_ne_true, hhide, bind, Except.bind, sort_labelled hnames,
      eq_ok_of_toOption hprinted]
  refine ⟨wellFormed_labelled (.of_toList rfl rfl rfl) hfields (by simp), ?_, ?_⟩
  · exact hsigned (by simp) rfl rfl (by decide +kernel)
  · exact hsigned (by simp) rfl rfl (by decide +kernel)

end Signature

end PersistedOps
