import PersistedOps.Proofs.Document.Canonical
import PersistedOps.Proofs.Document.Parts

/-!
Selection sets that hold nothing. Normal type names leave none to a field, an operation or a fragment
definition, whose sets begin with one. An inline fragment relies on the type name around it, so its set
is left empty when it selects nothing but type names.
-/

namespace PersistedOps

namespace Typename

open PersistedOps.Attributes (mem_of_get? get?_of_mem)
open PersistedOps.Tree (Executable Inside Revised PartRevised)

/-- A node whose selection set holds nothing. -/
def Bare (d : Tree) : Prop := d.get? .selectionSet = some (.selectionSet [])

/-- Every inline fragment selects something, at any depth. -/
def FilledInline (t : Tree) : Prop :=
  ∀ d, Inside d t → d.kind? = some .inlineFragment → ¬Bare d

section

variable {k : Kind} {attributes others : Attributes} {items : List Tree} {t u d : Tree}

/-! ### Inline fragments -/

theorem filledInline_node : FilledInline (.node k attributes) ↔
    (k = .inlineFragment → ¬Bare (.node k attributes)) ∧
      ∀ e ∈ attributes, FilledInline e.2 := by
  refine Tree.forall_inside_node.trans (and_congr_left fun _ => ?_)
  simp only [Tree.kind?, Option.some.injEq]

theorem filledInline_list : FilledInline (.list items) ↔ ∀ t ∈ items, FilledInline t :=
  Tree.forall_inside_list.trans (and_iff_right nofun)

theorem filledInline_atom (h : t.isAtom) : FilledInline t := by
  refine (Tree.forall_inside_atom h).mpr fun hkind => ?_
  cases t with
  | scalar | operation => cases hkind
  | _ => cases h

theorem filledInline_selectionSet :
    FilledInline (.selectionSet items) ↔ ∀ t ∈ items, FilledInline t := by
  rw [Tree.selectionSet, filledInline_node, List.forall_mem_singleton, filledInline_list]
  exact and_iff_right nofun

theorem filledInline_field : FilledInline field := by
  have hname : FilledInline (.node .name [(.value, .text name)]) := by
    refine filledInline_node.mpr ⟨nofun, ?_⟩
    rw [List.forall_mem_singleton]
    exact filledInline_atom rfl
  refine filledInline_node.mpr ⟨nofun, ?_⟩
  simp only [List.forall_mem_cons, List.not_mem_nil, false_imp_iff, implies_true, and_true]
  exact ⟨hname, filledInline_list.mpr (by simp), filledInline_list.mpr (by simp)⟩

/-! ### Putting in front leaves inline fragments -/

/-- A selection set goes to one, which is empty when the set is. -/
theorem revised_selectionSet (hset : Executable (.selectionSet items))
    (h : Revised prepend (.selectionSet items) u) :
    ∃ us, u = .selectionSet us ∧ (us = [] ↔ items = []) := by
  obtain ⟨us, hus, hu⟩ := Tree.exists_revised_selections
    (Executable.not_isNull_of_mem (executable_of_mem hset)) h
  cases hu
  refine ⟨us, rfl, ?_⟩
  rw [← List.length_eq_zero_iff, ← hus.length_eq, List.length_eq_zero_iff]

/-- The set of an inline fragment is empty when it was before. -/
theorem bare_iff_of_parts (order : attributes.Pairwise fun e f => e.1.rank < f.1.rank)
    (parts : ∀ e ∈ attributes, e.1 ∈ k.visited → Executable e.2)
    (sets : ∀ e ∈ attributes, e.1 = .selectionSet → ∃ items, e.2 = .selectionSet items)
    (h : List.Forall₂ (PartRevised prepend k) attributes others) :
    Bare (.node k others) ↔ Bare (.node k attributes) := by
  have hsame {e e' : Attribute × Tree} (hmem : e ∈ attributes) (he : PartRevised prepend k e e')
      (ha : e.1 = .selectionSet) : e'.2 = .selectionSet [] ↔ e.2 = .selectionSet [] := by
    obtain ⟨items, hitems⟩ := sets e hmem ha
    cases he with
    | kept => rfl
    | walked hvisited hrevised =>
        obtain rfl : _ = Tree.selectionSet items := hitems
        obtain ⟨us, rfl, hempty⟩ := revised_selectionSet (parts _ hmem hvisited) hrevised
        simpa [Tree.selectionSet] using hempty
  constructor
  · intro hbare
    obtain ⟨⟨a, t⟩, hmem, he⟩ := exists_of_mem_left h.flip (mem_of_get? hbare)
    obtain rfl : Attribute.selectionSet = a := he.key_eq
    obtain rfl : t = .selectionSet [] := (hsame hmem he rfl).mp rfl
    exact get?_of_mem order hmem
  · intro hbare
    obtain ⟨⟨a, t⟩, hmem, he⟩ := exists_of_mem_left h (mem_of_get? hbare)
    obtain rfl : a = Attribute.selectionSet := he.key_eq
    obtain rfl : t = .selectionSet [] := (hsame (mem_of_get? hbare) he rfl).mpr rfl
    exact get?_of_mem (Tree.order_of_parts h order) hmem

/-- A type name in front of an owner's selections adds no inline fragment. -/
theorem filledInline_prepend (order : attributes.Pairwise fun e f => e.1.rank < f.1.rank)
    (sets : ∀ e ∈ attributes, e.1 = .selectionSet → ∃ items, e.2 = .selectionSet items)
    (h : prepend (.node k attributes) = .ok u) :
    FilledInline u ↔ FilledInline (.node k attributes) := by
  by_cases hfront : owns k = true ∧ (Attributes.get? attributes .selectionSet).isSome
  · obtain ⟨howns, hsome⟩ := hfront
    obtain ⟨set, hset⟩ := Option.isSome_iff_exists.mp hsome
    obtain ⟨items, rfl⟩ := sets _ (mem_of_get? hset) rfl
    have hk : k ≠ .inlineFragment := by
      rintro rfl
      cases howns
    rw [prepend_eq_map howns order hset] at h
    cases h
    rw [filledInline_node, filledInline_node, List.forall_mem_map]
    refine and_congr (by simp [hk]) (forall₂_congr fun e he => ?_)
    by_cases ha : e.1 = .selectionSet
    · obtain ⟨a, t⟩ := e
      obtain rfl : a = Attribute.selectionSet := ha
      cases (get?_of_mem order he).symm.trans hset
      rw [inFront, if_pos rfl, filledInline_selectionSet, filledInline_selectionSet,
        List.forall_mem_cons]
      exact and_iff_right filledInline_field
    · rw [inFront, if_neg ha]
  · have hnone (howns : owns k = true) : Attributes.get? attributes .selectionSet = none := by
      by_contra hsome
      exact hfront ⟨howns, Option.isSome_iff_ne_none.mpr hsome⟩
    rw [prepend_eq_self hnone] at h
    cases h
    rfl

theorem sets_of_parts (parts : ∀ e ∈ attributes, e.1 ∈ k.visited → Executable e.2)
    (sets : ∀ e ∈ attributes, e.1 = .selectionSet → ∃ items, e.2 = .selectionSet items)
    (h : List.Forall₂ (PartRevised prepend k) attributes others) :
    ∀ e ∈ others, e.1 = .selectionSet → ∃ items, e.2 = .selectionSet items := by
  intro e' he' ha
  obtain ⟨e, hmem, he⟩ := exists_of_mem_left h.flip he'
  obtain ⟨items, hitems⟩ := sets e hmem (he.key_eq ▸ ha)
  cases he with
  | kept => exact ⟨items, hitems⟩
  | walked hvisited hrevised =>
      obtain rfl : _ = Tree.selectionSet items := hitems
      obtain ⟨us, rfl, -⟩ := revised_selectionSet (parts _ hmem hvisited) hrevised
      exact ⟨us, rfl⟩

/-- Inline fragments keep what they select when type names are put in front. -/
theorem filledInline_revise (h : Executable t) (hu : Revised prepend t u) :
    FilledInline u ↔ FilledInline t := by
  induction h generalizing u with
  | @node k attributes other order parts atoms named sets ih =>
      obtain ⟨others, hothers, hprepend⟩ := Tree.exists_revised_parts hu
      have hparts : (∀ e ∈ others, FilledInline e.2) ↔ ∀ e ∈ attributes, FilledInline e.2 := by
        refine forall_mem_iff_of_forall₂ (forall₂_imp_of_mem hothers fun e he e' hpart => ?_)
        cases hpart with
        | walked hvisited hrevised => exact ih _ he hvisited hrevised
        | kept => rfl
      rw [filledInline_prepend (Tree.order_of_parts hothers order) (sets_of_parts parts sets hothers)
        hprepend, filledInline_node, filledInline_node, bare_iff_of_parts order parts sets hothers,
        hparts]
  | @selectionSet items each ih =>
      obtain ⟨us, hus, hprepend⟩ := Tree.exists_revised_selections
        (Executable.not_isNull_of_mem each) hu
      cases hprepend
      rw [filledInline_selectionSet, filledInline_selectionSet]
      exact forall_mem_iff_of_forall₂ (forall₂_imp_of_mem hus fun t ht u => ih t ht)
  | @list items each ih =>
      obtain ⟨us, rfl, hus⟩ := Tree.exists_revised_items (Executable.not_isNull_of_mem each) hu
      rw [filledInline_list, filledInline_list]
      exact forall_mem_iff_of_forall₂ (forall₂_imp_of_mem hus fun t ht u => ih t ht)

/-! ### Deleting keeps documents executable -/

theorem mem_eraseItems {inSet : Bool} (h : u ∈ eraseItems inSet items) :
    ∃ t ∈ items, u = erase false t := by
  induction items with
  | nil => cases h
  | cons t items ih =>
      have hlater (h : u ∈ eraseItems inSet items) : ∃ t' ∈ t :: items, u = erase false t' := by
        obtain ⟨t', ht', rfl⟩ := ih h
        exact ⟨t', List.mem_cons_of_mem _ ht', rfl⟩
      rw [eraseItems] at h
      split at h
      · exact hlater h
      · rcases List.mem_cons.mp h with rfl | h
        · exact ⟨t, List.mem_cons_self, rfl⟩
        · exact hlater h

theorem executable_eraseItems {inSet : Bool} (h : ∀ t ∈ items, Executable (erase false t)) :
    ∀ u ∈ eraseItems inSet items, Executable u := by
  intro u hu
  obtain ⟨t, ht, rfl⟩ := mem_eraseItems hu
  exact h t ht

theorem executable_erase (h : Executable t) : Executable (erase false t) := by
  induction h with
  | @node k attributes other order parts atoms named sets ih =>
      have hflag : (k == .selectionSet) = false := beq_eq_false_iff_ne.mpr other
      have hname := nameOf_erase false (.node k attributes)
      rw [erase, hflag, eraseAttributes_eq_map] at hname ⊢
      refine .node other (List.pairwise_map.mpr order) ?_ ?_ (fun hk => ?_) ?_
      · rw [List.forall_mem_map]
        exact ih
      · rw [List.forall_mem_map]
        intro e he ha
        rw [erase_atom (atoms e he ha)]
        exact atoms e he ha
      · rw [hname]
        exact named hk
      · rw [List.forall_mem_map]
        intro e he ha
        obtain ⟨items, hitems⟩ := sets e he ha
        rw [hitems]
        exact ⟨eraseItems true items, rfl⟩
  | selectionSet _ ih => exact .selectionSet (executable_eraseItems ih)
  | list _ ih => exact .list (executable_eraseItems ih)

/-! ### Owners are filled -/

theorem owns_or_inline (h : .selectionSet ∈ k.visited) : owns k = true ∨ k = .inlineFragment := by
  cases k <;> first | exact .inl rfl | exact .inr rfl | exact absurd h (by decide)

/-- An owner begins its selections with a type name, so no set but that of an inline fragment is
empty. -/
theorem inline_of_bare (hexecutable : Executable d) (hfits : Fits d) (h : Bare d) :
    d.kind? = some .inlineFragment := by
  cases hexecutable with
  | list | selectionSet => cases h
  | @node k attributes _ _ _ atoms =>
      have hvisited : .selectionSet ∈ k.visited := by
        by_contra hnot
        cases atoms _ (mem_of_get? h) hnot
      obtain howns | rfl := owns_or_inline hvisited
      · obtain ⟨rest, hrest, -⟩ := hfits.owner k rfl (owns_iff.mp howns) _ h
        simp [Tree.selectionSet] at hrest
      · rfl

/-! ### Documents -/

/-- After normalization no selection set is empty but those of inline fragments, and none of these if
each inline fragment selects something without type names. -/
theorem add_filled (h : Executable t) : ∃ u, add t = .ok u ∧
    (∀ d, Inside d u → Bare d → d.kind? = some .inlineFragment) ∧
    ((∀ d, Inside d u → ¬Bare d) ↔ FilledInline (withoutTypenames t)) := by
  obtain ⟨u, hu⟩ := exists_normal h
  have hinline : ∀ d, Inside d u → Bare d → d.kind? = some .inlineFragment := by
    intro d hd hbare
    obtain hexecutable | hatom := hu.executable.of_inside hd
    · exact inline_of_bare hexecutable (hu.canonical d hd) hbare
    · cases d with
      | scalar | operation => cases hbare
      | _ => cases hatom
  refine ⟨u, hu.add_eq h, hinline, ?_⟩
  calc (∀ d, Inside d u → ¬Bare d)
      ↔ FilledInline u :=
        ⟨fun hall d hd _ => hall d hd, fun hall d hd hbare => hall d hd (hinline d hd hbare) hbare⟩
    _ ↔ FilledInline (withoutTypenames t) := filledInline_revise (executable_erase h) hu.revised

theorem grammatical_leaf {n : String} (h : IsName n) : Grammatical .selection (leaf none n) :=
  .field nofun h (by simp) (by simp) nofun

theorem grammatical_inlineFragment (hfilled : items ≠ [])
    (h : ∀ t ∈ items, Grammatical .selection t) :
    Grammatical .selection (inlineFragment items) :=
  .inline nofun (by simp) (.selectionSet hfilled h)

theorem wellFormed_queryDocument (hfilled : items ≠ [])
    (h : ∀ t ∈ items, Grammatical .selection t) : WellFormed (queryDocument items) := by
  refine .document ?_
  rw [Option.getD_some, List.forall_mem_singleton]
  exact .operation .query nofun nofun (by simp) (by simp) (.selectionSet hfilled h)

theorem isName_name : IsName name :=
  ⟨'_', "_typename".toList, rfl, .inr rfl, List.all_eq_true.mp rfl⟩

/-- A query whose inline fragment selects more than the type name keeps every set filled. -/
theorem add_filled_query :
    let document := queryDocument [inlineFragment [leaf none name, leaf none "id"]]
    Executable document ∧ ∃ u, add document = .ok u ∧
      (∀ d, Inside d u → Bare d → d.kind? = some .inlineFragment) ∧
      ((∀ d, Inside d u → ¬Bare d) ↔ FilledInline (withoutTypenames document)) := by
  intro document
  have hdocument : Executable document := by
    refine executable_queryDocument ?_
    rw [List.forall_mem_singleton]
    refine shaped_inlineFragment ?_
    simp [shaped_leaf]
  exact ⟨hdocument, add_filled hdocument⟩

/-- A query whose inline fragment selects the type name alone is left with an empty set. -/
theorem add_empties_query :
    let document := queryDocument [inlineFragment [leaf none name]]
    WellFormed document ∧ ∃ u, add document = .ok u ∧ ∃ d, Inside d u ∧ Bare d := by
  intro document
  have hdocument : WellFormed document := by
    refine wellFormed_queryDocument (by simp) ?_
    rw [List.forall_mem_singleton]
    refine grammatical_inlineFragment (by simp) ?_
    rw [List.forall_mem_singleton]
    exact grammatical_leaf isName_name
  refine ⟨hdocument, queryDocument [field, inlineFragment []], ?_, inlineFragment [], ?_, rfl⟩
  · rw [add, strip_eq_erase hdocument.executable]
    rfl
  · -- The document holds the query, the query its set, and the set the fragment.
    have hset : (Attribute.selectionSet, Tree.selectionSet [field, inlineFragment []]) ∈
        [(Attribute.operation, Tree.operation .query),
          (.selectionSet, Tree.selectionSet [field, inlineFragment []])] := by simp
    exact .part List.mem_cons_self (.item List.mem_cons_self
      (.part hset (.part List.mem_cons_self (.item (by simp) .here))))

end

end Typename

end PersistedOps
