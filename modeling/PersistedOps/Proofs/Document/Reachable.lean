import PersistedOps.Proofs.Document.Closure
import PersistedOps.Proofs.Document.Merging

/-!
What an operation reaches. A spread may stand at any depth below a selection set, and the fragments
that it leads to may spread others, one another or themselves, or none that is there. Each merged
operation is separated with exactly the fragments that it leads to, and its document, merged and
separated once more, comes back as it is.
-/

namespace PersistedOps

/-! ### Spreads at any depth -/

namespace Tree

/-- A tree stands within another, at any depth that a traversal walks. -/
inductive Within (t : Tree) : Tree → Prop
  | here : Within t t
  | part {k : Kind} {attributes : Attributes} {a : Attribute} {u : Tree} (walked : a ∈ k.visited)
      (mem : (a, u) ∈ attributes) (within : Within t u) : Within t (.node k attributes)
  | item {items : List Tree} {u : Tree} (mem : u ∈ items) (within : Within t u) :
      Within t (.list items)

/-- A spread of the fragment of a name. -/
structure IsSpread (t : Tree) (n : String) : Prop where
  kind : t.kind? = some .fragmentSpread
  name : t.nameOf = .ok (.text n)

/-- A spread of the name stands within the tree. -/
def HasSpread (t : Tree) (n : String) : Prop := ∃ s, IsSpread s n ∧ Within s t

/-- A tree that a traversal can walk, whose spreads have names. -/
inductive Walkable : Tree → Prop
  | node {k : Kind} {attributes : Attributes}
      (parts : ∀ e ∈ attributes, e.1 ∈ k.visited → Walkable e.2)
      (named : k = .fragmentSpread → ∃ n, Tree.nameOf (.node k attributes) = .ok (.text n)) :
      Walkable (.node k attributes)
  | list {items : List Tree} (each : ∀ t ∈ items, t.isNull = false → Walkable t) :
      Walkable (.list items)

theorem hasSpread_node_iff {k : Kind} {attributes : Attributes} {n : String} :
    HasSpread (.node k attributes) n ↔ IsSpread (.node k attributes) n ∨
      ∃ e ∈ attributes, e.1 ∈ k.visited ∧ HasSpread e.2 n := by
  constructor
  · rintro ⟨s, hs, hwithin⟩
    cases hwithin with
    | here => exact .inl hs
    | part walked mem within => exact .inr ⟨_, mem, walked, s, hs, within⟩
  · rintro (h | ⟨e, he, hvisited, s, hs, hwithin⟩)
    · exact ⟨_, h, .here⟩
    · exact ⟨s, hs, .part hvisited he hwithin⟩

theorem hasSpread_list_iff {items : List Tree} {n : String} :
    HasSpread (.list items) n ↔ ∃ t ∈ items, HasSpread t n := by
  constructor
  · rintro ⟨s, hs, hwithin⟩
    cases hwithin with
    | here => cases hs.kind
    | item mem within => exact ⟨_, mem, s, hs, within⟩
  · rintro ⟨t, ht, s, hs, hwithin⟩
    exact ⟨s, hs, .item ht hwithin⟩

theorem not_hasSpread_null {t : Tree} {n : String} (h : t.isNull = true) : ¬HasSpread t n := by
  rintro ⟨s, hs, hwithin⟩
  cases hwithin with
  | here =>
      have hkind := hs.kind
      cases t <;> cases hkind
      cases h
  | part => cases h
  | item => cases h

/-- The collected spreads of a tree are those that stand within it. -/
def Collects (t : Tree) : Prop :=
  ∃ names : List String, t.spreads = .ok (names.map .text) ∧ ∀ n, n ∈ names ↔ HasSpread t n

theorem collects_attributes {k : Kind} {attributes : Attributes}
    (h : ∀ e ∈ attributes, e.1 ∈ k.visited → Collects e.2) :
    ∃ names : List String, spreadsInAttributes k attributes = .ok (names.map .text) ∧
      ∀ n, n ∈ names ↔ ∃ e ∈ attributes, e.1 ∈ k.visited ∧ HasSpread e.2 n := by
  induction attributes with
  | nil => exact ⟨[], rfl, by simp⟩
  | cons e attributes ih =>
      obtain ⟨he, hrest⟩ := List.forall_mem_cons.mp h
      obtain ⟨others, hothers, hmem⟩ := ih hrest
      obtain ⟨a, t⟩ := e
      rw [spreadsInAttributes]
      by_cases ha : a ∈ k.visited
      · obtain ⟨names, hnames, hmemNames⟩ := he ha
        refine ⟨names ++ others, ?_, fun n => ?_⟩
        · rw [if_pos ha, hnames, hothers, List.map_append]
          rfl
        · simp [hmem, hmemNames, ha]
      · refine ⟨others, ?_, fun n => ?_⟩
        · rw [if_neg ha, hothers]
        · simp [hmem, ha]

theorem collects_items {items : List Tree} (h : ∀ t ∈ items, t.isNull = false → Collects t) :
    ∃ names : List String, spreadsInItems items = .ok (names.map .text) ∧
      ∀ n, n ∈ names ↔ ∃ t ∈ items, HasSpread t n := by
  induction items with
  | nil => exact ⟨[], rfl, by simp⟩
  | cons t items ih =>
      obtain ⟨ht, hrest⟩ := List.forall_mem_cons.mp h
      obtain ⟨others, hothers, hmem⟩ := ih hrest
      rw [spreadsInItems]
      cases hnull : t.isNull with
      | true =>
          refine ⟨others, ?_, fun n => ?_⟩
          · rw [if_pos rfl, hothers]
          · simp [hmem, not_hasSpread_null hnull]
      | false =>
          obtain ⟨names, hnames, hmemNames⟩ := ht hnull
          refine ⟨names ++ others, ?_, fun n => ?_⟩
          · rw [if_neg Bool.false_ne_true, hnames, hothers, List.map_append]
            rfl
          · simp [hmem, hmemNames]

/-- Collecting the spreads of a tree that can be walked finds them all, and nothing else. -/
theorem Walkable.collects {t : Tree} (h : Walkable t) : Collects t := by
  induction h with
  | @node k attributes _ named ih =>
      obtain ⟨others, hothers, hmem⟩ := collects_attributes ih
      by_cases hk : k = .fragmentSpread
      · obtain ⟨m, hm⟩ := named hk
        refine ⟨m :: others, ?_, fun n => ?_⟩
        · rw [spreads, if_pos hk, hm, hothers]
          rfl
        · have hhere : IsSpread (.node k attributes) n ↔ n = m := by
            constructor
            · intro hspread
              cases hm.symm.trans hspread.name
              rfl
            · rintro rfl
              exact ⟨congrArg some hk, hm⟩
          rw [hasSpread_node_iff, List.mem_cons, hmem, hhere]
      · refine ⟨others, ?_, fun n => ?_⟩
        · rw [spreads, if_neg hk, hothers]
          rfl
        · have hhere : ¬IsSpread (.node k attributes) n := fun hspread =>
            hk (Option.some.inj hspread.kind)
          rw [hasSpread_node_iff, hmem, or_iff_right hhere]
  | list _ ih =>
      obtain ⟨names, hnames, hmem⟩ := collects_items ih
      refine ⟨names, ?_, fun n => ?_⟩
      · rw [spreads, hnames]
      · rw [hasSpread_list_iff, hmem]

end Tree

namespace Merged

/-! ### Named definitions -/

/-- A spread of the name stands below the selection set of a definition. -/
def SpreadsBelow (definition : Tree) (n : String) : Prop :=
  ∃ selections, definition.get? .selectionSet = some selections ∧ selections.HasSpread n

/-- A definition of a kind with a name and a selection set. -/
structure NamedDefinition (k : Kind) (n : String) (definition : Tree) : Prop where
  kind : definition.kind? = some k
  name : definition.nameOf = .ok (.text n)
  selections : ∃ l attributes, definition.get? .selectionSet = some (.node l attributes) ∧
    (Tree.node l attributes).Walkable

/-- Named fragments and operations, each filed under its name, and no name twice among either. -/
structure AllNamed (m : Merged) : Prop where
  fragments : ∀ e ∈ m.fragments, ∃ n, e.1 = .text n ∧ NamedDefinition .fragmentDefinition n e.2
  operations : ∀ e ∈ m.operations, ∃ n, n ≠ "" ∧ e.1 = .text n ∧
    NamedDefinition .operationDefinition n e.2
  fragmentKeys : (m.fragments.map (·.1)).Nodup
  operationKeys : (m.operations.map (·.1)).Nodup

section

variable {k : Kind} {n : String} {d : Tree} {m : Merged}

/-- What a definition spreads are the spreads below its selection set. -/
theorem NamedDefinition.exists_spreadsOf (h : NamedDefinition k n d)
    (hk : .selectionSet ∈ k.attributes) :
    ∃ names : List String, Separate.spreadsOf d = .ok (names.map .text) ∧
      ∀ f, f ∈ names ↔ SpreadsBelow d f := by
  obtain ⟨l, attributes, hset, hwalkable⟩ := h.selections
  obtain ⟨names, hnames, hmem⟩ := hwalkable.collects
  refine ⟨names, ?_, fun f => ?_⟩
  · have hattr : d.attr .selectionSet = .ok (.node l attributes) := by
      have hkind := h.kind
      cases d <;> cases hkind
      rw [Tree.attr, if_pos hk]
      exact congrArg (fun o => Except.ok (o.getD Tree.null)) hset
    rw [Separate.spreadsOf, hattr]
    exact hnames
  · rw [hmem, SpreadsBelow, hset]
    simp

theorem NamedDefinition.spreadable (h : NamedDefinition k n d) (hk : .selectionSet ∈ k.attributes) :
    Spreadable k n d := by
  obtain ⟨names, hnames, -⟩ := h.exists_spreadsOf hk
  exact ⟨h.kind, h.name, names, hnames⟩

theorem NamedDefinition.spreads_iff (h : NamedDefinition k n d) (hk : .selectionSet ∈ k.attributes)
    {f : String} : Spreads d f ↔ SpreadsBelow d f := by
  obtain ⟨names, hnames, hmem⟩ := h.exists_spreadsOf hk
  rw [Spreads, hnames, ← hmem]
  simp

theorem AllNamed.closable (h : m.AllNamed) : m.Closable where
  fragments.each e he := by
    obtain ⟨n, hkey, hd⟩ := h.fragments e he
    exact ⟨n, hkey, hd.spreadable (by decide)⟩
  fragments.nodup := h.fragmentKeys
  operations.each e he := by
    obtain ⟨n, -, hkey, hd⟩ := h.operations e he
    exact ⟨n, hkey, hd.spreadable (by decide)⟩
  operations.nodup := h.operationKeys

/-- An operation leads to the names that are spread below it, and to those spread below the merged
fragments of names that it leads to. -/
inductive LeadsTo (m : Merged) (operation : Tree) : String → Prop
  | spread {n : String} (h : SpreadsBelow operation n) : LeadsTo m operation n
  | through {f n : String} {fragment : Tree} (h : LeadsTo m operation f)
      (found : (.text f, fragment) ∈ m.fragments) (spreads : SpreadsBelow fragment n) :
      LeadsTo m operation n

theorem AllNamed.reaches_iff (h : m.AllNamed) {e : Scalar × Tree} (he : e ∈ m.operations) {f : String} :
    m.Reaches e.2 f ↔ m.LeadsTo e.2 f := by
  obtain ⟨_, -, -, hd⟩ := h.operations e he
  have spreads_fragment {f : String} {fragment : Tree} (hf : (.text f, fragment) ∈ m.fragments)
      {n : String} : Spreads fragment n ↔ SpreadsBelow fragment n := by
    obtain ⟨_, -, hfragment⟩ := h.fragments _ hf
    exact hfragment.spreads_iff (by decide)
  constructor
  · intro hreaches
    induction hreaches with
    | spread hspreads => exact .spread ((hd.spreads_iff (by decide)).mp hspreads)
    | through _ found spreads ih =>
        have hf := (Entries.get?_text_iff h.fragmentKeys).mp found
        exact .through ih hf ((spreads_fragment hf).mp spreads)
  · intro hleads
    induction hleads with
    | spread hspreads => exact .spread ((hd.spreads_iff (by decide)).mpr hspreads)
    | through _ found spreads ih =>
        exact .through ih ((Entries.get?_text_iff h.fragmentKeys).mpr found)
          ((spreads_fragment found).mpr spreads)

open Classical in
/-- The document of an operation: the fragments that it leads to, in merged order, and the operation. -/
noncomputable def closedDocument (m : Merged) (operation : Tree) : Tree :=
  Tree.document ((m.fragments.filter fun e => ∃ n, e.1 = .text n ∧ m.LeadsTo operation n).map (·.2)
    ++ [operation])

theorem AllNamed.toDocument_closureOf (h : m.AllNamed) {e : Scalar × Tree} (he : e ∈ m.operations) :
    (m.closureOf e).toDocument = m.closedDocument e.2 := by
  rw [toDocument, Merged.closureOf, closedDocument]
  refine congrArg (fun fragments : Entries Tree => Tree.document (fragments.map (·.2) ++ [e.2])) ?_
  refine List.filter_congr fun f _ => decide_eq_decide.mpr ?_
  exact exists_congr fun n => and_congr_right fun _ => h.reaches_iff he

/-! ### Merging and separating once more -/

open Classical in
/-- The closure of an operation is closed. -/
theorem AllNamed.closureOf_closureOf (h : m.AllNamed) (e : Scalar × Tree) :
    (m.closureOf e).closureOf e = m.closureOf e := by
  have hagree (f : String) (hf : m.Reaches e.2 f) :
      m.fragments.get? (.text f) = (m.closureOf e).fragments.get? (.text f) := by
    have hnodup : ((m.closureOf e).fragments.map (·.1)).Nodup :=
      h.fragmentKeys.sublist (List.filter_sublist.map _)
    refine Option.ext fun d => ?_
    rw [Entries.get?_text_iff h.fragmentKeys, Entries.get?_text_iff hnodup, Merged.closureOf,
      List.mem_filter, decide_eq_true_eq]
    exact ⟨fun hmem => ⟨hmem, f, rfl, hf⟩, fun hmem => hmem.1⟩
  have hkept : (m.closureOf e).closureOf e = ⟨((m.closureOf e).closureOf e).fragments, [e]⟩ := rfl
  rw [hkept]
  refine congrArg (Merged.mk · [e]) (List.filter_eq_self.mpr fun f hf => ?_)
  obtain ⟨-, hreached⟩ := List.mem_filter.mp hf
  obtain ⟨n, hkey, hreaches⟩ := of_decide_eq_true hreached
  exact decide_eq_true ⟨n, hkey, (reaches_congr hagree).mp hreaches⟩

theorem AllNamed.closureOf (h : m.AllNamed) {e : Scalar × Tree} (he : e ∈ m.operations) :
    (m.closureOf e).AllNamed where
  fragments f hf := h.fragments f (List.mem_filter.mp hf).1
  operations f hf := h.operations f (List.mem_singleton.mp hf ▸ he)
  fragmentKeys := h.fragmentKeys.sublist (List.filter_sublist.map _)
  operationKeys := List.nodup_singleton _

/-- What is merged is merged as it is once more. -/
theorem AllNamed.ofDocuments_eq (h : m.AllNamed) : Merged.ofDocuments [m.toDocument] = .ok m := by
  refine ofDocuments_toDocument (.of_named h.fragmentKeys (fun j hj => ?_) fun e he => ?_)
    (.of_named h.operationKeys (fun j hj => ?_) fun e he => ?_) fun d hd => ?_
  · obtain ⟨e, he, rfl⟩ := List.mem_map.mp hj
    obtain ⟨n, hkey, -⟩ := h.fragments e he
    exact hkey ▸ rfl
  · obtain ⟨n, hkey, hd⟩ := h.fragments e he
    exact filedAs?_eq_some_iff.mpr ⟨hd.kind, hkey ▸ hd.name⟩
  · obtain ⟨e, he, rfl⟩ := List.mem_map.mp hj
    obtain ⟨n, -, hkey, -⟩ := h.operations e he
    exact hkey ▸ rfl
  · obtain ⟨n, -, hkey, hd⟩ := h.operations e he
    exact filedAs?_eq_some_iff.mpr ⟨hd.kind, hkey ▸ hd.name⟩
  · obtain ⟨e, he, rfl⟩ := List.mem_map.mp hd
    obtain ⟨n, hne, -, hd⟩ := h.operations e he
    simp [isAnonymous, hd.name, Separate.isNone_name_of_nameOf hd.name, Except.toOption, Scalar.points?, hne]

/-- Separating named fragments and operations gives one document for each operation, in merged order:
the fragments that it leads to through spreads at any depth, in merged order, and then the operation,
all as they were merged. Merging and separating such a document again gives that document. -/
theorem separate_closed (h : m.AllNamed) :
    Separate.ofMerged m = .ok (m.operations.map fun e => (e.1, m.closedDocument e.2)) ∧
      ∀ e ∈ m.operations, ∃ m', Merged.ofDocuments [m.closedDocument e.2] = .ok m' ∧
        Separate.ofMerged m' = .ok [(e.1, m.closedDocument e.2)] := by
  constructor
  · rw [h.closable.ofMerged_eq]
    refine congrArg Except.ok (List.map_congr_left fun e he => ?_)
    rw [h.toDocument_closureOf he]
  · intro e he
    have hclosure := h.closureOf he
    refine ⟨m.closureOf e, ?_, ?_⟩
    · rw [← h.toDocument_closureOf he]
      exact hclosure.ofDocuments_eq
    · rw [hclosure.closable.ofMerged_eq]
      show Except.ok [(e.1, ((m.closureOf e).closureOf e).toDocument)] = _
      rw [h.closureOf_closureOf, h.toDocument_closureOf he]

end

/-! An operation that leads to two fragments which spread each other, and one of them a fragment that is
not there; another fragment is led to by nobody. -/

section

def spreadOf (n : String) : Tree := .node .fragmentSpread [(.name, .name n)]

def inlineOf (selections : List Tree) : Tree :=
  .node .inlineFragment [(.selectionSet, .selectionSet selections)]

def definitionOf (k : Kind) (n : String) (selections : List Tree) : Tree :=
  .node k [(.name, .name n), (.selectionSet, .selectionSet selections)]

def entangled : Merged where
  fragments := [
    (.text "A", definitionOf .fragmentDefinition "A" [inlineOf [spreadOf "B"]]),
    (.text "C", definitionOf .fragmentDefinition "C" []),
    (.text "B", definitionOf .fragmentDefinition "B" [spreadOf "A", spreadOf "D"])]
  operations := [(.text "Q", definitionOf .operationDefinition "Q" [inlineOf [spreadOf "B"]])]

theorem walkable_spreadOf (n : String) : (spreadOf n).Walkable := by
  refine .node (fun e he _ => ?_) fun _ => ⟨n, rfl⟩
  obtain rfl := List.mem_singleton.mp he
  exact .node (fun e he hvisited => absurd hvisited (by simp_all [Kind.visited, Kind.base])) nofun

theorem walkable_selectionSet {selections : List Tree} (h : ∀ t ∈ selections, t.Walkable) :
    (Tree.selectionSet selections).Walkable := by
  refine .node (fun e he _ => ?_) nofun
  obtain rfl := List.mem_singleton.mp he
  exact .list fun t ht _ => h t ht

theorem walkable_inlineOf {selections : List Tree} (h : ∀ t ∈ selections, t.Walkable) :
    (inlineOf selections).Walkable := by
  refine .node (fun e he _ => ?_) nofun
  obtain rfl := List.mem_singleton.mp he
  exact walkable_selectionSet h

theorem named_definitionOf {k : Kind} (hk : .name ∈ k.attributes) (n : String)
    {selections : List Tree} (h : ∀ t ∈ selections, t.Walkable) :
    NamedDefinition k n (definitionOf k n selections) := by
  refine ⟨rfl, ?_, _, _, rfl, walkable_selectionSet h⟩
  rw [definitionOf, Tree.nameOf, Tree.attr, if_pos hk]
  rfl

theorem named_entangled : entangled.AllNamed where
  fragments := by
    simp only [entangled, List.forall_mem_cons, List.not_mem_nil, false_imp_iff, implies_true,
      and_true]
    refine ⟨⟨"A", rfl, named_definitionOf (by decide) "A" ?_⟩,
      ⟨"C", rfl, named_definitionOf (by decide) "C" (by simp)⟩,
      ⟨"B", rfl, named_definitionOf (by decide) "B" ?_⟩⟩
    · simpa using walkable_inlineOf (by simpa using walkable_spreadOf "B")
    · simpa using ⟨walkable_spreadOf "A", walkable_spreadOf "D"⟩
  operations := by
    simp only [entangled, List.forall_mem_singleton]
    refine ⟨"Q", by decide, rfl, named_definitionOf (by decide) "Q" ?_⟩
    simpa using walkable_inlineOf (by simpa using walkable_spreadOf "B")
  fragmentKeys := by decide
  operationKeys := by decide

/-- The operation is separated with both of its fragments, and without the other one. -/
theorem separate_closed_entangled :
    let operation := definitionOf .operationDefinition "Q" [inlineOf [spreadOf "B"]]
    let closed := Tree.document [definitionOf .fragmentDefinition "A" [inlineOf [spreadOf "B"]],
      definitionOf .fragmentDefinition "B" [spreadOf "A", spreadOf "D"], operation]
    entangled.AllNamed ∧ entangled.closedDocument operation = closed ∧
      Separate.ofMerged entangled = .ok [(.text "Q", closed)] ∧
      ∃ m', Merged.ofDocuments [closed] = .ok m' ∧
        Separate.ofMerged m' = .ok [(.text "Q", closed)] := by
  intro operation closed
  obtain ⟨hseparated, hagain⟩ := separate_closed named_entangled
  have hcomputed : Separate.ofMerged entangled = .ok [(.text "Q", closed)] := rfl
  have hclosed : entangled.closedDocument operation = closed := by
    have hentries := Except.ok.inj (hseparated.symm.trans hcomputed)
    exact congrArg Prod.snd (List.cons.inj hentries).1
  refine ⟨named_entangled, hclosed, hcomputed, ?_⟩
  have hoperation := hagain _ (List.mem_singleton_self _)
  rwa [show entangled.closedDocument _ = closed from hclosed] at hoperation

end

end Merged

end PersistedOps
