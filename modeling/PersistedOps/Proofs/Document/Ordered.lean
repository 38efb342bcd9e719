import PersistedOps.Proofs.Document.Filled
import PersistedOps.Proofs.Document.Revision
import PersistedOps.Proofs.Document.SameUpTo
import PersistedOps.Proofs.Document.Sequence

/-!
Sorted documents. Sorting puts each sequence of a node in the order of its items' keys once the items are
sorted, and leaves everything else; so a sorted document is in order at every depth, is the document but
for the order of its sequences, and is sorted to itself.
-/

namespace PersistedOps.Sort

open PersistedOps.Attributes (mem_of_get? set_eq_map get?_of_mem)
open PersistedOps.Tree (Executable Inside Revised PartRevised SameUpTo)

variable {k : Kind} {a : Attribute} {o : Order} {attributes others : Attributes} {t u : Tree}
  {xs ys zs : List Tree}

/-! ### One node -/

/-- What sorting a node makes of an attribute's value: its items in order, if they have one. -/
def SortedTo : Option Order → Tree → Tree → Prop
  | none, t, u => u = t
  | some o, t, u => ∃ xs zs, t = .list xs ∧ u = .list zs ∧ sortItems o.read xs = .ok zs

/-- What sorting a node by some of its sequences makes of an attribute. -/
def PartSorted (ss : List (Attribute × Order)) (e e' : Attribute × Tree) : Prop :=
  e'.1 = e.1 ∧ SortedTo (ss.lookup e.1) e.2 e'.2

/-- An attribute that is not sorted stays, and one that is holds a sequence. -/
theorem partSorted_singleton {e e' : Attribute × Tree} : PartSorted [(a, o)] e e' ↔
    (e.1 ≠ a ∧ e' = e) ∨
      ∃ xs zs, e = (a, .list xs) ∧ e' = (a, .list zs) ∧ sortItems o.read xs = .ok zs := by
  obtain ⟨b, t⟩ := e
  obtain ⟨c, u⟩ := e'
  by_cases hb : b = a
  · subst hb
    rw [PartSorted, List.lookup_cons, beq_self_eq_true]
    simp only [SortedTo, ne_eq, not_true_eq_false, false_and, false_or, Prod.mk.injEq, true_and]
    grind
  · rw [PartSorted, List.lookup_cons, beq_eq_false_iff_ne.mpr hb]
    simp only [List.lookup_nil, SortedTo, ne_eq, hb, not_false_eq_true, true_and, Prod.mk.injEq,
      false_and, exists_false, or_false]

/-- A sequence among the attributes, sorted. -/
theorem partSorted_iff_eq_map (order : attributes.Pairwise fun e f => e.1.rank < f.1.rank)
    (hget : Attributes.get? attributes a = some (.list xs)) (h : sortItems o.read xs = .ok zs) :
    List.Forall₂ (PartSorted [(a, o)]) attributes others ↔
      others = attributes.map fun e => if e.1 = a then (a, .list zs) else e := by
  refine forall₂_iff_eq_map fun e he e' => partSorted_singleton.trans ?_
  obtain ⟨b, t⟩ := e
  by_cases hb : b = a
  · subst hb
    cases (get?_of_mem order he).symm.trans hget
    rw [if_pos rfl]
    constructor
    · rintro (⟨hother, -⟩ | ⟨ys, sorted, heq, rfl, hsorted⟩)
      · exact absurd rfl hother
      · cases heq
        cases h.symm.trans hsorted
        rfl
    · rintro rfl
      exact .inr ⟨xs, zs, rfl, rfl, h⟩
  · rw [if_neg hb]
    constructor
    · rintro (⟨-, rfl⟩ | ⟨ys, sorted, heq, -⟩)
      · rfl
      · exact absurd (congrArg Prod.fst heq) hb
    · rintro rfl
      exact .inl ⟨hb, rfl⟩

theorem partSorted_iff_eq (order : attributes.Pairwise fun e f => e.1.rank < f.1.rank)
    (hget : Attributes.get? attributes a = none) :
    List.Forall₂ (PartSorted [(a, o)]) attributes others ↔ others = attributes := by
  refine (forall₂_iff_eq_map (g := id) fun e he e' => partSorted_singleton.trans ?_).trans
    (by rw [List.map_id])
  have hother : e.1 ≠ a := by
    rintro rfl
    cases (get?_of_mem order he).symm.trans hget
  constructor
  · rintro (⟨-, rfl⟩ | ⟨xs, zs, rfl, -⟩)
    · rfl
    · exact absurd rfl hother
  · rintro rfl
    exact .inl ⟨hother, rfl⟩

theorem sortAttribute_eq_ok_iff (order : attributes.Pairwise fun e f => e.1.rank < f.1.rank) :
    sortAttribute a o.read (.node k attributes) = .ok u ↔
      ∃ others, u = .node k others ∧ List.Forall₂ (PartSorted [(a, o)]) attributes others := by
  rw [sortAttribute, Tree.get?]
  cases hget : Attributes.get? attributes a with
  | none =>
      constructor
      · rintro ⟨⟩
        exact ⟨attributes, rfl, (partSorted_iff_eq order hget).mpr rfl⟩
      · rintro ⟨others, rfl, hothers⟩
        rw [(partSorted_iff_eq order hget).mp hothers]
  | some value =>
      -- A sorted sequence stands where the sequence stood.
      have hset {xs zs : List Tree} (hget : Attributes.get? attributes a = some (.list xs)) :
          (Tree.node k attributes).set a (.list zs) =
            .node k (attributes.map fun e => if e.1 = a then (a, .list zs) else e) :=
        congrArg (Tree.node k) (set_eq_map order hget rfl)
      constructor
      · intro h
        obtain ⟨xs, hxs, h⟩ := bind_eq_ok_iff.mp h
        obtain ⟨zs, hzs, h⟩ := bind_eq_ok_iff.mp h
        cases h
        cases value with
        | list =>
            cases hxs
            exact ⟨_, hset hget, (partSorted_iff_eq_map order hget hzs).mpr rfl⟩
        | _ => cases hxs
      · rintro ⟨others, rfl, hothers⟩
        obtain ⟨e', -, he'⟩ := exists_of_mem_left hothers (mem_of_get? hget)
        obtain ⟨hother, -⟩ | ⟨xs, zs, heq, -, hzs⟩ := partSorted_singleton.mp he'
        · exact absurd rfl hother
        · cases heq
          rw [(partSorted_iff_eq_map order hget hzs).mp hothers, ← hset hget]
          exact bind_eq_ok_iff.mpr ⟨xs, rfl, bind_eq_ok_iff.mpr ⟨zs, hzs, rfl⟩⟩

theorem sortNode_eq_foldlM (k : Kind) (attributes : Attributes) :
    sortNode (.node k attributes) = (sequences k).foldlM
      (fun t s => sortAttribute s.1 s.2.read t) (.node k attributes) := by
  have hone (x : Except Malformed Tree) : x = x >>= pure := (bind_pure x).symm
  cases k with
  | document | selectionSet | field | directive | constDirective | fragmentSpread | inlineFragment
  | operationDefinition => exact hone _
  | fragmentDefinition =>
      exact congrArg (sortAttribute .directives byName (.node .fragmentDefinition attributes) >>= ·)
        (funext fun u => hone (sortAttribute .variableDefinitions byVariable u))
  | _ => rfl

theorem PartSorted.order (ss : List (Attribute × Order))
    (h : List.Forall₂ (PartSorted ss) attributes others)
    (order : attributes.Pairwise fun e f => e.1.rank < f.1.rank) :
    others.Pairwise fun e f => e.1.rank < f.1.rank := by
  have hkeys : others.map (·.1) = attributes.map (·.1) :=
    map_eq_of_forall₂ (h.imp fun _ _ he => he.1)
  have hranks : (attributes.map (·.1)).Pairwise fun a b => a.rank < b.rank :=
    List.pairwise_map.mpr order
  rwa [← hkeys, List.pairwise_map] at hranks

/-- Sorting by one sequence and then by others is sorting by all. -/
theorem partSorted_cons {ss : List (Attribute × Order)} (ha : ss.lookup a = none)
    {e e'' : Attribute × Tree} : Relation.Comp (PartSorted [(a, o)]) (PartSorted ss) e e'' ↔
      PartSorted ((a, o) :: ss) e e'' := by
  obtain ⟨b, t⟩ := e
  by_cases hb : b = a
  · subst hb
    have hlookup : ((b, o) :: ss).lookup b = some o := by rw [List.lookup_cons, beq_self_eq_true]
    constructor
    · rintro ⟨⟨_, u⟩, ⟨rfl, hu⟩, hkey, hv⟩
      rw [ha] at hv
      obtain rfl : _ = u := hv
      rw [List.lookup_cons, beq_self_eq_true] at hu
      exact ⟨hkey, hlookup ▸ hu⟩
    · rintro ⟨hkey, hv⟩
      rw [hlookup] at hv
      refine ⟨(b, e''.2), ⟨rfl, ?_⟩, hkey, ?_⟩
      · rw [List.lookup_cons, beq_self_eq_true]
        exact hv
      · rw [ha]
        rfl
  · have hlookup {rest : List (Attribute × Order)} : ((a, o) :: rest).lookup b = rest.lookup b := by
      rw [List.lookup_cons, beq_eq_false_iff_ne.mpr hb]
    constructor
    · rintro ⟨⟨_, u⟩, ⟨rfl, hu⟩, hkey, hv⟩
      rw [hlookup] at hu
      obtain rfl : u = t := hu
      refine ⟨hkey, ?_⟩
      rw [hlookup]
      exact hv
    · rintro ⟨hkey, hv⟩
      refine ⟨(b, t), ⟨rfl, ?_⟩, hkey, ?_⟩
      · rw [hlookup]
        rfl
      · rwa [hlookup] at hv

theorem foldlM_sortAttribute_eq_ok_iff {ss : List (Attribute × Order)} (hss : (ss.map (·.1)).Nodup)
    (order : attributes.Pairwise fun e f => e.1.rank < f.1.rank) :
    ss.foldlM (fun t s => sortAttribute s.1 s.2.read t) (.node k attributes) = .ok u ↔
      ∃ others, u = .node k others ∧ List.Forall₂ (PartSorted ss) attributes others := by
  induction ss generalizing attributes with
  | nil =>
      have hself {others : Attributes} :
          List.Forall₂ (PartSorted []) attributes others ↔ others = attributes := by
        refine (forall₂_iff_eq_map (g := id) fun e _ e' => ?_).trans (by rw [List.map_id])
        exact Prod.ext_iff.symm
      constructor
      · rintro ⟨⟩
        exact ⟨attributes, rfl, hself.mpr rfl⟩
      · rintro ⟨others, rfl, hothers⟩
        rw [hself.mp hothers]
        rfl
  | cons s ss ih =>
      obtain ⟨a, o⟩ := s
      obtain ⟨hother, hrest⟩ := List.nodup_cons.mp hss
      have ha : ss.lookup a = none := by
        refine List.lookup_eq_none_iff.mpr fun s hs => bne_iff_ne.mpr fun heq => ?_
        have hmem : s.1 ∈ ss.map (·.1) := List.mem_map_of_mem hs
        exact hother (heq ▸ hmem)
      rw [List.foldlM_cons, bind_eq_ok_iff]
      constructor
      · rintro ⟨v, hv, h⟩
        obtain ⟨between, rfl, hbetween⟩ := (sortAttribute_eq_ok_iff order).mp hv
        obtain ⟨others, rfl, hothers⟩ := (ih hrest (PartSorted.order _ hbetween order)).mp h
        exact ⟨others, rfl,
          (forall₂_comp_iff.mp ⟨between, hbetween, hothers⟩).imp fun _ _ => (partSorted_cons ha).mp⟩
      · rintro ⟨others, rfl, hothers⟩
        obtain ⟨between, hbetween, hothers⟩ :=
          forall₂_comp_iff.mpr (hothers.imp fun _ _ => (partSorted_cons ha).mpr)
        exact ⟨_, (sortAttribute_eq_ok_iff order).mpr ⟨between, rfl, hbetween⟩,
          (ih hrest (PartSorted.order _ hbetween order)).mpr ⟨others, rfl, hothers⟩⟩

/-- Sorting a node sorts its sequences. -/
theorem sortNode_eq_ok_iff (order : attributes.Pairwise fun e f => e.1.rank < f.1.rank) :
    sortNode (.node k attributes) = .ok u ↔
      ∃ others, u = .node k others ∧ List.Forall₂ (PartSorted (sequences k)) attributes others := by
  rw [sortNode_eq_foldlM]
  exact foldlM_sortAttribute_eq_ok_iff (by cases k <;> decide) order

/-! ### Documents in order -/

/-- What sorting permits of a sequence: its order, if it has one. -/
def Placed : Option Order → List Tree → List Tree → Prop
  | none => Eq
  | some o => Sequenced o

/-- A tree whose parts are arranged one by one and whose sequences, if they have an order, are then put
in another order that keeps the items of each key as they stood. -/
def Arranged : Tree → Tree → Prop := SameUpTo (fun k a => Placed (order? k a)) Eq

/-- The sequences of a node are in order. -/
def InOrder (d : Tree) : Prop :=
  ∀ k ∈ d.kind?, ∀ a o xs, order? k a = some o → d.get? a = some (.list xs) →
    xs.Pairwise fun x y => o.key x ≤ o.key y

/-- The sequences of all nodes are in order, at any depth. -/
def Ordered (t : Tree) : Prop := ∀ d, Inside d t → InOrder d

theorem ordered_list : Ordered (.list xs) ↔ ∀ x ∈ xs, Ordered x :=
  Tree.forall_inside_list.trans (and_iff_right nofun)

theorem ordered_node : Ordered (.node k attributes) ↔
    (∀ a o xs, order? k a = some o → Attributes.get? attributes a = some (.list xs) →
      xs.Pairwise fun x y => o.key x ≤ o.key y) ∧ ∀ e ∈ attributes, Ordered e.2 := by
  refine Tree.forall_inside_node.trans (and_congr_left fun _ => ?_)
  rw [InOrder]
  simp only [Tree.kind?, Option.mem_def, Option.some.injEq, forall_eq', Tree.get?]

theorem ordered_atom (h : t.isAtom) : Ordered t := by
  refine (Tree.forall_inside_atom h).mpr fun k hk => ?_
  cases t with
  | scalar | operation => cases hk
  | _ => cases h

/-! ### Sorting -/

/-- What sorting makes of a tree. -/
structure Outcome (t u : Tree) : Prop where
  arranged : Arranged t u
  ordered : Ordered u
  settled : Revised sortNode u u

/-- What it makes of an attribute of a node. -/
structure PartOutcome (k : Kind) (e e' : Attribute × Tree) : Prop where
  key : e'.1 = e.1
  arranged : SameUpTo (fun k a => Placed (order? k a)) (Placed (order? k e.1)) e.2 e'.2
  ordered : Ordered e'.2
  settled : PartRevised sortNode k e' e'
  inOrder : ∀ o, order? k e.1 = some o → ∃ zs, e'.2 = .list zs ∧
    (zs.Pairwise fun x y => o.key x ≤ o.key y) ∧ sortItems o.read zs = .ok zs

theorem outcome_list (hnull : ∀ t ∈ xs, t.isNull = false)
    (ih : ∀ t ∈ xs, ∀ v, Revised sortNode t v → Outcome t v) (h : Revised sortNode (.list xs) u) :
    Outcome (.list xs) u := by
  obtain ⟨ys, rfl, hys⟩ := Tree.exists_revised_items hnull h
  have heach : List.Forall₂ Outcome xs ys := forall₂_imp_of_mem hys ih
  have hall {y : Tree} (hy : y ∈ ys) : ∃ x, Outcome x y := by
    obtain ⟨x, -, hx⟩ := exists_of_mem_left heach.flip hy
    exact ⟨x, hx⟩
  refine ⟨.of_items (heach.imp fun _ _ hx => hx.arranged) rfl, ?_, ?_⟩
  · exact ordered_list.mpr fun y hy => (hall hy).elim fun x hx => hx.ordered
  · have hitems : Tree.reviseItems sortNode ys = .ok ys :=
      Tree.reviseItems_eq (List.forall₂_same.mpr fun y hy => (hall hy).elim fun x hx => hx.settled)
    rw [Revised, Tree.revise, hitems]
    rfl

theorem visited_of_order? (h : order? k a = some o) : a ∈ k.visited := by
  have hvisited : ∀ s ∈ sequences k, s.1 ∈ k.visited := by cases k <;> decide
  obtain ⟨before, after, hsequences, -⟩ := List.lookup_eq_some_iff.mp h
  exact hvisited (a, o) (by rw [hsequences]; simp)

/-- A sequence is revised to itself when each of its items is, so in any order. -/
theorem revised_list_self_iff : Revised sortNode (.list xs) (.list xs) ↔
    ∀ x ∈ xs, x.isNull = true ∨ Revised sortNode x x := by
  have hlist : Revised sortNode (.list xs) (.list xs) ↔ Tree.reviseItems sortNode xs = .ok xs := by
    rw [Revised, Tree.revise]
    cases Tree.reviseItems sortNode xs <;> simp [bind, Except.bind, pure, Except.pure]
  rw [hlist]
  clear hlist
  induction xs with
  | nil => simp [Tree.reviseItems]
  | cons x xs ih =>
      rw [List.forall_mem_cons, Tree.reviseItems]
      by_cases hnull : x.isNull = true
      · rw [if_pos hnull]
        constructor
        · intro h
          obtain ⟨us, hus, h⟩ := bind_eq_ok_iff.mp h
          cases h
          exact ⟨.inl hnull, ih.mp hus⟩
        · rintro ⟨-, hrest⟩
          rw [ih.mpr hrest]
          rfl
      · rw [if_neg hnull]
        constructor
        · intro h
          obtain ⟨v, hv, h⟩ := bind_eq_ok_iff.mp h
          obtain ⟨us, hus, h⟩ := bind_eq_ok_iff.mp h
          cases h
          exact ⟨.inr hv, ih.mp hus⟩
        · rintro ⟨hx, hrest⟩
          have hrevised : x.revise sortNode = .ok x := hx.resolve_left hnull
          rw [hrevised, ih.mpr hrest]
          rfl

theorem revised_list_perm (h : Revised sortNode (.list ys) (.list ys)) (hperm : ys.Perm zs) :
    Revised sortNode (.list zs) (.list zs) :=
  revised_list_self_iff.mpr fun z hz => revised_list_self_iff.mp h z (hperm.symm.subset hz)

theorem partOutcome {a : Attribute} {t u v : Tree} (h : PartRevised sortNode k (a, t) (a, u))
    (hsorted : SortedTo (order? k a) u v)
    (hwalked : a ∈ k.visited → ∀ w, Revised sortNode t w → Outcome t w)
    (hkept : a ∉ k.visited → t.isAtom) : PartOutcome k (a, t) (a, v) := by
  cases horder : order? k a with
  | none =>
      rw [horder] at hsorted
      obtain rfl : v = u := hsorted
      have hnone {o : Order} : order? k a ≠ some o := by simp [horder]
      cases h with
      | walked ha hu =>
          have hpart := hwalked ha _ hu
          exact ⟨rfl, horder ▸ hpart.arranged, hpart.ordered, .walked ha hpart.settled,
            fun o ho => absurd ho hnone⟩
      | kept ha =>
          have hatom := hkept ha
          exact ⟨rfl, .atom hatom, ordered_atom hatom, .kept ha, fun o ho => absurd ho hnone⟩
  | some o =>
      rw [horder] at hsorted
      obtain ⟨ys, zs, rfl, rfl, hsort⟩ := hsorted
      cases h with
      | kept ha => exact absurd (visited_of_order? horder) ha
      | walked ha hu =>
          have hpart := hwalked ha _ hu
          have hsequenced := sequenced_of_sortItems hsort
          obtain ⟨xs, ys, rfl, heach, rfl⟩ := hpart.arranged.exists_items
          have hordered := ordered_list.mp hpart.ordered
          refine ⟨rfl, ?_, ?_, .walked ha (revised_list_perm hpart.settled hsequenced.perm), ?_⟩
          · rw [horder]
            exact .of_items heach hsequenced
          · exact ordered_list.mpr fun z hz => hordered z (hsequenced.perm.symm.subset hz)
          · intro o' ho'
            cases horder.symm.trans ho'
            exact ⟨zs, rfl, pairwise_of_sortItems hsort, sortItems_of_sortItems hsort⟩

theorem outcome_node (order : attributes.Pairwise fun e f => e.1.rank < f.1.rank)
    (hparts : ∀ e ∈ attributes, e.1 ∈ k.visited → ∀ v, Revised sortNode e.2 v → Outcome e.2 v)
    (hatoms : ∀ e ∈ attributes, e.1 ∉ k.visited → e.2.isAtom)
    (h : Revised sortNode (.node k attributes) u) : Outcome (.node k attributes) u := by
  obtain ⟨others, hothers, hsort⟩ := Tree.exists_revised_parts h
  have horder := Tree.order_of_parts hothers order
  obtain ⟨sorted, rfl, hsorted⟩ := (sortNode_eq_ok_iff horder).mp hsort
  have heach : List.Forall₂ (PartOutcome k) attributes sorted := by
    refine forall₂_imp_of_mem (forall₂_comp_iff.mp ⟨others, hothers, hsorted⟩) ?_
    rintro ⟨a, t⟩ he ⟨c, v⟩ ⟨⟨b, u⟩, hrevised, hkey, hpart⟩
    obtain rfl : b = a := hrevised.key_eq
    obtain rfl : c = b := hkey
    exact partOutcome hrevised hpart (hparts _ he) (hatoms _ he)
  have horder' := PartSorted.order _ hsorted horder
  have hall {e'' : Attribute × Tree} (he : e'' ∈ sorted) : ∃ e, PartOutcome k e e'' := by
    obtain ⟨e, -, hpart⟩ := exists_of_mem_left heach.flip he
    exact ⟨e, hpart⟩
  refine ⟨.of_parts (heach.imp fun _ _ he => ⟨he.key, he.arranged⟩), ?_, ?_⟩
  · refine ordered_node.mpr ⟨fun a o xs ho hget => ?_, fun e he => ?_⟩
    · obtain ⟨e, hpart⟩ := hall (mem_of_get? hget)
      obtain ⟨zs, hzs, hpairwise, -⟩ := hpart.inOrder o (hpart.key ▸ ho)
      cases hzs
      exact hpairwise
    · obtain ⟨e', hpart⟩ := hall he
      exact hpart.ordered
  · have hrevised : Tree.reviseAttributes sortNode k sorted = .ok sorted :=
      Tree.reviseAttributes_of_parts
        (List.forall₂_same.mpr fun e he => (hall he).elim fun _ hpart => hpart.settled)
    have hself : List.Forall₂ (PartSorted (sequences k)) sorted sorted := by
      refine List.forall₂_same.mpr fun e he => ⟨rfl, ?_⟩
      obtain ⟨e', hpart⟩ := hall he
      show SortedTo (order? k e.1) e.2 e.2
      cases horder : order? k e.1 with
      | none => rfl
      | some o =>
          obtain ⟨zs, hzs, -, hsort⟩ := hpart.inOrder o (hpart.key ▸ horder)
          exact ⟨zs, zs, hzs, hzs, hsort⟩
    rw [Revised, Tree.revise, hrevised]
    exact (sortNode_eq_ok_iff horder').mpr ⟨sorted, rfl, hself⟩

/-- A sorted tree is arranged, in order, and sorted to itself. -/
theorem outcome_of_executable (h : Executable t) (hu : Revised sortNode t u) : Outcome t u := by
  induction h generalizing u with
  | node _ order _ atoms _ _ ih => exact outcome_node order (fun e he ha v => ih e he ha) atoms hu
  | @selectionSet items each ih =>
      refine outcome_node (List.pairwise_singleton _ _) ?_ ?_ hu
      · rw [List.forall_mem_singleton]
        exact fun _ v hv => outcome_list (Executable.not_isNull_of_mem each) (fun t ht v => ih t ht) hv
      · rw [List.forall_mem_singleton]
        exact fun hnot => absurd (by decide : Attribute.selections ∈ Kind.selectionSet.visited) hnot
  | list each ih =>
      exact outcome_list (Executable.not_isNull_of_mem each) (fun t ht v => ih t ht) hu

/-! ### Documents -/

theorem exists_sort_of_wellFormed (h : WellFormed t) : ∃ u, sort t = .ok u := by
  obtain @⟨definitions, items⟩ := h
  cases definitions with
  | none => exact ⟨_, rfl⟩
  | some ds =>
      have hall : AllSignable ds := fun d hd => (items d hd).signs
      obtain ⟨us, hsort, -⟩ := exists_sort hall
      exact ⟨_, hsort⟩

/-- A well-formed document is sorted into one that is in order at every depth and is the document but for
the order of its sequences, which keep the items of one key as they stood; and sorting that changes
nothing. -/
theorem sort_arranges (h : WellFormed t) : ∃ u, sort t = .ok u ∧ Arranged t u ∧ Ordered u ∧
    sort u = .ok u := by
  obtain ⟨u, hu⟩ := exists_sort_of_wellFormed h
  have houtcome := outcome_of_executable h.executable hu
  exact ⟨u, hu, houtcome.arranged, houtcome.ordered, houtcome.settled⟩

/-- A query of fields out of order, within an inline fragment and beside it. -/
theorem sort_arranges_query :
    let document := Typename.queryDocument [Typename.inlineFragment [Typename.leaf none "d",
      Typename.leaf none "c"], Typename.leaf none "b", Typename.leaf none "a"]
    WellFormed document ∧ ∃ u, sort document = .ok u ∧ Arranged document u ∧ Ordered u ∧
      sort u = .ok u := by
  intro document
  have hleaf {n : String} (hn : IsName n) : Grammatical .selection (Typename.leaf none n) :=
    Typename.grammatical_leaf hn
  have hdocument : WellFormed document := by
    refine Typename.wellFormed_queryDocument (by simp) ?_
    simp only [List.forall_mem_cons, List.not_mem_nil, false_imp_iff, implies_true, and_true]
    refine ⟨Typename.grammatical_inlineFragment (by simp) ?_, hleaf (.of_toList rfl rfl rfl),
      hleaf (.of_toList rfl rfl rfl)⟩
    simp only [List.forall_mem_cons, List.not_mem_nil, false_imp_iff, implies_true, and_true]
    exact ⟨hleaf (.of_toList rfl rfl rfl), hleaf (.of_toList rfl rfl rfl)⟩
  exact ⟨hdocument, sort_arranges hdocument⟩

end PersistedOps.Sort
