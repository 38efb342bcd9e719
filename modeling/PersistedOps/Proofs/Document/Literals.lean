import PersistedOps.Document.Separate
import PersistedOps.Proofs.Document.Executable
import PersistedOps.Proofs.Entries

/-!
Changes of literals alone. Strings and numbers that stand in place of values are no part of what a
document is taken apart by: names, kinds and spreads are told without them, so a document whose literals
are changed falls into the closed documents of the same names, with their literals changed.
-/

namespace PersistedOps

namespace Tree

mutual

/-- A tree with each literal that stands in place of a value changed. The flag tells whether the tree
does. -/
def mapLiterals (g : Tree → Tree) (value : Bool) : Tree → Tree
  | .node k attributes =>
    if value && k.isLiteral then g (.node k attributes) else .node k (mapLiteralsIn g attributes)
  | .list items => .list (mapLiteralsOf g value items)
  | .dict entries => .dict entries
  | .scalar s => .scalar s
  | .operation o => .operation o

def mapLiteralsIn (g : Tree → Tree) : List (Attribute × Tree) → List (Attribute × Tree)
  | [] => []
  | (a, t) :: rest => (a, mapLiterals g a.holdsValues t) :: mapLiteralsIn g rest

def mapLiteralsOf (g : Tree → Tree) (value : Bool) : List Tree → List Tree
  | [] => []
  | t :: rest => mapLiterals g value t :: mapLiteralsOf g value rest

end

/-- A change that makes literals of literals. -/
def KeepsLiterals (g : Tree → Tree) : Prop :=
  ∀ {k attributes}, k.isLiteral → ∃ l others, g (.node k attributes) = .node l others ∧ l.isLiteral

section

variable {g g' : Tree → Tree} {value : Bool} {k : Kind} {attributes : Attributes} {a : Attribute}
  {t : Tree}

theorem mapLiteralsIn_eq_map (g : Tree → Tree) (attributes : Attributes) :
    mapLiteralsIn g attributes = attributes.map fun e => (e.1, mapLiterals g e.1.holdsValues e.2) := by
  induction attributes with
  | nil => rfl
  | cons e attributes ih => rw [mapLiteralsIn, ih, List.map_cons]

theorem mapLiteralsOf_eq_map (g : Tree → Tree) (value : Bool) (items : List Tree) :
    mapLiteralsOf g value items = items.map (mapLiterals g value) := by
  induction items with
  | nil => rfl
  | cons t items ih => rw [mapLiteralsOf, ih, List.map_cons]

theorem mapLiterals_literal (h : k.isLiteral) :
    mapLiterals g true (.node k attributes) = g (.node k attributes) := by
  rw [mapLiterals, h]
  rfl

theorem mapLiterals_node (h : (value && k.isLiteral) = false) :
    mapLiterals g value (.node k attributes) = .node k (mapLiteralsIn g attributes) := by
  rw [mapLiterals, h, if_neg Bool.false_ne_true]

theorem mapLiterals_of_atom (h : t.isAtom) : mapLiterals g value t = t := by
  cases t <;> first | rfl | cases h

theorem kind?_mapLiterals (t : Tree) : (mapLiterals g false t).kind? = t.kind? := by
  cases t <;> rfl

theorem get?_mapLiteralsIn (g : Tree → Tree) (attributes : Attributes) (a : Attribute) :
    Attributes.get? (mapLiteralsIn g attributes) a
      = (Attributes.get? attributes a).map (mapLiterals g a.holdsValues) := by
  rw [mapLiteralsIn_eq_map, Attributes.get?_map fun a => mapLiterals g a.holdsValues]

theorem get?_mapLiterals (t : Tree) (a : Attribute) :
    (mapLiterals g false t).get? a = (t.get? a).map (mapLiterals g a.holdsValues) := by
  cases t with
  | node k attributes => exact get?_mapLiteralsIn g attributes a
  | _ => rfl

theorem attr_mapLiterals (t : Tree) (a : Attribute) :
    (mapLiterals g false t).attr a = (t.attr a).map (mapLiterals g a.holdsValues) := by
  cases t with
  | node k attributes =>
      rw [mapLiterals_node rfl, attr, attr, get?_mapLiteralsIn]
      split
      · cases Attributes.get? attributes a <;> rfl
      · rfl
  | _ => rfl

section

variable (hg : KeepsLiterals g)

include hg

/-- A literal is changed to a literal. -/
theorem KeepsLiterals.exists_node (value : Bool) (k : Kind) (attributes : Attributes) :
    ∃ l others, mapLiterals g value (.node k attributes) = .node l others := by
  rw [mapLiterals]
  split
  · rename_i h
    obtain ⟨l, others, hliteral, -⟩ := hg (Bool.and_eq_true_iff.mp h).2
    exact ⟨l, others, hliteral⟩
  · exact ⟨k, _, rfl⟩

theorem KeepsLiterals.eq_scalar_iff {s : Scalar} :
    mapLiterals g value t = .scalar s ↔ t = .scalar s := by
  cases t with
  | node k attributes =>
      obtain ⟨l, others, hnode⟩ := hg.exists_node value k attributes
      simp [hnode]
  | _ => simp [mapLiterals]

theorem KeepsLiterals.isNull_eq (value : Bool) (t : Tree) :
    (mapLiterals g value t).isNull = t.isNull := by
  rw [Bool.eq_iff_iff]
  have hnull {u : Tree} : u.isNull ↔ u = .scalar .null := by cases u with
    | scalar s => cases s <;> simp [isNull]
    | _ => simp [isNull]
  rw [hnull, hnull, hg.eq_scalar_iff]

/-- What a node is called is no matter of literals. -/
theorem KeepsLiterals.nameOf_eq (t : Tree) : (mapLiterals g false t).nameOf = t.nameOf :=
  nameOf_congr (attr_mapLiterals t .name) (fun name => attr_mapLiterals name .value)
    fun _ _ _ => hg.eq_scalar_iff

end

/-! ### Spreads -/

/-- Nothing below a literal is walked. -/
theorem visited_of_isLiteral (h : k.isLiteral) : k.visited = [] := by
  cases k <;> first | rfl | cases h

theorem spreads_literal (h : k.isLiteral) : (Tree.node k attributes).spreads = .ok [] := by
  have hattributes : ∀ attributes : Attributes, spreadsInAttributes k attributes = .ok [] := by
    intro attributes
    induction attributes with
    | nil => rfl
    | cons e attributes ih =>
        rw [spreadsInAttributes, visited_of_isLiteral h, if_neg List.not_mem_nil, ih]
  have hspread : k ≠ .fragmentSpread := by
    rintro rfl
    cases h
  rw [spreads, if_neg hspread, hattributes]
  rfl

mutual

/-- The spreads below a tree are no matter of literals. -/
theorem spreads_mapLiterals (hg : KeepsLiterals g) (value : Bool) :
    (t : Tree) → (mapLiterals g value t).spreads = t.spreads
  | .node k attributes => by
    by_cases hliteral : (value && k.isLiteral) = true
    · obtain ⟨rfl, hk⟩ := Bool.and_eq_true_iff.mp hliteral
      obtain ⟨l, others, hnode, hl⟩ := @hg k attributes hk
      rw [mapLiterals_literal hk, hnode, spreads_literal hl, spreads_literal hk]
    · have hname := hg.nameOf_eq (.node k attributes)
      rw [mapLiterals_node rfl] at hname
      rw [mapLiterals_node (Bool.eq_false_iff.mpr hliteral), spreads, spreads,
        spreadsInAttributes_mapLiterals hg k attributes, hname]
  | .list items => by
    rw [mapLiterals, spreads, spreads, spreadsInItems_mapLiterals hg value items]
  | .dict _ => rfl
  | .scalar _ => rfl
  | .operation _ => rfl

theorem spreadsInAttributes_mapLiterals (hg : KeepsLiterals g) (k : Kind) :
    (attributes : List (Attribute × Tree)) →
    spreadsInAttributes k (mapLiteralsIn g attributes) = spreadsInAttributes k attributes
  | [] => rfl
  | (a, t) :: rest => by
    rw [mapLiteralsIn, spreadsInAttributes, spreadsInAttributes, spreads_mapLiterals hg _ t,
      spreadsInAttributes_mapLiterals hg k rest]

theorem spreadsInItems_mapLiterals (hg : KeepsLiterals g) (value : Bool) : (items : List Tree) →
    spreadsInItems (mapLiteralsOf g value items) = spreadsInItems items
  | [] => rfl
  | t :: rest => by
    rw [mapLiteralsOf, spreadsInItems, spreadsInItems, hg.isNull_eq, spreads_mapLiterals hg value t,
      spreadsInItems_mapLiterals hg value rest]

end

/-! ### Changes one after the other -/

mutual

theorem mapLiterals_mapLiterals (hg : KeepsLiterals g) (value : Bool) : (t : Tree) →
    mapLiterals g' value (mapLiterals g value t) = mapLiterals (fun t => g' (g t)) value t
  | .node k attributes => by
    by_cases hliteral : (value && k.isLiteral) = true
    · obtain ⟨rfl, hk⟩ := Bool.and_eq_true_iff.mp hliteral
      obtain ⟨l, others, hnode, hl⟩ := @hg k attributes hk
      rw [mapLiterals_literal hk, hnode, mapLiterals_literal hl, mapLiterals_literal hk, hnode]
    · have hplain := Bool.eq_false_iff.mpr hliteral
      rw [mapLiterals_node hplain, mapLiterals_node hplain, mapLiterals_node hplain,
        mapLiteralsIn_mapLiteralsIn hg attributes]
  | .list items => by
    rw [mapLiterals, mapLiterals, mapLiterals, mapLiteralsOf_mapLiteralsOf hg value items]
  | .dict _ => rfl
  | .scalar _ => rfl
  | .operation _ => rfl

theorem mapLiteralsIn_mapLiteralsIn (hg : KeepsLiterals g) : (attributes : List (Attribute × Tree)) →
    mapLiteralsIn g' (mapLiteralsIn g attributes) = mapLiteralsIn (fun t => g' (g t)) attributes
  | [] => rfl
  | (a, t) :: rest => by
    rw [mapLiteralsIn, mapLiteralsIn, mapLiteralsIn, mapLiterals_mapLiterals hg _ t,
      mapLiteralsIn_mapLiteralsIn hg rest]

theorem mapLiteralsOf_mapLiteralsOf (hg : KeepsLiterals g) (value : Bool) : (items : List Tree) →
    mapLiteralsOf g' value (mapLiteralsOf g value items) = mapLiteralsOf (fun t => g' (g t)) value items
  | [] => rfl
  | t :: rest => by
    rw [mapLiteralsOf, mapLiteralsOf, mapLiteralsOf, mapLiterals_mapLiterals hg value t,
      mapLiteralsOf_mapLiteralsOf hg value rest]

end

end

end Tree

/-! ### Closing -/

namespace Separate

open PersistedOps.Tree (KeepsLiterals mapLiterals)

variable {g : Tree → Tree}

theorem spreadsOf_mapLiterals (hg : KeepsLiterals g) (d : Tree) :
    spreadsOf (mapLiterals g false d) = spreadsOf d := by
  rw [spreadsOf, spreadsOf, Tree.attr_mapLiterals]
  cases d.attr .selectionSet with
  | error m => rfl
  | ok set =>
      cases set with
      | node k attributes =>
          have hspreads := Tree.spreads_mapLiterals hg false (.node k attributes)
          rwa [Tree.mapLiterals_node rfl] at hspreads
      | _ => rfl

theorem graph_mapLiterals (hg : KeepsLiterals g) (ds : List Tree) :
    graph (ds.map (mapLiterals g false)) = graph ds := by
  rw [graph, graph, List.foldlM_map]
  simp only [Tree.kind?_mapLiterals, hg.nameOf_eq, spreadsOf_mapLiterals hg]

theorem isFragmentIn_mapLiterals (hg : KeepsLiterals g) (names : List Scalar) (d : Tree) :
    isFragmentIn names (mapLiterals g false d) = isFragmentIn names d := by
  rw [isFragmentIn, isFragmentIn, Tree.kind?_mapLiterals, hg.nameOf_eq]

theorem keyOf_mapLiterals (hg : KeepsLiterals g) (d : Tree) :
    keyOf (mapLiterals g false d) = keyOf d := by
  rw [keyOf, keyOf, Tree.get?_mapLiterals, hg.nameOf_eq, Option.isNone_map]

/-- A definition of changed literals, in its place. -/
def changeIn (g : Tree → Tree) (d : Tree × Nat) : Tree × Nat := (mapLiterals g false d.1, d.2)

theorem closure_mapLiterals (hg : KeepsLiterals g) (names : List Scalar) (position : Nat)
    (ds : List (Tree × Nat)) : closure names position (ds.map (changeIn g))
      = (closure names position ds).map (List.map (mapLiterals g false)) := by
  induction ds with
  | nil => rfl
  | cons d ds ih =>
      obtain ⟨d, i⟩ := d
      rw [List.map_cons, changeIn, closure, closure, isFragmentIn_mapLiterals hg, ih]
      by_cases hposition : i = position
      · rw [if_pos hposition, if_pos hposition]
        cases closure names position ds <;> rfl
      · rw [if_neg hposition, if_neg hposition]
        cases isFragmentIn names d with
        | error m => rfl
        | ok keep => cases closure names position ds <;> cases keep <;> rfl

theorem definitions_mapLiterals (g : Tree → Tree) (document : Tree) :
    (mapLiterals g false document).definitions
      = document.definitions.map (List.map (mapLiterals g false)) := by
  rw [Tree.definitions, Tree.definitions, Tree.attr_mapLiterals]
  cases document.attr .definitions with
  | error m => rfl
  | ok definitions =>
      cases definitions with
      | list items => exact congrArg Except.ok (Tree.mapLiteralsOf_eq_map g false items)
      | node k attributes => rfl
      | _ => rfl

theorem mapLiterals_document (g : Tree → Tree) (ds : List Tree) :
    mapLiterals g false (.document ds) = .document (ds.map (mapLiterals g false)) :=
  congrArg Tree.document (Tree.mapLiteralsOf_eq_map g false ds)

/-- Closing operations is no matter of literals. -/
theorem ofDocument_mapLiterals (hg : KeepsLiterals g) (document : Tree) :
    ofDocument (mapLiterals g false document)
      = (ofDocument document).map (Entries.mapValues (mapLiterals g false)) := by
  rw [ofDocument, ofDocument, definitions_mapLiterals]
  cases document.definitions with
  | error m => rfl
  | ok ds =>
      simp only [Except.map, bind, Except.bind, graph_mapLiterals hg]
      cases graph ds with
      | error m => rfl
      | ok spreading =>
          have hnumbered : (ds.map (mapLiterals g false)).zipIdx = ds.zipIdx.map (changeIn g) :=
            List.zipIdx_map
          have hkind : (fun d : Tree × Nat => decide (d.1.kind? = some .operationDefinition)) ∘ changeIn g
              = fun d => decide (d.1.kind? = some .operationDefinition) := by
            funext d
            rw [Function.comp, changeIn, Tree.kind?_mapLiterals]
          simp only [hnumbered, List.filter_map, hkind]
          refine foldlM_map_eq (F := Entries.mapValues (mapLiterals g false)) (G := changeIn g)
            (fun d _ acc => ?_) []
          simp only [changeIn, spreadsOf_mapLiterals hg, keyOf_mapLiterals hg, closure_mapLiterals hg]
          cases spreadsOf d.1 with
          | error m => rfl
          | ok start =>
              cases keyOf d.1 with
              | error m => rfl
              | ok key =>
                  simp only []
                  cases closure (reach spreading start) d.2 ds.zipIdx with
                  | error m => rfl
                  | ok closed =>
                      refine congrArg Except.ok ?_
                      rw [Entries.mapValues_put, mapLiterals_document]

end Separate

/-! ### Revising -/

namespace Tree

variable {f : Tree → Except Malformed Tree} {g : Tree → Tree} {value : Bool} {k : Kind}
  {attributes : Attributes} {t u : Tree}

theorem mapLiterals_of_kind (hk : u.kind? = some k) (h : (value && k.isLiteral) = false) :
    mapLiterals g value u = mapLiterals g false u := by
  cases u with
  | node l attributes =>
      cases hk
      rw [mapLiterals_node h, mapLiterals_node rfl]
  | _ => cases hk

/-- Setting an attribute of a tree of changed literals. -/
theorem set_mapLiterals (hg : KeepsLiterals g) (t : Tree) (a : Attribute) (v : Tree) :
    (mapLiterals g false t).set a (mapLiterals g a.holdsValues v) = mapLiterals g false (t.set a v) := by
  cases t with
  | node k attributes =>
      suffices hset : Attributes.set (mapLiteralsIn g attributes) a (mapLiterals g a.holdsValues v)
          = mapLiteralsIn g (Attributes.set attributes a v) by
        rw [mapLiterals_node rfl, set, set, mapLiterals_node rfl, hset]
      induction attributes with
      | nil =>
          rw [mapLiteralsIn, Attributes.set, Attributes.set, hg.isNull_eq]
          split <;> rfl
      | cons e attributes ih =>
          obtain ⟨b, old⟩ := e
          rw [mapLiteralsIn, Attributes.set, Attributes.set, hg.isNull_eq, ih]
          by_cases hab : a = b
          · subst hab
            rw [if_pos rfl, if_pos rfl]
            split <;> rfl
          · rw [if_neg hab, if_neg hab]
            split
            · split <;> rfl
            · rfl
  | _ => rfl

/-- A revision of nodes that does to changed literals what it does to the literals, and to other nodes
what it does without the change. -/
structure Commutes (f : Tree → Except Malformed Tree) (g : Tree → Tree) : Prop where
  plain (t : Tree) : f (mapLiterals g false t) = (f t).map (mapLiterals g false)
  literal {k : Kind} {attributes : Attributes} (h : k.isLiteral) :
    f (g (.node k attributes)) = (f (.node k attributes)).map (mapLiterals g true)
  kind {t u : Tree} (h : f t = .ok u) : u.kind? = t.kind?

theorem reviseAttributes_literal (h : k.isLiteral) (attributes : Attributes) :
    reviseAttributes f k attributes = .ok attributes := by
  induction attributes with
  | nil => rfl
  | cons e attributes ih =>
      rw [reviseAttributes, visited_of_isLiteral h, if_neg List.not_mem_nil, ih]
      rfl

theorem revise_literal (h : k.isLiteral) (attributes : Attributes) :
    (Tree.node k attributes).revise f = f (.node k attributes) := by
  rw [revise, reviseAttributes_literal h]
  rfl

mutual

theorem revise_mapLiterals (hg : KeepsLiterals g) (hf : Commutes f g) (value : Bool) :
    (t : Tree) → (mapLiterals g value t).revise f = (t.revise f).map (mapLiterals g value)
  | .node k attributes => by
    by_cases hliteral : (value && k.isLiteral) = true
    · obtain ⟨rfl, hk⟩ := Bool.and_eq_true_iff.mp hliteral
      obtain ⟨l, others, hnode, hl⟩ := @hg k attributes hk
      have hcommutes : f (g (.node k attributes)) = (f (.node k attributes)).map (mapLiterals g true) :=
        hf.literal hk
      rw [hnode] at hcommutes
      rw [mapLiterals_literal hk, hnode, revise_literal hl, revise_literal hk, hcommutes]
    · have hplain := Bool.eq_false_iff.mpr hliteral
      rw [mapLiterals_node hplain, revise, revise, reviseAttributes_mapLiterals hg hf k attributes]
      cases reviseAttributes f k attributes with
      | error m => rfl
      | ok revised =>
          have hcommutes := hf.plain (.node k revised)
          rw [mapLiterals_node rfl] at hcommutes
          refine hcommutes.trans ?_
          cases hu : f (.node k revised) with
          | error m => simp [bind, Except.bind, hu, Except.map]
          | ok u =>
              have hkind := hf.kind hu
              simp [bind, Except.bind, hu, Except.map, mapLiterals_of_kind hkind hplain]
  | .list items => by
    rw [mapLiterals, revise, revise, reviseItems_mapLiterals hg hf value items]
    cases reviseItems f items <;> rfl
  | .dict _ => rfl
  | .scalar _ => rfl
  | .operation _ => rfl

theorem reviseAttributes_mapLiterals (hg : KeepsLiterals g) (hf : Commutes f g) (k : Kind) :
    (attributes : List (Attribute × Tree)) → reviseAttributes f k (mapLiteralsIn g attributes)
      = (reviseAttributes f k attributes).map (mapLiteralsIn g)
  | [] => rfl
  | (a, t) :: rest => by
    rw [mapLiteralsIn, reviseAttributes, reviseAttributes, revise_mapLiterals hg hf _ t,
      reviseAttributes_mapLiterals hg hf k rest]
    by_cases ha : a ∈ k.visited
    · rw [if_pos ha, if_pos ha]
      cases t.revise f <;> cases reviseAttributes f k rest <;> rfl
    · rw [if_neg ha, if_neg ha]
      cases reviseAttributes f k rest <;> rfl

theorem reviseItems_mapLiterals (hg : KeepsLiterals g) (hf : Commutes f g) (value : Bool) :
    (items : List Tree) → reviseItems f (mapLiteralsOf g value items)
      = (reviseItems f items).map (mapLiteralsOf g value)
  | [] => rfl
  | t :: rest => by
    rw [mapLiteralsOf, reviseItems, reviseItems, hg.isNull_eq, revise_mapLiterals hg hf value t,
      reviseItems_mapLiterals hg hf value rest]
    by_cases hnull : t.isNull = true
    · rw [if_pos hnull, if_pos hnull]
      cases reviseItems f rest <;> rfl
    · rw [if_neg hnull, if_neg hnull]
      cases t.revise f <;> cases reviseItems f rest <;> rfl

end

end Tree

end PersistedOps
