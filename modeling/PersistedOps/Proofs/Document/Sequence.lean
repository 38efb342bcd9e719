import Mathlib.Data.Prod.Lex
import Mathlib.Order.WithBot
import PersistedOps.Proofs.Document.Parts
import PersistedOps.Proofs.Document.Sorting

/-!
Sorted sequences. What the sequences of a node are ordered by is told by its kind, and what an item is
ordered by is told without failure: its kind and its name, an item without a name behind all others. A
sequence that has been sorted is in that order, holds what it held, and keeps the items of each key as
they stood. Sorting it again changes nothing.
-/

namespace PersistedOps.Sort

/-! ### Keys -/

/-- What the items of a sequence are ordered by. -/
inductive Order where
  | kindAndName | name | varName
deriving DecidableEq, Repr

/-- The text under the name of a node, if it has one. -/
def nameText? (t : Tree) : Option String :=
  match (t.get? .name).bind (·.get? .value) with
  | some (.scalar (.text s)) => some s
  | _ => none

/-- A name in the order of names, behind all of which items without one have their place. -/
def place : Option String → WithTop String
  | some n => n
  | none => ⊤

/-- The key of an item. -/
def Order.key : Order → Tree → String ×ₗ WithTop String
  | .kindAndName, t => toLex ((t.kind?.map Kind.sortName).getD "", place (nameText? t))
  | .name, t => toLex ("", place (nameText? t))
  | .varName, t => toLex ("", place ((t.get? .var).bind nameText?))

/-- The sequences of a node that are sorted, one after the other, and what their items are ordered by. -/
def sequences (k : Kind) : List (Attribute × Order) :=
  match k.base with
  | .document => [(.definitions, .kindAndName)]
  | .selectionSet => [(.selections, .kindAndName)]
  | .field | .directive => [(.arguments, .name)]
  | .fragmentSpread | .inlineFragment => [(.directives, .name)]
  | .operationDefinition => [(.variableDefinitions, .varName)]
  | .fragmentDefinition => [(.directives, .name), (.variableDefinitions, .varName)]
  | _ => []

/-- What the items of a node's attribute are ordered by, if they are. -/
def order? (k : Kind) (a : Attribute) : Option Order := (sequences k).lookup a

/-- How the key of an item is read when it is sorted. -/
def Order.read : Order → Tree → Except Malformed Key
  | .kindAndName => byKindAndName
  | .name => byName
  | .varName => byVariable

section

variable {o : Order} {t : Tree} {xs ys zs : List Tree}

theorem place_injective : Function.Injective place := by
  intro a b h
  cases a <;> cases b <;> simp_all [place]

theorem place_surjective : Function.Surjective place := by
  intro n
  cases n with
  | top => exact ⟨none, rfl⟩
  | coe n => exact ⟨some n, rfl⟩

theorem nameLe_iff_place {a b : Option String} : nameLe a b ↔ place a ≤ place b := by
  cases a <;> cases b <;> simp [nameLe, place]

theorem keyLe_iff_toLex {a b : String × Option String} :
    keyLe a b ↔ toLex (a.1, place a.2) ≤ toLex (b.1, place b.2) := by
  rw [Prod.Lex.toLex_le_toLex, keyLe_iff, nameLe_iff_place]

theorem toLex_place_inj {a b : String × Option String} :
    toLex (a.1, place a.2) = toLex (b.1, place b.2) ↔ a = b := by
  rw [toLex_inj, Prod.mk.injEq, place_injective.eq_iff, Prod.ext_iff]

/-! ### Reading keys -/

theorem get?_of_attr {a : Attribute} {v : Tree} (h : t.attr a = .ok v) (hv : v.isNull = false) :
    t.get? a = some v := by
  cases t with
  | node k attributes =>
      rw [Tree.attr] at h
      split at h
      · cases hget : Attributes.get? attributes a with
        | none =>
            rw [hget] at h
            cases h
            cases hv
        | some w =>
            rw [hget] at h
            cases h
            exact hget
      · cases h
  | _ => cases h

theorem nameText?_of_value {n : Tree} {s : String} (hname : t.get? .name = some n)
    (h : n.attr .value = .ok (.scalar (.text s))) : nameText? t = some s := by
  rw [nameText?, hname, Option.bind_some, get?_of_attr h rfl]

theorem nameText?_of_nameKey {name : Option String} (h : nameKey t = .ok (name.map .text)) :
    nameText? t = name := by
  rw [nameKey] at h
  cases hname : t.get? .name with
  | none =>
      rw [hname] at h
      cases name with
      | none => rw [nameText?, hname, Option.bind_none]
      | some s => cases h
  | some n =>
      rw [hname] at h
      obtain ⟨v, hv, h⟩ := bind_eq_ok_iff.mp h
      cases v with
      | scalar s =>
          cases name with
          | none => cases h
          | some m =>
              cases h
              exact nameText?_of_value hname hv
      | _ => cases h

theorem nameText?_of_nameOf {s : String} (h : t.nameOf = .ok (.text s)) : nameText? t = some s := by
  obtain ⟨n, hn, h⟩ := bind_eq_ok_iff.mp h
  obtain ⟨v, hv, h⟩ := bind_eq_ok_iff.mp h
  cases v with
  | scalar s =>
      cases h
      refine nameText?_of_value (get?_of_attr hn ?_) hv
      cases n with
      | scalar => cases hv
      | _ => rfl
  | _ => cases h

/-- A key that is read is the key of the item. -/
theorem Order.key_of_read {kind : String} {name : Option String}
    (h : o.read t = .ok ⟨kind, name.map .text⟩) : o.key t = toLex (kind, place name) := by
  cases o with
  | kindAndName =>
      rw [Order.read, byKindAndName] at h
      cases hkind : t.kind? with
      | none =>
          rw [hkind] at h
          cases h
      | some k =>
          rw [hkind] at h
          obtain ⟨key, hkey, h⟩ := bind_eq_ok_iff.mp h
          cases h
          rw [Order.key, hkind, nameText?_of_nameKey hkey]
          rfl
  | name =>
      obtain ⟨key, hkey, h⟩ := bind_eq_ok_iff.mp h
      cases h
      rw [Order.key, nameText?_of_nameKey hkey]
  | varName =>
      obtain ⟨v, hv, h⟩ := bind_eq_ok_iff.mp h
      obtain ⟨s, hs, h⟩ := bind_eq_ok_iff.mp h
      cases name with
      | none => cases h
      | some n =>
          cases h
          have hget : t.get? .var = some v := by
            refine get?_of_attr hv ?_
            cases v with
            | scalar => cases hs
            | _ => rfl
          rw [Order.key, hget, Option.bind_some, nameText?_of_nameOf hs]

theorem Order.key_of_sortable (h : Sortable o.read t) :
    o.key t = toLex ((label o.read t).1, place (label o.read t).2) := by
  obtain ⟨kind, name, hread⟩ := h
  rw [Order.key_of_read hread, label_eq hread]

end

/-! ### Sequences -/

/-- The same items in another order, in which those of one key keep theirs. -/
structure Sequenced (o : Order) (xs ys : List Tree) : Prop where
  perm : xs.Perm ys
  stable : ∀ key, xs.filter (o.key · = key) = ys.filter (o.key · = key)

section

variable {o : Order} {t : Tree} {xs ys zs : List Tree}

theorem Sequenced.refl (o : Order) (xs : List Tree) : Sequenced o xs xs := ⟨.refl _, fun _ => rfl⟩

/-- Items can only be sorted if each has a key, but for a single one. -/
theorem sortable_of_sortItems {key : Tree → Except Malformed Key} (h : sortItems key xs = .ok zs) :
    (xs.length ≤ 1 ∧ zs = xs) ∨ ∀ t ∈ xs, Sortable key t := by
  obtain ⟨keys, hkeys, h⟩ := bind_eq_ok_iff.mp h
  have hread := mapM_eq_ok_iff.mp hkeys
  split at h
  · rename_i hfew
    cases h
    exact .inl ⟨hread.length_eq ▸ hfew, rfl⟩
  · obtain ⟨names, hnames, -⟩ := bind_eq_ok_iff.mp h
    refine .inr fun t ht => ?_
    obtain ⟨⟨kind, name⟩, hk, hkey⟩ := exists_of_mem_left hread ht
    obtain ⟨text, -, htext⟩ := exists_of_mem_left (mapM_eq_ok_iff.mp hnames) hk
    cases name with
    | none => exact ⟨kind, none, hkey⟩
    | some s =>
        cases s with
        | text s => exact ⟨kind, some s, hkey⟩
        | _ => cases htext

/-- The items that come out carry their keys. -/
theorem eq_label_of_mem {key : Tree → Except Malformed Key} {x : (String × Option String) × Tree}
    (h : x ∈ (xs.map fun t => (label key t, t)).mergeSort itemLe) : x.1 = label key x.2 := by
  obtain ⟨t, -, rfl⟩ := List.mem_map.mp (List.mem_mergeSort.mp h)
  rfl

theorem sequenced_of_sortable (h : ∀ t ∈ xs, Sortable o.read t)
    (hsort : sortItems o.read xs = .ok zs) : Sequenced o xs zs := by
  obtain rfl : ((xs.map fun t => (label o.read t, t)).mergeSort itemLe).map (·.2) = zs :=
    Except.ok.inj ((sortItems_eq h).symm.trans hsort)
  have hperm : xs.Perm (((xs.map fun t => (label o.read t, t)).mergeSort itemLe).map (·.2)) := by
    have hsorted := ((List.mergeSort_perm (xs.map fun t => (label o.read t, t)) itemLe).map (·.2)).symm
    rwa [List.map_map, show ((·.2) ∘ fun t => (label o.read t, t)) = id from rfl, List.map_id] at hsorted
  refine ⟨hperm, fun key => ?_⟩
  obtain ⟨⟨kind, name⟩, rfl⟩ := toLex.surjective key
  obtain ⟨name, rfl⟩ := place_surjective name
  have hkey (t : Tree) (ht : t ∈ xs) :
      decide (o.key t = toLex (kind, place name)) = decide (label o.read t = (kind, name)) := by
    rw [Order.key_of_sortable (h t ht), decide_eq_decide]
    exact toLex_place_inj (b := (kind, name))
  rw [List.filter_congr hkey, List.filter_congr fun t ht => hkey t (hperm.symm.subset ht),
    List.filter_map]
  -- The items of one key, out of the sorted pairs and out of the pairs before.
  have hsorted : ofKey (kind, name) ((xs.map fun t => (label o.read t, t)).mergeSort itemLe) =
      ((xs.map fun t => (label o.read t, t)).mergeSort itemLe).filter
        fun x => decide (label o.read x.2 = (kind, name)) :=
    List.filter_congr fun x hx => by rw [eq_label_of_mem hx]
  have hbefore : ofKey (kind, name) (xs.map fun t => (label o.read t, t)) =
      (xs.filter fun t => decide (label o.read t = (kind, name))).map fun t => (label o.read t, t) :=
    List.filter_map
  have hsame := (hsorted.symm.trans (ofKey_mergeSort _ _)).trans hbefore
  refine Eq.trans ?_ (congrArg (List.map (·.2)) hsame).symm
  rw [List.map_map]
  exact (List.map_id _).symm

theorem pairwise_of_sortable (h : ∀ t ∈ xs, Sortable o.read t)
    (hsort : sortItems o.read xs = .ok zs) : zs.Pairwise fun x y => o.key x ≤ o.key y := by
  have hperm := (sequenced_of_sortable h hsort).perm
  obtain rfl : ((xs.map fun t => (label o.read t, t)).mergeSort itemLe).map (·.2) = zs :=
    Except.ok.inj ((sortItems_eq h).symm.trans hsort)
  have hpairs := List.pairwise_mergeSort itemLe_trans itemLe_total
    (xs.map fun t => (label o.read t, t))
  refine List.pairwise_map.mpr (hpairs.imp_of_mem fun {x y} hx hy hle => ?_)
  have hsortable {x : (String × Option String) × Tree}
      (hx : x ∈ (xs.map fun t => (label o.read t, t)).mergeSort itemLe) : Sortable o.read x.2 :=
    h _ (hperm.symm.subset (List.mem_map_of_mem hx))
  rw [Order.key_of_sortable (hsortable hx), Order.key_of_sortable (hsortable hy), ← keyLe_iff_toLex,
    ← eq_label_of_mem hx, ← eq_label_of_mem hy]
  exact hle

/-- Sorting keeps the items and the order of those of one key. -/
theorem sequenced_of_sortItems (h : sortItems o.read xs = .ok zs) : Sequenced o xs zs := by
  obtain ⟨-, rfl⟩ | hsortable := sortable_of_sortItems h
  · exact .refl o _
  · exact sequenced_of_sortable hsortable h

theorem pairwise_of_sortItems (h : sortItems o.read xs = .ok zs) :
    zs.Pairwise fun x y => o.key x ≤ o.key y := by
  obtain ⟨hfew, rfl⟩ | hsortable := sortable_of_sortItems h
  · match zs, hfew with
    | [], _ => exact .nil
    | [t], _ => exact List.pairwise_singleton _ _
  · exact pairwise_of_sortable hsortable h

/-- Sorted items are in order already. -/
theorem sortItems_of_sortItems (h : sortItems o.read xs = .ok zs) :
    sortItems o.read zs = .ok zs := by
  obtain ⟨-, rfl⟩ | hsortable := sortable_of_sortItems h
  · exact h
  · have hordered := pairwise_of_sortItems h
    have hperm := (sequenced_of_sortItems h).perm
    have hsortable' : ∀ t ∈ zs, Sortable o.read t := fun t ht => hsortable t (hperm.symm.subset ht)
    have hpairs : (zs.map fun t => (label o.read t, t)).Pairwise fun x y => itemLe x y := by
      refine List.pairwise_map.mpr (hordered.imp_of_mem fun {x y} hx hy hle => ?_)
      rw [Order.key_of_sortable (hsortable' x hx), Order.key_of_sortable (hsortable' y hy),
        ← keyLe_iff_toLex] at hle
      exact hle
    rw [sortItems_eq hsortable', List.mergeSort_of_pairwise hpairs, List.map_map,
      show ((·.2) ∘ fun t => (label o.read t, t)) = id from rfl, List.map_id]

end

end PersistedOps.Sort
