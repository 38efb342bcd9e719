import Mathlib.Data.List.Perm.Basic
import PersistedOps.Proofs.Document.Foreign
import PersistedOps.Proofs.Document.Parts

/-!
Documents written as data, and read back. A node is spelled by a dictionary that holds its kind and its
attributes under their names with humps, listed in any order, and that may hold more under keys its kind
passes over. Main statements: a document that is written out is spelled by what is written, and from every
spelling of it the document is read.
-/

namespace PersistedOps

/-! ### Names that are read back -/

theorem Attribute.ofSnake?_camel (a : Attribute) : ofSnake? (Camel.toSnake a.camel) = some a := by
  cases a <;> decide +kernel

theorem Attribute.camel_injective : Function.Injective camel := by
  intro a b h
  exact Option.some.inj (a.ofSnake?_camel ▸ h ▸ b.ofSnake?_camel)

theorem Attribute.rank_injective : Function.Injective rank := by
  intro a b h
  rw [← ofNat_ctorIdx a, ← ofNat_ctorIdx b]
  exact congrArg ofNat h

theorem Kind.ofLabel?_label (k : Kind) : ofLabel? k.label = some k := by
  cases k <;> decide +kernel

namespace Decode

variable {α : Type} {view : View α} {decode : α → Except DecodeError Tree} {kind : Kind} {a : Attribute}
  {acc : Attributes} {x : α} {t : Tree}

theorem attributeOf?_camel (h : a ∈ kind.attributes) : attributeOf? kind a.camel = some a := by
  rw [attributeOf?, Attribute.ofSnake?_camel, Option.filter_some, if_pos (decide_eq_true h)]

theorem isReserved_camel (a : Attribute) : isReserved (.text a.camel) = false := by
  cases a <;> rfl

theorem isForeign_camel (h : a ∈ kind.attributes) : isForeign kind (.text a.camel) = false := by
  simp [isForeign, isReserved_camel, attributeOf?_camel h]

theorem readEntry_camel (h : a ∈ kind.attributes) (ht : attributeValue view decode a x = .ok t) :
    readEntry view decode kind acc (.text a.camel, x) = .ok (acc.set a t) := by
  rw [readEntry, isReserved_camel]
  simp only [attributeOf?_camel h, ht]
  rfl

/-- What is no text is read as it is read anywhere, also where an operation type is looked for. -/
theorem attributeValue_eq (h : a = .operation → ∀ s, view.layer x = .scalar s → s.isText = false) :
    attributeValue view decode a x = decode x := by
  unfold attributeValue
  split
  · next hlayer => exact absurd (h rfl _ hlayer) (by simp [Scalar.isText, Scalar.points?])
  · next hlayer => exact absurd (h rfl _ hlayer) (by simp [Scalar.isText, Scalar.points?])
  · rfl

theorem attributeValue_word {o : OperationType} (h : view.layer x = .scalar (.text o.word)) :
    attributeValue view decode .operation x = .ok (.operation o) := by
  simp only [attributeValue, h, OperationType.ofWord?_word]

end Decode

/-! ### Attributes put into order -/

/-- Steps that all succeed. -/
theorem foldlM_eq_ok {α β ε : Type} {f : β → α → Except ε β} {g : β → α → β} {l : List α}
    (h : ∀ a ∈ l, ∀ b, f b a = .ok (g b a)) (b : β) : l.foldlM f b = .ok (l.foldl g b) := by
  induction l generalizing b with
  | nil => rfl
  | cons a l ih =>
      obtain ⟨ha, hl⟩ := List.forall_mem_cons.mp h
      rw [List.foldlM_cons, ha]
      exact ih hl _

namespace Attributes

variable {attributes acc l : Attributes} {a : Attribute} {v : Tree}

theorem nodup_of_order (order : attributes.Pairwise fun e f => e.1.rank < f.1.rank) :
    (attributes.map (·.1)).Nodup :=
  List.pairwise_map.mpr (order.imp fun hlt heq => absurd (congrArg Attribute.rank heq) (Nat.ne_of_lt hlt))

theorem perm_set (hv : v.isNull = false) (hnew : ∀ e ∈ attributes, e.1 ≠ a) :
    (set attributes a v).Perm ((a, v) :: attributes) := by
  induction attributes with
  | nil =>
      rw [set, hv]
      exact .refl _
  | cons e attributes ih =>
      obtain ⟨b, old⟩ := e
      obtain ⟨hb, hrest⟩ := List.forall_mem_cons.mp hnew
      rw [set, if_neg (Ne.symm hb), hv]
      split
      · exact .refl _
      · exact ((ih hrest).cons _).trans (.swap _ _ _)

theorem order_set (order : attributes.Pairwise fun e f => e.1.rank < f.1.rank) (hv : v.isNull = false)
    (hnew : ∀ e ∈ attributes, e.1 ≠ a) :
    (set attributes a v).Pairwise fun e f => e.1.rank < f.1.rank := by
  induction attributes with
  | nil =>
      rw [set, hv]
      exact List.pairwise_singleton _ _
  | cons e attributes ih =>
      obtain ⟨b, old⟩ := e
      obtain ⟨hb, hrest⟩ := List.forall_mem_cons.mp hnew
      obtain ⟨hfirst, hlater⟩ := List.pairwise_cons.mp order
      rw [set, if_neg (Ne.symm hb), hv]
      split
      · next hlt =>
        refine List.pairwise_cons.mpr ⟨fun f hf => ?_, order⟩
        obtain rfl | hf := List.mem_cons.mp hf
        · exact hlt
        · exact Nat.lt_trans hlt (hfirst f hf)
      · next hge =>
        refine List.pairwise_cons.mpr ⟨fun f hf => ?_, ih hlater hrest⟩
        obtain rfl | hf := List.mem_cons.mp ((perm_set hv hrest).mem_iff.mp hf)
        · exact Nat.lt_of_le_of_ne (Nat.not_lt.mp hge) fun heq => hb (Attribute.rank_injective heq)
        · exact hfirst f hf

/-- New attributes, set one after the other, are added and stand in their order. -/
theorem perm_foldl_set (order : acc.Pairwise fun e f => e.1.rank < f.1.rank)
    (hnull : ∀ e ∈ l, e.2.isNull = false) (hnodup : ((l ++ acc).map (·.1)).Nodup) :
    (l.foldl (fun acc e => set acc e.1 e.2) acc).Perm (l ++ acc) ∧
      (l.foldl (fun acc e => set acc e.1 e.2) acc).Pairwise fun e f => e.1.rank < f.1.rank := by
  induction l generalizing acc with
  | nil => exact ⟨.refl _, order⟩
  | cons e l ih =>
      obtain ⟨he, hl⟩ := List.forall_mem_cons.mp hnull
      obtain ⟨hfresh, -⟩ := List.nodup_cons.mp hnodup
      have hnew : ∀ f ∈ acc, f.1 ≠ e.1 := fun f hf heq =>
        hfresh (List.mem_map.mpr ⟨f, List.mem_append_right _ hf, heq⟩)
      have hadded : (l ++ set acc e.1 e.2).Perm (e :: l ++ acc) :=
        ((perm_set he hnew).append_left l).trans List.perm_middle
      obtain ⟨hperm, horder⟩ := ih (order_set order he hnew) hl ((hadded.map _).nodup_iff.mpr hnodup)
      exact ⟨hperm.trans hadded, horder⟩

/-- In whatever order attributes are set, they end up in their own. -/
theorem foldl_set_of_perm (order : attributes.Pairwise fun e f => e.1.rank < f.1.rank)
    (hnull : ∀ e ∈ attributes, e.2.isNull = false) (h : l.Perm attributes) :
    l.foldl (fun acc e => set acc e.1 e.2) [] = attributes := by
  have hnodup := nodup_of_order order
  obtain ⟨hperm, horder⟩ := perm_foldl_set (l := l) .nil (fun e he => hnull e (h.mem_iff.mp he))
    (by rw [List.append_nil]; exact (h.map _).nodup_iff.mpr hnodup)
  rw [List.append_nil] at hperm
  exact (hperm.trans h).eq_of_pairwise (fun e f _ _ hef hfe => absurd hef (Nat.lt_asymm hfe)) horder order

end Attributes

/-! ### Spellings -/

namespace Tree

def operation? : Tree → Option OperationType
  | operation o => some o
  | _ => none

theorem eq_operation_of_operation? {t : Tree} {o : OperationType} (h : t.operation? = some o) :
    t = .operation o := by
  cases t <;> cases h
  rfl

/-- Whether a value is text. -/
def isText : Tree → Bool
  | scalar s => s.isText
  | _ => false

theorem exists_node_of_kind? {t : Tree} (h : t.kind?.isSome = true) :
    ∃ kind attributes, t = .node kind attributes := by
  cases t with
  | node kind attributes => exact ⟨kind, attributes, rfl⟩
  | _ => cases h

mutual

/-- How deep a tree of nodes and lists nests. -/
def depth : Tree → Nat
  | node _ attributes => depthOfAttributes attributes + 1
  | list items => depthOfItems items + 1
  | _ => 1

def depthOfAttributes : List (Attribute × Tree) → Nat
  | [] => 0
  | (_, t) :: rest => max (depth t) (depthOfAttributes rest)

def depthOfItems : List Tree → Nat
  | [] => 0
  | t :: rest => max (depth t) (depthOfItems rest)

end

theorem depthOfAttributes_le {attributes : Attributes} {n : Nat} :
    depthOfAttributes attributes ≤ n ↔ ∀ e ∈ attributes, e.2.depth ≤ n := by
  induction attributes with
  | nil => simp [depthOfAttributes]
  | cons e attributes ih => rw [depthOfAttributes, Nat.max_le, ih, List.forall_mem_cons]

theorem depthOfItems_le {items : List Tree} {n : Nat} :
    depthOfItems items ≤ n ↔ ∀ t ∈ items, t.depth ≤ n := by
  induction items with
  | nil => simp [depthOfItems]
  | cons t items ih => rw [depthOfItems, Nat.max_le, ih, List.forall_mem_cons]

end Tree

/-- What a node of the kind holds where all is in its place: attributes of the kind, each at most once,
with operation types under `operation` alone and no text there. -/
structure Attributes.Proper (kind : Kind) (attributes : Attributes) : Prop where
  own : ∀ e ∈ attributes, e.1 ∈ kind.attributes
  order : attributes.Pairwise fun e f => e.1.rank < f.1.rank
  present : ∀ e ∈ attributes, e.2.isNull = false
  operation : ∀ e ∈ attributes, e.2.operation?.isSome = true → e.1 = .operation
  wordless : ∀ e ∈ attributes, e.1 = .operation → e.2.isText = false

theorem Attributes.proper_iff {kind : Kind} {attributes : Attributes} : Proper kind attributes ↔
    (∀ e ∈ attributes, e.1 ∈ kind.attributes) ∧
      attributes.Pairwise (fun e f => e.1.rank < f.1.rank) ∧
      (∀ e ∈ attributes, e.2.isNull = false) ∧
      (∀ e ∈ attributes, e.2.operation?.isSome = true → e.1 = .operation) ∧
      ∀ e ∈ attributes, e.1 = .operation → e.2.isText = false :=
  ⟨fun h => ⟨h.own, h.order, h.present, h.operation, h.wordless⟩,
    fun ⟨own, order, present, operation, wordless⟩ => ⟨own, order, present, operation, wordless⟩⟩

instance (kind : Kind) (attributes : Attributes) : Decidable (Attributes.Proper kind attributes) :=
  decidable_of_iff _ Attributes.proper_iff.symm

namespace Decode

/-- The value spells the tree. An operation type is spelled by its word; a node by a dictionary of its
label, its attributes and entries that its kind passes over, in any order and without a key twice. -/
inductive Spells {α : Type} (view : View α) : α → Tree → Prop
  | scalar {x : α} {s : Scalar} (layer : view.layer x = .scalar s) : Spells view x (.scalar s)
  | list {x : α} {values : List α} {items : List Tree} (layer : view.layer x = .list values)
      (length : values.length = items.length) (each : ∀ e ∈ values.zip items, Spells view e.1 e.2) :
      Spells view x (.list items)
  | node {x : α} {kind : Kind} {attributes : Attributes} {entries : Entries α} (label : α)
      (value : Attribute → α) (extra : Entries α) (layer : view.layer x = .dict entries)
      (perm : entries.Perm ((.text "kind", label)
        :: attributes.map (fun e => (.text e.1.camel, value e.1)) ++ extra))
      (nodup : (entries.map (·.1)).Nodup)
      (named : view.layer label = .scalar (.text kind.label))
      (foreign : ∀ e ∈ extra, isForeign kind e.1 = true)
      (proper : Attributes.Proper kind attributes)
      (parts : ∀ e ∈ attributes, e.2.operation? = none → Spells view (value e.1) e.2)
      (operations : ∀ e ∈ attributes, ∀ o, e.2.operation? = some o →
        view.layer (value e.1) = .scalar (.text o.word)) :
      Spells view x (.node kind attributes)

namespace Spells

variable {α : Type} {view : View α} {x : α} {t : Tree} {decode : α → Except DecodeError Tree} {kind : Kind}
  {attributes : Attributes} {items : List Tree} {depth : Nat}

theorem eq_scalar {s : Scalar} (h : Spells view x t) (hlayer : view.layer x = .scalar s) : t = .scalar s := by
  cases h with
  | scalar layer =>
      rw [layer] at hlayer
      cases hlayer
      rfl
  | list layer =>
      rw [layer] at hlayer
      cases hlayer
  | node _ _ _ layer =>
      rw [layer] at hlayer
      cases hlayer

theorem exists_list (h : Spells view x (.list items)) :
    ∃ values, view.layer x = .list values ∧
      List.Forall₂ (fun v t => t ∈ items ∧ Spells view v t) values items := by
  cases h with
  | list layer length each =>
      exact ⟨_, layer, List.forall₂_iff_zip.mpr ⟨length, fun he => ⟨(List.of_mem_zip he).2, each _ he⟩⟩⟩

theorem of_forall₂ {values : List α} (layer : view.layer x = .list values)
    (h : List.Forall₂ (Spells view) values items) : Spells view x (.list items) :=
  .list layer (List.forall₂_iff_zip.mp h).1 fun _ he => (List.forall₂_iff_zip.mp h).2 he

/-- The attributes of a node are read off its entries, in whatever order these come. -/
theorem attributes_eq {entries extra : Entries α} {label : α} {value : Attribute → α}
    (perm : entries.Perm ((.text "kind", label)
      :: attributes.map (fun e => (.text e.1.camel, value e.1)) ++ extra))
    (foreign : ∀ e ∈ extra, isForeign kind e.1 = true) (proper : Attributes.Proper kind attributes)
    (hread : ∀ e ∈ attributes, Decode.attributeValue view decode e.1 (value e.1) = .ok e.2) :
    Decode.attributes view decode kind [] entries = .ok attributes := by
  have hown : (entries.filter fun e => !isForeign kind e.1).Perm
      (attributes.map fun e => (.text e.1.camel, value e.1)) := by
    refine (perm.filter _).trans (.of_eq ?_)
    rw [List.cons_append, List.filter_cons_of_neg (by simp [isForeign, isReserved]),
      List.filter_append, List.filter_eq_self.mpr, List.filter_eq_nil_iff.mpr, List.append_nil]
    · intro e he
      simp [foreign e he]
    · intro e he
      obtain ⟨f, hf, rfl⟩ := List.mem_map.mp he
      simp [isForeign_camel (proper.own f hf)]
  -- The entries that count stand for the attributes in some order of these.
  obtain ⟨l, hl, hperm⟩ := (congrFun (congrFun (List.eq_map_comp_perm _) _) _).mpr hown
  rw [← attributes_filter, attributes_eq_foldlM, hl, List.foldlM_map,
    foldlM_eq_ok (g := fun acc e => acc.set e.1 e.2),
    Attributes.foldl_set_of_perm proper.order proper.present hperm]
  intro e he acc
  have hmem : e ∈ attributes := hperm.mem_iff.mp he
  exact readEntry_camel (proper.own e hmem) (hread e hmem)

/-- A node is read off what spells it when its parts are. -/
theorem exists_node (h : Spells view x (.node kind attributes))
    (hread : ∀ y t, Spells view y t → t.depth ≤ depth → decode y = .ok t)
    (hdepth : Tree.depthOfAttributes attributes ≤ depth) :
    ∃ entries, view.layer x = .dict entries ∧ entries.contains (.text "kind") = true ∧
      Decode.node view decode entries = .ok (.node kind attributes) := by
  cases h with
  | @node _ _ _ entries label value extra layer perm nodup named foreign proper parts operations =>
      have hkey : entries.getText? "kind" = some label :=
        (Entries.get?_text_iff nodup).mpr (perm.mem_iff.mpr (by simp))
      have hkind : kindOf view entries = .ok kind := by
        simp only [kindOf, hkey, named, Layer.text?, Option.bind_some, Kind.ofLabel?_label]
      have hattributes : Decode.attributes view decode kind [] entries = .ok attributes := by
        refine attributes_eq perm foreign proper fun e he => ?_
        cases ho : e.2.operation? with
        | some o =>
            have hword := operations e he o ho
            rw [proper.operation e he (Option.isSome_of_eq_some ho)] at hword ⊢
            rw [Tree.eq_operation_of_operation? ho]
            exact attributeValue_word hword
        | none =>
            have hpart := parts e he ho
            have hwordless : e.1 = .operation →
                ∀ s, view.layer (value e.1) = .scalar s → s.isText = false := by
              intro hoperation s hs
              have htext := proper.wordless e he hoperation
              rw [hpart.eq_scalar hs] at htext
              exact htext
            rw [attributeValue_eq hwordless]
            exact hread _ _ hpart (Tree.depthOfAttributes_le.mp hdepth e he)
      refine ⟨entries, layer, congrArg Option.isSome hkey, ?_⟩
      rw [Decode.node, hkind]
      show (Decode.attributes view decode kind [] entries >>= fun attributes => _) = _
      rw [hattributes]
      rfl

/-- A tree is read off every value that spells it. -/
theorem value_eq (h : Spells view x t) (hdepth : t.depth ≤ depth) : Decode.value view depth x = .ok t := by
  induction depth generalizing x t with
  | zero => cases t <;> simp [Tree.depth] at hdepth
  | succ depth ih =>
      rw [value]
      cases t with
      | scalar s =>
          cases h with
          | scalar layer => rw [layer]
      | operation o => cases h
      | dict entries => cases h
      | list items =>
          obtain ⟨values, hlayer, heach⟩ := h.exists_list
          have hitems : Tree.depthOfItems items ≤ depth := by
            rw [Tree.depth] at hdepth
            exact Nat.le_of_succ_le_succ hdepth
          have hvalues : values.mapM (Decode.value view depth) = .ok items :=
            mapM_eq_ok_iff.mpr (heach.imp fun _ t ht => ih ht.2 (Tree.depthOfItems_le.mp hitems t ht.1))
          rw [hlayer]
          dsimp only
          rw [hvalues]
          rfl
      | node kind attributes =>
          rw [Tree.depth] at hdepth
          obtain ⟨entries, hlayer, hkind, hnode⟩ :=
            h.exists_node (fun y t => ih) (Nat.le_of_succ_le_succ hdepth)
          rw [hlayer]
          dsimp only
          rw [if_pos hkind]
          exact hnode

/-- A list spells definitions when its members are dictionaries off which they are read. -/
theorem definitionEntries_eq {y : α} {values : List α} {ess : List (Entries α)}
    (hlayer : view.layer y = .list values)
    (heach : List.Forall₂ (fun v es => view.layer v = .dict es) values ess) :
    definitionEntries view (some y) = .ok ess := by
  rw [definitionEntries, Option.map_some, hlayer]
  cases heach with
  | nil => rfl
  | cons hfirst hrest =>
      refine mapM_eq_ok_iff.mpr (List.Forall₂.imp (fun v es hv => ?_) (.cons hfirst hrest))
      rw [hv]

/-- A document is read off every value that spells it. -/
theorem document_eq {definitions : List Tree} (nodes : ∀ d ∈ definitions, d.kind?.isSome = true)
    (h : Spells view x (.document definitions)) (hdepth : (Tree.document definitions).depth ≤ depth) :
    Decode.document view depth x = .ok (.document definitions) := by
  have hdefinitions : ∀ d ∈ definitions, d.depth ≤ depth := by
    refine Tree.depthOfItems_le.mp (Nat.le_trans ?_ hdepth)
    simp only [Tree.document, Tree.depth, Tree.depthOfAttributes]
    omega
  rw [Tree.document] at h
  cases h with
  | @node _ _ _ entries label value extra layer perm nodup named foreign proper parts operations =>
      have hkey : entries.getText? "kind" = some label :=
        (Entries.get?_text_iff nodup).mpr (perm.mem_iff.mpr (by simp))
      have hlisted : entries.getText? "definitions" = some (value .definitions) :=
        (Entries.get?_text_iff nodup).mpr (perm.mem_iff.mpr (by simp [Attribute.camel]))
      obtain ⟨values, hvalues, heach⟩ := (parts _ (List.mem_singleton_self _) rfl).exists_list
      have hnodes : List.Forall₂ (fun v d => ∃ es, view.layer v = .dict es ∧
          Decode.node view (Decode.value view depth) es = .ok d) values definitions := by
        refine heach.imp fun v d hd => ?_
        obtain ⟨hmem, hspells⟩ := hd
        obtain ⟨kind, attributes, rfl⟩ := Tree.exists_node_of_kind? (nodes d hmem)
        have hle := hdefinitions _ hmem
        rw [Tree.depth] at hle
        obtain ⟨es, hes, -, hread⟩ := hspells.exists_node (fun y t => value_eq) (Nat.le_of_succ_le hle)
        exact ⟨es, hes, hread⟩
      obtain ⟨ess, hess, hread⟩ := forall₂_comp_iff.mpr hnodes
      have hentries : definitionEntries view (entries.getText? "definitions") = .ok ess :=
        hlisted ▸ definitionEntries_eq hvalues hess
      have hkind : ((entries.getText? "kind").bind fun k => (view.layer k).text?) = some "Document" := by
        rw [hkey, Option.bind_some, named]
        rfl
      rw [document, layer]
      dsimp only
      rw [if_pos hkind, hentries]
      exact bind_eq_ok_iff.mpr ⟨ess, rfl, bind_eq_ok_iff.mpr ⟨definitions, mapM_eq_ok_iff.mpr hread, rfl⟩⟩

end Spells

end Decode

/-! ### Documents in JSON -/

namespace Json

theorem depth_pos (v : Json) : 1 ≤ v.depth := by
  cases v <;> simp [depth]

theorem depthItems_le {items : List Json} {n : Nat} : depthItems items ≤ n ↔ ∀ v ∈ items, v.depth ≤ n := by
  induction items with
  | nil => simp [depthItems]
  | cons v items ih => rw [depthItems, Nat.max_le, ih, List.forall_mem_cons]

theorem depthFields_le {fields : List (String × Json)} {n : Nat} :
    depthFields fields ≤ n ↔ ∀ f ∈ fields, f.2.depth ≤ n := by
  induction fields with
  | nil => simp [depthFields]
  | cons f fields ih => rw [depthFields, Nat.max_le, ih, List.forall_mem_cons]

theorem eq_arr_of_layer {v : Json} {values : List Json} (h : v.layer = .list values) : v = .arr values := by
  cases v <;> cases h
  rfl

theorem exists_obj_of_layer {v : Json} {entries : Entries Json} (h : v.layer = .dict entries) :
    ∃ fields, v = .obj fields ∧ entries = fields.map fun f => (.text f.1, f.2) := by
  cases v <;> cases h
  exact ⟨_, rfl, rfl⟩

/-- A value nests at least as deep as what it spells. -/
theorem depth_le {v : Json} {t : Tree} (h : Decode.Spells view v t) : t.depth ≤ v.depth := by
  induction h with
  | scalar layer => exact depth_pos _
  | @list v values items layer length each ih =>
      obtain rfl := eq_arr_of_layer layer
      rw [Tree.depth, depth]
      refine Nat.succ_le_succ (Tree.depthOfItems_le.mpr fun t ht => ?_)
      have hpairs : List.Forall₂ (fun u t => (u, t) ∈ values.zip items) values items :=
        List.forall₂_iff_zip.mpr ⟨length, id⟩
      obtain ⟨u, hu, hpair⟩ := exists_of_mem_left hpairs.flip ht
      exact Nat.le_trans (ih _ hpair) (depthItems_le.mp (Nat.le_refl _) u hu)
  | @node v kind attributes entries label value extra layer perm nodup named foreign proper parts
      operations ih =>
      obtain ⟨fields, rfl, rfl⟩ := exists_obj_of_layer layer
      rw [Tree.depth, depth]
      refine Nat.succ_le_succ (Tree.depthOfAttributes_le.mpr fun e he => ?_)
      have hmem : (Scalar.text e.1.camel, value e.1) ∈ fields.map fun f => (Scalar.text f.1, f.2) :=
        perm.mem_iff.mpr (List.mem_append_left _ (List.mem_cons_of_mem _ (List.mem_map.mpr ⟨e, he, rfl⟩)))
      obtain ⟨f, hf, heq⟩ := List.mem_map.mp hmem
      have hvalue : (value e.1).depth ≤ depthFields fields := by
        rw [← (Prod.mk.inj heq).2]
        exact depthFields_le.mp (Nat.le_refl _) f hf
      cases ho : e.2.operation? with
      | some o =>
          rw [Tree.eq_operation_of_operation? ho]
          exact Nat.le_trans (depth_pos _) hvalue
      | none => exact Nat.le_trans (ih e he ho) hvalue

end Json

namespace Tree

mutual

/-- A tree written out: nodes as objects of their labels and attributes, operation types as their words.
Plain dictionaries and text with lone surrogates are not written. -/
def toJson : Tree → Json
  | node kind attributes => .obj (("kind", .str kind.label) :: fieldsOf attributes)
  | list items => .arr (itemsOf items)
  | operation o => .str o.word
  | scalar (.bool b) => .bool b
  | scalar (.int n) => .int n
  | scalar (.float x) => .float x
  | scalar (.text s) => .str s
  | scalar .null | scalar (.surrogates _) | dict _ => .null

def fieldsOf : List (Attribute × Tree) → List (String × Json)
  | [] => []
  | (a, t) :: rest => (a.camel, toJson t) :: fieldsOf rest

def itemsOf : List Tree → List Json
  | [] => []
  | t :: rest => toJson t :: itemsOf rest

end

theorem fieldsOf_eq (attributes : Attributes) :
    fieldsOf attributes = attributes.map fun e => (e.1.camel, e.2.toJson) := by
  induction attributes with
  | nil => rfl
  | cons e attributes ih => rw [fieldsOf, ih, List.map_cons]

theorem itemsOf_eq (items : List Tree) : itemsOf items = items.map toJson := by
  induction items with
  | nil => rfl
  | cons t items ih => rw [itemsOf, ih, List.map_cons]

/-- Trees in which every node holds what it should: nodes, lists, booleans, numbers, text without lone
surrogates, and operation types under `operation`. -/
inductive Proper : Tree → Prop
  | scalar {s : Scalar} (known : ∀ points, s ≠ .surrogates points) : Proper (.scalar s)
  | list {items : List Tree} (each : ∀ t ∈ items, Proper t) : Proper (.list items)
  | node {kind : Kind} {attributes : Attributes} (proper : Attributes.Proper kind attributes)
      (parts : ∀ e ∈ attributes, e.2.operation? = none → Proper e.2) : Proper (.node kind attributes)

/-- What a tree is written out as spells it. -/
theorem Proper.spells {t : Tree} (h : Proper t) : Decode.Spells Json.view t.toJson t := by
  induction h with
  | @scalar s known =>
      refine .scalar ?_
      cases s with
      | surrogates points => exact absurd rfl (known points)
      | _ => rfl
  | @list items each ih =>
      refine .of_forall₂ rfl ?_
      rw [itemsOf_eq]
      exact List.forall₂_map_left_iff.mpr (List.forall₂_same.mpr ih)
  | @node kind attributes proper parts ih =>
      have hget : ∀ e ∈ attributes, ((attributes.get? e.1).map toJson).getD .null = e.2.toJson := by
        intro e he
        rw [Attributes.get?_of_mem proper.order he]
        rfl
      have hfields : fieldsOf attributes = attributes.map fun e =>
          (e.1.camel, ((attributes.get? e.1).map toJson).getD .null) := by
        rw [fieldsOf_eq]
        exact List.map_congr_left fun e he => by rw [hget e he]
      refine .node (.str kind.label) (fun a => ((attributes.get? a).map toJson).getD .null) [] rfl
        (.of_eq ?_) ?_ rfl (fun e he => absurd he List.not_mem_nil) proper ?_ ?_
      · rw [hfields, List.append_nil, List.map_cons, List.map_map]
        rfl
      · have hnames : ((("kind" : String) :: attributes.map fun e => e.1.camel).map Scalar.text).Nodup := by
          refine List.Nodup.map (fun _ _ => Scalar.text.inj) (List.nodup_cons.mpr ⟨?_, ?_⟩)
          · intro hkind
            obtain ⟨e, -, he⟩ := List.mem_map.mp hkind
            exact absurd (he ▸ Decode.isReserved_camel e.1) (by decide)
          · have hcamel := (Attributes.nodup_of_order proper.order).map Attribute.camel_injective
            rwa [List.map_map] at hcamel
        rw [hfields, List.map_map]
        simpa [Function.comp_def] using hnames
      · intro e he ho
        rw [hget e he]
        exact ih e he ho
      · intro e he o ho
        rw [hget e he, eq_operation_of_operation? ho]
        rfl

/-- Reading undoes writing. Off every spelling of a document that lists its definitions, in JSON or held in
another way, that document is read; and where its nodes hold what they should, it is written out as one of
its spellings. -/
theorem document_of_spells {definitions : List Tree} (nodes : ∀ d ∈ definitions, d.kind?.isSome = true) :
    ((document definitions).Proper →
      Decode.Spells Json.view (document definitions).toJson (document definitions) ∧
        (document definitions).toJson.toDocument = .ok (document definitions)) ∧
      (∀ v, Decode.Spells Json.view v (document definitions) → v.toDocument = .ok (document definitions)) ∧
      ∀ {α : Type} (view : View α) (x : α) (depth : Nat), Decode.Spells view x (document definitions) →
        (document definitions).depth ≤ depth →
        Decode.document view depth x = .ok (document definitions) := by
  have hread (v : Json) (hv : Decode.Spells Json.view v (document definitions)) :
      v.toDocument = .ok (document definitions) := hv.document_eq nodes (Json.depth_le hv)
  exact ⟨fun h => ⟨h.spells, hread _ h.spells⟩, hread, fun _ _ _ hx hdepth => hx.document_eq nodes hdepth⟩

/-- An operation with a name and an empty list of directives. -/
def titled : Tree := .node .operationDefinition
  [(.operation, .operation .query), (.name, .name "a"), (.directives, .list [])]

/-- The operation in a document, with entries in another order and among others. -/
def titledLoosely : Json := .obj [("loc", .null),
  ("definitions", .arr [.obj [("span", .arr [.int 1]), ("directives", .arr []),
    ("name", .obj [("documentId", .obj []), ("value", .str "a"), ("kind", .str "Name")]),
    ("operation", .str "query"), ("kind", .str "OperationDefinition")]]), ("kind", .str "Document")]

theorem proper_titled : (document [titled]).Proper := by
  have hname : (name "a").Proper :=
    .node (by decide) (List.forall_mem_singleton.mpr fun _ => .scalar fun _ h => nomatch h)
  have htitled : titled.Proper := .node (by decide) (List.forall_mem_cons.mpr
    ⟨nofun, List.forall_mem_cons.mpr ⟨fun _ => hname, List.forall_mem_singleton.mpr fun _ => .list nofun⟩⟩)
  exact .node (by decide)
    (List.forall_mem_singleton.mpr fun _ => .list (List.forall_mem_singleton.mpr htitled))

theorem spells_titledLoosely : Decode.Spells Json.view titledLoosely (document [titled]) := by
  have hreverse {l l' : Entries Json} (h : l'.reverse = l) : l.Perm l' := h ▸ l'.reverse_perm
  have hname : Decode.Spells Json.view
      (.obj [("documentId", .obj []), ("value", .str "a"), ("kind", .str "Name")]) (.name "a") :=
    .node (.str "Name") (fun _ => .str "a") [(.text "documentId", .obj [])] rfl (hreverse rfl) (by decide) rfl
      (by decide +kernel) (by decide) (List.forall_mem_singleton.mpr fun _ => .scalar rfl)
      (List.forall_mem_singleton.mpr nofun)
  have htitled : Decode.Spells Json.view (.obj [("span", .arr [.int 1]), ("directives", .arr []),
      ("name", .obj [("documentId", .obj []), ("value", .str "a"), ("kind", .str "Name")]),
      ("operation", .str "query"), ("kind", .str "OperationDefinition")]) titled := by
    refine .node (.str "OperationDefinition")
      (fun
        | .operation => .str "query"
        | .name => .obj [("documentId", .obj []), ("value", .str "a"), ("kind", .str "Name")]
        | _ => .arr [])
      [(.text "span", .arr [.int 1])] rfl (hreverse rfl) (by decide) rfl (by decide +kernel) (by decide) ?_ ?_
    · exact List.forall_mem_cons.mpr ⟨nofun, List.forall_mem_cons.mpr
        ⟨fun _ => hname, List.forall_mem_singleton.mpr fun _ => .of_forall₂ rfl .nil⟩⟩
    · refine List.forall_mem_cons.mpr
        ⟨?_, List.forall_mem_cons.mpr ⟨nofun, List.forall_mem_singleton.mpr nofun⟩⟩
      rintro o ⟨⟩
      rfl
  exact .node (.str "Document") (fun _ => .arr _) [(.text "loc", .null)] rfl (hreverse rfl) (by decide) rfl
    (by decide +kernel) (by decide)
    (List.forall_mem_singleton.mpr fun _ => .of_forall₂ rfl (.cons htitled .nil))
    (List.forall_mem_singleton.mpr nofun)

theorem document_of_spells_titled : (∀ d ∈ [titled], d.kind?.isSome = true) ∧
    (document [titled]).Proper ∧ (document [titled]).toJson.toDocument = .ok (document [titled]) ∧
    Decode.Spells Json.view titledLoosely (document [titled]) ∧
    titledLoosely.toDocument = .ok (document [titled]) := by
  have hnodes : ∀ d ∈ [titled], d.kind?.isSome = true := List.forall_mem_singleton.mpr rfl
  obtain ⟨hwritten, hread, -⟩ := document_of_spells hnodes
  exact ⟨hnodes, proper_titled, (hwritten proper_titled).2, spells_titledLoosely,
    hread _ spells_titledLoosely⟩

/-- Other trees are not read back. A document without a list of definitions is read as one of none. Under
`operation` the word of an operation type is read as that type, and anywhere else it stays text. A key is
known however it is capitalized, so that it can take the place of another. -/
theorem toDocument_improper :
    (node .document []).toJson.toDocument = .ok (document []) ∧ node .document [] ≠ document [] ∧
      (document [node .operationDefinition [(.operation, text "query")]]).toJson.toDocument =
        .ok (document [node .operationDefinition [(.operation, operation .query)]]) ∧
      (document [node .name [(.value, operation .query)]]).toJson.toDocument =
        .ok (document [node .name [(.value, text "query")]]) ∧
      (Json.obj [("kind", .str "Document"), ("definitions",
        .arr [.obj [("kind", .str "Name"), ("value", .str "a"), ("Value", .str "b")]])]).toDocument =
        .ok (document [.name "b"]) := by
  exact ⟨rfl, nofun, rfl, rfl, rfl⟩

end Tree

end PersistedOps
