import Mathlib.Data.List.Forall2
import Mathlib.Logic.Relation
import PersistedOps.Document.Typename
import PersistedOps.Proofs.Document.WellFormed
import PersistedOps.Proofs.Results

/-!
Traversals of nodes that are given by their attributes. Every traversal does the same to a node: what
its kind lets it walk goes through the traversal, and the rest stays.
-/

namespace PersistedOps

namespace Tree

variable {k : Kind} {a : Attribute} {es es' es'' : List (Attribute × Option Tree)}

/-- A selection set of some selections. -/
def selectionSet (selections : List Tree) : Tree :=
  .node .selectionSet [(.selections, .list selections)]

/-! ### Attributes of a node -/

/-- The attributes stand in their listing order. -/
def inOrder (es : List (Attribute × Option Tree)) : Bool :=
  decide ((es.map (·.1)).Pairwise fun a b => a.rank < b.rank)

/-- The attributes that are there. -/
def present (es : List (Attribute × Option Tree)) : Attributes :=
  es.filterMap fun e => e.2.map (e.1, ·)

theorem ofOptions_eq (k : Kind) (es : List (Attribute × Option Tree)) :
    ofOptions k es = .node k (present es) := rfl

@[simp] theorem present_nil : present [] = [] := rfl

@[simp] theorem present_none (a : Attribute) (es : List (Attribute × Option Tree)) :
    present ((a, none) :: es) = present es := rfl

@[simp] theorem present_some (a : Attribute) (t : Tree) (es : List (Attribute × Option Tree)) :
    present ((a, some t) :: es) = (a, t) :: present es := rfl

theorem inOrder_cons {o : Option Tree} :
    inOrder ((a, o) :: es) ↔ (∀ e ∈ es, a.rank < e.1.rank) ∧ inOrder es := by
  simp [inOrder]

theorem get?_present (horder : inOrder es) {o : Option Tree} (h : (a, o) ∈ es) :
    Attributes.get? (present es) a = o := by
  induction es with
  | nil => cases h
  | cons e es ih =>
      obtain ⟨b, p⟩ := e
      obtain ⟨hrank, hrest⟩ := inOrder_cons.mp horder
      obtain heq | hmem := List.mem_cons.mp h
      · obtain ⟨rfl, rfl⟩ := Prod.mk.inj heq
        cases o with
        | some t => simp [Attributes.get?]
        | none =>
            -- No later attribute has the place of this one.
            rw [present_none]
            refine List.lookup_eq_none_iff.mpr fun e he => ?_
            obtain ⟨c, hc, hmap⟩ := List.mem_filterMap.mp he
            obtain ⟨t, -, rfl⟩ := Option.map_eq_some_iff.mp hmap
            have hlt : a.rank < c.1.rank := hrank c hc
            rw [bne_iff_ne]
            intro heq
            exact Nat.lt_irrefl _ (heq ▸ hlt)
      · have hlt : b.rank < a.rank := hrank _ hmem
        have hne : a ≠ b := by
          rintro rfl
          exact Nat.lt_irrefl _ hlt
        cases p with
        | none => exact ih hrest hmem
        | some t =>
            have hfound := ih hrest hmem
            rw [Attributes.get?] at hfound ⊢
            rw [present_some, List.lookup_cons, beq_eq_false_iff_ne.mpr hne, hfound]

theorem get?_ofOptions (horder : inOrder es) {o : Option Tree} (h : (a, o) ∈ es) :
    (ofOptions k es).get? a = o :=
  get?_present horder h

/-- Replaces an attribute. -/
def replace (es : List (Attribute × Option Tree)) (a : Attribute) (value : Option Tree) :
    List (Attribute × Option Tree) :=
  es.map fun e => if e.1 = a then (a, value) else e

theorem replace_cons_self (o value : Option Tree) :
    replace ((a, o) :: es) a value = (a, value) :: replace es a value := by
  simp [replace]

theorem replace_cons_of_ne {b : Attribute} (h : a ≠ b) (o value : Option Tree) :
    replace ((b, o) :: es) a value = (b, o) :: replace es a value := by
  simp [replace, h.symm]

theorem replace_of_lt (h : ∀ e ∈ es, a.rank < e.1.rank) (value : Option Tree) :
    replace es a value = es := by
  refine (List.map_congr_left fun e he => if_neg ?_).trans (List.map_id es)
  intro heq
  exact Nat.lt_irrefl _ (heq ▸ h e he)

theorem replace_self (horder : inOrder es) {o : Option Tree} (h : (a, o) ∈ es) :
    replace es a o = es := by
  induction es with
  | nil => cases h
  | cons e es ih =>
      obtain ⟨b, p⟩ := e
      obtain ⟨hrank, hrest⟩ := inOrder_cons.mp horder
      obtain heq | hmem := List.mem_cons.mp h
      · obtain ⟨rfl, rfl⟩ := Prod.mk.inj heq
        rw [replace_cons_self, replace_of_lt hrank]
      · have hlt : b.rank < a.rank := hrank _ hmem
        have hne : a ≠ b := by
          rintro rfl
          exact Nat.lt_irrefl _ hlt
        rw [replace_cons_of_ne hne, ih hrest hmem]

theorem set_present (horder : inOrder es) {t value : Tree} (h : (a, some t) ∈ es)
    (hvalue : value.isNull = false) :
    Attributes.set (present es) a value = present (replace es a (some value)) := by
  induction es with
  | nil => cases h
  | cons e es ih =>
      obtain ⟨b, p⟩ := e
      obtain ⟨hrank, hrest⟩ := inOrder_cons.mp horder
      obtain heq | hmem := List.mem_cons.mp h
      · obtain ⟨rfl, rfl⟩ := Prod.mk.inj heq
        rw [replace_cons_self, replace_of_lt hrank, present_some, present_some, Attributes.set,
          if_pos rfl, hvalue]
        rfl
      · have hlt : b.rank < a.rank := hrank _ hmem
        have hne : a ≠ b := by
          rintro rfl
          exact Nat.lt_irrefl _ hlt
        rw [replace_cons_of_ne hne]
        cases p with
        | none => exact ih hrest hmem
        | some u =>
            rw [present_some, present_some, Attributes.set, if_neg hne, if_neg (by omega),
              ih hrest hmem]

theorem set_ofOptions (horder : inOrder es) {t value : Tree} (h : (a, some t) ∈ es)
    (hvalue : value.isNull = false) :
    (ofOptions k es).set a value = ofOptions k (replace es a (some value)) := by
  rw [ofOptions_eq, set, set_present horder h hvalue, ofOptions_eq]

/-- Setting an attribute leaves the others. -/
theorem get?_set {b : Attribute} (h : a ≠ b) (t value : Tree) : (t.set a value).get? b = t.get? b := by
  cases t with
  | node k attributes =>
      show Attributes.get? (Attributes.set attributes a value) b = Attributes.get? attributes b
      induction attributes with
      | nil =>
          rw [Attributes.set]
          split <;> simp [Attributes.get?, h.symm]
      | cons e attributes ih =>
          obtain ⟨c, old⟩ := e
          have hcons : ∀ (d : Attribute) (t : Tree) (rest : Attributes),
              Attributes.get? ((d, t) :: rest) b = if b = d then some t else Attributes.get? rest b := by
            intro d t rest
            rw [Attributes.get?, List.lookup_cons]
            by_cases hd : b = d
            · rw [if_pos hd, beq_iff_eq.mpr hd]
            · rw [if_neg hd, beq_eq_false_iff_ne.mpr hd]
              rfl
          rw [Attributes.set]
          by_cases hc : a = c
          · subst hc
            rw [if_pos rfl]
            split <;> simp [hcons, h.symm]
          · rw [if_neg hc]
            split
            · split <;> simp [hcons, h.symm]
            · rw [hcons, hcons, ih]
  | _ => rfl

theorem inOrder_replace (horder : inOrder es) (value : Option Tree) :
    inOrder (replace es a value) := by
  have hnames : (replace es a value).map (·.1) = es.map (·.1) := by
    rw [replace, List.map_map]
    refine List.map_congr_left fun e _ => ?_
    rw [Function.comp]
    split
    · rename_i heq
      exact heq.symm
    · rfl
  rw [inOrder, hnames]
  exact horder

/-- Where an attribute stands once replaced. -/
theorem mem_replace {o : Option Tree} (h : (a, o) ∈ es) (value : Option Tree) :
    (a, value) ∈ replace es a value :=
  List.mem_map.mpr ⟨_, h, if_pos rfl⟩

/-! ### Walking the attributes -/

/-- An attribute goes to another, both absent, both single or both lists. -/
inductive Lifted (R : Tree → Tree → Prop) : Option Tree → Option Tree → Prop
  | none : Lifted R none none
  | one {t u : Tree} (h : R t u) : Lifted R (some t) (some u)
  | list {ts us : List Tree} (h : List.Forall₂ R ts us) :
      Lifted R (some (.list ts)) (some (.list us))

/-- What a traversal does to the attributes of a node. -/
inductive Walks (R : Tree → Tree → Prop) (k : Kind) :
    List (Attribute × Option Tree) → List (Attribute × Option Tree) → Prop
  | nil : Walks R k [] []
  | walked {a : Attribute} {o o' : Option Tree} {es es' : List (Attribute × Option Tree)}
      (ha : a ∈ k.visited) (h : Lifted R o o') (rest : Walks R k es es') :
      Walks R k ((a, o) :: es) ((a, o') :: es')
  | kept {a : Attribute} {o : Option Tree} {es es' : List (Attribute × Option Tree)}
      (ha : a ∉ k.visited) (rest : Walks R k es es') : Walks R k ((a, o) :: es) ((a, o) :: es')

section

variable {R S : Tree → Tree → Prop} {P : Tree → Prop} {ts : List Tree}

/-- Items that can be related to items with a property are related one by one. -/
theorem exists_related (h : ∀ t ∈ ts, ∃ u, R t u ∧ P u) :
    ∃ us, List.Forall₂ R ts us ∧ ∀ u ∈ us, P u := by
  induction ts with
  | nil => exact ⟨[], .nil, by simp⟩
  | cons t ts ih =>
      obtain ⟨⟨u, htu, hu⟩, hts⟩ := List.forall_mem_cons.mp h
      obtain ⟨us, hus, hall⟩ := ih hts
      exact ⟨u :: us, .cons htu hus, List.forall_mem_cons.mpr ⟨hu, hall⟩⟩

theorem exists_lifted_list {o : Option (List Tree)} (h : ∀ t ∈ o.getD [], ∃ u, R t u ∧ P u) :
    ∃ o' : Option (List Tree), Lifted R (o.map .list) (o'.map .list) ∧ ∀ u ∈ o'.getD [], P u := by
  cases o with
  | none => exact ⟨none, .none, by simp⟩
  | some ts =>
      obtain ⟨us, hus, hall⟩ := exists_related h
      exact ⟨some us, .list hus, hall⟩

theorem exists_lifted_option {o : Option Tree} (h : ∀ t ∈ o, ∃ u, R t u ∧ P u) :
    ∃ o', Lifted R o o' ∧ ∀ u ∈ o', P u := by
  cases o with
  | none => exact ⟨none, .none, by simp⟩
  | some t =>
      obtain ⟨u, htu, hu⟩ := h t rfl
      refine ⟨some u, .one htu, ?_⟩
      rintro v ⟨⟩
      exact hu

theorem lifted_map {α : Type} {f : α → Tree} (h : ∀ x, R (f x) (f x)) (o : Option α) :
    Lifted R (o.map f) (o.map f) := by
  cases o with
  | none => exact .none
  | some x => exact .one (h x)

/-- Two traversals, one after the other. -/
theorem exists_between {vs : List Tree} (h : List.Forall₂ (Relation.Comp R S) ts vs) :
    ∃ us, List.Forall₂ R ts us ∧ List.Forall₂ S us vs := by
  induction h with
  | nil => exact ⟨[], .nil, .nil⟩
  | cons h _ ih =>
      obtain ⟨u, htu, huv⟩ := h
      obtain ⟨us, hus, hvs⟩ := ih
      exact ⟨u :: us, .cons htu hus, .cons huv hvs⟩

theorem Lifted.split {o o'' : Option Tree} (h : Lifted (Relation.Comp R S) o o'') :
    ∃ o', Lifted R o o' ∧ Lifted S o' o'' := by
  cases h with
  | none => exact ⟨Option.none, .none, .none⟩
  | one h =>
      obtain ⟨u, htu, huv⟩ := h
      exact ⟨some u, .one htu, .one huv⟩
  | list h =>
      obtain ⟨us, htu, huv⟩ := exists_between h
      exact ⟨some (.list us), .list htu, .list huv⟩

theorem Walks.split (h : Walks (Relation.Comp R S) k es es'') :
    ∃ es', Walks R k es es' ∧ Walks S k es' es'' := by
  induction h with
  | nil => exact ⟨[], .nil, .nil⟩
  | walked ha h _ ih =>
      obtain ⟨o', h, h'⟩ := h.split
      obtain ⟨es', hes, hes'⟩ := ih
      exact ⟨_, .walked ha h hes, .walked ha h' hes'⟩
  | kept ha _ ih =>
      obtain ⟨es', hes, hes'⟩ := ih
      exact ⟨_, .kept ha hes, .kept ha hes'⟩

theorem Walks.names_eq (h : Walks R k es es') : es'.map (·.1) = es.map (·.1) := by
  induction h with
  | nil => rfl
  | walked _ _ _ ih | kept _ _ ih => rw [List.map_cons, List.map_cons, ih]

theorem Walks.inOrder (h : Walks R k es es') (horder : Tree.inOrder es) : Tree.inOrder es' := by
  rw [Tree.inOrder, h.names_eq]
  exact horder

theorem Walks.exists_mem {o : Option Tree} (h : Walks R k es es') (ha : a ∈ k.visited)
    (hmem : (a, o) ∈ es) : ∃ o', (a, o') ∈ es' ∧ Lifted R o o' := by
  induction h with
  | nil => cases hmem
  | walked _ hlifted _ ih =>
      obtain heq | hlater := List.mem_cons.mp hmem
      · obtain ⟨rfl, rfl⟩ := Prod.mk.inj heq
        exact ⟨_, List.mem_cons_self, hlifted⟩
      · obtain ⟨o', ho', h⟩ := ih hlater
        exact ⟨o', List.mem_cons_of_mem _ ho', h⟩
  | kept hb _ ih =>
      obtain heq | hlater := List.mem_cons.mp hmem
      · obtain ⟨rfl, rfl⟩ := Prod.mk.inj heq
        exact absurd ha hb
      · obtain ⟨o', ho', h⟩ := ih hlater
        exact ⟨o', List.mem_cons_of_mem _ ho', h⟩

/-- A walk takes another value of a walked attribute with it. -/
theorem Walks.replace {o o' : Option Tree} (h : Walks R k es es') (ha : a ∈ k.visited)
    (hvalue : Lifted R o o') : Walks R k (Tree.replace es a o) (Tree.replace es' a o') := by
  induction h with
  | nil => exact .nil
  | @walked b _ _ _ _ hb hlifted _ ih =>
      by_cases heq : b = a
      · subst heq
        rw [replace_cons_self, replace_cons_self]
        exact .walked ha hvalue ih
      · rw [replace_cons_of_ne (Ne.symm heq), replace_cons_of_ne (Ne.symm heq)]
        exact .walked hb hlifted ih
  | @kept b _ _ _ hb _ ih =>
      have hne : a ≠ b := by
        rintro rfl
        exact hb ha
      rw [replace_cons_of_ne hne, replace_cons_of_ne hne]
      exact .kept hb ih

end

/-! ### Revising -/

section

variable {f : Tree → Except Malformed Tree}

/-- The tree is revised to another. -/
def Revised (f : Tree → Except Malformed Tree) (t u : Tree) : Prop := t.revise f = .ok u

theorem not_isNull_of_revise {t u : Tree} (h : Revised f t u) : t.isNull = false := by
  cases t with
  | scalar s => exact absurd h (by simp [Revised, revise])
  | _ => rfl

theorem reviseItems_eq {ts us : List Tree} (h : List.Forall₂ (Revised f) ts us) :
    reviseItems f ts = .ok us := by
  induction h with
  | nil => rfl
  | @cons t u ts us h _ ih =>
      have hrevise : t.revise f = .ok u := h
      rw [reviseItems, not_isNull_of_revise h, hrevise, ih]
      rfl

theorem reviseAttributes_eq (h : Walks (Revised f) k es es') :
    reviseAttributes f k (present es) = .ok (present es') := by
  induction h with
  | nil => rfl
  | @walked a o o' es es' ha h _ ih =>
      cases h with
      | none => exact ih
      | @one t u h =>
          have hrevise : t.revise f = .ok u := h
          rw [present_some, reviseAttributes, if_pos ha, hrevise, ih]
          rfl
      | list h =>
          rw [present_some, reviseAttributes, if_pos ha, revise, reviseItems_eq h, ih]
          rfl
  | @kept a o es es' ha _ ih =>
      cases o with
      | none => exact ih
      | some t =>
          rw [present_some, reviseAttributes, if_neg ha, ih]
          rfl

/-- A node is revised after what is below it. -/
theorem revise_ofOptions (h : Walks (Revised f) k es es') :
    (ofOptions k es).revise f = f (ofOptions k es') := by
  rw [ofOptions_eq, revise, reviseAttributes_eq h]
  rfl

theorem revise_selectionSet {ts us : List Tree} (h : List.Forall₂ (Revised f) ts us) :
    (selectionSet ts).revise f = f (selectionSet us) := by
  have hwalk : Walks (Revised f) .selectionSet [(.selections, some (.list ts))]
      [(.selections, some (.list us))] := .walked (by decide) (.list h) .nil
  exact revise_ofOptions hwalk

/-- A revision tells nothing of two values that it takes to one. -/
theorem reviseAttributes_replace {v w : Tree} (horder : inOrder es) (hmem : (a, some v) ∈ es)
    (ha : a ∈ k.visited) (h : v.revise f = w.revise f) :
    reviseAttributes f k (present (replace es a (some w))) = reviseAttributes f k (present es) := by
  induction es with
  | nil => cases hmem
  | cons e es ih =>
      obtain ⟨b, o⟩ := e
      obtain ⟨hrank, hrest⟩ := inOrder_cons.mp horder
      obtain heq | hlater := List.mem_cons.mp hmem
      · obtain ⟨rfl, rfl⟩ := Prod.mk.inj heq
        rw [replace_cons_self, replace_of_lt hrank, present_some, present_some, reviseAttributes,
          reviseAttributes, if_pos ha, if_pos ha, h]
      · have hne : a ≠ b := by
          rintro rfl
          exact Nat.lt_irrefl _ (hrank _ hlater)
        rw [replace_cons_of_ne hne]
        cases o with
        | none => exact ih hrest hlater
        | some t =>
            rw [present_some, present_some, reviseAttributes, reviseAttributes, ih hrest hlater]

/-- A revised node was walked. -/
theorem exists_walks {attributes : Attributes}
    (h : reviseAttributes f k (present es) = .ok attributes) :
    ∃ es', Walks (Revised f) k es es' ∧ attributes = present es' := by
  induction es generalizing attributes with
  | nil =>
      cases h
      exact ⟨[], .nil, rfl⟩
  | cons e es ih =>
      obtain ⟨b, o⟩ := e
      cases o with
      | none =>
          obtain ⟨es', hwalk, rfl⟩ := ih h
          by_cases hb : b ∈ k.visited
          · exact ⟨(b, none) :: es', .walked hb .none hwalk, rfl⟩
          · exact ⟨(b, none) :: es', .kept hb hwalk, rfl⟩
      | some t =>
          rw [present_some, reviseAttributes] at h
          by_cases hb : b ∈ k.visited
          · rw [if_pos hb] at h
            obtain ⟨u, hu, h⟩ := bind_eq_ok_iff.mp h
            obtain ⟨rest, hrest, h⟩ := bind_eq_ok_iff.mp h
            cases h
            obtain ⟨es', hwalk, rfl⟩ := ih hrest
            exact ⟨(b, some u) :: es', .walked hb (.one hu) hwalk, rfl⟩
          · rw [if_neg hb] at h
            obtain ⟨rest, hrest, h⟩ := bind_eq_ok_iff.mp h
            cases h
            obtain ⟨es', hwalk, rfl⟩ := ih hrest
            exact ⟨(b, some t) :: es', .kept hb hwalk, rfl⟩

end

/-! ### Collecting spreads -/

/-- The names that the tree spreads are texts. -/
def Spreading (t : Tree) : Prop := ∃ names : List String, t.spreads = .ok (names.map .text)

theorem Spreading.not_isNull {t : Tree} (h : Spreading t) : t.isNull = false := by
  obtain ⟨names, ht⟩ := h
  cases t with
  | scalar s => exact absurd ht (by simp [spreads])
  | _ => rfl

theorem spreading_items {ts : List Tree} (h : ∀ t ∈ ts, Spreading t) :
    ∃ names : List String, spreadsInItems ts = .ok (names.map .text) := by
  induction ts with
  | nil => exact ⟨[], rfl⟩
  | cons t ts ih =>
      obtain ⟨ht, hts⟩ := List.forall_mem_cons.mp h
      obtain ⟨others, hothers⟩ := ih hts
      have hnull := ht.not_isNull
      obtain ⟨names, ht⟩ := ht
      refine ⟨names ++ others, ?_⟩
      rw [spreadsInItems, hnull, ht, hothers, List.map_append]
      rfl

/-- What holds of an attribute, or of each item of a list. -/
inductive Holds (P : Tree → Prop) : Option Tree → Prop
  | none : Holds P none
  | one {t : Tree} (h : P t) : Holds P (some t)
  | list {ts : List Tree} (h : ∀ t ∈ ts, P t) : Holds P (some (.list ts))

theorem holds_list {P : Tree → Prop} {o : Option (List Tree)} (h : ∀ t ∈ o.getD [], P t) :
    Holds P (o.map .list) := by
  cases o with
  | none => exact .none
  | some ts => exact .list h

theorem spreading_attributes (h : es.Forall fun e => e.1 ∈ k.visited → Holds Spreading e.2) :
    ∃ names : List String, spreadsInAttributes k (present es) = .ok (names.map .text) := by
  induction es with
  | nil => exact ⟨[], rfl⟩
  | cons e es ih =>
      obtain ⟨b, o⟩ := e
      obtain ⟨he, hes⟩ := (List.forall_cons ..).mp h
      obtain ⟨others, hothers⟩ := ih hes
      cases o with
      | none => exact ⟨others, hothers⟩
      | some t =>
          by_cases hb : b ∈ k.visited
          · obtain ⟨names, hnames⟩ : Spreading t := by
              cases he hb with
              | one ht => exact ht
              | list hts =>
                  obtain ⟨names, hnames⟩ := spreading_items hts
                  exact ⟨names, by rw [spreads, hnames]⟩
            refine ⟨names ++ others, ?_⟩
            rw [present_some, spreadsInAttributes, if_pos hb, hnames, hothers, List.map_append]
            rfl
          · refine ⟨others, ?_⟩
            rw [present_some, spreadsInAttributes, if_neg hb, hothers]

theorem spreading_ofOptions (hk : k ≠ .fragmentSpread)
    (h : es.Forall fun e => e.1 ∈ k.visited → Holds Spreading e.2) :
    Spreading (ofOptions k es) := by
  obtain ⟨names, hnames⟩ := spreading_attributes h
  refine ⟨names, ?_⟩
  rw [ofOptions_eq, spreads, if_neg hk, hnames]
  rfl

/-- The names that a tree spreads, none if they cannot be told. -/
def spreadNames (t : Tree) : List Scalar := t.spreads.toOption.getD []

theorem Spreading.eq_ok {t : Tree} (h : Spreading t) : t.spreads = .ok t.spreadNames := by
  obtain ⟨names, hnames⟩ := h
  rw [spreadNames, hnames]
  rfl

theorem spreadsInItems_eq {ts : List Tree} (h : ∀ t ∈ ts, Spreading t) :
    spreadsInItems ts = .ok (ts.flatMap spreadNames) := by
  induction ts with
  | nil => rfl
  | cons t ts ih =>
      obtain ⟨ht, hts⟩ := List.forall_mem_cons.mp h
      rw [spreadsInItems, ht.not_isNull, ht.eq_ok, ih hts]
      rfl

/-- Two trees spread the same names, each as often. -/
structure SameSpreads (t u : Tree) : Prop where
  left : Spreading t
  right : Spreading u
  perm : t.spreadNames.Perm u.spreadNames

theorem Spreading.same {t : Tree} (h : Spreading t) : SameSpreads t t := ⟨h, h, .refl _⟩

/-- Items that spread the same one by one spread the same in another order, too. -/
theorem sameSpreads_list {ts us vs : List Tree} (h : List.Forall₂ SameSpreads ts us)
    (hperm : us.Perm vs) : SameSpreads (.list ts) (.list vs) := by
  have hleft : ∀ t ∈ ts, Spreading t := fun t ht => (exists_of_mem_left h ht).elim fun _ h => h.2.left
  have hright : ∀ u ∈ us, Spreading u :=
    fun u hu => (exists_of_mem_left h.flip hu).elim fun _ h => h.2.right
  have hitems : ∀ {ts : List Tree}, (∀ t ∈ ts, Spreading t) → Spreading (.list ts) := by
    intro ts hts
    obtain ⟨names, hnames⟩ := spreading_items hts
    exact ⟨names, by rw [spreads, hnames]⟩
  have hnames : ∀ {ts : List Tree}, (∀ t ∈ ts, Spreading t) →
      spreadNames (.list ts) = ts.flatMap spreadNames := by
    intro ts hts
    rw [spreadNames, spreads, spreadsInItems_eq hts]
    rfl
  have hmoved : ∀ v ∈ vs, Spreading v := fun v hv => hright v (hperm.symm.subset hv)
  refine ⟨hitems hleft, hitems hmoved, ?_⟩
  rw [hnames hleft, hnames hmoved]
  refine List.Perm.trans ?_ (hperm.flatMap_right _)
  clear hleft hright hmoved hperm
  induction h with
  | nil => exact .refl _
  | cons h _ ih =>
      rw [List.flatMap_cons, List.flatMap_cons]
      exact h.perm.append ih

theorem perm_spreadsInAttributes {v w : Tree} {names others : List Scalar} (horder : inOrder es)
    (hmem : (a, some v) ∈ es) (ha : a ∈ k.visited) (hvalue : SameSpreads v w)
    (h : spreadsInAttributes k (present es) = .ok names)
    (h' : spreadsInAttributes k (present (replace es a (some w))) = .ok others) :
    names.Perm others := by
  -- The attribute occurs once: up to it both lists are the same, and behind it again.
  induction es generalizing names others with
  | nil => cases hmem
  | cons e es ih =>
      obtain ⟨b, o⟩ := e
      obtain ⟨hrank, hrest⟩ := inOrder_cons.mp horder
      obtain heq | hlater := List.mem_cons.mp hmem
      · obtain ⟨rfl, rfl⟩ := Prod.mk.inj heq
        rw [replace_cons_self, replace_of_lt hrank, present_some, spreadsInAttributes, if_pos ha] at h'
        rw [present_some, spreadsInAttributes, if_pos ha] at h
        obtain ⟨here, hv, h⟩ := bind_eq_ok_iff.mp h
        obtain ⟨there, hw, h'⟩ := bind_eq_ok_iff.mp h'
        obtain ⟨rest, hnames, heq⟩ := bind_eq_ok_iff.mp h
        obtain ⟨rest', hothers, heq'⟩ := bind_eq_ok_iff.mp h'
        rw [hvalue.left.eq_ok] at hv
        rw [hvalue.right.eq_ok] at hw
        rw [hnames] at hothers
        cases hv
        cases hw
        cases hothers
        cases heq
        cases heq'
        exact hvalue.perm.append_right _
      · have hne : a ≠ b := by
          rintro rfl
          exact Nat.lt_irrefl _ (hrank _ hlater)
        rw [replace_cons_of_ne hne] at h'
        cases o with
        | none => exact ih hrest hlater h h'
        | some t =>
            rw [present_some, spreadsInAttributes] at h h'
            by_cases hb : b ∈ k.visited
            · rw [if_pos hb] at h h'
              obtain ⟨here, ht, h⟩ := bind_eq_ok_iff.mp h
              obtain ⟨here', ht', h'⟩ := bind_eq_ok_iff.mp h'
              obtain ⟨rest, hnames, heq⟩ := bind_eq_ok_iff.mp h
              obtain ⟨rest', hothers, heq'⟩ := bind_eq_ok_iff.mp h'
              cases heq
              cases heq'
              rw [ht] at ht'
              cases ht'
              exact (ih hrest hlater hnames hothers).append_left _
            · rw [if_neg hb] at h h'
              exact ih hrest hlater h h'

/-- A value that spreads the same leaves a node with the same spreads. -/
theorem sameSpreads_replace {v w : Tree} (hk : k ≠ .fragmentSpread) (horder : inOrder es)
    (hmem : (a, some v) ∈ es) (ha : a ∈ k.visited) (hvalue : SameSpreads v w)
    (h : Spreading (ofOptions k es)) (h' : Spreading (ofOptions k (replace es a (some w)))) :
    SameSpreads (ofOptions k es) (ofOptions k (replace es a (some w))) := by
  -- What the attributes spread is what the node spreads.
  have hnode : ∀ es, (ofOptions k es).spreads = spreadsInAttributes k (present es) := by
    intro es
    rw [ofOptions_eq, spreads, if_neg hk]
    cases spreadsInAttributes k (present es) <;> rfl
  refine ⟨h, h', ?_⟩
  exact perm_spreadsInAttributes horder hmem ha hvalue ((hnode _).symm.trans h.eq_ok)
    ((hnode _).symm.trans h'.eq_ok)

end Tree

end PersistedOps
