import Mathlib.Data.List.Forall2
import Mathlib.Logic.Relator
import PersistedOps.Proofs.Document.Decoding
import PersistedOps.Proofs.Script.Store

/-!
Stores that cannot be told apart from their names. A matching relates addresses of one store to addresses
of another, one to one, such that related cells hold related values and names are bound to related values.
It need not say anything of the cells that no name leads to.
-/

namespace PersistedOps.Script

/-- Which addresses of two stores belong together. -/
abbrev Matching := Nat → Nat → Prop

variable {R R' : Matching}

/-! ### Values and cells -/

/-- Scalars are equal and addresses belong together. -/
inductive Value.Like (R : Matching) : Value → Value → Prop
  | scalar (s : Scalar) : Like R (.scalar s) (.scalar s)
  | cell {a b : Nat} (related : R a b) : Like R (.cell a) (.cell b)

inductive Cell.Like (R : Matching) : Cell → Cell → Prop
  | list {xs ys : List Value} (items : List.Forall₂ (Value.Like R) xs ys) :
      Like R (.list xs) (.list ys)
  | dict {es fs : Entries Value} (entries : Entries.Related (Value.Like R) es fs) :
      Like R (.dict es) (.dict fs)

inductive Target.Like (R : Matching) : Target → Target → Prop
  | name (n : String) : Like R (.name n) (.name n)
  | item {a b : Nat} (related : R a b) (k : Scalar) : Like R (.item a k) (.item b k)

theorem Target.Like.mono {p q : Target} (h : p.Like R q) (hsub : ∀ a b, R a b → R' a b) : p.Like R' q := by
  cases h with
  | name n => exact .name n
  | item hab k => exact .item (hsub _ _ hab) k

theorem Target.Like.unique {p q q' : Target} (hR : Relator.RightUnique R) (h : p.Like R q)
    (h' : p.Like R q') : q = q' := by
  cases h with
  | name n =>
      cases h'
      rfl
  | item hab k =>
      cases h' with
      | item hac k => rw [hR hab hac]

theorem Value.Like.mono {v w : Value} (h : v.Like R w) (hsub : ∀ a b, R a b → R' a b) : v.Like R' w := by
  cases h with
  | scalar s => exact .scalar s
  | cell hab => exact .cell (hsub _ _ hab)

/-- A relation on the values that a list or a dictionary holds can be exchanged for another. -/
theorem Cell.Like.imp {c d : Cell} (h : c.Like R d)
    (himp : ∀ v ∈ c.values, ∀ w, v.Like R w → v.Like R' w) : c.Like R' d := by
  cases h with
  | list hitems =>
      refine .list ?_
      induction hitems with
      | nil => exact .nil
      | cons hv _ ih =>
          obtain ⟨hfirst, hrest⟩ := List.forall_mem_cons.mp himp
          exact .cons (hfirst _ hv) (ih hrest)
  | dict hentries =>
      refine .dict ?_
      induction hentries with
      | nil => exact .nil
      | cons he _ ih =>
          obtain ⟨hfirst, hrest⟩ := List.forall_mem_cons.mp himp
          exact .cons ⟨he.1, hfirst _ he.2⟩ (ih hrest)

theorem Cell.Like.mono {c d : Cell} (h : c.Like R d) (hsub : ∀ a b, R a b → R' a b) : c.Like R' d :=
  h.imp fun _ _ _ hlike => hlike.mono hsub

theorem Cell.Like.layer {c d : Cell} (h : c.Like R d) :
    Layer.Related (Value.Like R) c.layer d.layer := by
  cases h with
  | list hitems => exact .list hitems
  | dict hentries => exact .dict hentries

theorem forall₂_set {xs ys : List Value} {v w : Value} (h : List.Forall₂ (Value.Like R) xs ys)
    (hv : v.Like R w) (i : Nat) : List.Forall₂ (Value.Like R) (xs.set i v) (ys.set i w) := by
  induction h generalizing i with
  | nil => exact .nil
  | cons hx hrest ih =>
      cases i with
      | zero => exact .cons hv hrest
      | succ i => exact .cons hx (ih i)

theorem forall₂_getElem? {xs ys : List Value} {v w : Value} (h : List.Forall₂ (Value.Like R) xs ys)
    {i : Nat} (hv : xs[i]? = some v) (hw : ys[i]? = some w) : v.Like R w := by
  induction h generalizing i with
  | nil => cases hv
  | cons hx _ ih =>
      cases i with
      | zero =>
          cases hv
          cases hw
          exact hx
      | succ i => exact ih hv hw

/-- The same assignment to cells that are alike leaves them alike. -/
theorem Cell.Like.assign {c d c' d' : Cell} {k : Scalar} {v w : Value} (h : c.Like R d) (hv : v.Like R w)
    (hc : c.assign? k v = some c') (hd : d.assign? k w = some d') : c'.Like R d' := by
  cases h with
  | dict hentries =>
      cases hc
      cases hd
      exact .dict (hentries.put hv)
  | list hitems =>
      obtain ⟨i, hi, rfl⟩ := Option.map_eq_some_iff.mp hc
      obtain ⟨j, hj, rfl⟩ := Option.map_eq_some_iff.mp hd
      rw [hitems.length_eq] at hi
      obtain rfl : i = j := Option.some.inj (hi.symm.trans hj)
      exact .list (forall₂_set hitems hv i)

/-- What is found under keys that are alike is alike. -/
theorem like_of_lookup {l l' k k' : Layer Value} (hl : Layer.Related (Value.Like R) l l')
    (hk : Layer.Related (Value.Like R) k k') {v w : Value} (hv : Evaluation.lookup l k = .ok v)
    (hw : Evaluation.lookup l' k' = .ok w) : v.Like R w := by
  cases hl with
  | scalar s =>
      unfold Evaluation.lookup at hv hw
      dsimp only at hv hw
      rw [← hk.toInt?_eq] at hw
      split at hv
      · next points n hpoints hn =>
        rw [hpoints, hn] at hw
        dsimp only at hw
        cases hfound : Evaluation.element points SubscriptFault.textRange n with
        | error reason =>
            rw [hfound] at hv
            cases hv
        | ok point =>
            rw [hfound] at hv hw
            cases hv
            cases hw
            exact .scalar _
      · cases hv
      · cases hv
  | list hitems =>
      obtain ⟨i, hi, hv⟩ := lookup_list_eq_ok_iff.mp hv
      obtain ⟨j, hj, hw⟩ := lookup_list_eq_ok_iff.mp hw
      rw [indexOf?, hitems.length_eq, hk.toInt?_eq] at hi
      obtain rfl : i = j := Option.some.inj (hi.symm.trans hj)
      exact forall₂_getElem? hitems hv hw
  | @dict es fs hentries =>
      cases hk with
      | list hitems => cases hv
      | dict hentries => cases hv
      | scalar k =>
          simp only [Evaluation.lookup] at hv hw
          have hget := hentries.rel_get? k
          generalize es.get? k = o at hget hv
          generalize fs.get? k = o' at hget hw
          cases hget with
          | none => cases hv
          | some hlike =>
              cases hv
              cases hw
              exact hlike

/-! ### Stores -/

/-- The matching takes one store to the other. -/
structure Simulates (R : Matching) (s t : Store) : Prop where
  unique : Relator.BiUnique R
  cells : ∀ a b, R a b → ∃ c d, s.heap.get? a = some c ∧ t.heap.get? b = some d ∧ c.Like R d
  names : ∀ n, Option.Rel (Value.Like R) (s.lookup? n) (t.lookup? n)

/-- A later store that has come about without assignments. -/
structure Store.Grows (s t : Store) : Prop where
  cells : ∀ a c, s.heap.get? a = some c → t.heap.get? a = some c
  bindings : t.bindings = s.bindings

namespace Store.Grows

variable {s t u : Store}

theorem refl (s : Store) : s.Grows s := ⟨fun _ _ h => h, rfl⟩

theorem trans (h : s.Grows t) (h' : t.Grows u) : s.Grows u :=
  ⟨fun a c hc => h'.cells a c (h.cells a c hc), h'.bindings.trans h.bindings⟩

theorem size_le (h : s.Grows t) : s.heap.cells.size ≤ t.heap.cells.size := by
  by_contra hlt
  obtain ⟨c, hc⟩ : ∃ c, s.heap.get? t.heap.cells.size = some c :=
    ⟨_, Array.getElem?_eq_getElem (Nat.lt_of_not_le hlt)⟩
  exact Nat.lt_irrefl _ (Heap.lt_of_get? (h.cells _ c hc))

theorem lookup? (h : s.Grows t) (n : String) : t.lookup? n = s.lookup? n := by
  rw [Store.lookup?, h.bindings]
  rfl

theorem load? (h : s.Grows t) {p : Target} {v : Value} (hv : s.load? p = some v) : t.load? p = some v := by
  cases p with
  | name n => exact (h.lookup? n).trans hv
  | item a k =>
      obtain ⟨c, hc, hlookup⟩ := Store.load?_item_eq_some_iff.mp hv
      exact Store.load?_item_eq_some_iff.mpr ⟨c, h.cells a c hc, hlookup⟩

theorem allocate (s : Store) (c : Cell) : s.Grows (s.allocate c) where
  cells a d hd := by
    rw [Store.allocate, Heap.get?_allocate, if_neg (Nat.ne_of_lt (Heap.lt_of_get? hd))]
    exact hd
  bindings := rfl

end Store.Grows

namespace Simulates

variable {s t s' t' : Store}

theorem initial : Simulates (fun _ _ => False) ⟨.empty, []⟩ ⟨.empty, []⟩ where
  unique := ⟨fun _ _ _ h => h.elim, fun _ _ _ h => h.elim⟩
  cells _ _ h := h.elim
  names _ := .none

/-- What happens to cells without a match does not matter. -/
theorem congr (h : Simulates R s t) (hs : ∀ a b, R a b → s'.heap.get? a = s.heap.get? a)
    (ht : ∀ a b, R a b → t'.heap.get? b = t.heap.get? b) (hs' : ∀ n, s'.lookup? n = s.lookup? n)
    (ht' : ∀ n, t'.lookup? n = t.lookup? n) : Simulates R s' t' where
  unique := h.unique
  cells a b hab := by
    rw [hs a b hab, ht a b hab]
    exact h.cells a b hab
  names n := by
    rw [hs', ht']
    exact h.names n

theorem of_same (h : Simulates R s t) (hs : s.Same s') (ht : t.Same t') : Simulates R s' t' :=
  h.congr (fun a _ _ => (hs.cells a).symm) (fun _ b _ => (ht.cells b).symm)
    (fun n => (hs.names n).symm) fun n => (ht.names n).symm

theorem grow (h : Simulates R s t) (hs : s.Grows s') (ht : t.Grows t') : Simulates R s' t' := by
  refine h.congr (fun a b hab => ?_) (fun a b hab => ?_) hs.lookup? ht.lookup?
  · obtain ⟨c, d, hc, hd, -⟩ := h.cells a b hab
    rw [hc, hs.cells a c hc]
  · obtain ⟨c, d, hc, hd, -⟩ := h.cells a b hab
    rw [hd, ht.cells b d hd]

/-- Fewer cells are enough, as long as the names and the cells lead to no others. -/
theorem restrict (h : Simulates R s t) {live : Nat → Prop}
    (hnames : ∀ n a, s.lookup? n = some (.cell a) → live a)
    (hcells : ∀ a y c b, R a y → live a → s.heap.get? a = some c → .cell b ∈ c.values → live b) :
    Simulates (fun a b => R a b ∧ live a) s t where
  unique := ⟨fun _ _ _ hab hcb => h.unique.1 hab.1 hcb.1, fun _ _ _ hab hac => h.unique.2 hab.1 hac.1⟩
  cells a b hab := by
    obtain ⟨c, d, hc, hd, hlike⟩ := h.cells a b hab.1
    refine ⟨c, d, hc, hd, hlike.imp fun v hv w hvw => ?_⟩
    cases hvw with
    | scalar s => exact .scalar s
    | cell hab' => exact .cell ⟨hab', hcells a b c _ hab.1 hab.2 hc hv⟩
  names n := by
    have hn := h.names n
    cases hv : s.lookup? n with
    | none =>
        rw [hv] at hn
        generalize t.lookup? n = o at hn
        cases hn
        exact .none
    | some v =>
        rw [hv] at hn
        generalize t.lookup? n = o at hn
        cases hn with
        | some hvw =>
            cases hvw with
            | scalar s => exact .some (.scalar s)
            | cell hab => exact .some (.cell ⟨hab, hnames n _ hv⟩)

/-- Two cells without a match can be matched when they are alike. -/
theorem adopt (h : Simulates R s t) {a b : Nat} {c d : Cell} (ha : ∀ y, ¬R a y) (hb : ∀ x, ¬R x b)
    (hc : s.heap.get? a = some c) (hd : t.heap.get? b = some d)
    (hlike : c.Like (fun x y => R x y ∨ x = a ∧ y = b) d) :
    Simulates (fun x y => R x y ∨ x = a ∧ y = b) s t where
  unique := by
    constructor
    · rintro x y z (hx | ⟨rfl, rfl⟩) (hy | ⟨rfl, hz⟩)
      · exact h.unique.1 hx hy
      · exact (hb _ (hz ▸ hx)).elim
      · exact (hb _ hy).elim
      · rfl
    · rintro x y z (hx | ⟨rfl, rfl⟩) (hy | ⟨hz, rfl⟩)
      · exact h.unique.2 hx hy
      · exact (ha _ (hz ▸ hx)).elim
      · exact (ha _ hy).elim
      · rfl
  cells x y hxy := by
    rcases hxy with hxy | ⟨rfl, rfl⟩
    · obtain ⟨c, d, hc, hd, hlike⟩ := h.cells x y hxy
      exact ⟨c, d, hc, hd, hlike.mono fun _ _ => .inl⟩
    · exact ⟨c, d, hc, hd, hlike⟩
  names n := by
    have hn := h.names n
    generalize s.lookup? n = o at hn ⊢
    generalize t.lookup? n = o' at hn ⊢
    cases hn with
    | none => exact .none
    | some hvw => exact .some (hvw.mono fun _ _ => .inl)

theorem lookup? (h : Simulates R s t) {n : String} {v w : Value} (hv : s.lookup? n = some v)
    (hw : t.lookup? n = some w) : v.Like R w := by
  have hn := h.names n
  rw [hv, hw] at hn
  cases hn with
  | some hvw => exact hvw

theorem lt_left (h : Simulates R s t) {a b : Nat} (hab : R a b) : a < s.heap.cells.size := by
  obtain ⟨_, _, hc, -, -⟩ := h.cells a b hab
  exact Heap.lt_of_get? hc

theorem lt_right (h : Simulates R s t) {a b : Nat} (hab : R a b) : b < t.heap.cells.size := by
  obtain ⟨_, _, -, hd, -⟩ := h.cells a b hab
  exact Heap.lt_of_get? hd

theorem layer (h : Simulates R s t) {v w : Value} (hvw : v.Like R w) :
    Layer.Related (Value.Like R) (s.heap.layer v) (t.heap.layer w) := by
  cases hvw with
  | scalar s => exact .scalar s
  | cell hab =>
      obtain ⟨c, d, hc, hd, hlike⟩ := h.cells _ _ hab
      rw [Heap.layer_cell hc, Heap.layer_cell hd]
      exact hlike.layer

theorem get?_of_layer_list (h : Simulates R s t) {a : Nat} {w : Value} {items : List Value}
    (ha : (Value.cell a).Like R w) (hlayer : s.heap.layer (.cell a) = .list items) :
    s.heap.get? a = some (.list items) := by
  cases ha with
  | cell hab =>
      obtain ⟨c, _, hc, -, -⟩ := h.cells _ _ hab
      rw [Heap.layer_cell hc] at hlayer
      cases c with
      | dict entries => cases hlayer
      | list items =>
          cases hlayer
          exact hc

theorem view (h : Simulates R s t) : Decode.Alike (Value.Like R) s.heap.view t.heap.view :=
  fun _ _ hvw => h.layer hvw

/-- Targets that are alike hold values that are alike. -/
theorem load (h : Simulates R s t) {p q : Target} {v w : Value} (hp : p.Like R q)
    (hv : s.load? p = some v) (hw : t.load? q = some w) : v.Like R w := by
  cases hp with
  | name n => exact h.lookup? hv hw
  | item hab k =>
      exact like_of_lookup (h.layer (.cell hab)) (.scalar k) (eq_ok_of_toOption hv) (eq_ok_of_toOption hw)

/-- Assignments into cells without a match keep the matching. -/
theorem assign_apart (h : Simulates R s t) {x y : Nat} {j k : Scalar} {v w : Value}
    (hapart : ∀ a b, R a b → a ≠ x ∧ b ≠ y) (hs : s.assign? (.item x j) v = some s')
    (ht : t.assign? (.item y k) w = some t') : Simulates R s' t' := by
  obtain ⟨c, c', hc, -, rfl⟩ := Store.assign?_item_eq_some_iff.mp hs
  obtain ⟨d, d', hd, -, rfl⟩ := Store.assign?_item_eq_some_iff.mp ht
  refine h.congr (fun a b hab => ?_) (fun a b hab => ?_) (fun _ => rfl) fun _ => rfl
  · rw [Store.get?_write hc, if_neg (hapart a b hab).1]
  · rw [Store.get?_write hd, if_neg (hapart a b hab).2]

/-- The same assignment to targets that are alike keeps the matching. -/
theorem assign (h : Simulates R s t) {p q : Target} {v w : Value} (hp : p.Like R q) (hv : v.Like R w)
    (hs : s.assign? p v = some s') (ht : t.assign? q w = some t') : Simulates R s' t' := by
  cases hp with
  | name n =>
      cases hs
      cases ht
      refine ⟨h.unique, h.cells, fun m => ?_⟩
      rw [Store.lookup?, Store.lookup?, List.lookup_cons, List.lookup_cons]
      split
      · exact .some hv
      · exact h.names m
  | @item a b hab k =>
      obtain ⟨c, hc, hs⟩ := Option.bind_eq_some_iff.mp hs
      obtain ⟨c', hc', hs⟩ := Option.bind_eq_some_iff.mp hs
      obtain ⟨d, hd, ht⟩ := Option.bind_eq_some_iff.mp ht
      obtain ⟨d', hd', ht⟩ := Option.bind_eq_some_iff.mp ht
      cases hs
      cases ht
      refine ⟨h.unique, fun x y hxy => ?_, h.names⟩
      rw [Store.write, Store.write, Heap.get?_set hc, Heap.get?_set hd]
      by_cases hxa : x = a
      · obtain rfl : b = y := h.unique.2 hab (hxa ▸ hxy)
        obtain ⟨_, _, hc₂, hd₂, hlike⟩ := h.cells _ _ hab
        cases hc.symm.trans hc₂
        cases hd.symm.trans hd₂
        exact ⟨c', d', if_pos hxa, if_pos rfl, hlike.assign hv hc' hd'⟩
      · have hyb : y ≠ b := by
          rintro rfl
          exact hxa (h.unique.1 hxy hab)
        rw [if_neg hxa, if_neg hyb]
        exact h.cells x y hxy

end Simulates

end PersistedOps.Script
