import Mathlib.Data.List.Perm.Basic
import Mathlib.Data.Option.Basic
import PersistedOps.Proofs.Document.Parts

/-!
Trees that are the same but for the order of sequences. What each attribute permits of the order of its
sequence is a relation; the items of a sequence correspond one by one before they change places. Such
trees have the same kinds and names. When all that is permitted are changes of places, they spread the
same names and have the same shape.
-/

namespace PersistedOps

namespace Tree

/-- Trees that are the same but for the order of the sequences under their attributes, which may differ
as the first relation permits. The second one is what is permitted of the tree itself, if it is a
sequence. -/
inductive SameUpTo (R : Kind → Attribute → List Tree → List Tree → Prop) :
    (List Tree → List Tree → Prop) → Tree → Tree → Prop
  | atom {S : List Tree → List Tree → Prop} {t : Tree} (h : t.isAtom) : SameUpTo R S t t
  | node {S : List Tree → List Tree → Prop} {k : Kind} {attributes others : Attributes}
      (length : attributes.length = others.length)
      (names : ∀ p ∈ attributes.zip others, p.2.1 = p.1.1)
      (each : ∀ p ∈ attributes.zip others, SameUpTo R (R k p.1.1) p.1.2 p.2.2) :
      SameUpTo R S (.node k attributes) (.node k others)
  | list {S : List Tree → List Tree → Prop} {xs ys zs : List Tree} (length : xs.length = ys.length)
      (each : ∀ p ∈ xs.zip ys, SameUpTo R Eq p.1 p.2) (order : S ys zs) :
      SameUpTo R S (.list xs) (.list zs)

namespace SameUpTo

variable {R : Kind → Attribute → List Tree → List Tree → Prop} {S : List Tree → List Tree → Prop}
  {k : Kind} {attributes others : Attributes} {xs ys zs : List Tree} {t u : Tree}

/-- What becomes of an attribute of a node. -/
def Part (R : Kind → Attribute → List Tree → List Tree → Prop) (k : Kind)
    (e e' : Attribute × Tree) : Prop :=
  e'.1 = e.1 ∧ SameUpTo R (R k e.1) e.2 e'.2

theorem of_parts (h : List.Forall₂ (Part R k) attributes others) :
    SameUpTo R S (.node k attributes) (.node k others) :=
  .node h.length_eq (fun _ hp => ((List.forall₂_iff_zip.mp h).2 hp).1)
    fun _ hp => ((List.forall₂_iff_zip.mp h).2 hp).2

theorem exists_node (h : SameUpTo R S (.node k attributes) u) :
    ∃ others, u = .node k others ∧ List.Forall₂ (Part R k) attributes others := by
  cases h with
  | atom h => cases h
  | node length names each =>
      exact ⟨_, rfl, List.forall₂_iff_zip.mpr ⟨length, fun hp => ⟨names _ hp, each _ hp⟩⟩⟩

theorem of_items (h : List.Forall₂ (SameUpTo R Eq) xs ys) (order : S ys zs) :
    SameUpTo R S (.list xs) (.list zs) :=
  .list h.length_eq (fun _ hp => (List.forall₂_iff_zip.mp h).2 hp) order

theorem exists_list (h : SameUpTo R S (.list xs) u) :
    ∃ ys zs, u = .list zs ∧ List.Forall₂ (SameUpTo R Eq) xs ys ∧ S ys zs := by
  cases h with
  | atom h => cases h
  | list length each order =>
      exact ⟨_, _, rfl, List.forall₂_iff_zip.mpr ⟨length, fun hp => each _ hp⟩, order⟩

theorem eq_of_atom (h : SameUpTo R S t u) (ht : t.isAtom) : u = t := by
  cases h with
  | atom => rfl
  | node | list => cases ht

/-- Each item of the sequence before it changes its order. -/
theorem exists_items (h : SameUpTo R S t (.list zs)) :
    ∃ xs ys, t = .list xs ∧ List.Forall₂ (SameUpTo R Eq) xs ys ∧ S ys zs := by
  cases h with
  | atom h => cases h
  | list length each order =>
      exact ⟨_, _, rfl, List.forall₂_iff_zip.mpr ⟨length, fun hp => each _ hp⟩, order⟩

/-- A node of one sequence. -/
theorem exists_one {a : Attribute} (h : SameUpTo R S (.node k [(a, .list xs)]) u) :
    ∃ ys zs, u = .node k [(a, .list zs)] ∧ List.Forall₂ (SameUpTo R Eq) xs ys ∧ R k a ys zs := by
  obtain ⟨others, rfl, hparts⟩ := h.exists_node
  obtain ⟨⟨b, v⟩, rest, ⟨hkey, hpart⟩, hrest, rfl⟩ := List.forall₂_cons_left_iff.mp hparts
  obtain rfl : b = a := hkey
  cases hrest
  obtain ⟨ys, zs, heq, heach, order⟩ := hpart.exists_list
  obtain rfl : v = .list zs := heq
  exact ⟨ys, zs, rfl, heach, order⟩

/-- The tree before its own order is changed, if it is a sequence. -/
theorem exists_before (h : SameUpTo R S t u) : ∃ w, SameUpTo R Eq t w ∧
    (w = u ∨ ∃ ys zs, w = .list ys ∧ u = .list zs ∧ S ys zs) := by
  cases h with
  | atom h => exact ⟨_, .atom h, .inl rfl⟩
  | node length names each => exact ⟨_, .node length names each, .inl rfl⟩
  | list length each order => exact ⟨_, .list length each rfl, .inr ⟨_, _, rfl, rfl, order⟩⟩

theorem eq_of_atoms (h : List.Forall₂ (Part R k) attributes others)
    (hatoms : ∀ e ∈ attributes, e.2.isAtom) : others = attributes := by
  have heach := forall₂_imp_of_mem (S := fun e e' => e' = e) h fun e he e' hpart =>
    Prod.ext hpart.1 (hpart.2.eq_of_atom (hatoms e he))
  simpa using map_eq_of_forall₂ (g := id) (f := id) heach

/-- Executable trees are the same as themselves. -/
theorem refl (hR : ∀ k a xs, R k a xs xs) (hS : ∀ xs, S xs xs) (h : Executable t) :
    SameUpTo R S t t := by
  have hlist {S : List Tree → List Tree → Prop} (hS : ∀ xs, S xs xs) {xs : List Tree}
      (h : ∀ x ∈ xs, SameUpTo R Eq x x) : SameUpTo R S (.list xs) (.list xs) :=
    .of_items (List.forall₂_same.mpr h) (hS xs)
  induction h generalizing S with
  | @node k attributes _ _ _ atoms _ _ ih =>
      refine .of_parts (List.forall₂_same.mpr fun e he => ⟨rfl, ?_⟩)
      by_cases ha : e.1 ∈ k.visited
      · exact ih e he ha (hR k e.1)
      · exact .atom (atoms e he ha)
  | selectionSet each ih =>
      exact .of_parts (.cons ⟨rfl, hlist (hR _ _) fun x hx => ih x hx fun _ => rfl⟩ .nil)
  | list each ih => exact hlist hS fun x hx => ih x hx fun _ => rfl

/-! ### Names -/

theorem kind?_eq (h : SameUpTo R S t u) : u.kind? = t.kind? := by
  cases h <;> rfl

theorem isNull_eq (h : SameUpTo R S t u) : u.isNull = t.isNull := by
  cases h <;> rfl

theorem eq_scalar_iff {s : Scalar} (h : SameUpTo R S t u) : u = .scalar s ↔ t = .scalar s := by
  cases h with
  | atom => rfl
  | node | list => simp

theorem parts_keys (h : List.Forall₂ (Part R k) attributes others) :
    others.map (·.1) = attributes.map (·.1) :=
  map_eq_of_forall₂ (h.imp fun _ _ he => he.1)

theorem order_of_parts (h : List.Forall₂ (Part R k) attributes others)
    (order : attributes.Pairwise fun e f => e.1.rank < f.1.rank) :
    others.Pairwise fun e f => e.1.rank < f.1.rank := by
  have hranks : (attributes.map (·.1)).Pairwise fun a b => a.rank < b.rank :=
    List.pairwise_map.mpr order
  rwa [← parts_keys h, List.pairwise_map] at hranks

/-- Attributes correspond where they are found. -/
theorem get?_parts (h : List.Forall₂ (Part R k) attributes others) (a : Attribute) :
    (Attributes.get? attributes a = none ∧ Attributes.get? others a = none) ∨
      ∃ v w, Attributes.get? attributes a = some v ∧ Attributes.get? others a = some w ∧
        SameUpTo R (R k a) v w := by
  induction h with
  | nil => exact .inl ⟨rfl, rfl⟩
  | @cons e e' _ _ he _ ih =>
      obtain ⟨b, t⟩ := e
      obtain ⟨c, u⟩ := e'
      obtain ⟨rfl, hu⟩ := he
      simp only [Attributes.get?, List.lookup_cons] at ih ⊢
      by_cases ha : a = c
      · subst ha
        rw [beq_self_eq_true]
        exact .inr ⟨t, u, rfl, rfl, hu⟩
      · rw [beq_eq_false_iff_ne.mpr ha]
        exact ih

theorem get?_rel (h : SameUpTo R S t u) (a : Attribute) : (t.get? a = none ∧ u.get? a = none) ∨
    ∃ v w S, t.get? a = some v ∧ u.get? a = some w ∧ SameUpTo R S v w := by
  cases h with
  | @atom _ t h =>
      cases t with
      | scalar | operation => exact .inl ⟨rfl, rfl⟩
      | _ => cases h
  | list => exact .inl ⟨rfl, rfl⟩
  | node length names each =>
      have hparts := List.forall₂_iff_zip.mpr
        ⟨length, fun hp => (⟨names _ hp, each _ hp⟩ : Part R _ _ _)⟩
      refine (get?_parts hparts a).imp_right ?_
      rintro ⟨v, w, hv, hw, h⟩
      exact ⟨v, w, _, hv, hw, h⟩

/-- An attribute is read of both or of neither. -/
theorem attr_rel (h : SameUpTo R S t u) (a : Attribute) :
    (∃ m, t.attr a = .error m ∧ u.attr a = .error m) ∨
      ∃ v w S, t.attr a = .ok v ∧ u.attr a = .ok w ∧ SameUpTo R S v w := by
  have hget := h.get?_rel a
  cases h with
  | @atom _ t h =>
      cases t with
      | scalar | operation => exact .inl ⟨_, rfl, rfl⟩
      | _ => cases h
  | list => exact .inl ⟨_, rfl, rfl⟩
  | @node _ k attributes others =>
      rw [get?, get?] at hget
      rw [attr, attr]
      split
      · refine .inr ?_
        obtain ⟨hv, hw⟩ | ⟨v, w, S, hv, hw, h⟩ := hget
        · rw [hv, hw]
          exact ⟨null, null, Eq, rfl, rfl, .atom rfl⟩
        · rw [hv, hw]
          exact ⟨v, w, S, rfl, rfl, h⟩
      · exact .inl ⟨_, rfl, rfl⟩

theorem nameOf_eq (h : SameUpTo R S t u) : u.nameOf = t.nameOf := by
  rw [nameOf, nameOf]
  obtain ⟨m, ht, hu⟩ | ⟨n, n', S', ht, hu, hname⟩ := h.attr_rel .name
  · rw [ht, hu]
  · rw [ht, hu]
    simp only [bind, Except.bind]
    obtain ⟨m, hn, hn'⟩ | ⟨v, v', S'', hn, hn', hvalue⟩ := hname.attr_rel .value
    · rw [hn, hn']
    · rw [hn, hn']
      -- Only an atom is a name, and it is the same on both sides.
      cases hvalue with
      | atom => rfl
      | node | list => rfl

/-! ### Spreads -/

/-- A tree spreads the names of another, each as often, if those can be told. -/
def SpreadsAs (t u : Tree) : Prop :=
  ∀ names, t.spreads = .ok names → ∃ names', u.spreads = .ok names' ∧ names.Perm names'

theorem spreadsInAttributes_rel {names : List Scalar}
    (h : List.Forall₂ (fun e e' => e'.1 = e.1 ∧ (e.1 ∈ k.visited → SpreadsAs e.2 e'.2)) attributes others)
    (hnames : spreadsInAttributes k attributes = .ok names) :
    ∃ names', spreadsInAttributes k others = .ok names' ∧ names.Perm names' := by
  induction h generalizing names with
  | nil => exact ⟨names, hnames, .refl _⟩
  | @cons e e' _ _ he _ ih =>
      obtain ⟨a, t⟩ := e
      obtain ⟨b, u⟩ := e'
      obtain ⟨rfl, hu⟩ := he
      rw [spreadsInAttributes] at hnames ⊢
      by_cases ha : b ∈ k.visited
      · rw [if_pos ha] at hnames ⊢
        obtain ⟨here, hhere, hnames⟩ := bind_eq_ok_iff.mp hnames
        obtain ⟨rest, hrest, hnames⟩ := bind_eq_ok_iff.mp hnames
        cases hnames
        obtain ⟨here', hhere', hperm⟩ := hu ha here hhere
        obtain ⟨rest', hrest', hperms⟩ := ih hrest
        refine ⟨here' ++ rest', ?_, hperm.append hperms⟩
        rw [hhere', hrest']
        rfl
      · rw [if_neg ha] at hnames ⊢
        exact ih hnames

/-- What an item of a sequence spreads: nothing if it is null. -/
def ItemSpreads (x : Tree) (names : List Scalar) : Prop :=
  if x.isNull then names = [] else x.spreads = .ok names

theorem spreadsInItems_eq_ok_iff {names : List Scalar} : spreadsInItems xs = .ok names ↔
    ∃ each, List.Forall₂ ItemSpreads xs each ∧ names = each.flatten := by
  induction xs generalizing names with
  | nil =>
      simp only [spreadsInItems, List.forall₂_nil_left_iff, exists_eq_left, List.flatten_nil,
        Except.ok.injEq, eq_comm]
  | cons x xs ih =>
      simp only [List.forall₂_cons_left_iff]
      rw [spreadsInItems]
      by_cases hnull : x.isNull = true
      · have hitem {here : List Scalar} : ItemSpreads x here ↔ here = [] := by
          rw [ItemSpreads, if_pos hnull]
        rw [if_pos hnull, ih]
        constructor
        · rintro ⟨each, heach, rfl⟩
          exact ⟨_, ⟨[], each, hitem.mpr rfl, heach, rfl⟩, rfl⟩
        · rintro ⟨_, ⟨here, each, hhere, heach, rfl⟩, rfl⟩
          obtain rfl := hitem.mp hhere
          exact ⟨each, heach, rfl⟩
      · have hitem {here : List Scalar} : ItemSpreads x here ↔ x.spreads = .ok here := by
          rw [ItemSpreads, if_neg hnull]
        rw [if_neg hnull]
        constructor
        · intro h
          obtain ⟨here, hhere, h⟩ := bind_eq_ok_iff.mp h
          obtain ⟨rest, hrest, h⟩ := bind_eq_ok_iff.mp h
          cases h
          obtain ⟨each, heach, rfl⟩ := ih.mp hrest
          exact ⟨_, ⟨here, each, hitem.mpr hhere, heach, rfl⟩, rfl⟩
        · rintro ⟨_, ⟨here, each, hhere, heach, rfl⟩, rfl⟩
          rw [hitem.mp hhere, ih.mpr ⟨each, heach, rfl⟩]
          rfl

/-- Items that spread the same one by one do so in any order. -/
theorem spreadsAs_list (h : List.Forall₂ (fun x y => y.isNull = x.isNull ∧ SpreadsAs x y) xs ys)
    (hperm : ys.Perm zs) : SpreadsAs (.list xs) (.list zs) := by
  intro names hnames
  rw [spreads] at hnames
  obtain ⟨each, heach, rfl⟩ := spreadsInItems_eq_ok_iff.mp hnames
  obtain ⟨each', heach', hflat⟩ : ∃ each', List.Forall₂ ItemSpreads ys each' ∧
      each.flatten.Perm each'.flatten := by
    clear hnames hperm
    induction h generalizing each with
    | nil => exact ⟨each, heach, .refl _⟩
    | @cons x y xs ys hxy _ ih =>
        obtain ⟨here, rest, hhere, hrest, rfl⟩ := List.forall₂_cons_left_iff.mp heach
        obtain ⟨rest', hrest', hperms⟩ := ih rest hrest
        obtain ⟨hnull, hspreads⟩ := hxy
        obtain ⟨here', hhere', hperm⟩ : ∃ here', ItemSpreads y here' ∧ here.Perm here' := by
          unfold ItemSpreads at hhere ⊢
          rw [hnull]
          split
          · rename_i hx
            exact ⟨here, by rwa [if_pos hx] at hhere, .refl _⟩
          · rename_i hx
            rw [if_neg hx] at hhere
            exact hspreads here hhere
        exact ⟨here' :: rest', .cons hhere' hrest', hperm.append hperms⟩
  obtain ⟨each'', heach'', hperm''⟩ := List.perm_comp_forall₂ hperm.symm heach'
  exact ⟨each''.flatten, spreadsInItems_eq_ok_iff.mpr ⟨each'', heach'', rfl⟩,
    hflat.trans hperm''.symm.flatten⟩

/-- Trees that are the same but for changes of places spread the same names. -/
theorem spreadsAs (hR : ∀ k a xs ys, R k a xs ys → xs.Perm ys) (hS : ∀ xs ys, S xs ys → xs.Perm ys)
    (h : SameUpTo R S t u) : SpreadsAs t u := by
  induction h with
  | atom => exact fun names hnames => ⟨names, hnames, .refl _⟩
  | @node S k attributes others length names each ih =>
      have hnode : SameUpTo R S (.node k attributes) (.node k others) := .node length names each
      intro spread hspread
      rw [spreads] at hspread ⊢
      have hparts : List.Forall₂
          (fun e e' => e'.1 = e.1 ∧ (e.1 ∈ k.visited → SpreadsAs e.2 e'.2)) attributes others :=
        List.forall₂_iff_zip.mpr ⟨length, fun hp => ⟨names _ hp, fun _ => ih _ hp (hR k _)⟩⟩
      -- A spread begins with its own name, any other node with none.
      by_cases hk : k = .fragmentSpread
      · rw [if_pos hk] at hspread ⊢
        obtain ⟨n, hn, hspread⟩ := bind_eq_ok_iff.mp hspread
        obtain ⟨here, hhere, hspread⟩ := bind_eq_ok_iff.mp hspread
        obtain ⟨rest, hrest, hspread⟩ := bind_eq_ok_iff.mp hspread
        cases hhere
        cases hspread
        obtain ⟨rest', hrest', hperm⟩ := spreadsInAttributes_rel hparts hrest
        refine ⟨[n] ++ rest', ?_, hperm.append_left _⟩
        rw [hnode.nameOf_eq, hn, hrest']
        rfl
      · rw [if_neg hk] at hspread ⊢
        obtain ⟨here, hhere, hspread⟩ := bind_eq_ok_iff.mp hspread
        cases hhere
        obtain ⟨rest, hrest, hspread⟩ := bind_eq_ok_iff.mp hspread
        cases hspread
        obtain ⟨rest', hrest', hperm⟩ := spreadsInAttributes_rel hparts hrest
        refine ⟨[] ++ rest', ?_, hperm.append_left _⟩
        rw [hrest']
        rfl
  | @list S xs ys zs length each order ih =>
      refine spreadsAs_list (List.forall₂_iff_zip.mpr ⟨length, fun hp => ?_⟩) (hS _ _ order)
      refine ⟨(each _ hp).isNull_eq, ih _ hp fun xs ys h => ?_⟩
      rw [h]

/-! ### Shape -/

/-- Changes of places keep the shape of executable trees. -/
theorem shaped {value : Bool} (hR : ∀ k a xs ys, R k a xs ys → xs.Perm ys)
    (hS : ∀ xs ys, S xs ys → xs.Perm ys) (ht : Shaped value t) (h : SameUpTo R S t u) :
    Shaped value u := by
  -- On the shape. A permuted list has the same members, so what is said of each member still holds.
  induction ht generalizing S u with
  | @literal t hliteral =>
      cases h with
      | atom => exact .literal hliteral
      | node length names each =>
          have hparts := List.forall₂_iff_zip.mpr
            ⟨length, fun hp => (⟨names _ hp, each _ hp⟩ : Part R _ _ _)⟩
          rw [eq_of_atoms hparts hliteral.isAtom_of_mem]
          exact .literal hliteral
      | list => cases hliteral
  | @node value k attributes other order parts atoms named items sets ih =>
      obtain ⟨others, rfl, hparts⟩ := h.exists_node
      have hpart {e' : Attribute × Tree} (he' : e' ∈ others) : ∃ e ∈ attributes, Part R k e e' := by
        obtain ⟨e, he, hrel⟩ := exists_of_mem_left hparts.flip he'
        exact ⟨e, he, hrel⟩
      refine .node other (order_of_parts hparts order) (fun e' he' ha => ?_) (fun e' he' ha => ?_)
        (fun hk => h.nameOf_eq ▸ named hk) (fun hk => ?_) fun e' he' ha => ?_
      · obtain ⟨e, he, hkey, hrel⟩ := hpart he'
        rw [hkey] at ha ⊢
        exact ih e he ha (hR k e.1) hrel
      · obtain ⟨e, he, hkey, hrel⟩ := hpart he'
        rw [hkey] at ha
        rw [hrel.eq_of_atom (atoms e he ha)]
        exact atoms e he ha
      · obtain ⟨xs, rfl⟩ := items hk
        obtain ⟨-, zs, heq, -⟩ := h.exists_one
        cases heq
        exact ⟨zs, rfl⟩
      · obtain ⟨e, he, hkey, hrel⟩ := hpart he'
        obtain ⟨xs, hxs⟩ := sets e he (hkey.symm.trans ha)
        rw [hxs] at hrel
        obtain ⟨-, zs, hzs, -⟩ := hrel.exists_one
        exact ⟨zs, hzs⟩
  | @list value xs each ih =>
      obtain ⟨ys, zs, rfl, heach, order⟩ := h.exists_list
      refine .list fun z hz => ?_
      obtain ⟨x, hx, hrel⟩ := exists_of_mem_left heach.flip ((hS _ _ order).symm.subset hz)
      exact ih x hx (S := Eq) (fun _ _ heq => .of_eq heq) hrel

end SameUpTo

end Tree

end PersistedOps
