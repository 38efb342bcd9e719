import PersistedOps.Proofs.Document.Executable

/-!
Nodes part by part. The attributes of a node stand in their order, so each is found where it is and is
set in its place. A revised node held parts that were revised before it, and a revised sequence is one of
revised items. What stands inside a tree is the tree itself or stands inside one of its parts.
-/

namespace PersistedOps

/-! ### Lists item by item -/

/-- Of two lists all satisfy what they do when each item does if its counterpart does. -/
theorem forall_mem_iff_of_forall₂ {α β : Type} {p : α → Prop} {q : β → Prop} {l : List α}
    {bs : List β} (h : List.Forall₂ (fun a b => q b ↔ p a) l bs) :
    (∀ b ∈ bs, q b) ↔ ∀ a ∈ l, p a := by
  induction h with
  | nil => simp
  | cons hab _ ih => rw [List.forall_mem_cons, List.forall_mem_cons, hab, ih]

/-- What holds of the items on the left is known beside the relation. -/
theorem forall₂_imp_of_mem {α β : Type} {R S : α → β → Prop} {l : List α} {bs : List β}
    (h : List.Forall₂ R l bs) (himp : ∀ a ∈ l, ∀ b, R a b → S a b) : List.Forall₂ S l bs :=
  ((List.forall₂_and_left _ _).mpr ⟨himp, h⟩).imp fun _ b hab => hab.1 b hab.2

/-- A relation that tells what each item goes to relates a list to one list. -/
theorem forall₂_iff_eq_map {α β : Type} {R : α → β → Prop} {g : α → β} {l : List α} {bs : List β}
    (h : ∀ x ∈ l, ∀ y, R x y ↔ y = g x) : List.Forall₂ R l bs ↔ bs = l.map g := by
  constructor
  · intro hl
    have heach := forall₂_imp_of_mem (S := fun x y => y = g x) hl fun x hx y hxy => (h x hx y).mp hxy
    simpa using map_eq_of_forall₂ (g := id) heach
  · rintro rfl
    exact List.forall₂_map_right_iff.mpr (List.forall₂_same.mpr fun x hx => (h x hx _).mpr rfl)

/-- Two relations of lists, one after the other. -/
theorem forall₂_comp_iff {α β γ : Type} {R : α → β → Prop} {S : β → γ → Prop} {l : List α}
    {n : List γ} : (∃ m, List.Forall₂ R l m ∧ List.Forall₂ S m n) ↔
      List.Forall₂ (Relation.Comp R S) l n := by
  constructor
  · rintro ⟨m, hl, hn⟩
    induction hl generalizing n with
    | nil =>
        cases hn
        exact .nil
    | cons hab _ ih =>
        cases hn with
        | cons hbc hn => exact .cons ⟨_, hab, hbc⟩ (ih hn)
  · intro h
    induction h with
    | nil => exact ⟨[], .nil, .nil⟩
    | cons hac _ ih =>
        obtain ⟨b, hab, hbc⟩ := hac
        obtain ⟨m, hl, hn⟩ := ih
        exact ⟨b :: m, .cons hab hl, .cons hbc hn⟩

/-- What a counterpart takes over item by item, it takes over as a list. -/
theorem forall₂_transfer {α β γ : Type} {R : α → γ → Prop} {S : β → γ → Prop} {l : List α}
    {m : List β} {n : List γ} (h : List.Forall₂ (fun a b => ∀ c, R a c → S b c) l m)
    (hl : List.Forall₂ R l n) : List.Forall₂ S m n := by
  refine (forall₂_comp_iff.mp ⟨l, h.flip, hl⟩).imp ?_
  rintro b c ⟨a, hab, hac⟩
  exact hab c hac

/-! ### Attributes in their order -/

namespace Attributes

variable {attributes : Attributes}

theorem mem_of_get? {a : Attribute} {v : Tree} (h : get? attributes a = some v) :
    (a, v) ∈ attributes := by
  obtain ⟨before, after, rfl, -⟩ := List.lookup_eq_some_iff.mp h
  simp

/-- An attribute that is there, set to another value. -/
theorem set_eq_map (order : attributes.Pairwise fun e f => e.1.rank < f.1.rank) {a : Attribute}
    {v value : Tree} (h : get? attributes a = some v) (hvalue : value.isNull = false) :
    set attributes a value = attributes.map fun e => if e.1 = a then (a, value) else e := by
  induction attributes with
  | nil => cases h
  | cons e attributes ih =>
      obtain ⟨b, old⟩ := e
      obtain ⟨hfirst, hrest⟩ := List.pairwise_cons.mp order
      rw [Attributes.set, List.map_cons]
      by_cases hab : a = b
      · subst hab
        have hothers : attributes.map (fun e => if e.1 = a then (a, value) else e) = attributes := by
          refine (List.map_congr_left fun e he => if_neg ?_).trans (List.map_id attributes)
          intro heq
          exact Nat.lt_irrefl _ (heq ▸ hfirst e he)
        rw [if_pos rfl, if_pos rfl, hvalue, hothers]
        rfl
      · have hlater : get? attributes a = some v := by
          rw [get?, List.lookup_cons, beq_eq_false_iff_ne.mpr hab] at h
          exact h
        have hrank : b.rank < a.rank := hfirst _ (mem_of_get? hlater)
        rw [if_neg hab, if_neg (by omega), if_neg (Ne.symm hab), ih hrest hlater]

/-- An attribute that is there is found. -/
theorem get?_of_mem (order : attributes.Pairwise fun e f => e.1.rank < f.1.rank) {a : Attribute}
    {v : Tree} (h : (a, v) ∈ attributes) : get? attributes a = some v := by
  induction attributes with
  | nil => cases h
  | cons e attributes ih =>
      obtain ⟨b, old⟩ := e
      obtain ⟨hfirst, hrest⟩ := List.pairwise_cons.mp order
      rw [get?, List.lookup_cons]
      rcases List.mem_cons.mp h with heq | hlater
      · cases heq
        rw [beq_self_eq_true]
      · have hrank : b.rank < a.rank := hfirst _ hlater
        have hab : a ≠ b := by
          rintro rfl
          exact Nat.lt_irrefl _ hrank
        rw [beq_eq_false_iff_ne.mpr hab]
        exact ih hrest hlater

theorem get?_replaced (a : Attribute) (value : Tree) : get?
    (attributes.map fun e => if e.1 = a then (a, value) else e) a =
      (get? attributes a).map fun _ => value := by
  induction attributes with
  | nil => rfl
  | cons e attributes ih =>
      obtain ⟨b, old⟩ := e
      simp only [get?] at ih
      rw [List.map_cons, get?, get?, List.lookup_cons]
      by_cases hb : b = a
      · subst hb
        rw [if_pos rfl, List.lookup_cons, beq_self_eq_true]
        rfl
      · rw [if_neg hb, List.lookup_cons, beq_eq_false_iff_ne.mpr (Ne.symm hb), ih]

end Attributes

namespace Tree

variable {f : Tree → Except Malformed Tree} {k : Kind} {attributes others : Attributes}
  {items : List Tree} {t u : Tree}

/-! ### Revised parts -/

/-- What a revision makes of an attribute of a node: what is walked is revised, the rest stays. -/
inductive PartRevised (f : Tree → Except Malformed Tree) (k : Kind) :
    Attribute × Tree → Attribute × Tree → Prop
  | walked {a : Attribute} {t u : Tree} (ha : a ∈ k.visited) (h : Revised f t u) :
      PartRevised f k (a, t) (a, u)
  | kept {a : Attribute} {t : Tree} (ha : a ∉ k.visited) : PartRevised f k (a, t) (a, t)

theorem PartRevised.key_eq {e e' : Attribute × Tree} (h : PartRevised f k e e') : e'.1 = e.1 := by
  cases h <;> rfl

theorem parts_of_reviseAttributes (h : reviseAttributes f k attributes = .ok others) :
    List.Forall₂ (PartRevised f k) attributes others := by
  induction attributes generalizing others with
  | nil =>
      cases h
      exact .nil
  | cons e attributes ih =>
      obtain ⟨a, t⟩ := e
      rw [reviseAttributes] at h
      by_cases ha : a ∈ k.visited
      · rw [if_pos ha] at h
        obtain ⟨u, hu, h⟩ := bind_eq_ok_iff.mp h
        obtain ⟨rest, hrest, h⟩ := bind_eq_ok_iff.mp h
        cases h
        exact .cons (.walked ha hu) (ih hrest)
      · rw [if_neg ha] at h
        obtain ⟨rest, hrest, h⟩ := bind_eq_ok_iff.mp h
        cases h
        exact .cons (.kept ha) (ih hrest)

theorem reviseAttributes_of_parts (h : List.Forall₂ (PartRevised f k) attributes others) :
    reviseAttributes f k attributes = .ok others := by
  induction h with
  | nil => rfl
  | cons he _ ih =>
      cases he with
      | walked ha hu =>
          rw [reviseAttributes, if_pos ha, show revise f _ = .ok _ from hu, ih]
          rfl
      | kept ha =>
          rw [reviseAttributes, if_neg ha, ih]
          rfl

theorem order_of_parts (h : List.Forall₂ (PartRevised f k) attributes others)
    (order : attributes.Pairwise fun e g => e.1.rank < g.1.rank) :
    others.Pairwise fun e g => e.1.rank < g.1.rank := by
  have hkeys : others.map (·.1) = attributes.map (·.1) :=
    map_eq_of_forall₂ (h.imp fun _ _ he => he.key_eq)
  have hranks : (attributes.map (·.1)).Pairwise fun a b => a.rank < b.rank :=
    List.pairwise_map.mpr order
  rwa [← hkeys, List.pairwise_map] at hranks

theorem exists_revised_parts (h : Revised f (.node k attributes) u) :
    ∃ others, List.Forall₂ (PartRevised f k) attributes others ∧ f (.node k others) = .ok u := by
  rw [Revised, revise] at h
  obtain ⟨others, hothers, h⟩ := bind_eq_ok_iff.mp h
  exact ⟨others, parts_of_reviseAttributes hothers, h⟩

theorem items_of_reviseItems {us : List Tree} (hnull : ∀ t ∈ items, t.isNull = false)
    (h : reviseItems f items = .ok us) : List.Forall₂ (Revised f) items us := by
  induction items generalizing us with
  | nil =>
      cases h
      exact .nil
  | cons t items ih =>
      obtain ⟨ht, hrest⟩ := List.forall_mem_cons.mp hnull
      rw [reviseItems, ht] at h
      obtain ⟨u, hu, h⟩ := bind_eq_ok_iff.mp h
      obtain ⟨rest, hitems, h⟩ := bind_eq_ok_iff.mp h
      cases h
      exact .cons hu (ih hrest hitems)

theorem exists_revised_items (hnull : ∀ t ∈ items, t.isNull = false) (h : Revised f (.list items) u) :
    ∃ us, u = .list us ∧ List.Forall₂ (Revised f) items us := by
  rw [Revised, revise] at h
  obtain ⟨us, hus, h⟩ := bind_eq_ok_iff.mp h
  cases h
  exact ⟨us, rfl, items_of_reviseItems hnull hus⟩

/-- The selections of a selection set are revised before the set is. -/
theorem exists_revised_selections (hnull : ∀ t ∈ items, t.isNull = false)
    (h : Revised f (.selectionSet items) u) :
    ∃ us, List.Forall₂ (Revised f) items us ∧ f (.selectionSet us) = .ok u := by
  obtain ⟨others, hothers, hu⟩ := exists_revised_parts h
  obtain ⟨e, rest, he, hrest, rfl⟩ := List.forall₂_cons_left_iff.mp hothers
  cases hrest
  cases he with
  | walked _ hlist =>
      obtain ⟨us, rfl, hus⟩ := exists_revised_items hnull hlist
      exact ⟨us, hus, hu⟩
  | kept ha => exact absurd (by decide) ha

theorem Executable.not_isNull_of_mem (h : ∀ t ∈ items, Executable t) :
    ∀ t ∈ items, t.isNull = false :=
  fun t ht => (h t ht).not_isNull

/-! ### Inside -/

/-- What stands inside an executable tree is one, or an atom. -/
theorem Executable.of_inside {d : Tree} (h : Executable t) (hd : Inside d t) :
    Executable d ∨ d.isAtom := by
  have hatom {t : Tree} (ht : t.isAtom) (hd : Inside d t) : d.isAtom := by
    cases hd with
    | here => exact ht
    | part | item => cases ht
  induction h with
  | @node k attributes other order parts atoms named sets ih =>
      cases hd with
      | here => exact .inl (.node other order parts atoms named sets)
      | @part _ _ a _ mem inside =>
          by_cases ha : a ∈ k.visited
          · exact ih _ mem ha inside
          · exact .inr (hatom (atoms _ mem ha) inside)
  | @selectionSet items each ih =>
      cases hd with
      | here => exact .inl (.selectionSet each)
      | part mem inside =>
          cases List.mem_singleton.mp mem
          cases inside with
          | here => exact .inl (.list each)
          | item mem inside => exact ih _ mem inside
  | @list items each ih =>
      cases hd with
      | here => exact .inl (.list each)
      | item mem inside => exact ih _ mem inside

section

variable {P : Tree → Prop}

theorem forall_inside_node : (∀ d, Inside d (.node k attributes) → P d) ↔
    P (.node k attributes) ∧ ∀ e ∈ attributes, ∀ d, Inside d e.2 → P d := by
  constructor
  · exact fun h => ⟨h _ .here, fun e he d hd => h d (.part he hd)⟩
  · rintro ⟨hnode, hparts⟩ d hd
    cases hd with
    | here => exact hnode
    | part mem inside => exact hparts _ mem d inside

theorem forall_inside_list :
    (∀ d, Inside d (.list items) → P d) ↔ P (.list items) ∧ ∀ t ∈ items, ∀ d, Inside d t → P d := by
  constructor
  · exact fun h => ⟨h _ .here, fun t ht d hd => h d (.item ht hd)⟩
  · rintro ⟨hlist, hitems⟩ d hd
    cases hd with
    | here => exact hlist
    | item mem inside => exact hitems _ mem d inside

theorem forall_inside_atom (h : t.isAtom) : (∀ d, Inside d t → P d) ↔ P t := by
  constructor
  · exact fun h => h _ .here
  · intro ht d hd
    cases hd with
    | here => exact ht
    | part | item => cases h

end

end Tree

end PersistedOps
