import PersistedOps.Proofs.Script.Matching

/-!
A list is extended: one store extends the list where it is, the other puts a new list in its place. The
two cannot be told apart if nothing but that place holds the list.

What still matters is what names lead to without the place. There the two stores are matched as before,
and the list itself is not among it, so that it can be matched with the new list afterwards. The place may
be an item of something that no name leads to: then nothing of this can be seen.
-/

namespace PersistedOps.Script

variable {R : Matching} {s t s' t' : Store} {a b : Nat} {xs items items' : List Value} {p q : Target}

namespace Simulates

/-- What matters is matched without the list and without what holds it, so there is nothing to do. -/
theorem overlook {x y : Nat} {k : Scalar} {s₀ : Store} {u w : Value} (h : Simulates R s t)
    (hs₀ : s.assign? (.item x k) (.scalar .null) = some s₀)
    (hapart : ∀ z z', R z z' → s₀.Leads items z → z ≠ x ∧ z' ≠ y)
    (honly : ¬s₀.Leads items a) (hcell : s.heap.get? a = some (.list xs))
    (hs : (s.write a (.list items)).assign? (.item x k) u = some s')
    (ht : t.assign? (.item y k) w = some t') : ∃ R', Simulates R' s' t' := by
  obtain ⟨c, c₀, hc, -, rfl⟩ := Store.assign?_item_eq_some_iff.mp hs₀
  have hlive : Simulates (fun z z' => R z z' ∧ (s.write x c₀).Leads items z) s t := by
    refine h.restrict (fun n z hz => .of_name hz) fun z z' f v hz hlead hf hv => hlead.part ?_ hv
    rw [Store.get?_write hc, if_neg (hapart z z' hz hlead).1, hf]
  have hextended : Simulates (fun z z' => R z z' ∧ (s.write x c₀).Leads items z)
      (s.write a (.list items)) t := by
    refine hlive.congr (fun z z' hz => ?_) (fun _ _ _ => rfl) (fun _ => rfl) fun _ => rfl
    have hza : z ≠ a := by
      rintro rfl
      exact honly hz.2
    rw [Store.get?_write hcell, if_neg hza]
  exact ⟨_, hextended.assign_apart (fun z z' hz => hapart z z' hz.1 hz.2) hs ht⟩

/-- The extended list is matched with the list that is put in its place. -/
theorem replace {s₀ : Store} {v : Value} (h : Simulates R s t) (hp : p.Like R q)
    (hs₀ : s.assign? p (.scalar .null) = some s₀)
    (hheld : ∀ x k, p = .item x k → s₀.Leads items x)
    (honly : ¬s₀.Leads items a) (hcell : s.heap.get? a = some (.list xs))
    (hloads : s.load? p = some (.cell a)) (hloadt : t.load? q = some v)
    (hitems : List.Forall₂ (Value.Like R) items items')
    (hfresh : ∀ x, ¬R x b) (hb : t.heap.get? b = some (.list items'))
    (hs : (s.write a (.list items)).assign? p (.cell a) = some s')
    (ht : t.assign? q (.cell b) = some t') : ∃ R', Simulates R' s' t' := by
  -- Both stores let go of what the target holds; what still matters is matched without the list.
  obtain ⟨t₀, ht₀⟩ := Store.exists_assign? hloadt (.scalar .null)
  have hbare : Simulates R s₀ t₀ := h.assign hp (.scalar .null) hs₀ ht₀
  have hlive : Simulates (fun z z' => R z z' ∧ s₀.Leads items z) s₀ t₀ :=
    hbare.restrict (fun n z hz => .of_name hz) fun z z' c v _ hlead hc hv => hlead.part hc hv
  -- The list is extended, and the new list is there as well, so the two can be matched.
  have hpa (k : Scalar) : p ≠ .item a k := fun heq => honly (hheld a k heq)
  have hqb (k : Scalar) : q ≠ .item b k := by
    rintro rfl
    cases hp with
    | item hxb k => exact hfresh _ hxb
  have hloadw : (s.write a (.list items)).load? p = some (.cell a) :=
    (Store.load?_write hpa hcell _).trans hloads
  obtain ⟨s₁, hs₁⟩ := Store.exists_assign? hloadw (.scalar .null)
  have hsame : s₁.Same (s₀.write a (.list items)) := Store.assign?_write hpa hcell hs₀ hs₁
  have hcell₀ : s₀.heap.get? a = some (.list xs) := (Store.get?_assign? hpa hs₀).trans hcell
  have hcell₁ (z : Nat) :
      s₁.heap.get? z = if z = a then some (.list items) else s₀.heap.get? z :=
    (hsame.cells z).trans (Store.get?_write hcell₀ _ z)
  have hextended : Simulates (fun z z' => R z z' ∧ s₀.Leads items z) s₁ t₀ := by
    refine hlive.congr (fun z z' hz => ?_) (fun _ _ _ => rfl) hsame.names fun _ => rfl
    have hza : z ≠ a := by
      rintro rfl
      exact honly hz.2
    rw [hcell₁, if_neg hza]
  have hmatched : Simulates (fun z z' => (R z z' ∧ s₀.Leads items z) ∨ z = a ∧ z' = b) s₁ t₀ := by
    refine hextended.adopt (fun y hy => honly hy.2) (fun x hx => hfresh x hx.1)
      ((hcell₁ a).trans (if_pos rfl)) ((Store.get?_assign? hqb ht₀).trans hb) ?_
    refine (Cell.Like.list hitems).imp fun v hv w hvw => ?_
    cases hvw with
    | scalar r => exact .scalar r
    | cell hz => exact .cell (.inl ⟨hz, .of_mem hv⟩)
  -- The target takes hold of the list again.
  obtain ⟨s₂, hs₂, hsame₂⟩ := Store.exists_assign?_same hloadw hs₁ hs
  obtain ⟨t₂, ht₂, hsamet⟩ := Store.exists_assign?_same hloadt ht₀ ht
  have htarget : p.Like (fun z z' => (R z z' ∧ s₀.Leads items z) ∨ z = a ∧ z' = b) q := by
    cases hp with
    | name n => exact .name n
    | item hxy k => exact .item (.inl ⟨hxy, hheld _ k rfl⟩) k
  exact ⟨_, (hmatched.assign htarget (.cell (.inr ⟨rfl, rfl⟩)) hs₂ ht₂).of_same hsame₂ hsamet⟩

/-- A list that the target alone holds can be extended where it is, or be replaced there. -/
theorem extend {v : Value} (h : Simulates R s t) (hp : p.Like R q) (honly : s.HeldOnlyBy p a items)
    (hcell : s.heap.get? a = some (.list xs)) (hloads : s.load? p = some (.cell a))
    (hloadt : t.load? q = some v) (hitems : List.Forall₂ (Value.Like R) items items')
    (hfresh : ∀ x, ¬R x b) (hb : t.heap.get? b = some (.list items'))
    (hs : (s.write a (.list items)).assign? p (.cell a) = some s')
    (ht : t.assign? q (.cell b) = some t') : ∃ R', Simulates R' s' t' := by
  obtain ⟨s₀, hs₀⟩ := Store.exists_assign? hloads (.scalar .null)
  by_cases hheld : ∀ x k, p = .item x k → s₀.Leads items x
  · exact h.replace hp hs₀ hheld (honly s₀ hs₀) hcell hloads hloadt hitems hfresh hb hs ht
  · obtain ⟨x, k, rfl, hgone⟩ : ∃ x k, p = .item x k ∧ ¬s₀.Leads items x := by
      simpa using hheld
    cases hp with
    | item hxy k =>
        refine h.overlook hs₀ (fun z z' hz hlead => ?_) (honly s₀ hs₀) hcell hs ht
        have hzx : z ≠ x := by
          rintro rfl
          exact hgone hlead
        refine ⟨hzx, ?_⟩
        rintro rfl
        exact hzx (h.unique.1 hz hxy)

end Simulates

end PersistedOps.Script
