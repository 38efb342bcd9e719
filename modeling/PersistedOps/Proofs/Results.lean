import Mathlib.Data.List.Forall2

/-!
Computations that may fail: what a successful one says of its steps.
-/

namespace PersistedOps

variable {ε α β : Type}

theorem bind_eq_ok_iff {x : Except ε α} {f : α → Except ε β} {b : β} :
    (x >>= f) = .ok b ↔ ∃ a, x = .ok a ∧ f a = .ok b := by
  cases x with
  | error => simp [bind, Except.bind]
  | ok a => simp [bind, Except.bind]

theorem eq_ok_of_toOption {x : Except ε α} {a : α} (h : x.toOption = some a) :
    x = .ok a := by
  cases x with
  | error f => cases h
  | ok b => rw [Option.some.inj h]

theorem mapM_eq_ok_iff {f : α → Except ε β} {l : List α} {bs : List β} :
    l.mapM f = .ok bs ↔ List.Forall₂ (fun a b => f a = .ok b) l bs := by
  induction l generalizing bs with
  | nil =>
      rw [List.mapM_nil, List.forall₂_nil_left_iff]
      constructor
      · rintro ⟨⟩
        rfl
      · rintro rfl
        rfl
  | cons a l ih =>
      rw [List.mapM_cons, bind_eq_ok_iff, List.forall₂_cons_left_iff]
      constructor
      · rintro ⟨b, hb, h⟩
        obtain ⟨bs', hbs, heq⟩ := bind_eq_ok_iff.mp h
        cases heq
        exact ⟨b, bs', hb, ih.mp hbs, rfl⟩
      · rintro ⟨b, bs', hb, hbs, rfl⟩
        exact ⟨b, hb, bind_eq_ok_iff.mpr ⟨bs', ih.mpr hbs, rfl⟩⟩

/-- Steps on related items that succeed where the others do, and alike. -/
theorem mapM_eq_ok_of_forall₂ {γ ε' : Type} {R : α → β → Prop} {f : α → Except ε γ}
    {g : β → Except ε' γ} {l : List α} {bs : List β} {cs : List γ} (h : List.Forall₂ R l bs)
    (hstep : ∀ a b c, R a b → g b = .ok c → f a = .ok c) (hbs : bs.mapM g = .ok cs) :
    l.mapM f = .ok cs := by
  rw [mapM_eq_ok_iff] at hbs ⊢
  induction h generalizing cs with
  | nil =>
      cases hbs
      exact .nil
  | cons hab _ ih =>
      cases hbs with
      | cons hb hrest => exact .cons (hstep _ _ _ hab hb) (ih hrest)

theorem mapM_congr {f g : α → Except ε β} {l : List α} (h : ∀ a ∈ l, f a = g a) :
    l.mapM f = l.mapM g := by
  induction l with
  | nil => rfl
  | cons a l ih =>
      obtain ⟨ha, hl⟩ := List.forall_mem_cons.mp h
      rw [List.mapM_cons, List.mapM_cons, ha, ih hl]

/-- Results that are changed once all steps are done can be changed at each step. -/
theorem map_mapM {γ : Type} (f : α → Except ε β) (g : β → γ) (l : List α) :
    (l.mapM f).map (List.map g) = l.mapM fun a => (f a).map g := by
  induction l with
  | nil => rfl
  | cons a l ih =>
      rw [List.mapM_cons, List.mapM_cons, ← ih]
      cases f a with
      | error e => rfl
      | ok b => cases l.mapM f <;> rfl

/-- A failure of many steps is the failure of one. -/
theorem exists_of_mapM_eq_error {f : α → Except ε β} {l : List α} {e : ε}
    (h : l.mapM f = .error e) : ∃ a ∈ l, f a = .error e := by
  induction l with
  | nil => cases h
  | cons a l ih =>
      rw [List.mapM_cons] at h
      cases ha : f a with
      | error e' =>
          rw [ha] at h
          cases h
          exact ⟨a, List.mem_cons_self, ha⟩
      | ok b =>
          rw [ha] at h
          cases hl : l.mapM f with
          | error e' =>
              rw [hl] at h
              cases h
              obtain ⟨c, hc, he⟩ := ih hl
              exact ⟨c, List.mem_cons_of_mem a hc, he⟩
          | ok bs =>
              rw [hl] at h
              cases h

theorem bind_eq_error_iff {x : Except ε α} {f : α → Except ε β} {e : ε} :
    (x >>= f) = .error e ↔ x = .error e ∨ ∃ a, x = .ok a ∧ f a = .error e := by
  cases x with
  | error => simp [bind, Except.bind]
  | ok a => simp [bind, Except.bind]

theorem mapM_eq_some_iff {f : α → Option β} {l : List α} {bs : List β} :
    l.mapM f = some bs ↔ List.Forall₂ (fun a b => f a = some b) l bs := by
  induction l generalizing bs with
  | nil =>
      rw [List.mapM_nil, List.forall₂_nil_left_iff]
      exact Option.some_inj.trans eq_comm
  | cons a l ih =>
      rw [List.mapM_cons, Option.bind_eq_bind, Option.bind_eq_some_iff,
        List.forall₂_cons_left_iff]
      refine exists_congr fun b => ?_
      rw [Option.bind_eq_bind, Option.bind_eq_some_iff]
      constructor
      · rintro ⟨hb, bs', hbs, heq⟩
        exact ⟨bs', hb, ih.mp hbs, (Option.some.inj heq).symm⟩
      · rintro ⟨bs', hb, hbs, rfl⟩
        exact ⟨hb, bs', ih.mpr hbs, rfl⟩

theorem exists_of_mapM_eq_ok {f : α → Except ε β} {l : List α} {bs : List β} (h : l.mapM f = .ok bs)
    {a : α} (ha : a ∈ l) : ∃ b, f a = .ok b := by
  have hrelated := mapM_eq_ok_iff.mp h
  clear h
  induction hrelated with
  | nil => cases ha
  | cons hb _ ih =>
      obtain rfl | ha := List.mem_cons.mp ha
      · exact ⟨_, hb⟩
      · exact ih ha

theorem map_eq_of_forall₂ {γ : Type} {f : α → γ} {g : β → γ} {l : List α} {bs : List β}
    (h : List.Forall₂ (fun a b => g b = f a) l bs) : bs.map g = l.map f := by
  induction h with
  | nil => rfl
  | cons hab _ ih => rw [List.map_cons, List.map_cons, hab, ih]

theorem exists_of_mem_left {R : α → β → Prop} {l : List α} {bs : List β}
    (h : List.Forall₂ R l bs) {a : α} (ha : a ∈ l) : ∃ b ∈ bs, R a b := by
  induction h with
  | nil => cases ha
  | cons hab _ ih =>
      rcases List.mem_cons.mp ha with rfl | ha
      · exact ⟨_, List.mem_cons_self, hab⟩
      · obtain ⟨b, hb, hab⟩ := ih ha
        exact ⟨b, List.mem_cons_of_mem _ hb, hab⟩

/-- What holds at first and is kept by every step holds in the end. -/
theorem foldlM_induction {P : β → Prop} {f : β → α → Except ε β} {l : List α} {b b' : β}
    (hstep : ∀ a ∈ l, ∀ c c', P c → f c a = .ok c' → P c') (hb : P b) (h : l.foldlM f b = .ok b') :
    P b' := by
  induction l generalizing b with
  | nil =>
      cases h
      exact hb
  | cons a l ih =>
      obtain ⟨ha, hl⟩ := List.forall_mem_cons.mp hstep
      rw [List.foldlM_cons] at h
      obtain ⟨c, hc, h⟩ := bind_eq_ok_iff.mp h
      exact ih hl (ha b c hb hc) h

/-- Steps that keep what they are given. -/
theorem foldlM_keeps {f : β → α → Except ε β} {l : List α} (h : ∀ a ∈ l, ∀ b, f b a = .ok b) (b : β) :
    l.foldlM f b = .ok b := by
  induction l with
  | nil => rfl
  | cons a l ih =>
      obtain ⟨ha, hl⟩ := List.forall_mem_cons.mp h
      rw [List.foldlM_cons, ha]
      exact ih hl

/-- A fold over changed items ends in what the fold ends in, changed. -/
theorem foldlM_map_eq {α' β' : Type} {G : α → α'} {F : β → β'} {f : β → α → Except ε β}
    {f' : β' → α' → Except ε β'} {l : List α} (h : ∀ a ∈ l, ∀ b, f' (F b) (G a) = (f b a).map F)
    (b : β) : (l.map G).foldlM f' (F b) = (l.foldlM f b).map F := by
  induction l generalizing b with
  | nil => rfl
  | cons a l ih =>
      obtain ⟨ha, hl⟩ := List.forall_mem_cons.mp h
      rw [List.map_cons, List.foldlM_cons, List.foldlM_cons, ha]
      cases f b a with
      | error e => rfl
      | ok c => exact ih hl c

/-- Folds whose steps succeed and keep a relation succeed and keep it. -/
theorem exists_foldlM_related {α' β' ε' : Type} {R : α → α' → Prop} {S : β → β' → Prop}
    {f : β → α → Except ε β} {f' : β' → α' → Except ε' β'} {l : List α} {l' : List α'} {b : β} {b' : β'}
    (hstep : ∀ {a a' b b'}, R a a' → S b b' → ∃ c c', f b a = .ok c ∧ f' b' a' = .ok c' ∧ S c c')
    (h : List.Forall₂ R l l') (hb : S b b') :
    ∃ c c', l.foldlM f b = .ok c ∧ l'.foldlM f' b' = .ok c' ∧ S c c' := by
  induction h generalizing b b' with
  | nil => exact ⟨b, b', rfl, rfl, hb⟩
  | cons ha _ ih =>
      obtain ⟨c, c', hc, hc', hnext⟩ := hstep ha hb
      obtain ⟨d, d', hd, hd', hlast⟩ := ih hnext
      refine ⟨d, d', ?_, ?_, hlast⟩
      · rw [List.foldlM_cons, hc]
        exact hd
      · rw [List.foldlM_cons, hc']
        exact hd'

end PersistedOps
