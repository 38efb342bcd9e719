import PersistedOps.Proofs.Script.Ends
import PersistedOps.Proofs.Script.Execution
import PersistedOps.Proofs.Script.Expressions
import PersistedOps.Proofs.Script.Matching

/-!
Expressions, evaluated by the sandbox and executed. Begun in stores that match, both come to values that
match, and they add nothing but cells: the earlier matching goes on, with pairs of new cells.
-/

namespace PersistedOps.Script

/-! ### Going on from a matching -/

/-- The later stores match where the earlier ones do, and apart from that in new cells only. -/
structure Continues (R : Matching) (s t : Store) (R' : Matching) (s' t' : Store) : Prop where
  left : s.Grows s'
  right : t.Grows t'
  sub : ∀ a b, R a b → R' a b
  fresh : ∀ a b, R' a b → R a b ∨ s.heap.cells.size ≤ a ∧ t.heap.cells.size ≤ b
  simulates : Simulates R' s' t'

namespace Continues

variable {R R' R'' : Matching} {s t s' t' s'' t'' : Store}

theorem refl (h : Simulates R s t) : Continues R s t R s t :=
  ⟨.refl s, .refl t, fun _ _ hab => hab, fun _ _ hab => .inl hab, h⟩

theorem trans (h : Continues R s t R' s' t') (h' : Continues R' s' t' R'' s'' t'') :
    Continues R s t R'' s'' t'' where
  left := h.left.trans h'.left
  right := h.right.trans h'.right
  sub a b hab := h'.sub a b (h.sub a b hab)
  fresh a b hab := by
    obtain hab | ⟨ha, hb⟩ := h'.fresh a b hab
    · exact h.fresh a b hab
    · exact .inr ⟨Nat.le_trans h.left.size_le ha, Nat.le_trans h.right.size_le hb⟩
  simulates := h'.simulates

/-- Growth before on the left and after on the right does not matter. -/
theorem widen (h : Continues R s' t R' s'' t') (hs : s.Grows s') (ht : t'.Grows t'') :
    Continues R s t R' s'' t'' where
  left := hs.trans h.left
  right := h.right.trans ht
  sub := h.sub
  fresh a b hab := (h.fresh a b hab).imp_right fun ⟨ha, hb⟩ => ⟨Nat.le_trans hs.size_le ha, hb⟩
  simulates := h.simulates.grow (.refl s'') ht

/-- Two new cells are matched. -/
theorem allocate (h : Simulates R s t) {c d : Cell} (hlike : c.Like R d) :
    Continues R s t (fun a b => R a b ∨ a = s.heap.cells.size ∧ b = t.heap.cells.size)
      (s.allocate c) (t.allocate d) where
  left := .allocate s c
  right := .allocate t d
  sub _ _ := .inl
  fresh a b hab := hab.imp_right fun ⟨ha, hb⟩ => ⟨Nat.le_of_eq ha.symm, Nat.le_of_eq hb.symm⟩
  simulates := by
    refine (h.grow (.allocate s c) (.allocate t d)).adopt (fun b hb => ?_) (fun a ha => ?_)
      ((Heap.get?_allocate _ _ _).trans (if_pos rfl)) ((Heap.get?_allocate _ _ _).trans (if_pos rfl))
      (hlike.mono fun _ _ => .inl)
    · exact Nat.lt_irrefl _ (h.lt_left hb)
    · exact Nat.lt_irrefl _ (h.lt_right ha)

end Continues

/-! ### Expressions -/

def Sandbox.store (s : Sandbox) : Store := ⟨s.heap, s.bindings⟩

namespace Execution

variable {α β : Type} {m m' : Machine}

theorem run_bind_eq_some_iff {x : Execution α} {f : α → Execution β} {b : β} :
    StateT.run (x >>= f) m = some (b, m') ↔
      ∃ a m₁, StateT.run x m = some (a, m₁) ∧ StateT.run (f a) m₁ = some (b, m') := by
  rw [StateT.run_bind, Option.bind_eq_bind, Option.bind_eq_some_iff]
  exact Prod.exists

theorem run_liftM_eq_some_iff {o : Option α} {a : α} :
    StateT.run (liftM o : Execution α) m = some (a, m') ↔ o = some a ∧ m' = m := by
  cases o with
  | none =>
      have hrun : StateT.run (liftM (none : Option α) : Execution α) m = none := rfl
      simp [hrun]
  | some b =>
      have hrun : StateT.run (liftM (some b) : Execution α) m = some (b, m) := rfl
      simp [hrun, eq_comm]

/-- Begun in a store that matches the first of two stores of the sandbox, the execution ends in one that
matches the second, and in a value as told. -/
def Mirrors (R : Matching) (x : Execution α) (L : Matching → α → Prop) (t t' : Store) : Prop :=
  ∀ m a m', Simulates R m.toStore t → StateT.run x m = some (a, m') →
    ∃ R', Continues R m.toStore t R' m'.toStore t' ∧ L R' a

/-- The evaluation, unless it halts, adds nothing but cells, and the execution mirrors it. -/
abbrev Follows (x : Execution α) (L : Matching → α → β → Prop) (y : Evaluation β) (s : Sandbox) :
    Prop :=
  Evaluation.Ends (fun _ => True) y s fun w s' =>
    s.store.Grows s'.store ∧ ∀ R, Mirrors R x (fun R' v => L R' v w) s.store s'.store

variable {L : Matching → α → β → Prop} {s : Sandbox}

theorem follows_pure {v : α} {w : β} (h : ∀ R, L R v w) : Follows (pure v) L (pure w) s := by
  refine ⟨.refl _, fun R m a m' hsim hrun => ?_⟩
  cases hrun
  exact ⟨R, .refl hsim, h R⟩

theorem follows_literal (line : Nat) (l : Literal) :
    Follows (literal l) Value.Like (Evaluation.literal line l) s := by
  cases l with
  | bytes | imaginary | ellipsis => exact trivial
  | _ => exact follows_pure fun R => .scalar _

theorem follows_name (line : Nat) (n : String) :
    Follows (expression (.name line n)) Value.Like (Evaluation.expression (.name line n)) s := by
  rw [Evaluation.expression, Follows, Evaluation.ends_bind, Evaluation.ends_get]
  split
  · next w hw =>
    refine ⟨.refl _, fun R m v m' hsim hrun => ?_⟩
    rw [expression] at hrun
    obtain ⟨_, _, ⟨⟩, hrun⟩ := run_bind_eq_some_iff.mp hrun
    obtain ⟨hv, rfl⟩ := run_liftM_eq_some_iff.mp hrun
    exact ⟨R, .refl hsim, hsim.lookup? hv hw⟩
  · exact trivial

/-- The execution makes a new cell. -/
def Allocates (x : Execution Value) (c : Cell) : Prop :=
  ∀ m v m', StateT.run x m = some (v, m') →
    v = .cell m.heap.cells.size ∧ m'.toStore = m.toStore.allocate c

theorem allocates_allocate (c : Cell) : Allocates (allocate c) c := by
  intro m v m' hrun
  cases hrun
  exact ⟨rfl, rfl⟩

theorem allocates_tuple (items : List Value) : Allocates (allocateTuple items) (.list items) := by
  intro m v m' hrun
  cases hrun
  exact ⟨rfl, rfl⟩

theorem Allocates.mirrors {R : Matching} {x : Execution Value} {c d : Cell} {t : Store}
    (h : Allocates x c) (hlike : c.Like R d) :
    Mirrors R x (fun R' v => v.Like R' (.cell t.heap.cells.size)) t (t.allocate d) := by
  intro m v m' hsim hrun
  obtain ⟨rfl, hstore⟩ := h m v m' hrun
  rw [hstore]
  exact ⟨_, .allocate hsim hlike, .cell (.inr ⟨rfl, rfl⟩)⟩

theorem mirrors_pure {R : Matching} {a : α} {K : Matching → α → Prop} {t : Store} (h : K R a) :
    Mirrors R (pure a) K t t := by
  intro m b m' hsim hrun
  cases hrun
  exact ⟨R, .refl hsim, h⟩

theorem Mirrors.bind {R : Matching} {x : Execution α} {f : α → Execution β} {K : Matching → α → Prop}
    {L : Matching → β → Prop} {t t' t'' : Store} (h : Mirrors R x K t t')
    (hf : ∀ R' a, (∀ i j, R i j → R' i j) → K R' a → Mirrors R' (f a) L t' t'') :
    Mirrors R (x >>= f) L t t'' := by
  intro m b m' hsim hrun
  obtain ⟨a, m₁, ha, hrun⟩ := run_bind_eq_some_iff.mp hrun
  obtain ⟨R₁, hcont, hlike⟩ := h m a m₁ hsim ha
  obtain ⟨R₂, hcont', hlike'⟩ := hf R₁ a hcont.sub hlike m₁ b m' hcont.simulates hrun
  exact ⟨R₂, hcont.trans hcont', hlike'⟩

/-- The cell of an empty document, given the address of its definitions. -/
def placeholderCell (definitions : Nat) : Cell :=
  .dict [(.text "kind", .scalar (.text "Document")), (.text "definitions", .cell definitions)]

theorem follows_placeholder : Follows placeholder Value.Like Evaluation.placeholder s := by
  have hgrow : s.store.Grows
      ((s.store.allocate (.list [])).allocate (placeholderCell s.heap.cells.size)) :=
    (Store.Grows.allocate _ _).trans (.allocate _ _)
  refine ⟨hgrow, fun R m v m' hsim hrun => ?_⟩
  cases hrun
  have hempty := Continues.allocate hsim (.list .nil)
  have hlike : (placeholderCell m.heap.cells.size).Like
      (fun a b => R a b ∨ a = m.heap.cells.size ∧ b = s.heap.cells.size)
      (placeholderCell s.heap.cells.size) :=
    .dict (.cons ⟨rfl, .scalar _⟩ (.cons ⟨rfl, .cell (.inr ⟨rfl, rfl⟩)⟩ .nil))
  exact ⟨_, hempty.trans (.allocate hempty.simulates hlike), .cell (.inr ⟨rfl, rfl⟩)⟩

/-! Operators, on values that match -/

theorem ends_failShowing {line : Nat} {shown? : Option String} {f : String → Fault}
    {Q : β → Sandbox → Prop} :
    Evaluation.Ends (fun _ => True) (Evaluation.failShowing line shown? f) s Q := by
  cases shown? <;> exact trivial

theorem ends_subscript {line : Nat} {c' k' : Value} :
    Evaluation.Ends (fun _ => True) (Evaluation.subscript line c' k') s fun w s' => s' = s ∧
      Evaluation.lookup (s.heap.layer c') (s.heap.layer k') = .ok w := by
  unfold Evaluation.subscript
  simp only [Evaluation.ends_bind, Evaluation.ends_layerOf]
  split
  · next w hw => exact ⟨rfl, hw⟩
  · rw [Evaluation.ends_bind, Evaluation.ends_get]
    exact ends_failShowing

theorem mirrors_subscript {R : Matching} {c c' k k' w : Value} {t : Store} (hc : c.Like R c')
    (hk : k.Like R k') (hw : Evaluation.lookup (t.heap.layer c') (t.heap.layer k') = .ok w) :
    Mirrors R (subscript c k) (fun R' v => v.Like R' w) t t := by
  intro m v m' hsim hrun
  have hlift : StateT.run
      (liftM (Evaluation.lookup (m.heap.layer c) (m.heap.layer k)).toOption : Execution Value) m =
      some (v, m') := hrun
  obtain ⟨hv, rfl⟩ := run_liftM_eq_some_iff.mp hlift
  exact ⟨R, .refl hsim, like_of_lookup (hsim.layer hc) (hsim.layer hk) (eq_ok_of_toOption hv) hw⟩

theorem ends_negate {line : Nat} {v' : Value} :
    Evaluation.Ends (fun _ => True) (Evaluation.negate line v') s fun w s' => s' = s ∧
      ∀ R v, v.Like R v' → Mirrors R (negate v) (fun R' u => u.Like R' w) s.store s.store := by
  unfold Evaluation.negate
  rw [Evaluation.ends_bind, Evaluation.ends_layerOf]
  split
  · next n hn =>
    refine ⟨rfl, fun R v hv => ?_⟩
    rw [Heap.layer_eq_scalar_iff.mp hn] at hv
    cases hv
    exact mirrors_pure (.scalar _)
  · next x hx =>
    refine ⟨rfl, fun R v hv => ?_⟩
    rw [Heap.layer_eq_scalar_iff.mp hx] at hv
    cases hv
    exact mirrors_pure (.scalar _)
  · exact trivial

theorem ends_add {line : Nat} {v' w' : Value} :
    Evaluation.Ends (fun _ => True) (Evaluation.add line v' w') s fun u s' =>
      s.store.Grows s'.store ∧ ∀ R v w, v.Like R v' → w.Like R w' →
        Mirrors R (add v w) (fun R' x => x.Like R' u) s.store s'.store := by
  unfold Evaluation.add
  simp only [Evaluation.ends_bind, Evaluation.ends_layerOf]
  split
  · next xs' ys' hxs' hys' =>
    rw [Evaluation.ends_allocate]
    refine ⟨.allocate s.store _, fun R v w hv hw m u m' hsim hrun => ?_⟩
    have hx := hsim.layer hv
    have hy := hsim.layer hw
    rw [Sandbox.store, hxs'] at hx
    rw [Sandbox.store, hys'] at hy
    obtain ⟨_, _, ⟨⟩, hrun⟩ := run_bind_eq_some_iff.mp hrun
    generalize m.heap.layer v = l at hx hrun
    generalize m.heap.layer w = l' at hy hrun
    cases hx with
    | list hxs =>
      cases hy with
      | list hys =>
        have hsum := Cell.Like.list (List.rel_append hxs hys)
        dsimp only at hrun
        split at hrun
        · exact (allocates_allocate _).mirrors hsum m u m' hsim hrun
        · exact (allocates_tuple _).mirrors hsum m u m' hsim hrun
        · cases hrun
  · next a b ha hb =>
    split
    · next sum hsum =>
      refine ⟨.refl _, fun R v w hv hw m u m' hsim hrun => ?_⟩
      rw [Heap.layer_eq_scalar_iff.mp ha] at hv
      rw [Heap.layer_eq_scalar_iff.mp hb] at hw
      cases hv
      cases hw
      obtain ⟨_, _, ⟨⟩, hrun⟩ := run_bind_eq_some_iff.mp hrun
      obtain ⟨_, _, hlift, hrun⟩ := run_bind_eq_some_iff.mp hrun
      obtain ⟨hfound, rfl⟩ := run_liftM_eq_some_iff.mp hlift
      cases hsum.symm.trans hfound
      cases hrun
      exact ⟨R, .refl hsim, .scalar _⟩
    · exact trivial
  · exact trivial

/-- The sum of two lists is a new one. -/
theorem ends_add_lists {line : Nat} {v w : Value} :
    Evaluation.Ends (fun _ => True) (Evaluation.add line v w) s fun u s' =>
      ∀ xs ys, s.heap.layer v = .list xs → s.heap.layer w = .list ys →
        u = .cell s.heap.cells.size ∧ s'.store = s.store.allocate (.list (xs ++ ys)) := by
  unfold Evaluation.add
  simp only [Evaluation.ends_bind, Evaluation.ends_layerOf]
  split
  · next xs ys hxs hys =>
    rw [Evaluation.ends_allocate]
    intro xs' ys' hxs' hys'
    cases hxs.symm.trans hxs'
    cases hys.symm.trans hys'
    exact ⟨rfl, rfl⟩
  · next a b ha hb =>
    split
    · intro xs ys hxs
      cases ha.symm.trans hxs
    · exact trivial
  · exact trivial

theorem ends_keyOf {line : Nat} {v' : Value} :
    Evaluation.Ends (fun _ => True) (Evaluation.keyOf line v') s fun k s' => s' = s ∧ v' = .scalar k := by
  unfold Evaluation.keyOf
  rw [Evaluation.ends_bind, Evaluation.ends_layerOf]
  split
  · next k hk => exact ⟨rfl, Heap.layer_eq_scalar_iff.mp hk⟩
  · exact trivial

theorem keyOf_eq_some_iff {v : Value} {k : Scalar} :
    StateT.run (keyOf v) m = some (k, m') ↔ v = .scalar k ∧ m' = m := by
  cases v with
  | scalar s =>
      have hrun : StateT.run (keyOf (.scalar s)) m = some (s, m) := rfl
      rw [hrun]
      simp [eq_comm]
  | cell a =>
      simp only [reduceCtorEq, false_and, iff_false]
      intro hrun
      obtain ⟨_, _, ⟨⟩, hrun⟩ := run_bind_eq_some_iff.mp hrun
      split at hrun
      · next hk => cases Heap.layer_eq_scalar_iff.mp hk
      · cases hrun

/-- A required unit is another store to the sandbox only by the references it notes. -/
theorem store_require (r : Scalar) : (s.require r).store = s.store := by
  rw [Sandbox.require]
  split <;> rfl

theorem follows_require {line : Nat} {v' : Value} :
    Follows placeholder Value.Like (Evaluation.require line v') s := by
  unfold Evaluation.require
  rw [Follows, Evaluation.ends_bind, Evaluation.ends_layerOf]
  split
  · next r hr =>
    split
    · rw [Evaluation.ends_bind, Evaluation.ends_modify]
      have hplaceholder := follows_placeholder (s := s.require r)
      rw [Follows, store_require] at hplaceholder
      exact hplaceholder
    · exact trivial
  · exact trivial

theorem follows_call {line : Nat} {function : Expr} {arguments : List Expr} {keywords : Bool}
    (harguments : ∀ e ∈ arguments, ∀ s, Follows (expression e) Value.Like (Evaluation.expression e) s) :
    Follows (expression (.call line function arguments keywords)) Value.Like
      (Evaluation.expression (.call line function arguments keywords)) s := by
  unfold Evaluation.expression
  split
  · exact trivial
  · next hrequire =>
    split
    · next argument =>
      refine (harguments argument List.mem_cons_self s).bind fun w s₁ ⟨hgrow₁, hargument⟩ => ?_
      refine follows_require.mono fun u s₂ ⟨hgrow₂, hplaceholder⟩ => ?_
      have hcalls : Evaluation.callsRequire function = true := by simpa using hrequire
      have heq : expression (.call line function [argument] false) =
          expression argument >>= fun _ => placeholder := by
        rw [expression]
        exact hcalls
      rw [heq]
      exact ⟨hgrow₁.trans hgrow₂, fun R => (hargument R).bind fun R₁ _ _ _ => hplaceholder R₁⟩
    · exact trivial

/-! ### Dictionary displays -/

/-- Begun with related entries, both sides add related entries for the parts of a display. -/
def AddsAlike (parts : List (Option Expr × Expr)) : Prop :=
  ∀ line acc' s, Evaluation.Ends (fun _ => True) (Evaluation.entries line acc' parts) s fun es' s' =>
    s.store.Grows s'.store ∧ ∀ R acc, Entries.Related (Value.Like R) acc acc' →
      Mirrors R (entries acc parts) (fun R' es => Entries.Related (Value.Like R') es es')
        s.store s'.store

theorem addsAlike_nil : AddsAlike [] := by
  intro line acc' s
  rw [Evaluation.entries]
  refine ⟨.refl _, fun R acc hacc => ?_⟩
  rw [entries]
  exact mirrors_pure hacc

theorem AddsAlike.unpack {other : Expr} {parts : List (Option Expr × Expr)} (h : AddsAlike parts)
    (hother : ∀ s, Follows (expression other) Value.Like (Evaluation.expression other) s) :
    AddsAlike ((none, other) :: parts) := by
  intro line acc' s
  rw [Evaluation.entries]
  refine (hother s).bind fun v' s₁ ⟨hgrow₁, hmirror⟩ => ?_
  rw [Evaluation.ends_bind, Evaluation.ends_layerOf]
  split
  · next others' hothers' =>
    refine (h line _ s₁).mono fun es' s₂ ⟨hgrow₂, hparts⟩ => ?_
    refine ⟨hgrow₁.trans hgrow₂, fun R acc hacc => ?_⟩
    rw [entries]
    refine (hmirror R).bind fun R₁ v hsub hv => ?_
    intro m es m' hsim hrun
    obtain ⟨_, _, ⟨⟩, hrun⟩ := run_bind_eq_some_iff.mp hrun
    have hlayer := hsim.layer hv
    rw [Sandbox.store, hothers'] at hlayer
    generalize m.heap.layer v = l at hlayer hrun
    cases hlayer with
    | dict hothers =>
        have hacc₁ : Entries.Related (Value.Like R₁) acc acc' :=
          hacc.imp fun e e' he => ⟨he.1, he.2.mono hsub⟩
        exact hparts R₁ _ (hacc₁.update hothers) m es m' hsim hrun
  · exact trivial

theorem AddsAlike.entry {key value : Expr} {parts : List (Option Expr × Expr)} (h : AddsAlike parts)
    (hkey : ∀ s, Follows (expression key) Value.Like (Evaluation.expression key) s)
    (hvalue : ∀ s, Follows (expression value) Value.Like (Evaluation.expression value) s) :
    AddsAlike ((some key, value) :: parts) := by
  intro line acc' s
  rw [Evaluation.entries]
  refine (hvalue s).bind fun v' s₁ ⟨hgrow₁, hv⟩ => ?_
  refine (hkey s₁).bind fun u' s₂ ⟨hgrow₂, hk⟩ => ?_
  refine ends_keyOf.bind ?_
  rintro k' _ ⟨rfl, rfl⟩
  refine (h line _ _).mono fun es' s₃ ⟨hgrow₃, hparts⟩ => ?_
  refine ⟨(hgrow₁.trans hgrow₂).trans hgrow₃, fun R acc hacc m es m' hsim hrun => ?_⟩
  rw [entries] at hrun
  obtain ⟨u, m₁, hu, hrun₁⟩ := run_bind_eq_some_iff.mp hrun
  obtain ⟨k, m₂, hkeyed, hrun₂⟩ := run_bind_eq_some_iff.mp hrun₁
  obtain ⟨v, m₃, hvalued, hrun₃⟩ := run_bind_eq_some_iff.mp hrun₂
  -- The sides evaluate key and value in different orders, so each is mirrored from where the other
  -- side stood before it.
  obtain ⟨Rk, hcontk, hlikek⟩ := hk R m u m₁ (hsim.grow (.refl _) hgrow₁) hu
  cases hlikek
  obtain ⟨⟨⟩, rfl⟩ := keyOf_eq_some_iff.mp hkeyed
  obtain ⟨Rv, hcontv, hlikev⟩ := hv R m₂ v m₃ (hsim.grow hcontk.left (.refl _)) hvalued
  have hcont := hcontv.widen hcontk.left hgrow₂
  have hacc₁ : Entries.Related (Value.Like Rv) acc acc' :=
    hacc.imp fun e e' he => ⟨he.1, he.2.mono hcont.sub⟩
  obtain ⟨R', hcont', hes⟩ := hparts Rv _ (hacc₁.put hlikev) m₃ es m' hcont.simulates hrun₃
  exact ⟨R', hcont.trans hcont', hes⟩

/-! ### All expressions -/

/-- The execution of an expression follows its evaluation. -/
theorem follows_expression (e : Expr) (s : Sandbox) :
    Follows (expression e) Value.Like (Evaluation.expression e) s := by
  -- Lists of expressions and of dictionary parts go along with the expressions that hold them.
  revert s
  induction e using Expr.induction
    (Q := fun es => ∀ s, Follows (expressions es) (fun R => List.Forall₂ (Value.Like R))
      (Evaluation.expressions es) s)
    (R := AddsAlike) with
  | literal l v =>
      intro s
      rw [Evaluation.expression, expression]
      exact follows_literal l v
  | name l n =>
      intro s
      exact follows_name l n
  | list l items ih =>
      intro s
      rw [Evaluation.expression]
      split
      · exact trivial
      · refine (ih s).bind fun vs s₁ ⟨hgrow, hmirror⟩ => ?_
        rw [Evaluation.ends_allocate, expression]
        exact ⟨hgrow.trans (.allocate _ _), fun R => (hmirror R).bind fun R₁ us _ hlike =>
          (allocates_allocate _).mirrors (.list hlike)⟩
  | tuple l items ih =>
      intro s
      rw [Evaluation.expression]
      split
      · exact trivial
      · refine (ih s).bind fun vs s₁ ⟨hgrow, hmirror⟩ => ?_
        rw [Evaluation.ends_allocate, expression]
        exact ⟨hgrow.trans (.allocate _ _), fun R => (hmirror R).bind fun R₁ us _ hlike =>
          (allocates_tuple _).mirrors (.list hlike)⟩
  | dict l parts ih =>
      intro s
      rw [Evaluation.expression]
      refine (ih l [] s).bind fun es s₁ ⟨hgrow, hmirror⟩ => ?_
      rw [Evaluation.ends_allocate, expression]
      exact ⟨hgrow.trans (.allocate _ _), fun R => (hmirror R [] .nil).bind fun R₁ us _ hlike =>
        (allocates_allocate _).mirrors (.dict hlike)⟩
  | subscript l container key ihcontainer ihkey =>
      intro s
      rw [Evaluation.expression]
      refine (ihcontainer s).bind fun c' s₁ ⟨hgrow₁, hcontainer⟩ => ?_
      refine (ihkey s₁).bind fun k' s₂ ⟨hgrow₂, hkey⟩ => ?_
      refine ends_subscript.mono ?_
      rintro w _ ⟨rfl, hw⟩
      rw [expression]
      exact ⟨hgrow₁.trans hgrow₂, fun R => (hcontainer R).bind fun R₁ c _ hc =>
        (hkey R₁).bind fun R₂ k hsub hk => mirrors_subscript (hc.mono hsub) hk hw⟩
  | call l function arguments keywords ih =>
      intro s
      exact follows_call ih
  | negate l operand ih =>
      intro s
      rw [Evaluation.expression]
      refine (ih s).bind fun w s₁ ⟨hgrow, hoperand⟩ => ?_
      refine ends_negate.mono ?_
      rintro u _ ⟨rfl, hnegate⟩
      rw [expression]
      exact ⟨hgrow, fun R => (hoperand R).bind fun R₁ x _ hx => hnegate R₁ x hx⟩
  | add l left right ihleft ihright =>
      intro s
      rw [Evaluation.expression]
      refine (ihleft s).bind fun a' s₁ ⟨hgrow₁, hleft⟩ => ?_
      refine (ihright s₁).bind fun b' s₂ ⟨hgrow₂, hright⟩ => ?_
      refine ends_add.mono fun u s₃ ⟨hgrow₃, hadd⟩ => ?_
      rw [expression]
      exact ⟨(hgrow₁.trans hgrow₂).trans hgrow₃, fun R => (hleft R).bind fun R₁ a _ ha =>
        (hright R₁).bind fun R₂ b hsub hb => hadd R₂ a b (ha.mono hsub) hb⟩
  | starred l value =>
      intro s
      rw [Evaluation.expression]
      exact trivial
  | other l kind =>
      intro s
      rw [Evaluation.expression]
      exact trivial
  | nil =>
      rename_i s
      rw [Evaluation.expressions, expressions]
      exact follows_pure fun R => .nil
  | cons e rest ihe ihrest =>
      rename_i s
      rw [Evaluation.expressions]
      refine (ihe s).bind fun v' s₁ ⟨hgrow₁, hfirst⟩ => ?_
      refine (ihrest s₁).bind fun vs' s₂ ⟨hgrow₂, hothers⟩ => ?_
      rw [expressions]
      exact ⟨hgrow₁.trans hgrow₂, fun R => (hfirst R).bind fun R₁ v _ hv =>
        (hothers R₁).bind fun R₂ vs hsub hvs => mirrors_pure (.cons (hv.mono hsub) hvs)⟩
  | done => exact addsAlike_nil
  | unpack other rest ihother ihrest => exact ihrest.unpack ihother
  | entry key value rest ihkey ihvalue ihrest => exact ihrest.entry ihkey ihvalue

end Execution

end PersistedOps.Script
