import PersistedOps.Proofs.Script.Extension
import PersistedOps.Proofs.Script.Following
import PersistedOps.Script.Extract

/-!
The sandbox and the direct execution of a unit. The sandbox puts a new list where an augmented assignment
extends a list, so they come apart where the list is held elsewhere; and there only. A unit that extends
no such list exports the document that its execution leaves.

The invariant is that the stores are matched from their names. Expressions only add cells, which are
matched as they come. An assignment finds its targets anew on both sides, in the same order. An augmented
assignment finds its target twice in the sandbox and once in the execution: the second time the sandbox
comes to the same place, or to a cell that is new on both sides and that no name will ever lead to. In
either case the extended list and the new one are matched, if nothing but the target held the list.
-/

namespace PersistedOps.Script

namespace Execution

variable {s : Sandbox} {m m' : Machine}

/-! ### Targets -/

theorem exists_of_target_subscript {line : Nat} {container key : Expr} {t : Target}
    (hrun : StateT.run (target (.subscript line container key)) m = some (t, m')) :
    ∃ a k m₁, StateT.run (expression container) m = some (.cell a, m₁) ∧
      StateT.run (expression key) m₁ = some (.scalar k, m') ∧ t = .item a k := by
  obtain ⟨c, m₁, hc, hrun₁⟩ := run_bind_eq_some_iff.mp hrun
  obtain ⟨v, m₂, hv, hrun₂⟩ := run_bind_eq_some_iff.mp hrun₁
  obtain ⟨k, m₃, hk, hrun₃⟩ := run_bind_eq_some_iff.mp hrun₂
  obtain ⟨rfl, rfl⟩ := keyOf_eq_some_iff.mp hk
  cases c with
  | scalar x => cases hrun₃
  | cell a =>
      cases hrun₃
      exact ⟨a, k, m₁, hc, hv, rfl⟩

theorem exists_of_target_name {line : Nat} {n : String} {t : Target}
    (hrun : StateT.run (target (.name line n)) m = some (t, m')) :
    t = .name n ∧ m' = m ∧ n ≠ requireName := by
  rw [target] at hrun
  split at hrun
  · cases hrun
  · next hn =>
    cases hrun
    exact ⟨rfl, rfl, hn⟩

theorem assign?_of_store {t : Target} {v : Value} (hrun : StateT.run (store t v) m = some ((), m')) :
    m.assign? t v = some m'.toStore := by
  have hassign (hset : StateT.run (do
      let s ← (liftM (m.assign? t v) : Execution Store)
      set { m with toStore := s }) m = some ((), m')) : m.assign? t v = some m'.toStore := by
    obtain ⟨u, m₁, hlift, hset⟩ := run_bind_eq_some_iff.mp hset
    obtain ⟨hu, rfl⟩ := run_liftM_eq_some_iff.mp hlift
    cases hset
    exact hu
  cases t with
  | name n => exact hassign hrun
  | item a k =>
      obtain ⟨_, _, ⟨⟩, hrun₁⟩ := run_bind_eq_some_iff.mp hrun
      dsimp only at hrun₁
      split at hrun₁
      · obtain ⟨_, _, ⟨⟩, _⟩ := run_bind_eq_some_iff.mp hrun₁
      · exact hassign hrun₁

/-- Evaluated, a target tells what a matching target holds. -/
theorem follows_place (place : Expr) (s : Sandbox) :
    Evaluation.Ends (fun _ => True) (Evaluation.expression place) s fun w s' =>
      s.store.Grows s'.store ∧ ∀ R, Mirrors R (target place)
        (fun R' t => ∃ q, t.Like R' q ∧ s'.store.load? q = some w) s.store s'.store := by
  cases place with
  | name l n =>
      rw [Evaluation.expression, Evaluation.ends_bind, Evaluation.ends_get]
      split
      · next w hw =>
        refine ⟨.refl _, fun R m t m' hsim hrun => ?_⟩
        obtain ⟨rfl, rfl, -⟩ := exists_of_target_name hrun
        exact ⟨R, .refl hsim, .name n, .name n, hw⟩
      · exact trivial
  | subscript l container key =>
      rw [Evaluation.expression]
      refine (follows_expression container s).bind ?_
      rintro c' s₁ ⟨hgrow₁, hcontainer⟩
      refine (follows_expression key s₁).bind ?_
      rintro k' s₂ ⟨hgrow₂, hkey⟩
      refine ends_subscript.mono ?_
      rintro w _ ⟨rfl, hw⟩
      refine ⟨hgrow₁.trans hgrow₂, fun R m t m' hsim hrun => ?_⟩
      obtain ⟨a, k, m₁, hc, hk, rfl⟩ := exists_of_target_subscript hrun
      obtain ⟨R₁, hcont₁, hlikec⟩ := hcontainer R m _ m₁ hsim hc
      obtain ⟨R₂, hcont₂, hlikek⟩ := hkey R₁ m₁ _ m' hcont₁.simulates hk
      cases hlikek
      cases hlikec with
      | cell hab =>
          exact ⟨R₂, hcont₁.trans hcont₂, .item _ k, .item (hcont₂.sub _ _ hab) k,
            congrArg Except.toOption hw⟩
  | _ =>
      refine (follows_expression _ s).mono fun w s' hfollows =>
        ⟨hfollows.1, fun R m t m' hsim hrun => ?_⟩
      cases hrun

theorem ends_assignInto {line : Nat} {container key w : Value} :
    Evaluation.Ends (fun _ => True) (Evaluation.assignInto line container key w) s fun _ s' =>
      ∃ b k, container = .cell b ∧ key = .scalar k ∧ s.store.assign? (.item b k) w = some s'.store := by
  unfold Evaluation.assignInto
  simp only [Evaluation.ends_bind, Evaluation.ends_layerOf]
  split
  · next b es hes =>
    refine ends_keyOf.bind ?_
    rintro k _ ⟨rfl, rfl⟩
    rw [Evaluation.ends_write]
    exact ⟨b, k, rfl, rfl, Store.assign?_item_eq_some_iff.mpr
      ⟨_, _, Heap.get?_of_layer_dict hes, rfl, rfl⟩⟩
  · next b items k hk hitems =>
    obtain rfl := Heap.layer_eq_scalar_iff.mp hk
    split
    · next n hn =>
      split
      · next i hi =>
        rw [Evaluation.ends_write]
        have hindex : indexOf? items.length (.scalar k) = some i := by
          rw [indexOf?, show (Layer.scalar k : Layer Value).toInt? = some n from hn]
          exact hi
        refine ⟨b, k, rfl, rfl, Store.assign?_item_eq_some_iff.mpr
          ⟨.list items, .list (items.set i w), ?_, ?_, rfl⟩⟩
        · refine Heap.get?_of_layer_list hitems ?_
          rintro rfl
          exact Nat.not_lt_zero i (indexOf?_lt hindex)
        · rw [Cell.assign?, hindex]
          rfl
      · exact ends_failShowing
    · exact trivial
  · exact trivial

/-- Assigned to, a target is found anew: a matching target if it was there before. -/
theorem ends_assign (place : Expr) (w : Value) (s : Sandbox) :
    Evaluation.Ends (fun _ => True) (Evaluation.assign w place) s fun _ s' =>
      ∀ R m t m', Simulates R m.toStore s.store → StateT.run (target place) m = some (t, m') →
        ∃ R' q u, Continues R m.toStore s.store R' m'.toStore u ∧ t.Like R' q ∧
          u.assign? q w = some s'.store := by
  cases place with
  | name l n =>
      rw [Evaluation.assign]
      split
      · exact trivial
      · intro R m t m' hsim hrun
        obtain ⟨rfl, rfl, -⟩ := exists_of_target_name hrun
        exact ⟨R, .name n, _, .refl hsim, .name n, rfl⟩
  | subscript l container key =>
      rw [Evaluation.assign]
      refine (follows_expression container s).bind fun c' s₁ ⟨_, hcontainer⟩ => ?_
      refine (follows_expression key s₁).bind fun k' s₂ ⟨_, hkey⟩ => ?_
      refine ends_assignInto.mono ?_
      rintro _ s' ⟨b, k, rfl, rfl, hassign⟩ R m t m' hsim hrun
      obtain ⟨a, k', m₁, hc, hk, rfl⟩ := exists_of_target_subscript hrun
      obtain ⟨R₁, hcont₁, hlikec⟩ := hcontainer R m _ m₁ hsim hc
      obtain ⟨R₂, hcont₂, hlikek⟩ := hkey R₁ m₁ _ m' hcont₁.simulates hk
      cases hlikek
      cases hlikec with
      | cell hab =>
          exact ⟨R₂, .item b k, _, hcont₁.trans hcont₂, .item (hcont₂.sub _ _ hab) k, hassign⟩
  | _ => exact trivial

/-! ### Statements -/

/-- An augmented sum is a sum, or it extends a list. -/
theorem extend_cases {current more u : Value} (hrun : StateT.run (extend current more) m = some (u, m')) :
    StateT.run (add current more) m = some (u, m') ∨
      ∃ a xs ys, current = .cell a ∧ a ∉ m.tuples ∧ m.heap.layer (.cell a) = .list xs ∧
        m.heap.layer more = .list ys ∧ u = .cell a ∧
        m'.toStore = m.toStore.write a (.list (xs ++ ys)) := by
  obtain ⟨_, _, ⟨⟩, hrun₁⟩ := run_bind_eq_some_iff.mp hrun
  split at hrun₁
  · next a xs ys hys hxs =>
    split at hrun₁
    · exact .inl hrun₁
    · next ha =>
      cases hrun₁
      exact .inr ⟨a, xs, ys, rfl, ha, hxs, hys, rfl, rfl⟩
  · exact .inl hrun₁

theorem follows_assign {place : Expr} {w : Value} :
    Evaluation.Ends (fun _ => True) (Evaluation.assign w place) s fun _ s' =>
      ∀ R m m' v, Simulates R m.toStore s.store → v.Like R w →
        StateT.run (do store (← target place) v) m = some ((), m') →
        ∃ R', (∀ i j, R i j → R' i j) ∧ Simulates R' m'.toStore s'.store := by
  refine (ends_assign place w s).mono fun _ s' hassign R m m' v hsim hv hrun => ?_
  obtain ⟨t, m₁, ht, hstore⟩ := run_bind_eq_some_iff.mp hrun
  obtain ⟨R', q, u, hcont, hlike, hu⟩ := hassign R m t m₁ hsim ht
  exact ⟨R', hcont.sub, hcont.simulates.assign hlike (hv.mono hcont.sub) (assign?_of_store hstore) hu⟩

theorem follows_assigns {places : List Expr} {w : Value} :
    Evaluation.Ends (fun _ => True) (places.forM (Evaluation.assign w)) s fun _ s' =>
      ∀ R m m' v, Simulates R m.toStore s.store → v.Like R w →
        StateT.run (places.forM fun place => do store (← target place) v) m = some ((), m') →
        ∃ R', Simulates R' m'.toStore s'.store := by
  induction places generalizing s with
  | nil =>
      intro R m m' v hsim hv hrun
      cases hrun
      exact ⟨R, hsim⟩
  | cons place places ih =>
      show Evaluation.Ends _ (Evaluation.assign w place >>= fun _ => places.forM (Evaluation.assign w)) s _
      refine follows_assign.bind fun _ s₁ hfirst => ih.mono fun _ s' hrest R m m' v hsim hv hrun => ?_
      obtain ⟨_, m₁, hrun₁, hrun₂⟩ := run_bind_eq_some_iff.mp hrun
      obtain ⟨R₁, hsub, hsim₁⟩ := hfirst R m m₁ v hsim hv hrun₁
      exact hrest R₁ m₁ m' v hsim₁ (hv.mono hsub) hrun₂

theorem exists_of_operands {place value : Expr} {t : Target} {current more : Value}
    (hrun : StateT.run (operands place value) m = some ((t, current, more), m')) :
    ∃ m₁, StateT.run (target place) m = some (t, m₁) ∧ m₁.load? t = some current ∧
      StateT.run (expression value) m₁ = some (more, m') := by
  obtain ⟨_, m₁, ht, hrun₁⟩ := run_bind_eq_some_iff.mp hrun
  obtain ⟨_, m₂, hload, hrun₂⟩ := run_bind_eq_some_iff.mp hrun₁
  obtain ⟨_, m₃, hmore, hrun₃⟩ := run_bind_eq_some_iff.mp hrun₂
  obtain ⟨hcurrent, rfl⟩ := run_liftM_eq_some_iff.mp hload
  cases hrun₃
  exact ⟨m₂, ht, hcurrent, hmore⟩

/-- A target found anew is matched as before, or else it is in a cell that is new on both sides. -/
theorem like_or_apart {R R' : Matching} {s' t t' u : Store} {p q : Target}
    (hcont : Continues R u t R' s' t') (hp : p.Like R' q) :
    p.Like R q ∨ ∃ x k y, p = .item x k ∧ q = .item y k ∧
      u.heap.cells.size ≤ x ∧ t.heap.cells.size ≤ y := by
  cases hp with
  | name n => exact .inl (.name n)
  | item hab k =>
      obtain hab | ⟨ha, hb⟩ := hcont.fresh _ _ hab
      · exact .inl (.item hab k)
      · exact .inr ⟨_, k, _, rfl, rfl, ha, hb⟩

section Again

variable {R R₁ R₂ R₃ R₄ : Matching} {S S₁ S₂ S₃ S' T T₁ T₂ T₃ T' U : Store} {t q q₁ : Target}

/-- A value is assigned to a target that one side has looked for once more. -/
theorem simulates_assign_again {v w : Value} (hsim : Simulates R S T)
    (hcont : Continues R S T R₃ S₃ T₃) (hagain : Continues R S T₃ R₄ S₁ U) (hq : t.Like R₄ q)
    (hv : v.Like R₃ w) (hs : S₃.assign? t v = some S') (ht : U.assign? q w = some T') :
    ∃ R', Simulates R' S' T' := by
  obtain hsame | ⟨x, k, y, rfl, rfl, hx, hy⟩ := like_or_apart hagain hq
  · exact ⟨R₃, (hcont.simulates.grow (.refl _) hagain.right).assign (hsame.mono hcont.sub) hv hs ht⟩
  · refine ⟨R, (hsim.grow hcont.left (hcont.right.trans hagain.right)).assign_apart
      (fun a b hab => ?_) hs ht⟩
    have ha := hsim.lt_left hab
    have hb := Nat.lt_of_lt_of_le (hsim.lt_right hab) hcont.right.size_le
    exact ⟨by omega, by omega⟩

/-- The list in a target is extended on one side; on the other the extended list is a new cell, and is
assigned to the target once this has been looked for once more. -/
theorem simulates_extend_again {a : Nat} {v : Value} {xs items items' : List Value}
    (hsim : Simulates R S T) (hcont₁ : Continues R S T R₁ S₁ T₁) (hcont₂ : Continues R₁ S₁ T₁ R₂ S₂ T₂)
    (hgrow : T₂.Grows T₃) (hagain : Continues R S T₃ R₄ S₁ U) (hq₁ : t.Like R₁ q₁) (hq : t.Like R₄ q)
    (hloads : S₂.load? t = some (.cell a)) (hloadt : T₁.load? q₁ = some v)
    (halone : S₂.HeldOnlyBy t a items) (hcell : S₂.heap.get? a = some (.list xs))
    (hitems : List.Forall₂ (Value.Like R₂) items items')
    (hnew : T₃.heap.get? T₂.heap.cells.size = some (.list items'))
    (hs : (S₂.write a (.list items)).assign? t (.cell a) = some S')
    (ht : U.assign? q (.cell T₂.heap.cells.size) = some T') : ∃ R', Simulates R' S' T' := by
  have hcont := hcont₁.trans hcont₂
  have hright := hgrow.trans hagain.right
  obtain hsame | ⟨x, k, y, rfl, rfl, hx, hy⟩ := like_or_apart hagain hq
  · obtain rfl : q = q₁ := (hsame.mono hcont₁.sub).unique hcont₁.simulates.unique.2 hq₁
    exact (hcont₂.simulates.grow (.refl _) hright).extend (hsame.mono hcont.sub) halone hcell hloads
      ((hcont₂.right.trans hright).load? hloadt) hitems
      (fun z hz => Nat.lt_irrefl _ (hcont₂.simulates.lt_right hz)) (hagain.right.cells _ _ hnew) hs ht
  -- The list is an item of something new on both sides, so nothing that matched holds it.
  · obtain ⟨S₀, hS₀⟩ := Store.exists_assign? hloads (.scalar .null)
    refine (hsim.grow hcont.left (hcont.right.trans hright)).overlook hS₀ (fun z z' hz _ => ?_)
      (halone S₀ hS₀) hcell hs ht
    have hzx := hsim.lt_left hz
    have hzy := Nat.lt_of_lt_of_le (hsim.lt_right hz) (hcont.right.trans hgrow).size_le
    exact ⟨by omega, by omega⟩

end Again

theorem follows_augmented {line : Nat} {place value : Expr} :
    Evaluation.Ends (fun _ => True) (Evaluation.statement (.augmented line place .add value)) s
      fun _ s' => ∀ R m m', Simulates R m.toStore s.store →
        Unshared m (.augmented line place .add value) →
        StateT.run (statement (.augmented line place .add value)) m = some ((), m') →
        ∃ R', Simulates R' m'.toStore s'.store := by
  refine (follows_place place s).bind fun current' s₁ ⟨hgrow₁, hplace⟩ => ?_
  refine (follows_expression value s₁).bind fun more' s₂ ⟨hgrow₂, hvalue⟩ => ?_
  refine (ends_add.and ends_add_lists).bind fun sum' s₃ ⟨⟨hgrow₃, hadd⟩, hlists⟩ => ?_
  refine (ends_assign place sum' s₃).mono fun _ s' hassign R m m' hsim honly hrun => ?_
  obtain ⟨⟨t, current, more⟩, m₂, hoperands, hrun₁⟩ := run_bind_eq_some_iff.mp hrun
  obtain ⟨sum, m₃, hextend, hstore⟩ := run_bind_eq_some_iff.mp hrun₁
  obtain ⟨m₁, ht, hload, hmore⟩ := exists_of_operands hoperands
  obtain ⟨R₁, hcont₁, q₁, hq₁, hload'⟩ := hplace R m t m₁ hsim ht
  obtain ⟨R₂, hcont₂, hmorelike⟩ := hvalue R₁ m₁ more m₂ hcont₁.simulates hmore
  have hcurrent : current.Like R₂ current' :=
    (hcont₁.simulates.load hq₁ hload hload').mono hcont₂.sub
  have hassigned := assign?_of_store hstore
  -- The sandbox looks for the target once more, which the execution mirrors from where it began.
  obtain ⟨R₄, q, u, hagain, hq, hu⟩ :=
    hassign R m t m₁ (hsim.grow (.refl _) ((hgrow₁.trans hgrow₂).trans hgrow₃)) ht
  obtain hsum | ⟨a, xs, ys, rfl, htuple, hxs, hys, rfl, hm₃⟩ := extend_cases hextend
  · obtain ⟨R₃, hcont₃, hsumlike⟩ :=
      hadd R₂ current more hcurrent hmorelike m₂ sum m₃ hcont₂.simulates hsum
    exact simulates_assign_again hsim ((hcont₁.trans hcont₂).trans hcont₃) hagain hq hsumlike hassigned hu
  · have hcurrent' := hcont₂.simulates.layer hcurrent
    have hmore' := hcont₂.simulates.layer hmorelike
    rw [hxs] at hcurrent'
    rw [hys] at hmore'
    obtain ⟨xs', hxs', hxsitems⟩ := hcurrent'.exists_list
    obtain ⟨ys', hys', hysitems⟩ := hmore'.exists_list
    obtain ⟨rfl, hs₃⟩ := hlists xs' ys' hxs' hys'
    have hnew : s₃.store.heap.get? s₂.heap.cells.size = some (.list (xs' ++ ys')) := by
      rw [hs₃]
      exact (Heap.get?_allocate _ _ _).trans (if_pos rfl)
    rw [hm₃] at hassigned
    exact simulates_extend_again hsim hcont₁ hcont₂ hgrow₃ hagain hq₁ hq (hcont₂.left.load? hload) hload'
      (honly t a more m₂ hoperands htuple xs ys hxs hys)
      (hcont₂.simulates.get?_of_layer_list hcurrent hxs) (List.rel_append hxsitems hysitems) hnew
      hassigned hu

/-- A statement that extends no list held elsewhere leaves matching stores. -/
theorem follows_statement (st : Statement) (s : Sandbox) :
    Evaluation.Ends (fun _ => True) (Evaluation.statement st) s fun _ s' =>
      ∀ R m m', Simulates R m.toStore s.store → Unshared m st →
        StateT.run (statement st) m = some ((), m') → ∃ R', Simulates R' m'.toStore s'.store := by
  cases st with
  | assign l places value =>
      refine (follows_expression value s).bind fun w s₁ ⟨_, hvalue⟩ => ?_
      refine follows_assigns.mono fun _ s' hassigns R m m' hsim _ hrun => ?_
      obtain ⟨v, m₁, hv, hrun₁⟩ := run_bind_eq_some_iff.mp hrun
      obtain ⟨R₁, hcont, hlike⟩ := hvalue R m v m₁ hsim hv
      exact hassigns R₁ m₁ m' v hcont.simulates hlike hrun₁
  | augmented l place operator value =>
      cases operator with
      | add => exact follows_augmented
      | _ => exact trivial
  | expression l value =>
      refine (follows_expression value s).bind fun w s₁ ⟨_, hvalue⟩ R m m' hsim _ hrun => ?_
      obtain ⟨v, m₁, hv, hrun₁⟩ := run_bind_eq_some_iff.mp hrun
      obtain ⟨R₁, hcont, -⟩ := hvalue R m v m₁ hsim hv
      cases hrun₁
      exact ⟨R₁, hcont.simulates⟩
  | pass l =>
      intro R m m' hsim _ hrun
      cases hrun
      exact ⟨R, hsim⟩
  | other l kind => exact trivial

theorem run_cons_eq_some_iff {st : Statement} {statements : List Statement} :
    run m (st :: statements) = some m' ↔
      ∃ m₁, StateT.run (statement st) m = some ((), m₁) ∧ run m₁ statements = some m' := by
  have hrun : run m (st :: statements) =
      (StateT.run (statement st >>= fun _ => statements.forM statement) m).map (·.2) := rfl
  rw [hrun, Option.map_eq_some_iff]
  constructor
  · rintro ⟨⟨⟨⟩, m₂⟩, hbind, rfl⟩
    obtain ⟨⟨⟩, m₁, hst, hrest⟩ := run_bind_eq_some_iff.mp hbind
    exact ⟨m₁, hst, Option.map_eq_some_iff.mpr ⟨_, hrest, rfl⟩⟩
  · rintro ⟨m₁, hst, hrest⟩
    obtain ⟨⟨⟨⟩, m₂⟩, hlast, rfl⟩ := Option.map_eq_some_iff.mp hrest
    exact ⟨((), m₂), run_bind_eq_some_iff.mpr ⟨(), m₁, hst, hlast⟩, rfl⟩

theorem follows_statements (statements : List Statement) (s : Sandbox) :
    Evaluation.Ends (fun _ => True) (statements.forM Evaluation.statement) s fun _ s' =>
      ∀ R m m', Simulates R m.toStore s.store → NoneShared m statements → run m statements = some m' →
        ∃ R', Simulates R' m'.toStore s'.store := by
  induction statements generalizing s with
  | nil =>
      intro R m m' hsim _ hrun
      cases hrun
      exact ⟨R, hsim⟩
  | cons st statements ih =>
      show Evaluation.Ends _ (Evaluation.statement st >>= fun _ => statements.forM Evaluation.statement) s _
      refine (follows_statement st s).bind fun _ s₁ hfirst => (ih s₁).mono fun _ s' hrest => ?_
      intro R m m' hsim hshared hrun
      obtain ⟨m₁, hrun₁, hrun₂⟩ := run_cons_eq_some_iff.mp hrun
      obtain ⟨R₁, hsim₁⟩ := hfirst R m m₁ hsim hshared.1 hrun₁
      exact hrest R₁ m₁ m' hsim₁ (hshared.2 m₁ hrun₁) hrun₂

end Execution

/-! ### Units -/

theorem extract_eq_ok_iff {file source : String} {unit : Extracted} : extract file source = .ok unit ↔
    '\x00' ∉ source.toList ∧ ∃ statements s, parse source = .ok statements ∧
      Evaluation.run statements = .ok s ∧ s.exported file = .ok unit.document ∧
      s.references = unit.references := by
  rw [extract]
  constructor
  · intro h
    split at h
    · cases h
    · next hnull =>
      split at h
      · cases h
      · next statements hparse =>
        split at h
        · cases h
        · next s hs =>
          refine ⟨hnull, statements, s, hparse, hs, ?_⟩
          cases hd : s.exported file with
          | error f =>
              rw [hd] at h
              cases h
          | ok d =>
              rw [hd] at h
              cases h
              exact ⟨rfl, rfl⟩
  · rintro ⟨hnull, statements, s, hparse, hs, hd, hreferences⟩
    simp only [if_neg hnull, hparse, hs, hd, Except.map, hreferences]

theorem exists_of_exported {file : String} {s : Sandbox} {document : Tree}
    (h : s.exported file = .ok document) : ∃ v, s.lookup? exportsName = some v ∧
      Decode.document s.heap.view s.heap.depth v = .ok document := by
  rw [Sandbox.exported] at h
  split at h
  · cases h
  · next v hv =>
    split at h
    · next d hd =>
      cases h
      exact ⟨v, hv, hd⟩
    · split at h <;> cases h

/-- The name of the exports is bound, and this document is read off its value, however deep it nests. -/
def Machine.Exports (m : Machine) (document : Tree) : Prop :=
  ∃ v depth, m.lookup? exportsName = some v ∧ Decode.document m.heap.view depth v = .ok document

theorem Machine.Exports.unique {m : Machine} {d d' : Tree} (h : m.Exports d) (h' : m.Exports d') :
    d = d' := by
  obtain ⟨v, depth, hv, hd⟩ := h
  obtain ⟨w, depth', hw, hd'⟩ := h'
  obtain rfl : v = w := Option.some.inj (hv.symm.trans hw)
  have hdeep := Decode.document_mono (Nat.le_max_left depth depth') hd
  have hdeep' := Decode.document_mono (Nat.le_max_right depth depth') hd'
  exact Except.ok.inj (hdeep.symm.trans hdeep')

/-- The document that is extracted from a unit is the one that the unit's execution leaves, if the unit
extends no list that is held in two places. -/
theorem exports_of_extract {file source : String} {unit : Extracted} {statements : List Statement}
    {m : Machine} (hextract : extract file source = .ok unit) (hparse : parse source = .ok statements)
    (hrun : Execution.run .initial statements = some m)
    (hshared : Execution.NoneShared .initial statements) : m.Exports unit.document := by
  obtain ⟨-, _, s, hparse', hs, hexported, -⟩ := extract_eq_ok_iff.mp hextract
  cases hparse.symm.trans hparse'
  obtain ⟨s', hresult, rfl⟩ : ∃ s', StateT.run (statements.forM Evaluation.statement) .initial =
      .ok ((), s') ∧ s' = s := by
    rw [Evaluation.run] at hs
    cases hresult : StateT.run (statements.forM Evaluation.statement) Sandbox.initial with
    | error h =>
        rw [hresult] at hs
        cases hs
    | ok r =>
        rw [hresult] at hs
        cases hs
        exact ⟨r.2, rfl, rfl⟩
  obtain ⟨R, hsim⟩ := (Execution.follows_statements statements .initial).of_run hresult _ .initial m
    .initial hshared hrun
  obtain ⟨w, hw, hdocument⟩ := exists_of_exported hexported
  have hname := hsim.names exportsName
  rw [show s'.store.lookup? exportsName = some w from hw] at hname
  generalize hv : m.lookup? exportsName = o at hname
  cases hname with
  | @some v _ hlike =>
      exact ⟨v, s'.heap.depth, hv, hsim.view.document (Nat.le_refl _) hlike hdocument⟩

/-- A unit that fills a list and puts it into its document then. -/
def gatheringSource : String :=
  "a=[]\na+=[\x7b'kind':'Field'\x7d]\nexports=\x7b'kind':'Document','definitions':a\x7d"

theorem exports_of_extract_gathering : ∃ unit statements m,
    extract "<unit>" gatheringSource = .ok unit ∧ parse gatheringSource = .ok statements ∧
      Execution.run .initial statements = some m ∧ Execution.NoneShared .initial statements ∧
      m.Exports unit.document := by
  have hnull : '\x00' ∉ gatheringSource.toList := by decide +kernel
  have hcheck : ((parse gatheringSource).toOption.any fun statements =>
      ((Evaluation.run statements).toOption.any fun s => (s.exported "<unit>").toOption.isSome) &&
        (Execution.run .initial statements).isSome && Execution.noneShared .initial statements) =
        true := by
    decide +kernel
  obtain ⟨statements, hstatements, hends⟩ := (Option.any_eq_true _ _).mp hcheck
  obtain ⟨hends, hshared⟩ := Bool.and_eq_true_iff.mp hends
  obtain ⟨hevaluates, hexecutes⟩ := Bool.and_eq_true_iff.mp hends
  obtain ⟨s, hs, hexports⟩ := (Option.any_eq_true _ _).mp hevaluates
  obtain ⟨d, hd⟩ := Option.isSome_iff_exists.mp hexports
  obtain ⟨m, hm⟩ := Option.isSome_iff_exists.mp hexecutes
  have hparse := eq_ok_of_toOption hstatements
  have hextract : extract "<unit>" gatheringSource = .ok ⟨d, s.references⟩ :=
    extract_eq_ok_iff.mpr
      ⟨hnull, statements, s, hparse, eq_ok_of_toOption hs, eq_ok_of_toOption hd, rfl⟩
  exact ⟨_, statements, m, hextract, hparse, hm, Execution.noneShared_sound hshared,
    exports_of_extract hextract hparse hm (Execution.noneShared_sound hshared)⟩

/-- How many definitions a document lists. -/
def definitionCount? (document : Tree) : Option Nat := document.definitions.toOption.map List.length

/-- The same statements, but the list is filled when the document holds it. -/
def aliasingSource : String :=
  "a=[]\nexports=\x7b'kind':'Document','definitions':a\x7d\na+=[\x7b'kind':'Field'\x7d]"

/-- The list is extended where the execution holds it, and the sandbox's document does not see it. -/
theorem extract_aliasing : ∃ unit statements m,
    extract "<unit>" aliasingSource = .ok unit ∧ parse aliasingSource = .ok statements ∧
      Execution.run .initial statements = some m ∧ definitionCount? unit.document = some 0 ∧
      (∃ document, m.Exports document ∧ definitionCount? document = some 1) ∧
      ¬m.Exports unit.document := by
  have hnull : '\x00' ∉ aliasingSource.toList := by decide +kernel
  have hcheck : ((parse aliasingSource).toOption.any fun statements =>
      ((Evaluation.run statements).toOption.any fun s =>
        (s.exported "<unit>").toOption.any (definitionCount? · = some 0)) &&
      (Execution.run .initial statements).any fun m => (m.lookup? exportsName).any fun v =>
        (Decode.document m.heap.view m.heap.depth v).toOption.any (definitionCount? · = some 1)) =
        true := by
    decide +kernel
  obtain ⟨statements, hstatements, hends⟩ := (Option.any_eq_true _ _).mp hcheck
  obtain ⟨hevaluates, hexecutes⟩ := Bool.and_eq_true_iff.mp hends
  obtain ⟨s, hs, hexports⟩ := (Option.any_eq_true _ _).mp hevaluates
  obtain ⟨d, hd, hnone⟩ := (Option.any_eq_true _ _).mp hexports
  obtain ⟨m, hm, hexports'⟩ := (Option.any_eq_true _ _).mp hexecutes
  obtain ⟨v, hv, hreads⟩ := (Option.any_eq_true _ _).mp hexports'
  obtain ⟨document, hdocument, hone⟩ := (Option.any_eq_true _ _).mp hreads
  have hparse := eq_ok_of_toOption hstatements
  have hextract : extract "<unit>" aliasingSource = .ok ⟨d, s.references⟩ :=
    extract_eq_ok_iff.mpr
      ⟨hnull, statements, s, hparse, eq_ok_of_toOption hs, eq_ok_of_toOption hd, rfl⟩
  have hread : m.Exports document := ⟨v, m.heap.depth, hv, eq_ok_of_toOption hdocument⟩
  refine ⟨_, statements, m, hextract, hparse, hm, of_decide_eq_true hnone,
    ⟨document, hread, of_decide_eq_true hone⟩, fun hsame => ?_⟩
  obtain rfl := hsame.unique hread
  cases (of_decide_eq_true hnone).symm.trans (of_decide_eq_true hone)

end PersistedOps.Script
