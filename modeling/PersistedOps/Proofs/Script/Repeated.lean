import PersistedOps.Proofs.Script.Agreement
import PersistedOps.Proofs.Script.Calls

/-!
Evaluating once more. The sandbox finds the target of an augmented assignment a second time, in a store
to which cells have been added. The cells that it makes then are others, but they match those that it
made before, so the calls in the target are given the same references.
-/

namespace PersistedOps.Script.Evaluation

variable {R : Matching} {s t s' t' : Sandbox} {v w v' w' a b a' b' : Value} {l : Nat}

/-! ### Operations on values that are alike -/

theorem continues_allocate {c d : Cell} (hsim : Simulates R s.store t.store) (hlike : c.Like R d)
    (h : StateT.run (allocate c) s = .ok (v, s')) (h' : StateT.run (allocate d) t = .ok (w, t')) :
    ∃ R', Continues R s.store t.store R' s'.store t'.store ∧ v.Like R' w := by
  cases h
  cases h'
  exact ⟨_, .allocate hsim hlike, .cell (.inr ⟨rfl, rfl⟩)⟩

theorem continues_subscript (hsim : Simulates R s.store t.store) (ha : a.Like R a') (hb : b.Like R b')
    (h : StateT.run (subscript l a b) s = .ok (v, s')) (h' : StateT.run (subscript l a' b') t = .ok (w, t')) :
    ∃ R', Continues R s.store t.store R' s'.store t'.store ∧ v.Like R' w := by
  obtain ⟨rfl, hv⟩ := Execution.ends_subscript.of_run h
  obtain ⟨rfl, hw⟩ := Execution.ends_subscript.of_run h'
  exact ⟨R, .refl hsim, like_of_lookup (hsim.layer ha) (hsim.layer hb) hv hw⟩

theorem continues_negate (hsim : Simulates R s.store t.store) (ha : a.Like R a')
    (h : StateT.run (negate l a) s = .ok (v, s')) (h' : StateT.run (negate l a') t = .ok (w, t')) :
    ∃ R', Continues R s.store t.store R' s'.store t'.store ∧ v.Like R' w := by
  have hlayer : Layer.Related (Value.Like R) (s.heap.layer a) (t.heap.layer a') := hsim.layer ha
  obtain ⟨rfl, hnumber⟩ := cases_of_run_negate h
  obtain ⟨rfl, hnumber'⟩ := cases_of_run_negate h'
  refine ⟨R, .refl hsim, ?_⟩
  obtain ⟨n, hn, rfl⟩ | ⟨x, hx, rfl⟩ := hnumber <;> obtain ⟨m, hm, rfl⟩ | ⟨y, hy, rfl⟩ := hnumber' <;>
    simp only [*] at hlayer <;> cases hlayer <;> exact .scalar _

theorem continues_add (hsim : Simulates R s.store t.store) (ha : a.Like R a') (hb : b.Like R b')
    (h : StateT.run (add l a b) s = .ok (v, s')) (h' : StateT.run (add l a' b') t = .ok (w, t')) :
    ∃ R', Continues R s.store t.store R' s'.store t'.store ∧ v.Like R' w := by
  have hlayera : Layer.Related (Value.Like R) (s.heap.layer a) (t.heap.layer a') := hsim.layer ha
  have hlayerb : Layer.Related (Value.Like R) (s.heap.layer b) (t.heap.layer b') := hsim.layer hb
  obtain ⟨xs, ys, hxs, hys, hnew⟩ | ⟨x, y, sum, hx, hy, hsum, rfl, rfl⟩ := cases_of_run_add h <;>
    obtain ⟨xs', ys', hxs', hys', hnew'⟩ | ⟨x', y', sum', hx', hy', hsum', rfl, rfl⟩ :=
      cases_of_run_add h' <;> simp only [*] at hlayera hlayerb <;> cases hlayera <;> cases hlayerb
  · next hxs hys => exact continues_allocate hsim (.list (List.rel_append hxs hys)) hnew hnew'
  · cases hsum.symm.trans hsum'
    exact ⟨R, .refl hsim, .scalar _⟩

theorem continues_require (hsim : Simulates R s.store t.store) (ha : a.Like R a')
    (h : StateT.run (require l a) s = .ok (v, s')) (h' : StateT.run (require l a') t = .ok (w, t')) :
    (called a' w t').map (·.reference) = (called a v s').map (·.reference) ∧
      ∃ R', Continues R s.store t.store R' s'.store t'.store ∧ v.Like R' w := by
  obtain ⟨x, rfl, -, -, rfl, hcalled, -, hs⟩ := exists_of_run_call_require h
  obtain ⟨y, rfl, -, -, rfl, hcalled', -, ht⟩ := exists_of_run_call_require h'
  cases ha
  rw [hcalled, hcalled', hs, ht]
  have hempty := Continues.allocate hsim (.list .nil)
  have hlike : (Execution.placeholderCell s.heap.cells.size).Like
      (fun a b => R a b ∨ a = s.store.heap.cells.size ∧ b = t.store.heap.cells.size)
      (Execution.placeholderCell t.heap.cells.size) :=
    .dict (.cons ⟨rfl, .scalar _⟩ (.cons ⟨rfl, .cell (.inr ⟨rfl, rfl⟩)⟩ .nil))
  have hsize (u : Store) : (u.allocate (.list [])).heap.cells.size = u.heap.cells.size + 1 :=
    Array.size_push _
  exact ⟨rfl, _, hempty.trans (.allocate hempty.simulates hlike),
    .cell (.inr ⟨(hsize s.store).symm, (hsize t.store).symm⟩)⟩

/-! ### Expressions -/

/-- An expression is evaluated in matched stores: its calls are given the same references, and what comes
of it is alike. -/
theorem continues_expression (e : Expr) : ∀ R s t v s' w t', Simulates R s.store t.store →
    StateT.run (expression e) s = .ok (v, s') → StateT.run (expression e) t = .ok (w, t') →
    (calls .evaluated e t).map (·.reference) = (calls .evaluated e s).map (·.reference) ∧
      ∃ R', Continues R s.store t.store R' s'.store t'.store ∧ v.Like R' w := by
  -- Lists of expressions and parts of dictionary displays go along.
  induction e using Expr.induction
    (Q := fun es => ∀ R s t vs s' ws t', Simulates R s.store t.store →
      StateT.run (expressions es) s = .ok (vs, s') → StateT.run (expressions es) t = .ok (ws, t') →
      (callsOfAll .evaluated es t).map (·.reference) = (callsOfAll .evaluated es s).map (·.reference) ∧
        ∃ R', Continues R s.store t.store R' s'.store t'.store ∧ List.Forall₂ (Value.Like R') vs ws)
    (R := fun parts => ∀ l acc acc' R s t es s' fs t', Simulates R s.store t.store →
      Entries.Related (Value.Like R) acc acc' →
      StateT.run (entries l acc parts) s = .ok (es, s') → StateT.run (entries l acc' parts) t = .ok (fs, t') →
      (callsOfParts .evaluated parts t).map (·.reference)
          = (callsOfParts .evaluated parts s).map (·.reference) ∧
        ∃ R', Continues R s.store t.store R' s'.store t'.store ∧
          Entries.Related (Value.Like R') es fs) with
  | literal l x =>
      intro R s t v s' w t' hsim h h'
      rw [expression] at h h'
      refine ⟨by rw [calls, calls], R, ?_⟩
      cases x <;> cases h <;> cases h' <;> exact ⟨.refl hsim, .scalar _⟩
  | name l n =>
      intro R s t v s' w t' hsim h h'
      rw [expression, run_bind_eq_ok_iff] at h h'
      obtain ⟨_, _, ⟨⟩, h⟩ := h
      obtain ⟨_, _, ⟨⟩, h'⟩ := h'
      split at h
      · next hv =>
        split at h'
        · next hw =>
          cases h
          cases h'
          exact ⟨by rw [calls, calls], R, .refl hsim, hsim.lookup? hv hw⟩
        · cases h'
      · cases h
  | list l items ih =>
      intro R s t v s' w t' hsim h h'
      obtain ⟨vs, s₁, hitems, hnew⟩ := exists_of_run_list h
      obtain ⟨ws, t₁, hitems', hnew'⟩ := exists_of_run_list h'
      obtain ⟨hcalls, R₁, hcont, hlike⟩ := ih R s t vs s₁ ws t₁ hsim hitems hitems'
      obtain ⟨R₂, hcont', hlike'⟩ := continues_allocate hcont.simulates (.list hlike) hnew hnew'
      exact ⟨by rw [calls, calls, hcalls], R₂, hcont.trans hcont', hlike'⟩
  | tuple l items ih =>
      intro R s t v s' w t' hsim h h'
      obtain ⟨vs, s₁, hitems, hnew⟩ := exists_of_run_tuple h
      obtain ⟨ws, t₁, hitems', hnew'⟩ := exists_of_run_tuple h'
      obtain ⟨hcalls, R₁, hcont, hlike⟩ := ih R s t vs s₁ ws t₁ hsim hitems hitems'
      obtain ⟨R₂, hcont', hlike'⟩ := continues_allocate hcont.simulates (.list hlike) hnew hnew'
      exact ⟨by rw [calls, calls, hcalls], R₂, hcont.trans hcont', hlike'⟩
  | dict l parts ih =>
      intro R s t v s' w t' hsim h h'
      obtain ⟨es, s₁, hparts, hnew⟩ := exists_of_run_dict h
      obtain ⟨fs, t₁, hparts', hnew'⟩ := exists_of_run_dict h'
      obtain ⟨hcalls, R₁, hcont, hlike⟩ := ih l [] [] R s t es s₁ fs t₁ hsim .nil hparts hparts'
      obtain ⟨R₂, hcont', hlike'⟩ := continues_allocate hcont.simulates (.dict hlike) hnew hnew'
      exact ⟨by rw [calls, calls, hcalls], R₂, hcont.trans hcont', hlike'⟩
  | subscript l container key ihcontainer ihkey =>
      intro R s t v s' w t' hsim h h'
      obtain ⟨c, s₁, k, s₂, hc, hk, hfound⟩ := exists_of_run_subscript h
      obtain ⟨c', t₁, k', t₂, hc', hk', hfound'⟩ := exists_of_run_subscript h'
      obtain ⟨hcalls₁, R₁, hcont₁, hlike₁⟩ := ihcontainer R s t c s₁ c' t₁ hsim hc hc'
      obtain ⟨hcalls₂, R₂, hcont₂, hlike₂⟩ := ihkey R₁ s₁ t₁ k s₂ k' t₂ hcont₁.simulates hk hk'
      obtain ⟨R₃, hcont₃, hlike₃⟩ :=
        continues_subscript hcont₂.simulates (hlike₁.mono hcont₂.sub) hlike₂ hfound hfound'
      refine ⟨?_, R₃, (hcont₁.trans hcont₂).trans hcont₃, hlike₃⟩
      rw [calls, calls, after_of_run hc, after_of_run hc', List.map_append, List.map_append, hcalls₁,
        hcalls₂]
  | call l function arguments keywords ih =>
      intro R s t v s' w t' hsim h h'
      obtain ⟨argument, r, s₁, rfl, hr, hrequire⟩ := exists_of_run_call h
      obtain ⟨_, r', t₁, ⟨⟩, hr', hrequire'⟩ := exists_of_run_call h'
      obtain ⟨hcalls₁, R₁, hcont₁, hlike₁⟩ := ih argument List.mem_cons_self R s t r s₁ r' t₁ hsim hr hr'
      obtain ⟨hcalls₂, R₂, hcont₂, hlike₂⟩ := continues_require hcont₁.simulates hlike₁ hrequire hrequire'
      refine ⟨?_, R₂, hcont₁.trans hcont₂, hlike₂⟩
      simp only [calls_call, after_of_run hr, after_of_run hr', after_of_run hrequire,
        after_of_run hrequire', List.map_append, hcalls₁, hcalls₂]
  | negate l operand ih =>
      intro R s t v s' w t' hsim h h'
      obtain ⟨x, s₁, hx, hnegate⟩ := exists_of_run_negate h
      obtain ⟨x', t₁, hx', hnegate'⟩ := exists_of_run_negate h'
      obtain ⟨hcalls, R₁, hcont, hlike⟩ := ih R s t x s₁ x' t₁ hsim hx hx'
      obtain ⟨R₂, hcont', hlike'⟩ := continues_negate hcont.simulates hlike hnegate hnegate'
      exact ⟨by rw [calls, calls, hcalls], R₂, hcont.trans hcont', hlike'⟩
  | add l left right ihleft ihright =>
      intro R s t v s' w t' hsim h h'
      obtain ⟨a, s₁, b, s₂, ha, hb, hsum⟩ := exists_of_run_add h
      obtain ⟨a', t₁, b', t₂, ha', hb', hsum'⟩ := exists_of_run_add h'
      obtain ⟨hcalls₁, R₁, hcont₁, hlike₁⟩ := ihleft R s t a s₁ a' t₁ hsim ha ha'
      obtain ⟨hcalls₂, R₂, hcont₂, hlike₂⟩ := ihright R₁ s₁ t₁ b s₂ b' t₂ hcont₁.simulates hb hb'
      obtain ⟨R₃, hcont₃, hlike₃⟩ :=
        continues_add hcont₂.simulates (hlike₁.mono hcont₂.sub) hlike₂ hsum hsum'
      refine ⟨?_, R₃, (hcont₁.trans hcont₂).trans hcont₃, hlike₃⟩
      rw [calls, calls, after_of_run ha, after_of_run ha', List.map_append, List.map_append, hcalls₁,
        hcalls₂]
  | starred l value =>
      intro R s t v s' w t' hsim h h'
      rw [expression] at h
      cases h
  | other l kind =>
      intro R s t v s' w t' hsim h h'
      rw [expression] at h
      cases h
  | nil =>
      rename_i R s t vs s' ws t' hsim h h'
      rw [expressions] at h h'
      cases h
      cases h'
      exact ⟨rfl, R, .refl hsim, .nil⟩
  | cons e rest ihe ihrest =>
      rename_i R s t vs s' ws t' hsim h h'
      obtain ⟨v, vs, s₁, hv, hvs, rfl⟩ := exists_of_run_expressions_cons h
      obtain ⟨w, ws, t₁, hw, hws, rfl⟩ := exists_of_run_expressions_cons h'
      obtain ⟨hcalls₁, R₁, hcont₁, hlike₁⟩ := ihe R s t v s₁ w t₁ hsim hv hw
      obtain ⟨hcalls₂, R₂, hcont₂, hlike₂⟩ := ihrest R₁ s₁ t₁ vs s' ws t' hcont₁.simulates hvs hws
      refine ⟨?_, R₂, hcont₁.trans hcont₂, .cons (hlike₁.mono hcont₂.sub) hlike₂⟩
      rw [callsOfAll, callsOfAll, after_of_run hv, after_of_run hw, List.map_append, List.map_append,
        hcalls₁, hcalls₂]
  | done =>
      rename_i l acc acc' R s t es s' fs t' hsim hacc h h'
      rw [entries] at h h'
      cases h
      cases h'
      exact ⟨rfl, R, .refl hsim, hacc⟩
  | unpack other rest ihother ihrest =>
      rename_i l acc acc' R s t es s' fs t' hsim hacc h h'
      obtain ⟨v, s₁, others, hv, hothers, hrest⟩ := exists_of_run_entries_unpack h
      obtain ⟨w, t₁, others', hw, hothers', hrest'⟩ := exists_of_run_entries_unpack h'
      obtain ⟨hcalls₁, R₁, hcont₁, hlike₁⟩ := ihother R s t v s₁ w t₁ hsim hv hw
      have hlayer : Layer.Related (Value.Like R₁) (s₁.heap.layer v) (t₁.heap.layer w) :=
        hcont₁.simulates.layer hlike₁
      rw [hothers, hothers'] at hlayer
      cases hlayer with
      | dict hunpacked =>
          have hacc₁ : Entries.Related (Value.Like R₁) acc acc' :=
            hacc.imp fun e e' he => ⟨he.1, he.2.mono hcont₁.sub⟩
          obtain ⟨hcalls₂, R₂, hcont₂, hlike₂⟩ := ihrest l _ _ R₁ s₁ t₁ es s' fs t' hcont₁.simulates
            (hacc₁.update hunpacked) hrest hrest'
          refine ⟨?_, R₂, hcont₁.trans hcont₂, hlike₂⟩
          rw [callsOfParts, callsOfParts, after_of_run hv, after_of_run hw, List.map_append,
            List.map_append, hcalls₁, hcalls₂]
  | entry key value rest ihkey ihvalue ihrest =>
      rename_i l acc acc' R s t es s' fs t' hsim hacc h h'
      obtain ⟨v, s₁, u, s₂, k, hv, hu, hk, hrest⟩ := exists_of_run_entries_entry h
      obtain ⟨v', t₁, u', t₂, k', hv', hu', hk', hrest'⟩ := exists_of_run_entries_entry h'
      obtain ⟨hcalls₁, R₁, hcont₁, hlike₁⟩ := ihvalue R s t v s₁ v' t₁ hsim hv hv'
      obtain ⟨hcalls₂, R₂, hcont₂, hlike₂⟩ := ihkey R₁ s₁ t₁ u s₂ u' t₂ hcont₁.simulates hu hu'
      have hlayer : Layer.Related (Value.Like R₂) (s₂.heap.layer u) (t₂.heap.layer u') :=
        hcont₂.simulates.layer hlike₂
      rw [hk, hk'] at hlayer
      cases hlayer
      have hcont := hcont₁.trans hcont₂
      have hacc₂ : Entries.Related (Value.Like R₂) acc acc' :=
        hacc.imp fun e e' he => ⟨he.1, he.2.mono hcont.sub⟩
      obtain ⟨hcalls₃, R₃, hcont₃, hlike₃⟩ := ihrest l _ _ R₂ s₂ t₂ es s' fs t' hcont₂.simulates
        (hacc₂.put (hlike₁.mono hcont₂.sub)) hrest hrest'
      refine ⟨?_, R₃, hcont.trans hcont₃, hlike₃⟩
      simp only [callsOfParts, after_of_run hv, after_of_run hu, after_of_run hv', after_of_run hu',
        Way.entry, List.map_append, hcalls₁, hcalls₂, hcalls₃]

/-! ### Statements -/

/-- Coming back to a target, the sandbox calls for the same references. -/
theorem calls_again {target : Expr} (hsim : Simulates R s.store t.store)
    (h : StateT.run (expression target) s = .ok (v, s')) (h' : StateT.run (assign w target) t = .ok ((), t')) :
    (calls .evaluated target t).map (·.reference) = (calls .evaluated target s).map (·.reference) := by
  cases target with
  | name l n => rw [calls, calls]
  | subscript l container key =>
      obtain ⟨c, s₁, k, s₂, hc, hk, -⟩ := exists_of_run_subscript h
      obtain ⟨c', t₁, k', t₂, hc', hk', -⟩ := exists_of_run_assign_subscript h'
      obtain ⟨hcalls₁, R₁, hcont₁, -⟩ := continues_expression container R s t c s₁ c' t₁ hsim hc hc'
      obtain ⟨hcalls₂, -⟩ := continues_expression key R₁ s₁ t₁ k s₂ k' t₂ hcont₁.simulates hk hk'
      rw [calls, calls, after_of_run hc, after_of_run hc', List.map_append, List.map_append, hcalls₁,
        hcalls₂]
  | _ => cases h'

theorem simulates_assign {target : Expr} (hsim : Simulates R s.store t.store) (hv : v.Like R w)
    (h : StateT.run (assign v target) s = .ok ((), s')) (h' : StateT.run (assign w target) t = .ok ((), t')) :
    ∃ R', (∀ a b, R a b → R' a b) ∧ Simulates R' s'.store t'.store := by
  cases target with
  | name l n =>
      obtain rfl := eq_bind_of_run_assign_name h
      obtain rfl := eq_bind_of_run_assign_name h'
      exact ⟨R, fun _ _ hab => hab, hsim.assign (.name n) hv rfl rfl⟩
  | subscript l container key =>
      obtain ⟨c, s₁, k, s₂, hc, hk, hassign⟩ := exists_of_run_assign_subscript h
      obtain ⟨c', t₁, k', t₂, hc', hk', hassign'⟩ := exists_of_run_assign_subscript h'
      obtain ⟨-, R₁, hcont₁, hlike₁⟩ := continues_expression container R s t c s₁ c' t₁ hsim hc hc'
      obtain ⟨-, R₂, hcont₂, hlike₂⟩ := continues_expression key R₁ s₁ t₁ k s₂ k' t₂ hcont₁.simulates hk hk'
      obtain ⟨a, x, rfl, rfl, hs⟩ := Execution.ends_assignInto.of_run hassign
      obtain ⟨b, y, rfl, rfl, ht⟩ := Execution.ends_assignInto.of_run hassign'
      have hcont := hcont₁.trans hcont₂
      cases hlike₂
      cases hlike₁ with
      | cell hab =>
          exact ⟨R₂, hcont.sub, hcont.simulates.assign (.item (hcont₂.sub _ _ hab) x) (hv.mono hcont.sub) hs ht⟩
  | _ => cases h

theorem simulates_assigns {targets : List Expr} (hsim : Simulates R s.store t.store) (hv : v.Like R w)
    (h : StateT.run (targets.forM (assign v)) s = .ok ((), s'))
    (h' : StateT.run (targets.forM (assign w)) t = .ok ((), t')) : ∃ R', Simulates R' s'.store t'.store := by
  induction targets generalizing R s t with
  | nil =>
      cases h
      cases h'
      exact ⟨R, hsim⟩
  | cons target rest ih =>
      obtain ⟨s₁, hs₁, hrest⟩ := run_forM_cons_eq_ok_iff.mp h
      obtain ⟨t₁, ht₁, hrest'⟩ := run_forM_cons_eq_ok_iff.mp h'
      obtain ⟨R₁, hsub, hsim₁⟩ := simulates_assign hsim hv hs₁ ht₁
      exact ih hsim₁ (hv.mono hsub) hrest hrest'

/-- A statement takes matched stores to matched stores. -/
theorem simulates_statement {st : Statement} (hsim : Simulates R s.store t.store)
    (h : StateT.run (statement st) s = .ok ((), s')) (h' : StateT.run (statement st) t = .ok ((), t')) :
    ∃ R', Simulates R' s'.store t'.store := by
  cases st with
  | assign l targets value =>
      obtain ⟨v, s₁, hv, htargets⟩ := exists_of_run_assignment h
      obtain ⟨w, t₁, hw, htargets'⟩ := exists_of_run_assignment h'
      obtain ⟨-, R₁, hcont, hlike⟩ := continues_expression value R s t v s₁ w t₁ hsim hv hw
      exact simulates_assigns hcont.simulates hlike htargets htargets'
  | augmented l target operator value =>
      obtain ⟨a, s₁, b, s₂, sum, s₃, ha, hb, hsum, hassign⟩ := exists_of_run_augmented h
      obtain ⟨a', t₁, b', t₂, sum', t₃, ha', hb', hsum', hassign'⟩ := exists_of_run_augmented h'
      obtain ⟨-, R₁, hcont₁, hlike₁⟩ := continues_expression target R s t a s₁ a' t₁ hsim ha ha'
      obtain ⟨-, R₂, hcont₂, hlike₂⟩ := continues_expression value R₁ s₁ t₁ b s₂ b' t₂ hcont₁.simulates hb hb'
      obtain ⟨R₃, hcont₃, hlike₃⟩ :=
        continues_add hcont₂.simulates (hlike₁.mono hcont₂.sub) hlike₂ hsum hsum'
      obtain ⟨R₄, -, hsim₄⟩ := simulates_assign hcont₃.simulates hlike₃ hassign hassign'
      exact ⟨R₄, hsim₄⟩
  | expression l value =>
      obtain ⟨v, hv⟩ := exists_of_run_expression h
      obtain ⟨w, hw⟩ := exists_of_run_expression h'
      obtain ⟨-, R₁, hcont, -⟩ := continues_expression value R s t v s' w t' hsim hv hw
      exact ⟨R₁, hcont.simulates⟩
  | pass l =>
      cases h
      cases h'
      exact ⟨R, hsim⟩
  | other l kind => cases h

/-- A store in which a matching leads every name to where it leads keeps one, whatever is run. -/
theorem exists_simulates_self {st : Statement} (hself : ∃ R, Simulates R s.store s.store)
    (h : StateT.run (statement st) s = .ok ((), s')) : ∃ R, Simulates R s'.store s'.store := by
  obtain ⟨R, hsim⟩ := hself
  exact simulates_statement hsim h h

/-- In an augmented assignment the sandbox calls for nothing that it has not called for when it comes back
to the target. -/
theorem calls_augmented_again {target value : Expr} {current more sum : Value} {s₁ s₂ s₃ : Sandbox}
    (hself : ∃ R, Simulates R s.store s.store)
    (hcurrent : StateT.run (expression target) s = .ok (current, s₁))
    (hmore : StateT.run (expression value) s₁ = .ok (more, s₂))
    (hsum : StateT.run (add l current more) s₂ = .ok (sum, s₃))
    (hassign : StateT.run (assign sum target) s₃ = .ok ((), s')) :
    (calls .evaluated target s₃).map (·.reference) = (calls .evaluated target s).map (·.reference) := by
  obtain ⟨R, hsim⟩ := hself
  have hgrow : s.store.Grows s₃.store :=
    (((Execution.follows_expression target s).of_run hcurrent).1.trans
      ((Execution.follows_expression value s₁).of_run hmore).1).trans (Execution.ends_add.of_run hsum).1
  exact calls_again (hsim.grow (.refl _) hgrow) hcurrent hassign

end PersistedOps.Script.Evaluation
