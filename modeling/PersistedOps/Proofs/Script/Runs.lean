import PersistedOps.Proofs.Results
import PersistedOps.Script.Evaluate

/-!
Evaluations that come to their end: what each of them has done, one step after the other.
-/

namespace PersistedOps.Script.Evaluation

variable {α β : Type} {s s' : Sandbox} {v : Value} {l : Nat}

theorem run_bind_eq_ok_iff {m : Evaluation α} {f : α → Evaluation β} {b : β} :
    StateT.run (m >>= f) s = .ok (b, s') ↔
      ∃ a s₁, StateT.run m s = .ok (a, s₁) ∧ StateT.run (f a) s₁ = .ok (b, s') := by
  rw [StateT.run_bind, bind_eq_ok_iff]
  exact Prod.exists

theorem run_forM_cons_eq_ok_iff {f : α → Evaluation Unit} {a : α} {as : List α} :
    StateT.run ((a :: as).forM f) s = .ok ((), s') ↔
      ∃ s₁, StateT.run (f a) s = .ok ((), s₁) ∧ StateT.run (as.forM f) s₁ = .ok ((), s') := by
  have hrun : StateT.run ((a :: as).forM f) s = StateT.run (f a >>= fun _ => as.forM f) s := rfl
  rw [hrun, run_bind_eq_ok_iff]
  exact ⟨fun ⟨_, h⟩ => h, fun h => ⟨(), h⟩⟩

/-- What every step of a run that comes to its end has done is a run of its own. -/
theorem exists_run_of_mem {f : α → Evaluation Unit} {as : List α} {a : α} (ha : a ∈ as)
    (h : StateT.run (as.forM f) s = .ok ((), s')) : ∃ s₁ s₂, StateT.run (f a) s₁ = .ok ((), s₂) := by
  induction as generalizing s with
  | nil => cases ha
  | cons b as ih =>
      obtain ⟨s₁, hb, hrest⟩ := run_forM_cons_eq_ok_iff.mp h
      obtain rfl | ha := List.mem_cons.mp ha
      · exact ⟨s, s₁, hb⟩
      · exact ih ha hrest

theorem run_eq_ok_iff {statements : List Statement} :
    run statements = .ok s ↔ StateT.run (statements.forM statement) .initial = .ok ((), s) := by
  rw [run]
  cases StateT.run (statements.forM statement) Sandbox.initial with
  | error h => simp [Except.map]
  | ok r =>
      obtain ⟨⟨⟩, s'⟩ := r
      simp [Except.map]

/-! ### Expressions -/

theorem exists_of_run_list {items : List Expr} (h : StateT.run (expression (.list l items)) s = .ok (v, s')) :
    ∃ vs s₁, StateT.run (expressions items) s = .ok (vs, s₁) ∧
      StateT.run (allocate (.list vs)) s₁ = .ok (v, s') := by
  change StateT.run (if items.any isStarred then _ else _) s = _ at h
  split at h
  · cases h
  · exact run_bind_eq_ok_iff.mp h

theorem exists_of_run_tuple {items : List Expr}
    (h : StateT.run (expression (.tuple l items)) s = .ok (v, s')) :
    ∃ vs s₁, StateT.run (expressions items) s = .ok (vs, s₁) ∧
      StateT.run (allocate (.list vs)) s₁ = .ok (v, s') := by
  change StateT.run (if items.any isStarred then _ else _) s = _ at h
  split at h
  · cases h
  · exact run_bind_eq_ok_iff.mp h

theorem exists_of_run_dict {parts : List (Option Expr × Expr)}
    (h : StateT.run (expression (.dict l parts)) s = .ok (v, s')) :
    ∃ es s₁, StateT.run (entries l [] parts) s = .ok (es, s₁) ∧
      StateT.run (allocate (.dict es)) s₁ = .ok (v, s') :=
  run_bind_eq_ok_iff.mp h

theorem exists_of_run_subscript {container key : Expr}
    (h : StateT.run (expression (.subscript l container key)) s = .ok (v, s')) :
    ∃ c s₁ k s₂, StateT.run (expression container) s = .ok (c, s₁) ∧
      StateT.run (expression key) s₁ = .ok (k, s₂) ∧ StateT.run (subscript l c k) s₂ = .ok (v, s') := by
  obtain ⟨c, s₁, hc, h⟩ := run_bind_eq_ok_iff.mp h
  obtain ⟨k, s₂, hk, h⟩ := run_bind_eq_ok_iff.mp h
  exact ⟨c, s₁, k, s₂, hc, hk, h⟩

theorem exists_of_run_call {function : Expr} {arguments : List Expr} {keywords : Bool}
    (h : StateT.run (expression (.call l function arguments keywords)) s = .ok (v, s')) :
    ∃ argument r s₁, arguments = [argument] ∧ StateT.run (expression argument) s = .ok (r, s₁) ∧
      StateT.run (require l r) s₁ = .ok (v, s') := by
  unfold expression at h
  split at h
  · cases h
  · split at h
    · next argument =>
      obtain ⟨r, s₁, hr, h⟩ := run_bind_eq_ok_iff.mp h
      exact ⟨argument, r, s₁, rfl, hr, h⟩
    · cases h

theorem exists_of_run_negate {operand : Expr}
    (h : StateT.run (expression (.negate l operand)) s = .ok (v, s')) :
    ∃ w s₁, StateT.run (expression operand) s = .ok (w, s₁) ∧
      StateT.run (negate l w) s₁ = .ok (v, s') :=
  run_bind_eq_ok_iff.mp h

theorem exists_of_run_add {left right : Expr}
    (h : StateT.run (expression (.add l left right)) s = .ok (v, s')) :
    ∃ a s₁ b s₂, StateT.run (expression left) s = .ok (a, s₁) ∧
      StateT.run (expression right) s₁ = .ok (b, s₂) ∧ StateT.run (add l a b) s₂ = .ok (v, s') := by
  obtain ⟨a, s₁, ha, h⟩ := run_bind_eq_ok_iff.mp h
  obtain ⟨b, s₂, hb, h⟩ := run_bind_eq_ok_iff.mp h
  exact ⟨a, s₁, b, s₂, ha, hb, h⟩

theorem exists_of_run_expressions_cons {e : Expr} {rest : List Expr} {vs : List Value}
    (h : StateT.run (expressions (e :: rest)) s = .ok (vs, s')) :
    ∃ w ws s₁, StateT.run (expression e) s = .ok (w, s₁) ∧
      StateT.run (expressions rest) s₁ = .ok (ws, s') ∧ vs = w :: ws := by
  obtain ⟨w, s₁, hw, h⟩ := run_bind_eq_ok_iff.mp h
  obtain ⟨ws, s₂, hws, h⟩ := run_bind_eq_ok_iff.mp h
  cases h
  exact ⟨w, ws, s₁, hw, hws, rfl⟩

section Parts

variable {acc es : Entries Value} {rest : List (Option Expr × Expr)}

theorem exists_of_run_entries_unpack {other : Expr}
    (h : StateT.run (entries l acc ((none, other) :: rest)) s = .ok (es, s')) :
    ∃ w s₁ others, StateT.run (expression other) s = .ok (w, s₁) ∧ s₁.heap.layer w = .dict others ∧
      StateT.run (entries l (acc.update others) rest) s₁ = .ok (es, s') := by
  obtain ⟨w, s₁, hw, h⟩ := run_bind_eq_ok_iff.mp h
  obtain ⟨layer, s₂, hlayer, h⟩ := run_bind_eq_ok_iff.mp h
  cases hlayer
  split at h
  · next others hothers => exact ⟨w, s₁, others, hw, hothers, h⟩
  · cases h

theorem run_keyOf_eq_ok_iff {w : Value} {k : Scalar} :
    StateT.run (keyOf l w) s = .ok (k, s') ↔ s.heap.layer w = .scalar k ∧ s' = s := by
  rw [keyOf, run_bind_eq_ok_iff]
  constructor
  · rintro ⟨layer, s₁, hlayer, h⟩
    cases hlayer
    split at h
    · next key hkey =>
      cases h
      exact ⟨hkey, rfl⟩
    · cases h
  · rintro ⟨hlayer, rfl⟩
    refine ⟨_, s', rfl, ?_⟩
    rw [hlayer]
    rfl

theorem exists_of_run_entries_entry {key value : Expr}
    (h : StateT.run (entries l acc ((some key, value) :: rest)) s = .ok (es, s')) :
    ∃ w s₁ u s₂ k, StateT.run (expression value) s = .ok (w, s₁) ∧
      StateT.run (expression key) s₁ = .ok (u, s₂) ∧ s₂.heap.layer u = .scalar k ∧
      StateT.run (entries l (acc.put k w) rest) s₂ = .ok (es, s') := by
  obtain ⟨w, s₁, hw, h₁⟩ := run_bind_eq_ok_iff.mp h
  obtain ⟨u, s₂, hu, h₂⟩ := run_bind_eq_ok_iff.mp h₁
  obtain ⟨k, s₃, hk, h₃⟩ := run_bind_eq_ok_iff.mp h₂
  obtain ⟨hlayer, rfl⟩ := run_keyOf_eq_ok_iff.mp hk
  exact ⟨w, s₁, u, s₃, k, hw, hu, hlayer, h₃⟩

end Parts

/-- A reference is a text that is not empty; it is noted, and a new placeholder is given. -/
theorem exists_of_run_require {r : Value} (h : StateT.run (require l r) s = .ok (v, s')) :
    ∃ x, r = .scalar x ∧ x.isText = true ∧ x.truthy = true ∧
      StateT.run placeholder (s.require x) = .ok (v, s') := by
  unfold require at h
  obtain ⟨layer, s₁, hlayer, h⟩ := run_bind_eq_ok_iff.mp h
  cases hlayer
  split at h
  · next x hx =>
    split at h
    · next htext =>
      obtain ⟨⟨⟩, s₂, hnoted, h⟩ := run_bind_eq_ok_iff.mp h
      cases hnoted
      obtain ⟨htext, htruthy⟩ := Bool.and_eq_true_iff.mp htext
      refine ⟨x, ?_, htext, htruthy, h⟩
      cases r with
      | scalar y =>
          cases hx
          rfl
      | cell a =>
          rw [Heap.layer] at hx
          split at hx <;> cases hx
    · cases h
  · cases h

/-- Two lists make a new one, and two texts a text. -/
theorem cases_of_run_add {a b : Value} (h : StateT.run (add l a b) s = .ok (v, s')) :
    (∃ xs ys, s.heap.layer a = .list xs ∧ s.heap.layer b = .list ys ∧
        StateT.run (allocate (.list (xs ++ ys))) s = .ok (v, s')) ∨
      ∃ x y sum, s.heap.layer a = .scalar x ∧ s.heap.layer b = .scalar y ∧ x.append? y = some sum ∧
        v = .scalar sum ∧ s' = s := by
  obtain ⟨la, s₁, hla, h₁⟩ := run_bind_eq_ok_iff.mp h
  obtain ⟨lb, s₂, hlb, h₂⟩ := run_bind_eq_ok_iff.mp h₁
  cases hla
  cases hlb
  split at h₂
  · next xs ys hxs hys => exact .inl ⟨xs, ys, hxs, hys, h₂⟩
  · next x y hx hy =>
    split at h₂
    · next sum hsum =>
      cases h₂
      exact .inr ⟨x, y, sum, hx, hy, hsum, rfl, rfl⟩
    · cases h₂
  · cases h₂

/-- What is negated is a number. -/
theorem cases_of_run_negate {w : Value} (h : StateT.run (negate l w) s = .ok (v, s')) : s' = s ∧
    ((∃ n, s.heap.layer w = .scalar (.int n) ∧ v = .scalar (.int (-n))) ∨
      ∃ x, s.heap.layer w = .scalar (.float x) ∧ v = .scalar (.float x.neg)) := by
  obtain ⟨layer, s₁, hlayer, h₁⟩ := run_bind_eq_ok_iff.mp h
  cases hlayer
  split at h₁
  · next n hn =>
    cases h₁
    exact ⟨rfl, .inl ⟨n, hn, rfl⟩⟩
  · next x hx =>
    cases h₁
    exact ⟨rfl, .inr ⟨x, hx, rfl⟩⟩
  · cases h₁

/-! ### Statements -/

theorem exists_of_run_assign_subscript {container key : Expr} {w : Value}
    (h : StateT.run (assign w (.subscript l container key)) s = .ok ((), s')) :
    ∃ c s₁ k s₂, StateT.run (expression container) s = .ok (c, s₁) ∧
      StateT.run (expression key) s₁ = .ok (k, s₂) ∧ StateT.run (assignInto l c k w) s₂ = .ok ((), s') := by
  obtain ⟨c, s₁, hc, h⟩ := run_bind_eq_ok_iff.mp h
  obtain ⟨k, s₂, hk, h⟩ := run_bind_eq_ok_iff.mp h
  exact ⟨c, s₁, k, s₂, hc, hk, h⟩

theorem eq_bind_of_run_assign_name {n : String} {w : Value}
    (h : StateT.run (assign w (.name l n)) s = .ok ((), s')) : s' = s.bind n w := by
  change StateT.run (if n = requireName then _ else _) s = _ at h
  split at h <;> cases h
  rfl

theorem exists_of_run_assignment {targets : List Expr} {value : Expr}
    (h : StateT.run (statement (.assign l targets value)) s = .ok ((), s')) :
    ∃ w s₁, StateT.run (expression value) s = .ok (w, s₁) ∧
      StateT.run (targets.forM (assign w)) s₁ = .ok ((), s') := by
  exact run_bind_eq_ok_iff.mp h

theorem exists_of_run_augmented {target value : Expr} {operator : Operator}
    (h : StateT.run (statement (.augmented l target operator value)) s = .ok ((), s')) :
    ∃ current s₁ more s₂ sum s₃, StateT.run (expression target) s = .ok (current, s₁) ∧
      StateT.run (expression value) s₁ = .ok (more, s₂) ∧
      StateT.run (add l current more) s₂ = .ok (sum, s₃) ∧
      StateT.run (assign sum target) s₃ = .ok ((), s') := by
  cases operator with
  | add =>
      obtain ⟨current, s₁, hcurrent, h⟩ := run_bind_eq_ok_iff.mp h
      obtain ⟨more, s₂, hmore, h⟩ := run_bind_eq_ok_iff.mp h
      obtain ⟨sum, s₃, hsum, h⟩ := run_bind_eq_ok_iff.mp h
      exact ⟨current, s₁, more, s₂, sum, s₃, hcurrent, hmore, hsum, h⟩
  | _ => cases h

theorem exists_of_run_expression {value : Expr}
    (h : StateT.run (statement (.expression l value)) s = .ok ((), s')) :
    ∃ w, StateT.run (expression value) s = .ok (w, s') := by
  obtain ⟨w, s₁, hw, h⟩ := run_bind_eq_ok_iff.mp h
  cases h
  exact ⟨w, hw⟩

end PersistedOps.Script.Evaluation
