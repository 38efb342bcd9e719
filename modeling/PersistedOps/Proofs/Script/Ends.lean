import PersistedOps.Script.Evaluate

/-!
How evaluations end. `Ends E m s Q` says that `m`, begun in the state `s`, ends in a value and a state
of which `Q` holds, unless it halts for a reason of which `E` holds. Every way of putting evaluations
together has its rule, so a statement on a whole evaluation comes down to what its parts ask for.
-/

namespace PersistedOps.Script.Evaluation

variable {α β : Type} {E : Halt → Prop} {s : Sandbox}

def Ends (E : Halt → Prop) (m : Evaluation α) (s : Sandbox) (Q : α → Sandbox → Prop) : Prop :=
  match StateT.run m s with
  | .ok (a, s') => Q a s'
  | .error h => E h

theorem Ends.mono {m : Evaluation α} {Q R : α → Sandbox → Prop} (h : Ends E m s Q)
    (himp : ∀ a s', Q a s' → R a s') : Ends E m s R := by
  unfold Ends at h ⊢
  split
  · next heq =>
    rw [heq] at h
    exact himp _ _ h
  · next heq =>
    rw [heq] at h
    exact h

theorem Ends.and {m : Evaluation α} {Q R : α → Sandbox → Prop} (hQ : Ends E m s Q) (hR : Ends E m s R) :
    Ends E m s fun a s' => Q a s' ∧ R a s' := by
  unfold Ends at hQ hR ⊢
  split
  · next heq =>
    rw [heq] at hQ hR
    exact ⟨hQ, hR⟩
  · next heq =>
    rw [heq] at hQ
    exact hQ

/-- A computation that ends as it should ends in some value and state. -/
theorem Ends.of_run {m : Evaluation α} {Q : α → Sandbox → Prop} {a : α} {s' : Sandbox}
    (h : Ends E m s Q) (hrun : StateT.run m s = .ok (a, s')) : Q a s' := by
  rw [Ends, hrun] at h
  exact h

theorem Ends.of_halt {m : Evaluation α} {Q : α → Sandbox → Prop} {reason : Halt}
    (h : Ends E m s Q) (hrun : StateT.run m s = .error reason) : E reason := by
  rw [Ends, hrun] at h
  exact h

/-! One rule a construct -/

theorem ends_bind {m : Evaluation α} {f : α → Evaluation β} {Q : β → Sandbox → Prop} :
    Ends E (m >>= f) s Q ↔ Ends E m s fun a s' => Ends E (f a) s' Q := by
  unfold Ends
  rw [StateT.run_bind]
  cases StateT.run m s with
  | error h => rfl
  | ok r => rfl

theorem Ends.bind {m : Evaluation α} {f : α → Evaluation β} {P : α → Sandbox → Prop}
    {Q : β → Sandbox → Prop} (h : Ends E m s P) (hf : ∀ a s', P a s' → Ends E (f a) s' Q) :
    Ends E (m >>= f) s Q :=
  ends_bind.mpr (h.mono hf)

theorem ends_get {Q : Sandbox → Sandbox → Prop} : Ends E get s Q ↔ Q s s := Iff.rfl

theorem ends_modify {g : Sandbox → Sandbox} {Q : Unit → Sandbox → Prop} :
    Ends E (modify g) s Q ↔ Q () (g s) := Iff.rfl

theorem ends_forM {l : List β} {f : β → Evaluation Unit} {P : Sandbox → Prop} (hs : P s)
    (h : ∀ b ∈ l, ∀ s, P s → Ends E (f b) s fun _ s' => P s') :
    Ends E (l.forM f) s fun _ s' => P s' := by
  induction l generalizing s with
  | nil => exact hs
  | cons b l ih =>
      obtain ⟨hb, hl⟩ := List.forall_mem_cons.mp h
      show Ends E (f b >>= fun _ => l.forM f) s _
      exact (hb s hs).bind fun _ s' hs' => ih hs' hl

/-! The heap -/

theorem ends_layerOf {v : Value} {Q : Layer Value → Sandbox → Prop} :
    Ends E (layerOf v) s Q ↔ Q (s.heap.layer v) s := Iff.rfl

theorem ends_allocate {c : Cell} {Q : Value → Sandbox → Prop} :
    Ends E (allocate c) s Q ↔
      Q (s.heap.allocate c).1 { s with heap := (s.heap.allocate c).2 } := Iff.rfl

theorem ends_write {address : Nat} {c : Cell} {Q : Unit → Sandbox → Prop} :
    Ends E (write address c) s Q ↔ Q () { s with heap := s.heap.set address c } := Iff.rfl

end PersistedOps.Script.Evaluation
