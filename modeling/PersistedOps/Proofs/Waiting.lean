import PersistedOps.Proofs.Waiting.Search

/-!
Waits without cycles. A relation that only grows behind the search for a chain never gets a cycle, so
among finitely many paths one awaits no other.
-/

namespace PersistedOps.Waiting

open Relation

/-- No path awaits itself through others. -/
def Acyclic (w : Waiting) : Prop := ∀ a, ¬TransGen w.Awaits a a

theorem mem_add {w : Waiting} {issuer path : String} {e : String × String} :
    e ∈ w.add issuer path ↔ e ∈ w ∨ e = (issuer, path) := by
  unfold add
  split
  · rename_i h
    constructor
    · exact Or.inl
    · rintro (he | rfl)
      · exact he
      · exact h
  · simp

theorem mem_discard {w : Waiting} {issuer path : String} {e : String × String} :
    e ∈ w.discard issuer path ↔ e ∈ w ∧ e ≠ (issuer, path) := by
  simp [discard]

theorem Acyclic.nil : Acyclic [] := by
  intro a h
  obtain ⟨b, hab, -⟩ := (TransGen.head'_iff).mp h
  cases hab

theorem Acyclic.mono {w w' : Waiting} (h : ∀ e ∈ w', e ∈ w) (hw : w.Acyclic) : w'.Acyclic :=
  fun a ha => hw a (TransGen.mono (fun _ _ hbc => h _ hbc) _ _ ha)

/-- A walk in a relation with one more pair uses it or does not. -/
theorem reaches_add {w : Waiting} {issuer path a b : String}
    (h : ReflTransGen (w.add issuer path).Awaits a b) :
    ReflTransGen w.Awaits a b ∨
      ReflTransGen w.Awaits a issuer ∧ ReflTransGen w.Awaits path b := by
  induction h with
  | refl => exact Or.inl .refl
  | tail _ hbc ih =>
      rcases mem_add.mp hbc with hbc | hbc
      · rcases ih with h | ⟨h, h'⟩
        · exact Or.inl (h.tail hbc)
        · exact Or.inr ⟨h, h'.tail hbc⟩
      · cases hbc
        rcases ih with h | ⟨h, -⟩
        · exact Or.inr ⟨h, .refl⟩
        · exact Or.inr ⟨h, .refl⟩

/-- A wait that the search let pass closes no cycle. -/
theorem Acyclic.add {w : Waiting} {issuer path : String} (hw : w.Acyclic)
    (h : w.cycle? issuer path = none) : (w.add issuer path).Acyclic := by
  have hnot := not_reaches_of_cycle?_eq_none h
  intro a ha
  obtain ⟨b, hab, hba⟩ := TransGen.head'_iff.mp ha
  rcases mem_add.mp hab with hab | hab
  · rcases reaches_add hba with hba | ⟨hbi, hpa⟩
    · exact hw a (.head' hab hba)
    · exact hnot (hpa.trans (.head hab hbi))
  · cases hab
    rcases reaches_add hba with hba | ⟨hpi, -⟩
    · exact hnot hba
    · exact hnot hpi

/-- A strict order has a last element on every list that is not empty. -/
theorem exists_last {R : String → String → Prop} (hirrefl : ∀ a, ¬R a a)
    (htrans : ∀ a b c, R a b → R b c → R a c) {paths : List String} (hne : paths ≠ []) :
    ∃ a ∈ paths, ∀ b ∈ paths, ¬R a b := by
  induction paths with
  | nil => exact absurd rfl hne
  | cons a paths ih =>
      rcases paths with _ | ⟨b, paths⟩
      · exact ⟨a, List.mem_singleton.mpr rfl, by simpa using hirrefl a⟩
      · obtain ⟨m, hm, hlast⟩ := ih (List.cons_ne_nil _ _)
        by_cases hma : R m a
        · refine ⟨a, List.mem_cons_self, fun c hc hac => ?_⟩
          rcases List.mem_cons.mp hc with rfl | hc
          · exact hirrefl _ hac
          · exact hlast c hc (htrans _ _ _ hma hac)
        · refine ⟨m, List.mem_cons_of_mem _ hm, fun c hc hmc => ?_⟩
          rcases List.mem_cons.mp hc with rfl | hc
          · exact hma hmc
          · exact hlast c hc hmc

/-- Among finitely many paths without a cycle of waits, one awaits none of the others. -/
theorem Acyclic.exists_sink {w : Waiting} (hw : w.Acyclic) {paths : List String}
    (hne : paths ≠ []) : ∃ a ∈ paths, ∀ b ∈ paths, ¬w.Awaits a b := by
  obtain ⟨a, ha, hlast⟩ := exists_last hw (fun _ _ _ hab hbc => hab.trans hbc) hne
  exact ⟨a, ha, fun b hb hab => hlast b hb (.single hab)⟩

/-- Among finitely many paths without a cycle of waits, one is awaited by none of the others. -/
theorem Acyclic.exists_source {w : Waiting} (hw : w.Acyclic) {paths : List String}
    (hne : paths ≠ []) : ∃ a ∈ paths, ∀ b ∈ paths, ¬w.Awaits b a := by
  obtain ⟨a, ha, hlast⟩ := exists_last (R := fun a b => TransGen w.Awaits b a) hw
    (fun _ _ _ hba hcb => hcb.trans hba) hne
  exact ⟨a, ha, fun b hb hba => hlast b hb (.single hba)⟩

end PersistedOps.Waiting
