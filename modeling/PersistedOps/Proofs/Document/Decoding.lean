import PersistedOps.Document.Decode
import PersistedOps.Proofs.Entries

/-!
Data that is held in two ways and is the same one layer after the other. What can be read off it held in
the one way can be read off it held in the other, and it is the same document; it does not matter how much
deeper the reading may go, nor how values would be shown in messages.
-/

namespace PersistedOps

variable {α : Type} {L : α → α → Prop}

/-- The same scalar, or the same shape with related values. -/
inductive Layer.Related (L : α → α → Prop) : Layer α → Layer α → Prop
  | scalar (s : Scalar) : Related L (.scalar s) (.scalar s)
  | list {xs ys : List α} (items : List.Forall₂ L xs ys) : Related L (.list xs) (.list ys)
  | dict {es fs : Entries α} (entries : Entries.Related L es fs) : Related L (.dict es) (.dict fs)

namespace Layer.Related

variable {l l' : Layer α}

theorem text?_eq (h : Related L l l') : l.text? = l'.text? := by
  cases h <;> rfl

theorem toInt?_eq (h : Related L l l') : l.toInt? = l'.toInt? := by
  cases h <;> rfl

theorem truthy_eq (h : Related L l l') : l.truthy = l'.truthy := by
  cases h with
  | scalar s => rfl
  | list hitems => cases hitems <;> rfl
  | dict hentries => cases hentries <;> rfl

theorem exists_list {xs : List α} (h : Related L (.list xs) l) :
    ∃ ys, l = .list ys ∧ List.Forall₂ L xs ys := by
  cases h with
  | list hitems => exact ⟨_, rfl, hitems⟩

theorem refl (l : Layer α) : Related Eq l l := by
  cases l with
  | scalar s => exact .scalar s
  | list items => exact .list (List.forall₂_refl items)
  | dict entries => exact .dict (List.forall₂_same.mpr fun _ _ => ⟨rfl, rfl⟩)

end Layer.Related

namespace Decode

/-- Related values are looked into alike. -/
def Alike (L : α → α → Prop) (view view' : View α) : Prop :=
  ∀ a b, L a b → Layer.Related L (view.layer a) (view'.layer b)

/-- All that the second reads off a value the first reads off a related one. -/
def Agrees (L : α → α → Prop) (first second : α → Except DecodeError Tree) : Prop :=
  ∀ a b tree, L a b → second b = .ok tree → first a = .ok tree

namespace Alike

variable {view view' : View α} {es fs : Entries α} {kind : Kind}

theorem kindOf (h : Alike L view view') (hes : Entries.Related L es fs)
    (hkind : Decode.kindOf view' fs = .ok kind) : Decode.kindOf view es = .ok kind := by
  unfold Decode.kindOf at hkind ⊢
  have hget := hes.rel_get? (.text "kind")
  rw [Entries.getText?] at hkind ⊢
  generalize es.get? (.text "kind") = o at hget
  generalize fs.get? (.text "kind") = o' at hget hkind
  cases hget with
  | none => cases hkind
  | some hvw =>
      dsimp only at hkind ⊢
      rw [(h _ _ hvw).text?_eq]
      split at hkind
      · exact hkind
      · split at hkind <;> cases hkind

variable {first second : α → Except DecodeError Tree}

theorem attributeValue (h : Alike L view view') (hread : Agrees L first second) {a : Attribute} {v w : α}
    (hvw : L v w) {tree : Tree}
    (htree : Decode.attributeValue view' second a w = .ok tree) :
    Decode.attributeValue view first a v = .ok tree := by
  unfold Decode.attributeValue at htree ⊢
  have hlayer := h _ _ hvw
  generalize view.layer v = l at hlayer
  generalize view'.layer w = l' at hlayer htree
  cases hlayer with
  | scalar x =>
      split at htree
      · exact htree
      · cases htree
      · exact hread v w tree hvw htree
  | list hitems => cases a <;> exact hread v w tree hvw htree
  | dict hentries => cases a <;> exact hread v w tree hvw htree

theorem attributes (h : Alike L view view') (hread : Agrees L first second)
    (hes : Entries.Related L es fs) {acc result : Attributes}
    (hresult : Decode.attributes view' second kind acc fs = .ok result) :
    Decode.attributes view first kind acc es = .ok result := by
  induction hes generalizing acc with
  | nil => exact hresult
  | @cons e f _ _ hef _ ih =>
      obtain ⟨key, v⟩ := e
      obtain ⟨key', w⟩ := f
      obtain ⟨rfl, hvw⟩ := hef
      unfold Decode.attributes at hresult ⊢
      by_cases hown : isReserved key = true
      · rw [if_pos hown] at hresult ⊢
        exact ih hresult
      · rw [if_neg hown] at hresult ⊢
        cases key with
        | text name =>
            cases ha : attributeOf? kind name with
            | some a =>
                simp only [ha] at hresult ⊢
                obtain ⟨tree, htree, hresult⟩ := bind_eq_ok_iff.mp hresult
                rw [h.attributeValue hread hvw htree]
                exact ih hresult
            | none =>
                simp only [ha] at hresult ⊢
                by_cases hlocation : isLocation name = true
                · rw [if_pos hlocation] at hresult ⊢
                  obtain ⟨tree, htree, hresult⟩ := bind_eq_ok_iff.mp hresult
                  rw [hread v w tree hvw htree]
                  exact ih hresult
                · rw [if_neg hlocation] at hresult ⊢
                  exact ih hresult
        | surrogates points => exact ih hresult
        | _ => cases hresult

theorem node (h : Alike L view view') (hread : Agrees L first second)
    (hes : Entries.Related L es fs) {tree : Tree}
    (htree : Decode.node view' second fs = .ok tree) :
    Decode.node view first es = .ok tree := by
  obtain ⟨kind, hkind, htree⟩ := bind_eq_ok_iff.mp htree
  obtain ⟨as, has, htree⟩ := bind_eq_ok_iff.mp htree
  rw [Decode.node, h.kindOf hes hkind]
  show (Decode.attributes view first kind [] es >>= fun as => _) = _
  rw [h.attributes hread hes has]
  exact htree

/-- What is read off the second within some depth is read off the first within all greater depths. -/
theorem value (h : Alike L view view') {depth deeper : Nat} (hle : depth ≤ deeper) :
    Agrees L (Decode.value view deeper) (Decode.value view' depth) := by
  induction depth generalizing deeper with
  | zero =>
      intro v w tree _ htree
      cases htree
  | succ depth ih =>
      obtain ⟨deeper, rfl⟩ := Nat.exists_eq_succ_of_ne_zero (Nat.ne_zero_of_lt hle)
      have hread := ih (Nat.le_of_succ_le_succ hle)
      intro v w tree hvw htree
      rw [Decode.value] at htree ⊢
      have hlayer : Layer.Related L (view.layer v) (view'.layer w) := h _ _ hvw
      generalize view.layer v = l at hlayer
      generalize view'.layer w = l' at hlayer htree
      cases hlayer with
      | scalar x => exact htree
      | list hitems =>
          obtain ⟨trees, htrees, htree⟩ := bind_eq_ok_iff.mp htree
          dsimp only
          rw [mapM_eq_ok_of_forall₂ hitems (fun a b tree hab => hread a b tree hab) htrees]
          exact htree
      | dict hentries =>
          dsimp only at htree ⊢
          rw [hentries.contains_eq]
          split at htree
          · next hkind =>
            rw [if_pos hkind]
            exact h.node hread hentries htree
          · next hkind =>
            rw [if_neg hkind]
            obtain ⟨trees, htrees, htree⟩ := bind_eq_ok_iff.mp htree
            have hpairs := mapM_eq_ok_of_forall₂ (ε := DecodeError)
              (f := fun e => do return (e.1, ← Decode.value view deeper e.2)) hentries
              (fun e f pair hef hpair => by
                obtain ⟨u, hu, hpair⟩ := bind_eq_ok_iff.mp hpair
                cases hpair
                rw [hread _ _ _ hef.2 hu, hef.1]
                rfl) htrees
            rw [hpairs]
            exact htree

/-- A document lists related definitions in both. -/
theorem definitionEntries (h : Alike L view view') {o o' : Option α} (ho : Option.Rel L o o')
    {fss : List (Entries α)} (hfss : Decode.definitionEntries view' o' = .ok fss) :
    ∃ ess, Decode.definitionEntries view o = .ok ess ∧
      List.Forall₂ (Entries.Related L) ess fss := by
  unfold Decode.definitionEntries at hfss ⊢
  cases ho with
  | none =>
      cases hfss
      exact ⟨[], rfl, .nil⟩
  | @some v w hvw =>
      dsimp only [Option.map_some] at hfss ⊢
      have hlayer : Layer.Related L (view.layer v) (view'.layer w) := h _ _ hvw
      rw [hlayer.truthy_eq]
      split at hfss
      · next hfalse =>
        cases hfss
        rw [if_pos hfalse]
        exact ⟨[], rfl, .nil⟩
      · next htrue =>
        rw [if_neg htrue]
        generalize view.layer v = l at hlayer
        generalize view'.layer w = l' at hlayer hfss
        cases hlayer with
        | scalar x => cases hfss
        | dict hentries => cases hfss
        | list hitems =>
            dsimp only at hfss ⊢
            clear htrue
            -- Each definition is a dictionary on both sides, or there is no reading on either.
            induction hitems generalizing fss with
            | nil =>
                cases hfss
                exact ⟨[], rfl, .nil⟩
            | @cons v w _ _ hvw _ ih =>
                rw [List.mapM_cons] at hfss ⊢
                obtain ⟨fs, hfs, hfss⟩ := bind_eq_ok_iff.mp hfss
                obtain ⟨rest, hrest, hfss⟩ := bind_eq_ok_iff.mp hfss
                obtain ⟨ess, hess, hrelated⟩ := ih hrest
                have hlayer : Layer.Related L (view.layer v) (view'.layer w) := h _ _ hvw
                generalize view.layer v = l at hlayer ⊢
                generalize view'.layer w = l' at hlayer hfs
                cases hlayer with
                | scalar x => cases hfs
                | list hitems => cases hfs
                | dict hentries =>
                    cases hfs
                    cases hfss
                    rw [hess]
                    exact ⟨_, rfl, .cons hentries hrelated⟩

/-- The document that is read off a value of the second is read off its match in the first. -/
theorem document (h : Alike L view view') {depth deeper : Nat} (hle : depth ≤ deeper) {v w : α}
    (hvw : L v w) {tree : Tree} (htree : Decode.document view' depth w = .ok tree) :
    Decode.document view deeper v = .ok tree := by
  unfold Decode.document at htree ⊢
  have hlayer : Layer.Related L (view.layer v) (view'.layer w) := h _ _ hvw
  generalize view.layer v = l at hlayer
  generalize view'.layer w = l' at hlayer htree
  cases hlayer with
  | scalar x => cases htree
  | list hitems => cases htree
  | @dict es fs hentries =>
      dsimp only at htree ⊢
      have hkind : ((es.getText? "kind").bind fun k => (view.layer k).text?) =
          (fs.getText? "kind").bind fun k => (view'.layer k).text? := by
        have hget := hentries.rel_get? (.text "kind")
        rw [Entries.getText?, Entries.getText?]
        generalize es.get? (.text "kind") = o at hget
        generalize fs.get? (.text "kind") = o' at hget
        cases hget with
        | none => rfl
        | some hvw => exact (h _ _ hvw).text?_eq
      rw [hkind]
      split at htree
      · next hdocument =>
        rw [if_pos hdocument]
        obtain ⟨fss, hfss, htree⟩ := bind_eq_ok_iff.mp htree
        obtain ⟨trees, htrees, htree⟩ := bind_eq_ok_iff.mp htree
        obtain ⟨ess, hess, hrelated⟩ := h.definitionEntries (hentries.rel_get? (.text "definitions")) hfss
        have hnodes : ess.mapM (Decode.node view (Decode.value view deeper)) = .ok trees :=
          mapM_eq_ok_of_forall₂ hrelated (fun _ _ _ hes => h.node (h.value hle) hes) htrees
        exact bind_eq_ok_iff.mpr ⟨ess, hess, bind_eq_ok_iff.mpr ⟨trees, hnodes, htree⟩⟩
      · cases htree

end Alike

/-- A document that is read within some depth is read within all greater depths. -/
theorem document_mono {view : View α} {depth deeper : Nat} (hle : depth ≤ deeper) {a : α} {tree : Tree}
    (h : document view depth a = .ok tree) : document view deeper a = .ok tree := by
  have halike : Alike Eq view view := by
    rintro a _ rfl
    exact .refl _
  exact halike.document hle rfl h

end Decode

end PersistedOps
