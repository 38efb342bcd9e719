import PersistedOps.Proofs.Document.Decoding

/-!
Entries that nodes pass over. A node reads its kind and the entries under keys of its own, and what else
its dictionary holds does not matter; so where two holders of the data differ in such entries alone, the
same document is read off both.
-/

namespace PersistedOps.Decode

variable {α : Type} {view view' : View α} {kind : Kind}

/-- Keys that a node of the kind passes over with what they hold: those that say something about the node
itself, and texts that stand neither for an attribute of the kind nor for the location. -/
def isForeign (kind : Kind) : Scalar → Bool
  | .text name => isReserved (.text name) || (attributeOf? kind name).isNone && !isLocation name
  | .surrogates _ => true
  | _ => false

/-- What one entry of a node's dictionary adds to the attributes read before it. -/
def readEntry (view : View α) (decode : α → Except DecodeError Tree) (kind : Kind) (acc : Attributes)
    (e : Scalar × α) : Except DecodeError Attributes :=
  if isReserved e.1 then .ok acc
  else match e.1 with
    | .text name => match attributeOf? kind name with
      | some b => return acc.set b (← attributeValue view decode b e.2)
      | none => if isLocation name then do
          let _ ← decode e.2
          return acc
        else return acc
    | .surrogates _ => return acc
    | other => .error (.keyNotText other.typeName)

variable {decode : α → Except DecodeError Tree} {acc : Attributes} {key : Scalar}

/-- A dictionary is read one entry after the other. -/
theorem attributes_eq_foldlM (entries : Entries α) :
    attributes view decode kind acc entries = entries.foldlM (readEntry view decode kind) acc := by
  induction entries generalizing acc with
  | nil => rfl
  | cons e rest ih =>
      obtain ⟨key, a⟩ := e
      rw [attributes.eq_def, List.foldlM_cons, readEntry]
      dsimp only
      by_cases hreserved : isReserved key = true
      · rw [if_pos hreserved, if_pos hreserved]
        exact ih
      · rw [if_neg hreserved, if_neg hreserved]
        cases key with
        | text name =>
            cases hattribute : attributeOf? kind name with
            | some b =>
                simp only [hattribute]
                cases attributeValue view decode b a with
                | error e => rfl
                | ok t => exact ih
            | none =>
                simp only [hattribute]
                by_cases hlocation : isLocation name = true
                · rw [if_pos hlocation, if_pos hlocation]
                  cases decode a with
                  | error e => rfl
                  | ok t => exact ih
                · rw [if_neg hlocation, if_neg hlocation]
                  exact ih
        | surrogates points => exact ih
        | _ => rfl

theorem readEntry_foreign (h : isForeign kind key = true) (a : α) :
    readEntry view decode kind acc (key, a) = .ok acc := by
  rw [readEntry]
  by_cases hreserved : isReserved key = true
  · exact if_pos hreserved
  · rw [if_neg hreserved]
    cases key with
    | text name =>
        have hname : attributeOf? kind name = none ∧ isLocation name = false := by
          simpa [isForeign, hreserved] using h
        simp only [hname.1, hname.2]
        rfl
    | surrogates points => rfl
    | _ => cases h

/-- Only the entries that are not passed over count. -/
theorem attributes_filter (entries : Entries α) :
    attributes view decode kind acc (entries.filter fun e => !isForeign kind e.1)
      = attributes view decode kind acc entries := by
  rw [attributes_eq_foldlM, attributes_eq_foldlM]
  induction entries generalizing acc with
  | nil => rfl
  | cons e rest ih =>
      obtain ⟨key, a⟩ := e
      rw [List.foldlM_cons]
      by_cases hforeign : isForeign kind key = true
      · rw [List.filter_cons_of_neg (by simp [hforeign]), ih, readEntry_foreign hforeign]
        rfl
      · rw [List.filter_cons_of_pos (by simpa using hforeign), List.foldlM_cons]
        exact congrArg (_ >>= ·) (funext fun _ => ih)

/-! ### Nodes that differ in such entries -/

/-- Two nodes' dictionaries of one kind, with the same entries but for those that are passed over. -/
structure SameNode (es fs : Entries α) : Prop where
  node : es.contains (.text "kind") = true
  kind : fs.getText? "kind" = es.getText? "kind"
  own : ∀ kind, fs.filter (fun e => !isForeign kind e.1) = es.filter fun e => !isForeign kind e.1

theorem SameNode.contains {es fs : Entries α} (h : SameNode es fs) :
    es.contains (.text "kind") = fs.contains (.text "kind") :=
  congrArg Option.isSome h.kind.symm

/-- What is put under a key that every node passes over leaves a node the same. -/
theorem sameNode_put {es : Entries α} {n : String} (hnode : es.contains (.text "kind") = true)
    (hforeign : ∀ kind, isForeign kind (.text n) = true) (hn : n ≠ "kind") (a : α) :
    SameNode es (es.put (.text n) a) where
  node := hnode
  kind := by
    rw [Entries.getText?, Entries.getText?, Entries.get?_put rfl, if_neg (by simpa using hn)]
  own kind := by
    clear hnode
    induction es with
    | nil => exact List.filter_cons_of_neg (by simp [hforeign])
    | cons e es ih =>
        obtain ⟨key, b⟩ := e
        rw [Entries.put]
        split
        · next hsame =>
          obtain rfl := Scalar.same_text_iff.mp hsame
          rw [List.filter_cons_of_neg (by simp [hforeign]), List.filter_cons_of_neg (by simp [hforeign])]
        · rw [List.filter_cons, List.filter_cons, ih]

/-- The second holder shows what the first shows, or the same node. -/
def Overlays (view view' : View α) : Prop :=
  ∀ a, view'.layer a = view.layer a ∨
    ∃ es fs, view.layer a = .dict es ∧ view'.layer a = .dict fs ∧ SameNode es fs

namespace Overlays

variable {es fs : Entries α} {first second : α → Except DecodeError Tree} {acc : Attributes}

theorem text?_eq (h : Overlays view view') (a : α) : (view'.layer a).text? = (view.layer a).text? := by
  obtain heq | ⟨es, fs, hes, hfs, -⟩ := h a
  · rw [heq]
  · rw [hes, hfs]
    rfl

theorem kindOf (h : Overlays view view') (hkind : fs.getText? "kind" = es.getText? "kind")
    (heq : Decode.kindOf view es = .ok kind) : Decode.kindOf view' fs = .ok kind := by
  unfold Decode.kindOf at heq ⊢
  rw [hkind]
  cases hvalue : es.getText? "kind" with
  | none =>
      rw [hvalue] at heq
      cases heq
  | some a =>
      rw [hvalue] at heq
      dsimp only at heq ⊢
      rw [h.text?_eq]
      cases htext : (view.layer a).text?.bind Kind.ofLabel? with
      | some kind' =>
          rw [htext] at heq
          exact heq
      | none =>
          rw [htext] at heq
          dsimp only at heq
          split at heq <;> cases heq

theorem attributeValue (h : Overlays view view') (hread : ∀ a t, first a = .ok t → second a = .ok t)
    {b : Attribute} {a : α} {t : Tree} (heq : Decode.attributeValue view first b a = .ok t) :
    Decode.attributeValue view' second b a = .ok t := by
  unfold Decode.attributeValue at heq ⊢
  obtain hlayer | ⟨es, fs, hes, hfs, -⟩ := h a
  · rw [hlayer]
    split at heq
    · exact heq
    · cases heq
    · exact hread a t heq
  · rw [hes] at heq
    rw [hfs]
    cases b <;> exact hread a t heq

theorem readEntry (h : Overlays view view') (hread : ∀ a t, first a = .ok t → second a = .ok t)
    {e : Scalar × α} {result : Attributes} (heq : Decode.readEntry view first kind acc e = .ok result) :
    Decode.readEntry view' second kind acc e = .ok result := by
  obtain ⟨key, a⟩ := e
  unfold Decode.readEntry at heq ⊢
  by_cases hreserved : isReserved key = true
  · rw [if_pos hreserved] at heq ⊢
    exact heq
  · rw [if_neg hreserved] at heq ⊢
    cases key with
    | text name =>
        cases hattribute : attributeOf? kind name with
        | some b =>
            simp only [hattribute] at heq ⊢
            obtain ⟨t, ht, heq⟩ := bind_eq_ok_iff.mp heq
            exact bind_eq_ok_iff.mpr ⟨t, h.attributeValue hread ht, heq⟩
        | none =>
            simp only [hattribute] at heq ⊢
            by_cases hlocation : isLocation name = true
            · rw [if_pos hlocation] at heq ⊢
              obtain ⟨t, ht, heq⟩ := bind_eq_ok_iff.mp heq
              exact bind_eq_ok_iff.mpr ⟨t, hread a t ht, heq⟩
            · rw [if_neg hlocation] at heq ⊢
              exact heq
    | surrogates points => exact heq
    | _ => cases heq

theorem attributes (h : Overlays view view') (hread : ∀ a t, first a = .ok t → second a = .ok t)
    {result : Attributes} (heq : Decode.attributes view first kind acc es = .ok result) :
    Decode.attributes view' second kind acc es = .ok result := by
  rw [attributes_eq_foldlM] at heq ⊢
  induction es generalizing acc with
  | nil => exact heq
  | cons e rest ih =>
      rw [List.foldlM_cons] at heq ⊢
      obtain ⟨acc', hacc, heq⟩ := bind_eq_ok_iff.mp heq
      exact bind_eq_ok_iff.mpr ⟨acc', h.readEntry hread hacc, ih heq⟩

theorem node (h : Overlays view view') (hread : ∀ a t, first a = .ok t → second a = .ok t)
    (hkind : fs.getText? "kind" = es.getText? "kind")
    (hown : ∀ kind, fs.filter (fun e => !isForeign kind e.1) = es.filter fun e => !isForeign kind e.1)
    {t : Tree} (heq : Decode.node view first es = .ok t) : Decode.node view' second fs = .ok t := by
  obtain ⟨kind, hkind', heq⟩ := bind_eq_ok_iff.mp heq
  obtain ⟨attributes, hattributes, heq⟩ := bind_eq_ok_iff.mp heq
  have hattributes' : Decode.attributes view' second kind [] fs = .ok attributes := by
    rw [← attributes_filter, hown, attributes_filter]
    exact h.attributes hread hattributes
  rw [Decode.node, h.kindOf hkind hkind']
  show (Decode.attributes view' second kind [] fs >>= fun attributes => _) = _
  rw [hattributes']
  exact heq

theorem value (h : Overlays view view') (depth : Nat) :
    ∀ a t, Decode.value view depth a = .ok t → Decode.value view' depth a = .ok t := by
  induction depth with
  | zero =>
      intro a t heq
      cases heq
  | succ depth ih =>
      intro a t heq
      have hitems {items : List α} {ts : List Tree}
          (hts : items.mapM (Decode.value view depth) = .ok ts) :
          items.mapM (Decode.value view' depth) = .ok ts :=
        mapM_eq_ok_of_forall₂ (List.forall₂_same.mpr fun a _ => rfl)
          (fun a b t hab ht => ih a t (hab ▸ ht)) hts
      rw [Decode.value] at heq ⊢
      -- The layers are the same, or they are a node's, and differ in entries that the node passes over.
      obtain hlayer | ⟨es, fs, hes, hfs, hsame⟩ := h a
      · rw [hlayer]
        cases hshape : view.layer a with
        | scalar s =>
            rw [hshape] at heq
            exact heq
        | list items =>
            rw [hshape] at heq
            obtain ⟨ts, hts, heq⟩ := bind_eq_ok_iff.mp heq
            dsimp only
            rw [hitems hts]
            exact heq
        | dict entries =>
            rw [hshape] at heq
            dsimp only at heq ⊢
            split at heq
            · next hkind =>
              rw [if_pos hkind]
              exact h.node ih rfl (fun _ => rfl) heq
            · next hkind =>
              rw [if_neg hkind]
              obtain ⟨ts, hts, heq⟩ := bind_eq_ok_iff.mp heq
              refine bind_eq_ok_iff.mpr ⟨ts, ?_, heq⟩
              refine mapM_eq_ok_of_forall₂ (List.forall₂_same.mpr fun e _ => rfl)
                (fun e f pair hef hpair => ?_) hts
              obtain ⟨u, hu, hpair⟩ := bind_eq_ok_iff.mp hpair
              obtain rfl : e = f := hef
              exact bind_eq_ok_iff.mpr ⟨u, ih _ _ hu, hpair⟩
      · rw [hes] at heq
        rw [hfs]
        dsimp only at heq ⊢
        rw [if_pos hsame.node] at heq
        rw [if_pos (hsame.contains ▸ hsame.node)]
        exact h.node ih hsame.kind hsame.own heq

/-- The definitions are listed alike, each as the same node. -/
theorem definitionEntries (h : Overlays view view') {definitions : Option α} {ess : List (Entries α)}
    (heq : Decode.definitionEntries view definitions = .ok ess) :
    ∃ fss, Decode.definitionEntries view' definitions = .ok fss ∧
      List.Forall₂ (fun es fs => es = fs ∨ SameNode es fs) ess fss := by
  unfold Decode.definitionEntries at heq ⊢
  cases definitions with
  | none =>
      cases heq
      exact ⟨[], rfl, .nil⟩
  | some a =>
      dsimp only [Option.map_some] at heq ⊢
      obtain hlayer | ⟨es, fs, hes, hfs, hsame⟩ := h a
      · rw [hlayer]
        split at heq
        · next hfalse =>
          cases heq
          rw [if_pos hfalse]
          exact ⟨[], rfl, .nil⟩
        · next htrue =>
          rw [if_neg htrue]
          cases hshape : view.layer a with
          | scalar s =>
              rw [hshape] at heq
              cases heq
          | dict entries =>
              rw [hshape] at heq
              cases heq
          | list items =>
              rw [hshape] at heq
              dsimp only at heq ⊢
              clear hlayer hshape htrue
              induction items generalizing ess with
              | nil =>
                  cases heq
                  exact ⟨[], rfl, .nil⟩
              | cons item rest ih =>
                  rw [List.mapM_cons] at heq ⊢
                  obtain ⟨es, hes, heq⟩ := bind_eq_ok_iff.mp heq
                  obtain ⟨ess', hess, heq⟩ := bind_eq_ok_iff.mp heq
                  obtain ⟨fss, hfss, hrelated⟩ := ih hess
                  cases heq
                  rw [hfss]
                  obtain hlayer | ⟨es', fs, hes', hfs, hsame⟩ := h item
                  · rw [hlayer, hes]
                    exact ⟨_, rfl, .cons (.inl rfl) hrelated⟩
                  · rw [hes'] at hes
                    cases hes
                    rw [hfs]
                    exact ⟨_, rfl, .cons (.inr hsame) hrelated⟩
      · -- A node is no list, and it does not count as false.
        rw [hes] at heq
        cases es with
        | nil => cases hsame.node
        | cons e es => cases heq

/-- A document is read as before where its own dictionary has not changed. -/
theorem document (h : Overlays view view') {depth : Nat} {a : α} {t : Tree}
    (hroot : view'.layer a = view.layer a) (heq : Decode.document view depth a = .ok t) :
    Decode.document view' depth a = .ok t := by
  unfold Decode.document at heq ⊢
  rw [hroot]
  cases hshape : view.layer a with
  | scalar s =>
      rw [hshape] at heq
      cases heq
  | list items =>
      rw [hshape] at heq
      cases heq
  | dict entries =>
      rw [hshape] at heq
      dsimp only at heq ⊢
      have hkind : ((entries.getText? "kind").bind fun k => (view'.layer k).text?)
          = (entries.getText? "kind").bind fun k => (view.layer k).text? :=
        congrArg _ (funext h.text?_eq)
      rw [hkind]
      split at heq
      · next hdocument =>
        rw [if_pos hdocument]
        obtain ⟨ess, hess, heq⟩ := bind_eq_ok_iff.mp heq
        obtain ⟨ts, hts, heq⟩ := bind_eq_ok_iff.mp heq
        obtain ⟨fss, hfss, hrelated⟩ := h.definitionEntries hess
        refine bind_eq_ok_iff.mpr ⟨fss, hfss, bind_eq_ok_iff.mpr ⟨ts, ?_, heq⟩⟩
        refine mapM_eq_ok_of_forall₂ hrelated.flip (fun fs es t hsame ht => ?_) hts
        obtain rfl | hsame := hsame
        · exact h.node (h.value depth) rfl (fun _ => rfl) ht
        · exact h.node (h.value depth) hsame.kind hsame.own ht
      · cases heq

end Overlays

end PersistedOps.Decode
