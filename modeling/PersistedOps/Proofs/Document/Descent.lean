import PersistedOps.Document.Decode
import PersistedOps.Proofs.Results

/-!
How far the reading of a document goes. Reading goes from a value to its parts; a reading that runs out
of depth has gone down as many parts, each within the one before.
-/

namespace PersistedOps.Decode

variable {α : Type} {view : View α}

/-- What the reading of a value reads next: the items of a list, all that a dictionary without a kind
holds, and of a node what stands under the keys that its kind knows. -/
inductive Part (view : View α) : α → α → Prop
  | item {a b : α} {items : List α} (layer : view.layer a = .list items) (mem : b ∈ items) :
      Part view a b
  | entry {a b : α} {entries : Entries α} {key : Scalar} (layer : view.layer a = .dict entries)
      (plain : entries.contains (.text "kind") = false) (mem : (key, b) ∈ entries) : Part view a b
  | field {a b : α} {entries : Entries α} {kind : Kind} {name : String}
      (layer : view.layer a = .dict entries) (node : kindOf view entries = .ok kind)
      (mem : (.text name, b) ∈ entries) (own : isReserved (.text name) = false)
      (known : (attributeOf? kind name).isSome = true ∨ isLocation name = true) : Part view a b

/-- Parts can be followed a number of times. -/
def Descends (view : View α) : Nat → α → Prop
  | 0, _ => True
  | n + 1, a => ∃ b, Part view a b ∧ Descends view n b

theorem kindOf_ne_endless {entries : Entries α} : kindOf view entries ≠ .error .endless := by
  unfold kindOf
  split
  · exact nofun
  · split
    · exact nofun
    · split <;> exact nofun

theorem attributeValue_eq_endless {decode : α → Except DecodeError Tree} {a : Attribute} {b : α}
    (h : attributeValue view decode a b = .error .endless) : decode b = .error .endless := by
  unfold attributeValue at h
  split at h
  · split at h <;> cases h
  · cases h
  · exact h

/-- Attributes are read without an end only if one of them is. -/
theorem exists_of_attributes_eq_endless {decode : α → Except DecodeError Tree} {kind : Kind}
    {entries : Entries α} {acc : Attributes}
    (h : attributes view decode kind acc entries = .error .endless) :
    ∃ name b, (.text name, b) ∈ entries ∧ isReserved (.text name) = false ∧
      ((attributeOf? kind name).isSome = true ∨ isLocation name = true) ∧
      decode b = .error .endless := by
  induction entries generalizing acc with
  | nil => cases h
  | cons entry rest ih =>
      obtain ⟨key, b⟩ := entry
      have later {acc : Attributes} (h : attributes view decode kind acc rest = .error .endless) :
          ∃ name c, (.text name, c) ∈ (key, b) :: rest ∧ isReserved (.text name) = false ∧
            ((attributeOf? kind name).isSome = true ∨ isLocation name = true) ∧
            decode c = .error .endless := by
        obtain ⟨name, c, hmem, hc⟩ := ih h
        exact ⟨name, c, List.mem_cons_of_mem _ hmem, hc⟩
      unfold attributes at h
      split at h
      · exact later h
      · next hown =>
        split at h
        · next name =>
          have hown' : isReserved (.text name) = false := by simpa using hown
          split at h
          · next a ha =>
            rcases bind_eq_error_iff.mp h with hvalue | ⟨t, -, h⟩
            · exact ⟨name, b, List.mem_cons_self, hown', .inl (by simp [ha]),
                attributeValue_eq_endless hvalue⟩
            · exact later h
          · by_cases hlocation : isLocation name = true
            · rw [if_pos hlocation] at h
              rcases bind_eq_error_iff.mp h with hvalue | ⟨t, -, h⟩
              · exact ⟨name, b, List.mem_cons_self, hown', .inr hlocation, hvalue⟩
              · exact later h
            · rw [if_neg hlocation] at h
              exact later h
        · exact later h
        · cases h

/-- A node that is read without an end has a part that is. -/
theorem exists_part_of_node_eq_endless {decode : α → Except DecodeError Tree} {a : α}
    {entries : Entries α} (hlayer : view.layer a = .dict entries)
    (h : node view decode entries = .error .endless) :
    ∃ b, Part view a b ∧ decode b = .error .endless := by
  rcases bind_eq_error_iff.mp h with hkind | ⟨kind, hkind, h⟩
  · exact (kindOf_ne_endless hkind).elim
  · rcases bind_eq_error_iff.mp h with h | ⟨acc, -, h⟩
    · obtain ⟨name, b, hmem, hown, hknown, hb⟩ := exists_of_attributes_eq_endless h
      exact ⟨b, .field hlayer hkind hmem hown hknown, hb⟩
    · cases h

theorem descends_of_value_eq_endless {depth : Nat} {a : α}
    (h : value view depth a = .error .endless) : Descends view depth a := by
  induction depth generalizing a with
  | zero => trivial
  | succ depth ih =>
      rw [value] at h
      split at h
      · cases h
      · next items hlayer =>
        rcases bind_eq_error_iff.mp h with h | ⟨ts, -, h⟩
        · obtain ⟨b, hb, h⟩ := exists_of_mapM_eq_error h
          exact ⟨b, .item hlayer hb, ih h⟩
        · cases h
      · next entries hlayer =>
        split at h
        · obtain ⟨b, hpart, h⟩ := exists_part_of_node_eq_endless hlayer h
          exact ⟨b, hpart, ih h⟩
        · next hplain =>
          rcases bind_eq_error_iff.mp h with h | ⟨es, -, h⟩
          · obtain ⟨e, he, h⟩ := exists_of_mapM_eq_error h
            rcases bind_eq_error_iff.mp h with h | ⟨t, -, h⟩
            · exact ⟨e.2, .entry hlayer (by simpa using hplain) he, ih h⟩
            · cases h
          · cases h

/-- The definitions that a document lists. -/
def Lists (view : View α) (a d : α) : Prop :=
  ∃ entries items, view.layer a = .dict entries ∧
    (entries.getText? "definitions").map view.layer = some (.list items) ∧ d ∈ items

theorem definitionEntries_eq_ok {definitions : Option α} {nodes : List (Entries α)}
    (h : definitionEntries view definitions = .ok nodes) {entries : Entries α} (hmem : entries ∈ nodes) :
    ∃ items d, definitions.map view.layer = some (.list items) ∧ d ∈ items ∧
      view.layer d = .dict entries := by
  unfold definitionEntries at h
  split at h
  · cases h
    cases hmem
  · next layer hlayer =>
    split at h
    · cases h
      cases hmem
    · split at h
      · next items _ =>
        obtain ⟨d, hd, hread⟩ := exists_of_mem_left (mapM_eq_ok_iff.mp h).flip hmem
        refine ⟨items, d, hlayer, hd, ?_⟩
        split at hread
        · next found hfound =>
          cases hread
          exact hfound
        · cases hread
      · cases h

theorem definitionEntries_ne_endless {definitions : Option α} :
    definitionEntries view definitions ≠ .error .endless := by
  intro h
  unfold definitionEntries at h
  split at h
  · cases h
  · split at h
    · cases h
    · split at h
      · obtain ⟨d, -, hd⟩ := exists_of_mapM_eq_error h
        split at hd <;> cases hd
      · cases h

/-- A document that is read without an end lists a definition that goes down further than the depth. -/
theorem exists_descends_of_document_eq_endless {depth : Nat} {a : α}
    (h : document view depth a = .error .endless) :
    ∃ d, Lists view a d ∧ Descends view (depth + 1) d := by
  unfold document at h
  split at h
  · next entries hlayer =>
    split at h
    · rcases bind_eq_error_iff.mp h with h | ⟨nodes, hnodes, h⟩
      · exact (definitionEntries_ne_endless h).elim
      · rcases bind_eq_error_iff.mp h with h | ⟨ts, -, h⟩
        · obtain ⟨found, hfound, h⟩ := exists_of_mapM_eq_error h
          obtain ⟨items, d, hitems, hd, hdefinition⟩ := definitionEntries_eq_ok hnodes hfound
          obtain ⟨b, hpart, h⟩ := exists_part_of_node_eq_endless hdefinition h
          exact ⟨d, ⟨entries, items, hlayer, hitems, hd⟩, b, hpart, descends_of_value_eq_endless h⟩
        · cases h
    · cases h
  · cases h

end PersistedOps.Decode
