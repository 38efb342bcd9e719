import Mathlib.Data.List.Induction
import Mathlib.Data.List.Nodup
import PersistedOps.Proofs.Results
import PersistedOps.Scalar

/-!
Dictionaries whose keys are texts. Texts are the same key when they are equal, so such a dictionary is
told by its pairs.
-/

namespace PersistedOps

/-- A text is the same key as itself alone. -/
theorem Scalar.same_iff {s k : Scalar} (hk : k.isText) : s.same k ↔ s = k := by
  cases k with
  | text n => cases s <;> simp [Scalar.same, Scalar.toInt?]
  | surrogates points => cases s <;> simp [Scalar.same, Scalar.toInt?]
  | _ => cases hk

theorem Scalar.same_iff_right {s k : Scalar} (hk : k.isText) : k.same s ↔ s = k := by
  cases k with
  | text n => cases s <;> simp [Scalar.same, Scalar.toInt?, eq_comm (a := n)]
  | surrogates points => cases s <;> simp [Scalar.same, Scalar.toInt?, eq_comm (a := points)]
  | _ => cases hk

theorem Scalar.same_text_iff {s : Scalar} {n : String} : s.same (.text n) ↔ s = .text n :=
  Scalar.same_iff rfl

namespace Entries

variable {α β ε : Type} {entries : Entries α} {k : Scalar} {n : String} {v : α}

theorem get?_cons (k key : Scalar) (v : α) (rest : Entries α) :
    get? ((k, v) :: rest) key = if k.same key then some v else get? rest key := by
  unfold get?
  rw [List.find?_cons]
  cases k.same key <;> rfl

theorem mem_of_get? (hk : k.isText) (h : entries.get? k = some v) : (k, v) ∈ entries := by
  obtain ⟨e, he, rfl⟩ := Option.map_eq_some_iff.mp h
  have hsame := List.find?_some he
  have hkey : e.1 = k := (Scalar.same_iff hk).mp hsame
  rw [← hkey]
  exact List.mem_of_find?_eq_some he

theorem mem_of_get?_text (h : entries.get? (.text n) = some v) : (.text n, v) ∈ entries :=
  mem_of_get? rfl h

/-- With no key twice, a dictionary holds a pair when it answers the key with the value. -/
theorem get?_iff (hk : k.isText) (hnodup : (entries.map (·.1)).Nodup) :
    entries.get? k = some v ↔ (k, v) ∈ entries := by
  refine ⟨mem_of_get? hk, fun h => ?_⟩
  induction entries with
  | nil => cases h
  | cons e entries ih =>
      obtain ⟨j, w⟩ := e
      obtain ⟨hfresh, hrest⟩ := List.nodup_cons.mp hnodup
      rw [get?_cons]
      obtain heq | hmem := List.mem_cons.mp h
      · obtain ⟨rfl, rfl⟩ := Prod.mk.inj heq
        rw [if_pos ((Scalar.same_iff hk).mpr rfl)]
      · have hne : j ≠ k := by
          rintro rfl
          exact hfresh (List.mem_map.mpr ⟨_, hmem, rfl⟩)
        rw [if_neg (mt (Scalar.same_iff hk).mp hne), ih hrest hmem]

theorem get?_text_iff (hnodup : (entries.map (·.1)).Nodup) :
    entries.get? (.text n) = some v ↔ (.text n, v) ∈ entries :=
  get?_iff rfl hnodup

/-- A new key is put last. -/
theorem put_of_fresh (hk : k.isText) (h : k ∉ entries.map (·.1)) :
    entries.put k v = entries ++ [(k, v)] := by
  induction entries with
  | nil => rfl
  | cons e entries ih =>
      obtain ⟨j, w⟩ := e
      obtain ⟨hne, hrest⟩ : j ≠ k ∧ k ∉ entries.map (·.1) := by
        simpa [eq_comm] using h
      rw [put, if_neg (mt (Scalar.same_iff hk).mp hne), ih hrest, List.cons_append]

theorem mem_put (hk : k.isText) {e : Scalar × α} (h : e ∈ entries.put k v) :
    e = (k, v) ∨ e ∈ entries := by
  induction entries with
  | nil => exact .inl (List.mem_singleton.mp h)
  | cons f entries ih =>
      obtain ⟨j, w⟩ := f
      rw [put] at h
      split at h
      · rename_i hsame
        obtain rfl := (Scalar.same_iff hk).mp hsame
        obtain rfl | hmem := List.mem_cons.mp h
        · exact .inl rfl
        · exact .inr (List.mem_cons_of_mem _ hmem)
      · obtain rfl | hmem := List.mem_cons.mp h
        · exact .inr List.mem_cons_self
        · exact (ih hmem).imp_right (List.mem_cons_of_mem _)

theorem nodup_put (hk : k.isText) (h : (entries.map (·.1)).Nodup) :
    ((entries.put k v).map (·.1)).Nodup := by
  induction entries with
  | nil => exact List.nodup_singleton _
  | cons e entries ih =>
      obtain ⟨j, w⟩ := e
      obtain ⟨hfresh, hrest⟩ := List.nodup_cons.mp h
      rw [put]
      split
      · exact List.nodup_cons.mpr ⟨hfresh, hrest⟩
      · rename_i hsame
        refine List.nodup_cons.mpr ⟨fun hmem => ?_, ih hrest⟩
        obtain ⟨f, hf, hkey⟩ := List.mem_map.mp hmem
        obtain rfl | hold := mem_put hk hf
        · exact hsame ((Scalar.same_iff hk).mpr hkey.symm)
        · exact hfresh (List.mem_map.mpr ⟨f, hold, hkey⟩)

/-- A text is answered with what was put under it. -/
theorem get?_put {key : Scalar} (hkey : key.isText) (k : Scalar) (v : α) :
    (entries.put k v).get? key = if k = key then some v else entries.get? key := by
  have hanswer : ∀ (j : Scalar) (w : α) (rest : Entries α),
      get? ((j, w) :: rest) key = if j = key then some w else get? rest key := by
    intro j w rest
    rw [get?_cons]
    by_cases hj : j = key
    · rw [if_pos hj, if_pos ((Scalar.same_iff hkey).mpr hj)]
    · rw [if_neg hj, if_neg (mt (Scalar.same_iff hkey).mp hj)]
  induction entries with
  | nil => exact hanswer k v []
  | cons e entries ih =>
      obtain ⟨j, w⟩ := e
      rw [put]
      split
      · -- The entry keeps its key, which is a text when the new key is that text.
        rename_i hsame
        rw [hanswer, hanswer]
        have hkeys : j = key ↔ k = key := by
          constructor
          · rintro rfl
            exact (Scalar.same_iff_right hkey).mp hsame
          · rintro rfl
            exact (Scalar.same_iff hkey).mp hsame
        by_cases hk : k = key
        · rw [if_pos hk, if_pos (hkeys.mpr hk)]
        · rw [if_neg hk, if_neg (mt hkeys.mp hk), if_neg (mt hkeys.mp hk)]
      · rename_i hsame
        rw [hanswer, hanswer, ih]
        by_cases hk : k = key
        · have hj : j ≠ key := by
            rintro rfl
            exact hsame (hk ▸ (Scalar.same_iff hkey).mpr rfl)
          rw [if_neg hj, if_pos hk, if_pos hk]
        · rw [if_neg hk, if_neg hk]

/-- Of two values put under a key that is there the second counts. -/
theorem put_put (h : (entries.get? k).isSome) (v w : α) : (entries.put k v).put k w = entries.put k w := by
  induction entries with
  | nil => cases h
  | cons e entries ih =>
      obtain ⟨j, u⟩ := e
      rw [get?_cons] at h
      rw [put, put]
      split
      · next hsame => rw [put, if_pos hsame]
      · next hsame =>
        rw [if_neg hsame] at h
        rw [put, if_neg hsame, ih h]

/-- Of the pairs put one after the other the last one of a text answers it. -/
theorem get?_update (hk : k.isText) (others : Entries α) : (entries.update others).get? k
    = ((others.filter (·.1 = k)).getLast?.map (·.2)).or (entries.get? k) := by
  induction others using List.reverseRecOn with
  | nil => rfl
  | append_singleton others e ih =>
      rw [update, List.foldl_append, List.foldl_cons, List.foldl_nil, get?_put hk, List.filter_append]
      by_cases he : e.1 = k
      · rw [if_pos he, List.filter_cons_of_pos (by simpa using he)]
        simp
      · rw [if_neg he, List.filter_cons_of_neg (by simpa using he), List.filter_nil, List.append_nil]
        exact ih

/-- With no key twice, one pair of a key is there. -/
theorem filter_key_eq (hnodup : (entries.map (·.1)).Nodup) (h : (k, v) ∈ entries) :
    entries.filter (·.1 = k) = [(k, v)] := by
  induction entries with
  | nil => cases h
  | cons e entries ih =>
      obtain ⟨hfresh, hrest⟩ := List.nodup_cons.mp hnodup
      obtain rfl | hmem := List.mem_cons.mp h
      · have hnone : entries.filter (·.1 = k) = [] := by
          refine List.filter_eq_nil_iff.mpr fun f hf hkey => ?_
          exact hfresh (List.mem_map.mpr ⟨f, hf, of_decide_eq_true hkey⟩)
        rw [List.filter_cons_of_pos (by simp), hnone]
      · have hne : e.1 ≠ k := by
          rintro rfl
          exact hfresh (List.mem_map.mpr ⟨_, hmem, rfl⟩)
        rw [List.filter_cons_of_neg (by simpa using hne), ih hrest hmem]

theorem value_of_mem_put {e : Scalar × α} (h : e ∈ entries.put k v) : e.2 = v ∨ e ∈ entries := by
  induction entries with
  | nil =>
      obtain rfl := List.mem_singleton.mp h
      exact .inl rfl
  | cons f entries ih =>
      obtain ⟨j, w⟩ := f
      rw [put] at h
      split at h
      · obtain rfl | hmem := List.mem_cons.mp h
        · exact .inl rfl
        · exact .inr (List.mem_cons_of_mem _ hmem)
      · obtain rfl | hmem := List.mem_cons.mp h
        · exact .inr List.mem_cons_self
        · exact (ih hmem).imp_right (List.mem_cons_of_mem _)

/-- Where all keys are texts, only texts were put. -/
theorem exists_text_of_put (h : ∀ e ∈ entries.put k v, ∃ n, e.1 = .text n) :
    (∃ n, k = .text n) ∧ ∀ e ∈ entries, ∃ n, e.1 = .text n := by
  induction entries with
  | nil => exact ⟨h _ (List.mem_singleton_self _), by simp⟩
  | cons f entries ih =>
      obtain ⟨j, w⟩ := f
      rw [put] at h
      split at h
      · rename_i hsame
        obtain ⟨⟨n, hn⟩, hrest⟩ := List.forall_mem_cons.mp h
        obtain rfl : j = .text n := hn
        exact ⟨⟨n, (Scalar.same_iff_right rfl).mp hsame⟩, List.forall_mem_cons.mpr ⟨⟨n, rfl⟩, hrest⟩⟩
      · obtain ⟨hj, hrest⟩ := List.forall_mem_cons.mp h
        obtain ⟨hk, hentries⟩ := ih hrest
        exact ⟨hk, List.forall_mem_cons.mpr ⟨hj, hentries⟩⟩

theorem exists_text_of_update {others : Entries α}
    (h : ∀ e ∈ entries.update others, ∃ n, e.1 = .text n) :
    (∀ e ∈ others, ∃ n, e.1 = .text n) ∧ ∀ e ∈ entries, ∃ n, e.1 = .text n := by
  induction others generalizing entries with
  | nil => exact ⟨by simp, h⟩
  | cons e others ih =>
      obtain ⟨hothers, hput⟩ := ih h
      obtain ⟨he, hentries⟩ := exists_text_of_put hput
      exact ⟨List.forall_mem_cons.mpr ⟨he, hothers⟩, hentries⟩

/-- Pairs of texts, put into a dictionary with no key twice. -/
theorem update_texts {others : Entries α} (hothers : ∀ e ∈ others, ∃ n, e.1 = .text n)
    (hnodup : (entries.map (·.1)).Nodup) :
    ((entries.update others).map (·.1)).Nodup ∧
      ∀ e ∈ entries.update others, e ∈ others ∨ e ∈ entries := by
  induction others generalizing entries with
  | nil => exact ⟨hnodup, fun e he => .inr he⟩
  | cons f others ih =>
      obtain ⟨⟨n, hn⟩, hrest⟩ := List.forall_mem_cons.mp hothers
      obtain ⟨key, w⟩ := f
      obtain rfl : key = .text n := hn
      obtain ⟨hnext, hmem⟩ := ih hrest (nodup_put (k := .text n) rfl hnodup)
      refine ⟨hnext, fun e he => ?_⟩
      obtain hlater | hput := hmem e he
      · exact .inl (List.mem_cons_of_mem _ hlater)
      · obtain rfl | hold := mem_put rfl hput
        · exact .inl List.mem_cons_self
        · exact .inr hold

/-- Steps that put one pair each succeed when all pairs can be told, and put them. -/
theorem foldlM_put_eq_ok_iff {file : β → Except ε (Scalar × α)} {items : List β}
    {entries' : Entries α} :
    items.foldlM (fun acc x => do let e ← file x; return Entries.put acc e.1 e.2) entries = .ok entries' ↔
      ∃ es, items.mapM file = .ok es ∧ entries' = entries.update es := by
  induction items generalizing entries with
  | nil =>
      constructor
      · rintro ⟨⟩
        exact ⟨[], rfl, rfl⟩
      · rintro ⟨es, hes, rfl⟩
        cases hes
        rfl
  | cons x items ih =>
      rw [List.foldlM_cons]
      constructor
      · intro h
        obtain ⟨next, hnext, h⟩ := bind_eq_ok_iff.mp h
        obtain ⟨e, he, hput⟩ := bind_eq_ok_iff.mp hnext
        cases hput
        obtain ⟨es, hes, rfl⟩ := ih.mp h
        refine ⟨e :: es, ?_, rfl⟩
        rw [List.mapM_cons, he, hes]
        rfl
      · rintro ⟨es, hes, rfl⟩
        rw [List.mapM_cons] at hes
        obtain ⟨e, he, hes⟩ := bind_eq_ok_iff.mp hes
        obtain ⟨rest, hrest, heq⟩ := bind_eq_ok_iff.mp hes
        cases heq
        rw [he]
        exact ih.mpr ⟨rest, hrest, rfl⟩

/-! ### Changed values -/

/-- The dictionary with its values changed. -/
def mapValues (f : α → α) (entries : Entries α) : Entries α := entries.map fun e => (e.1, f e.2)

theorem mapValues_put (f : α → α) (entries : Entries α) (k : Scalar) (v : α) :
    mapValues f (entries.put k v) = (mapValues f entries).put k (f v) := by
  induction entries with
  | nil => rfl
  | cons e entries ih =>
      obtain ⟨key, w⟩ := e
      rw [Entries.put, mapValues, mapValues, List.map_cons, Entries.put]
      split
      · rfl
      · rw [List.map_cons]
        exact congrArg (_ :: ·) ih

theorem get?_mapValues (f : α → α) (entries : Entries α) (k : Scalar) :
    (mapValues f entries).get? k = (entries.get? k).map f := by
  induction entries with
  | nil => rfl
  | cons e entries ih =>
      obtain ⟨key, w⟩ := e
      rw [get?_cons, mapValues, List.map_cons, get?_cons]
      split
      · rfl
      · exact ih

/-! ### Related dictionaries -/

section

variable {R : α → α → Prop} {entries' : Entries α} {v' : α}

/-- The same keys in the same order, with related values. -/
def Related (R : α → α → Prop) (entries entries' : Entries α) : Prop :=
  List.Forall₂ (fun e e' => e.1 = e'.1 ∧ R e.2 e'.2) entries entries'

theorem Related.put (h : Related R entries entries') (hv : R v v') :
    Related R (entries.put k v) (entries'.put k v') := by
  induction h with
  | nil => exact .cons ⟨rfl, hv⟩ .nil
  | @cons e e' _ _ he hrest ih =>
      obtain ⟨key, w⟩ := e
      obtain ⟨key', w'⟩ := e'
      obtain ⟨rfl, hw⟩ := he
      rw [Entries.put, Entries.put]
      split
      · exact .cons ⟨rfl, hv⟩ hrest
      · exact .cons ⟨rfl, hw⟩ ih

theorem Related.update {others others' : Entries α} (h : Related R entries entries')
    (hothers : Related R others others') :
    Related R (entries.update others) (entries'.update others') := by
  induction hothers generalizing entries entries' with
  | nil => exact h
  | @cons e e' _ _ he _ ih =>
      obtain ⟨key, w⟩ := e
      obtain ⟨key', w'⟩ := e'
      obtain ⟨rfl, hw⟩ := he
      exact ih (h.put hw)

/-- Both answer a key with related values, or neither does. -/
theorem Related.rel_get? (h : Related R entries entries') (k : Scalar) :
    Option.Rel R (entries.get? k) (entries'.get? k) := by
  induction h with
  | nil => exact .none
  | @cons e e' _ _ he hrest ih =>
      obtain ⟨key, w⟩ := e
      obtain ⟨key', w'⟩ := e'
      obtain ⟨rfl, hw⟩ := he
      rw [get?_cons, get?_cons]
      split
      · exact .some hw
      · exact ih

theorem Related.contains_eq (h : Related R entries entries') (k : Scalar) :
    entries.contains k = entries'.contains k := by
  have hget := h.rel_get? k
  rw [contains, contains]
  generalize entries.get? k = o at hget
  generalize entries'.get? k = o' at hget
  cases hget <;> rfl

/-- A key that one of them answers the other answers with a related value. -/
theorem Related.exists_get? (h : Related R entries entries') (hv : entries.get? k = some v) :
    ∃ v', entries'.get? k = some v' ∧ R v v' := by
  have hget := h.rel_get? k
  rw [hv] at hget
  cases hget' : entries'.get? k with
  | none =>
      rw [hget'] at hget
      cases hget
  | some v' =>
      rw [hget'] at hget
      cases hget with
      | some hvv' => exact ⟨v', rfl, hvv'⟩

end

/-- Putting pairs of new keys one after the other lines them up. -/
theorem foldlM_put_append {step : Entries α → β → Except ε (Entries α)} {key : β → Scalar} {value : β → α}
    {items : List β}
    (hstep : ∀ x ∈ items, (∃ n, key x = .text n) ∧
      ∀ acc, step acc x = .ok (acc.put (key x) (value x)))
    (hnodup : (items.map key).Nodup) (hfresh : ∀ x ∈ items, key x ∉ entries.map (·.1)) :
    items.foldlM step entries = .ok (entries ++ items.map fun x => (key x, value x)) := by
  induction items generalizing entries with
  | nil => rw [List.map_nil, List.append_nil]; rfl
  | cons x items ih =>
      obtain ⟨⟨⟨n, hkey⟩, hx⟩, hitems⟩ := List.forall_mem_cons.mp hstep
      obtain ⟨hnew, hrest⟩ := List.nodup_cons.mp hnodup
      have hfresh' : .text n ∉ entries.map (·.1) := hkey ▸ hfresh x List.mem_cons_self
      have hput : entries.put (key x) (value x) = entries ++ [(key x, value x)] := by
        rw [hkey]
        exact put_of_fresh rfl hfresh'
      have hlater : ∀ y ∈ items, key y ∉ (entries ++ [(key x, value x)]).map (·.1) := by
        intro y hy hmem
        rw [List.map_append, List.mem_append] at hmem
        obtain hmem | hmem := hmem
        · exact hfresh y (List.mem_cons_of_mem _ hy) hmem
        · exact hnew (List.mem_map.mpr ⟨y, hy, List.mem_singleton.mp hmem⟩)
      rw [List.foldlM_cons, hx, hput]
      exact (ih hitems hrest hlater).trans (by simp)

theorem foldlM_put {step : Entries α → β → Except ε (Entries α)} {key : β → Scalar} {value : β → α}
    {items : List β}
    (hstep : ∀ x ∈ items, (∃ n, key x = .text n) ∧
      ∀ acc, step acc x = .ok (acc.put (key x) (value x)))
    (hnodup : (items.map key).Nodup) :
    items.foldlM step [] = .ok (items.map fun x => (key x, value x)) :=
  foldlM_put_append hstep hnodup fun _ _ => List.not_mem_nil

end Entries

end PersistedOps
