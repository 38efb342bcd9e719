import Mathlib.Data.List.Sort
import Mathlib.Data.String.Basic
import PersistedOps.Document.Sort
import PersistedOps.Proofs.Results

/-!
Sorting by keys is stable: which list comes out depends on nothing but the items of each key in their
order, so lists that agree on those are sorted into one list.
-/

namespace PersistedOps.Sort

/-! ### The order of keys -/

theorem nameLe_trans {a b c : Option String} (hab : nameLe a b) (hbc : nameLe b c) :
    nameLe a c := by
  cases c with
  | none => cases a <;> rfl
  | some c =>
      cases b with
      | none => cases hbc
      | some b =>
          cases a with
          | none => cases hab
          | some a =>
              simp only [nameLe, decide_eq_true_eq] at hab hbc ⊢
              exact le_trans hab hbc

theorem nameLe_total (a b : Option String) : nameLe a b || nameLe b a := by
  cases a with
  | none => cases b <;> rfl
  | some a =>
      cases b with
      | none => rfl
      | some b => simpa [nameLe] using le_total a b

theorem nameLe_antisymm {a b : Option String} (hab : nameLe a b) (hba : nameLe b a) : a = b := by
  cases a with
  | none =>
      cases b with
      | none => rfl
      | some b => cases hab
  | some a =>
      cases b with
      | none => cases hba
      | some b =>
          simp only [nameLe, decide_eq_true_eq] at hab hba
          rw [le_antisymm hab hba]

theorem keyLe_iff {a b : String × Option String} :
    keyLe a b ↔ a.1 < b.1 ∨ (a.1 = b.1 ∧ nameLe a.2 b.2) := by
  simp [keyLe]

theorem keyLe_trans (a b c : String × Option String) (hab : keyLe a b) (hbc : keyLe b c) :
    keyLe a c := by
  rw [keyLe_iff] at hab hbc ⊢
  obtain hlt | ⟨heq, hle⟩ := hab
  · obtain hlt' | ⟨heq', -⟩ := hbc
    · exact .inl (lt_trans hlt hlt')
    · exact .inl (heq' ▸ hlt)
  · obtain hlt' | ⟨heq', hle'⟩ := hbc
    · exact .inl (heq ▸ hlt')
    · exact .inr ⟨heq.trans heq', nameLe_trans hle hle'⟩

theorem keyLe_total (a b : String × Option String) : keyLe a b || keyLe b a := by
  rw [Bool.or_eq_true, keyLe_iff, keyLe_iff]
  obtain hlt | heq | hlt := lt_trichotomy a.1 b.1
  · exact .inl (.inl hlt)
  · obtain hle | hle := Bool.or_eq_true _ _ ▸ nameLe_total a.2 b.2
    · exact .inl (.inr ⟨heq, hle⟩)
    · exact .inr (.inr ⟨heq.symm, hle⟩)
  · exact .inr (.inl hlt)

theorem keyLe_antisymm {a b : String × Option String} (hab : keyLe a b) (hba : keyLe b a) :
    a = b := by
  rw [keyLe_iff] at hab hba
  obtain hlt | ⟨heq, hle⟩ := hab
  · obtain hlt' | ⟨heq', -⟩ := hba
    · exact absurd hlt' (lt_asymm hlt)
    · exact absurd hlt (heq' ▸ lt_irrefl _)
  · obtain hlt' | ⟨-, hle'⟩ := hba
    · exact absurd hlt' (heq ▸ lt_irrefl _)
    · exact Prod.ext heq (nameLe_antisymm hle hle')

/-! ### Stability -/

section

variable {α : Type}

/-- Items that carry their keys, in the order of the keys. -/
def itemLe (a b : (String × Option String) × α) : Bool := keyLe a.1 b.1

theorem itemLe_trans (a b c : (String × Option String) × α) (hab : itemLe a b) (hbc : itemLe b c) :
    itemLe a c :=
  keyLe_trans a.1 b.1 c.1 hab hbc

theorem itemLe_total (a b : (String × Option String) × α) : itemLe a b || itemLe b a :=
  keyLe_total a.1 b.1

/-- The items of one key, in their order. -/
def ofKey (k : String × Option String) (l : List ((String × Option String) × α)) :
    List ((String × Option String) × α) :=
  l.filter (·.1 = k)

theorem mem_ofKey {k : String × Option String} {l : List ((String × Option String) × α)}
    {x : (String × Option String) × α} : x ∈ ofKey k l ↔ x ∈ l ∧ x.1 = k := by
  simp [ofKey]

theorem mem_iff_of_ofKey_eq {l r : List ((String × Option String) × α)}
    (h : ∀ k, ofKey k l = ofKey k r) (x : (String × Option String) × α) : x ∈ l ↔ x ∈ r := by
  have hx := mem_ofKey (k := x.1) (l := l) (x := x)
  rw [h, mem_ofKey] at hx
  simpa using hx.symm

/-- Lists in order are one list when they agree on the items of each key. -/
theorem eq_of_ofKey_eq {l r : List ((String × Option String) × α)}
    (hl : l.Pairwise fun a b => itemLe a b) (hr : r.Pairwise fun a b => itemLe a b)
    (h : ∀ k, ofKey k l = ofKey k r) : l = r := by
  have hmem := mem_iff_of_ofKey_eq h
  induction l generalizing r with
  | nil => exact (List.eq_nil_iff_forall_not_mem.mpr fun x hx => by simpa using (hmem x).mpr hx).symm
  | cons a l ih =>
      cases r with
      | nil => exact absurd ((hmem a).mp List.mem_cons_self) (by simp)
      | cons b r =>
          obtain ⟨hal, hl'⟩ := List.pairwise_cons.mp hl
          obtain ⟨hbr, hr'⟩ := List.pairwise_cons.mp hr
          -- Both heads have the least key, and the first item of that key is the same.
          have hkey : a.1 = b.1 := by
            have hrefl : ∀ k, keyLe k k := fun k => by simpa using keyLe_total k k
            refine keyLe_antisymm ?_ ?_
            · obtain rfl | hb := List.mem_cons.mp ((hmem b).mpr List.mem_cons_self)
              · exact hrefl _
              · exact hal b hb
            · obtain rfl | ha := List.mem_cons.mp ((hmem a).mp List.mem_cons_self)
              · exact hrefl _
              · exact hbr a ha
          have hhead := h a.1
          simp only [ofKey, List.filter_cons, decide_true, if_true, hkey.symm,
            List.cons.injEq] at hhead
          obtain ⟨rfl, -⟩ := hhead
          have htail : ∀ k, ofKey k l = ofKey k r := by
            intro k
            have hk := h k
            by_cases hak : a.1 = k
            · simpa [ofKey, List.filter_cons, hak] using hk
            · simpa [ofKey, List.filter_cons, hak] using hk
          rw [ih hl' hr' htail (mem_iff_of_ofKey_eq htail)]

/-- Sorting keeps the items of each key in their order. -/
theorem ofKey_mergeSort (k : String × Option String) (l : List ((String × Option String) × α)) :
    ofKey k (l.mergeSort itemLe) = ofKey k l := by
  have hsame : (ofKey k l).Pairwise fun a b => itemLe a b := by
    refine List.pairwise_iff_forall_sublist.mpr fun {a b} hab => ?_
    have ha := (mem_ofKey.mp (hab.subset (by simp : a ∈ [a, b]))).2
    have hb := (mem_ofKey.mp (hab.subset (by simp : b ∈ [a, b]))).2
    simpa [itemLe, ha, hb] using keyLe_total k k
  have hsub : (ofKey k l).Sublist (l.mergeSort itemLe) :=
    List.sublist_mergeSort itemLe_trans itemLe_total hsame List.filter_sublist
  have hfiltered : (ofKey k l).Sublist (ofKey k (l.mergeSort itemLe)) := by
    have hkept := hsub.filter (·.1 = k)
    simpa [ofKey, List.filter_filter] using hkept
  refine (hfiltered.eq_of_length ?_).symm
  exact ((List.mergeSort_perm l itemLe).symm.filter _).length_eq

/-- Lists that agree on the items of each key are sorted into one list. -/
theorem mergeSort_eq_of_ofKey_eq {l r : List ((String × Option String) × α)}
    (h : ∀ k, ofKey k l = ofKey k r) : l.mergeSort itemLe = r.mergeSort itemLe := by
  have hsorted : ∀ l : List ((String × Option String) × α),
      (l.mergeSort itemLe).Pairwise fun a b => itemLe a b :=
    fun l => List.pairwise_mergeSort itemLe_trans itemLe_total l
  refine eq_of_ofKey_eq (hsorted l) (hsorted r) fun k => ?_
  rw [ofKey_mergeSort, ofKey_mergeSort, h]

end

/-! ### Items of trees -/

/-- Whether an item has this key, or none. -/
def hasKey (key : Tree → Except Malformed Key) (k : Option Key) (t : Tree) : Bool :=
  (key t).toOption == k

/-- An item that has a key with a text for its name, or with no name. -/
def Sortable (key : Tree → Except Malformed Key) (t : Tree) : Prop :=
  ∃ kind name, key t = .ok ⟨kind, Option.map Scalar.text name⟩

/-- What a sortable item is compared by. -/
def label (key : Tree → Except Malformed Key) (t : Tree) : String × Option String :=
  match key t with
  | .ok k => (k.kind, k.nameText.toOption.join)
  | .error _ => ("", none)

theorem nameText_map (kind : String) (name : Option String) :
    Key.nameText ⟨kind, name.map .text⟩ = .ok name := by
  cases name <;> rfl

theorem label_eq {key : Tree → Except Malformed Key} {t : Tree} {kind : String}
    {name : Option String} (h : key t = .ok ⟨kind, name.map .text⟩) : label key t = (kind, name) := by
  rw [label, h]
  simp [nameText_map, Except.toOption]

/-- Sortable items have a label when they have the key that spells it. -/
theorem hasKey_iff_label {key : Tree → Except Malformed Key} {t : Tree} (h : Sortable key t)
    (k : String × Option String) :
    hasKey key (some ⟨k.1, k.2.map .text⟩) t = decide (label key t = k) := by
  obtain ⟨kind, name, hkey⟩ := h
  have hinjective : Function.Injective (Option.map Scalar.text) :=
    Option.map_injective fun _ _ => Scalar.text.inj
  rw [label_eq hkey, hasKey, hkey, Bool.eq_iff_iff, beq_iff_eq, decide_eq_true_eq]
  simp [Except.toOption, Prod.ext_iff, hinjective.eq_iff]

/-- Sortable items are sorted by their labels. -/
theorem sortItems_eq {key : Tree → Except Malformed Key} {items : List Tree}
    (h : ∀ t ∈ items, Sortable key t) :
    sortItems key items
      = .ok (((items.map fun t => (label key t, t)).mergeSort itemLe).map (·.2)) := by
  have hkeys : ∃ keys, items.mapM key = .ok keys ∧ keys.mapM Key.nameText
      = .ok (items.map fun t => (label key t).2) ∧ keys.map Key.kind
      = items.map fun t => (label key t).1 := by
    induction items with
    | nil => exact ⟨[], rfl, rfl, rfl⟩
    | cons t items ih =>
        obtain ⟨⟨kind, name, hkey⟩, hitems⟩ := List.forall_mem_cons.mp h
        obtain ⟨keys, hkeys, hnames, hkinds⟩ := ih hitems
        refine ⟨⟨kind, name.map .text⟩ :: keys, ?_, ?_, ?_⟩
        · rw [List.mapM_cons, hkey, hkeys]
          rfl
        · rw [List.mapM_cons, nameText_map, hnames, List.map_cons, label_eq hkey]
          rfl
        · rw [List.map_cons, hkinds, List.map_cons, label_eq hkey]
  obtain ⟨keys, hkeys, hnames, hkinds⟩ := hkeys
  have hlength : keys.length = items.length := by simpa using congrArg List.length hkinds
  rw [sortItems, hkeys]
  simp only [bind, Except.bind, hlength, hnames, hkinds]
  have hzip : ((items.map fun t => (label key t).1).zip (items.map fun t => (label key t).2)).zip
      items = items.map fun t => (label key t, t) := by
    rw [List.zip_map', List.zip_map_left]
    simp [List.zip_eq_zipWith]
  split
  · -- A single item is in order.
    match items with
    | [] | [t] => simp [pure, Except.pure]
    | t :: u :: items => simp at *
  · rw [hzip]
    rfl

theorem exists_sortItems {key : Tree → Except Malformed Key} {items : List Tree}
    (h : ∀ t ∈ items, Sortable key t) :
    ∃ sorted, sortItems key items = .ok sorted ∧ sorted.Perm items := by
  refine ⟨_, sortItems_eq h, ?_⟩
  have hperm := (List.mergeSort_perm (items.map fun t => (label key t, t)) itemLe).map (·.2)
  rwa [List.map_map, show ((·.2) ∘ fun t => (label key t, t)) = id from rfl, List.map_id] at hperm

/-- Items of one key stay in their order. -/
theorem sortItems_of_one_key {key : Tree → Except Malformed Key} {items : List Tree} (kind : String)
    (name : Option String) (h : ∀ t ∈ items, key t = .ok ⟨kind, name.map .text⟩) :
    sortItems key items = .ok items := by
  have hsorted : (items.map fun t => (label key t, t)).Pairwise fun a b => itemLe a b := by
    refine List.pairwise_map.mpr (List.pairwise_of_forall_mem_list fun t ht u hu => ?_)
    rw [itemLe, label_eq (h t ht), label_eq (h u hu)]
    simpa using keyLe_total (kind, name) (kind, name)
  rw [sortItems_eq fun t ht => ⟨kind, name, h t ht⟩, List.mergeSort_of_pairwise hsorted, List.map_map,
    show ((·.2) ∘ fun t => (label key t, t)) = id from rfl, List.map_id]

/-- Siblings that agree on the items of each key are sorted alike. -/
theorem sortItems_congr {key : Tree → Except Malformed Key} {xs ys : List Tree}
    (hx : ∀ t ∈ xs, Sortable key t) (h : ∀ k, xs.filter (hasKey key k) = ys.filter (hasKey key k)) :
    sortItems key xs = sortItems key ys := by
  have hmem : ∀ t ∈ ys, t ∈ xs := fun t ht => by
    have hfound : t ∈ ys.filter (hasKey key (key t).toOption) := by simp [ht, hasKey]
    rw [← h] at hfound
    exact (List.mem_filter.mp hfound).1
  have hkey : ∀ k (zs : List Tree), (∀ t ∈ zs, Sortable key t) → ofKey k (zs.map fun t => (label key t, t))
      = (zs.filter (hasKey key (some ⟨k.1, k.2.map .text⟩))).map fun t => (label key t, t) := by
    intro k zs hzs
    rw [ofKey, List.filter_map]
    refine congrArg _ (List.filter_congr fun t ht => ?_)
    rw [hasKey_iff_label (hzs t ht)]
    rfl
  have hsorted : (xs.map fun t => (label key t, t)).mergeSort itemLe
      = (ys.map fun t => (label key t, t)).mergeSort itemLe := by
    refine mergeSort_eq_of_ofKey_eq fun k => ?_
    rw [hkey k xs hx, hkey k ys fun t ht => hx t (hmem t ht), h]
  rw [sortItems_eq hx, sortItems_eq fun t ht => hx t (hmem t ht), hsorted]

/-- Items with a key each are sorted alike in every order. -/
theorem sortItems_perm {key : Tree → Except Malformed Key} {xs ys : List Tree}
    (hx : ∀ t ∈ xs, Sortable key t) (hnodup : (xs.map fun t => (key t).toOption).Nodup)
    (h : xs.Perm ys) : sortItems key xs = sortItems key ys := by
  refine sortItems_congr hx fun k => ?_
  have hperm := h.filter (hasKey key k)
  have hfew : (xs.filter (hasKey key k)).length ≤ 1 := by
    have hcount := List.nodup_iff_count_le_one.mp hnodup k
    rwa [List.count_eq_countP, List.countP_map, List.countP_eq_length_filter] at hcount
  match hxs : xs.filter (hasKey key k), hfew with
  | [], _ => rw [hxs] at hperm; exact hperm.nil_eq
  | [t], _ => rw [hxs] at hperm; exact (List.perm_singleton.mp hperm.symm).symm

end PersistedOps.Sort
