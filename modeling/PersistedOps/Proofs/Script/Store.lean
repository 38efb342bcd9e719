import PersistedOps.Proofs.Entries
import PersistedOps.Script.Evaluate

/-!
Cells and names, whoever evaluates a unit: what targets hold, what assignments to them change, and what
can be reached from a value. No cell is ever given up, so there are cells that nothing reaches.
-/

namespace PersistedOps.Script

/-! ### Cells -/

/-- The values that a cell holds. -/
def Cell.values : Cell → List Value
  | .list items => items
  | .dict entries => entries.map (·.2)

def Cell.layer : Cell → Layer Value
  | .list items => .list items
  | .dict entries => .dict entries

/-- The place in a list that a key names. -/
def indexOf? (length : Nat) (key : Layer Value) : Option Nat :=
  key.toInt?.bind fun n => if Evaluation.isIndex n then Evaluation.position length n else none

theorem indexOf?_lt {length i : Nat} {key : Layer Value} (h : indexOf? length key = some i) : i < length := by
  obtain ⟨n, -, h⟩ := Option.bind_eq_some_iff.mp h
  split at h
  · unfold Evaluation.position at h
    dsimp only at h
    by_cases hin : 0 ≤ (if n < 0 then n + length else n) ∧ (if n < 0 then n + length else n) < (length : Int)
    · rw [if_pos hin] at h
      obtain rfl := Option.some.inj h
      omega
    · rw [if_neg hin] at h
      cases h
  · cases h

/-- The cell with another value under a key; a dictionary takes any key. -/
def Cell.assign? : Cell → Scalar → Value → Option Cell
  | .dict entries, k, v => some (.dict (entries.put k v))
  | .list items, k, v => (indexOf? items.length (.scalar k)).map fun i => .list (items.set i v)

theorem lookup_list_eq_ok_iff {items : List Value} {key : Layer Value} {v : Value} :
    Evaluation.lookup (.list items) key = .ok v ↔
      ∃ i, indexOf? items.length key = some i ∧ items[i]? = some v := by
  cases hkey : key.toInt? with
  | none => simp [Evaluation.lookup, indexOf?, hkey]
  | some n =>
      simp only [Evaluation.lookup, indexOf?, hkey, Evaluation.element, Option.bind_some]
      by_cases hn : Evaluation.isIndex n = true
      · rw [if_neg (by simp [hn]), if_pos hn]
        cases hi : Evaluation.position items.length n with
        | none => simp
        | some i => cases hv : items[i]? <;> simp [hv]
      · rw [if_pos (by simp [hn]), if_neg hn]
        simp

/-- What can be looked up can be assigned to, and of two assignments the second counts. -/
theorem Cell.exists_assign? {c : Cell} {k : Scalar} {v : Value}
    (h : Evaluation.lookup c.layer (.scalar k) = .ok v) (w : Value) :
    ∃ d, c.assign? k w = some d ∧ ∀ u, d.assign? k u = c.assign? k u := by
  cases c with
  | list items =>
      obtain ⟨i, hi, -⟩ := lookup_list_eq_ok_iff.mp h
      refine ⟨.list (items.set i w), by rw [assign?, hi]; rfl, fun u => ?_⟩
      rw [assign?, assign?, List.length_set, hi, Option.map_some, Option.map_some, List.set_set]
  | dict entries =>
      refine ⟨.dict (entries.put k w), rfl, fun u => ?_⟩
      rw [assign?, assign?, Entries.put_put]
      simp only [layer, Evaluation.lookup] at h
      cases hget : entries.get? k with
      | none =>
          rw [hget] at h
          cases h
      | some found => rfl

namespace Heap

variable {h : Heap} {a b : Nat} {c : Cell}

theorem get?_eq_none_iff : h.get? a = none ↔ h.cells.size ≤ a := Array.getElem?_eq_none_iff

theorem lt_of_get? (hc : h.get? a = some c) : a < h.cells.size := by
  by_contra hle
  rw [get?_eq_none_iff.mpr (Nat.le_of_not_lt hle)] at hc
  cases hc

theorem get?_allocate (h : Heap) (c : Cell) (b : Nat) :
    (h.allocate c).2.get? b = if b = h.cells.size then some c else h.get? b :=
  Array.getElem?_push

theorem get?_set (hc : h.get? a = some c) (d : Cell) (b : Nat) :
    (h.set a d).get? b = if b = a then some d else h.get? b := by
  rw [set, get?, Array.getElem?_setIfInBounds]
  by_cases hab : a = b
  · rw [if_pos hab, if_pos (lt_of_get? hc), if_pos hab.symm]
  · rw [if_neg hab, if_neg (Ne.symm hab)]
    rfl

theorem layer_eq_scalar_iff {v : Value} {s : Scalar} : h.layer v = .scalar s ↔ v = .scalar s := by
  cases v with
  | scalar t => simp [layer]
  | cell a =>
      rw [layer]
      split <;> simp

theorem layer_cell (hc : h.get? a = some c) : h.layer (.cell a) = c.layer := by
  rw [layer, hc]
  cases c <;> rfl

theorem get?_of_layer_dict {entries : Entries Value} (h' : h.layer (.cell a) = .dict entries) :
    h.get? a = some (.dict entries) := by
  rw [layer] at h'
  split at h'
  · cases h'
  · next found hfound =>
    cases h'
    exact hfound
  · cases h'

theorem exists_cell_of_layer_dict {v : Value} {entries : Entries Value} (h' : h.layer v = .dict entries) :
    ∃ a, v = .cell a ∧ h.get? a = some (.dict entries) := by
  cases v with
  | scalar s => cases h'
  | cell a => exact ⟨a, rfl, get?_of_layer_dict h'⟩

/-- Only where there is no cell an empty list is seen all the same. -/
theorem get?_of_layer_list {items : List Value} (h' : h.layer (.cell a) = .list items)
    (hne : items ≠ []) : h.get? a = some (.list items) := by
  rw [layer] at h'
  split at h'
  · next found hfound =>
    cases h'
    exact hfound
  · cases h'
  · cases h'
    exact (hne rfl).elim

/-- A cell is reached from a value: it is the value, or it is reached from what the value holds. -/
inductive Reaches (h : Heap) : Value → Nat → Prop
  | here {a : Nat} : Reaches h (.cell a) a
  | part {a b : Nat} {c : Cell} {v : Value} (cell : h.get? a = some c) (held : v ∈ c.values)
      (rest : Reaches h v b) : Reaches h (.cell a) b

theorem Reaches.trans {v : Value} (hv : h.Reaches v a) (ha : h.Reaches (.cell a) b) : h.Reaches v b := by
  induction hv with
  | here => exact ha
  | part hc hheld _ ih => exact .part hc hheld (ih ha)

end Heap

/-! ### Stores -/

/-- Cells, and what names are bound to (the latest first). -/
structure Store where
  heap : Heap
  bindings : List (String × Value)
deriving Repr, Inhabited

/-- What can be assigned to: a name, or a place in a cell. -/
inductive Target where
  | name (identifier : String)
  | item (address : Nat) (key : Scalar)
deriving Repr

namespace Store

def lookup? (s : Store) (name : String) : Option Value := s.bindings.lookup name

/-- What a target holds. -/
def load? (s : Store) : Target → Option Value
  | .name n => s.lookup? n
  | .item a k => (Evaluation.lookup (s.heap.layer (.cell a)) (.scalar k)).toOption

def write (s : Store) (address : Nat) (c : Cell) : Store := { s with heap := s.heap.set address c }

def allocate (s : Store) (c : Cell) : Store := { s with heap := (s.heap.allocate c).2 }

/-- The store with a value assigned to a target. -/
def assign? (s : Store) : Target → Value → Option Store
  | .name n, v => some { s with bindings := (n, v) :: s.bindings }
  | .item a k, v => do
    let c ← s.heap.get? a
    return s.write a (← c.assign? k v)

/-- A name leads to the cell, or one of the items does. -/
def Leads (s : Store) (items : List Value) (a : Nat) : Prop :=
  ∃ v, ((∃ n, s.lookup? n = some v) ∨ v ∈ items) ∧ s.heap.Reaches v a

/-- The target holds the cell, which is to have the given items, and nothing else that matters does: once
the target lets go of it, no name and none of the items leads to it. -/
def HeldOnlyBy (s : Store) (t : Target) (a : Nat) (items : List Value) : Prop :=
  ∀ s', s.assign? t (.scalar .null) = some s' → ¬s'.Leads items a

/-- Two stores that hold the same. -/
structure Same (s t : Store) : Prop where
  cells : ∀ a, s.heap.get? a = t.heap.get? a
  names : ∀ n, s.lookup? n = t.lookup? n

variable {s t u : Store} {a b : Nat} {c : Cell} {items : List Value} {p : Target} {v v' w : Value}

theorem Leads.of_name {n : String} (h : s.lookup? n = some (.cell a)) : s.Leads items a :=
  ⟨_, .inl ⟨n, h⟩, .here⟩

theorem Leads.of_mem (h : .cell a ∈ items) : s.Leads items a := ⟨_, .inr h, .here⟩

theorem Leads.part (h : s.Leads items a) (hc : s.heap.get? a = some c) (hb : .cell b ∈ c.values) :
    s.Leads items b := by
  obtain ⟨v, hroot, hreach⟩ := h
  exact ⟨v, hroot, hreach.trans (.part hc hb .here)⟩

theorem get?_write (hc : s.heap.get? a = some c) (d : Cell) (b : Nat) :
    (s.write a d).heap.get? b = if b = a then some d else s.heap.get? b :=
  Heap.get?_set hc d b

theorem assign?_item_eq_some_iff {k : Scalar} : s.assign? (.item a k) v = some t ↔
    ∃ c d, s.heap.get? a = some c ∧ c.assign? k v = some d ∧ t = s.write a d := by
  constructor
  · intro h
    obtain ⟨c, hc, h⟩ := Option.bind_eq_some_iff.mp h
    obtain ⟨d, hd, h⟩ := Option.bind_eq_some_iff.mp h
    exact ⟨c, d, hc, hd, (Option.some.inj h).symm⟩
  · rintro ⟨c, d, hc, hd, rfl⟩
    exact Option.bind_eq_some_iff.mpr ⟨c, hc, Option.bind_eq_some_iff.mpr ⟨d, hd, rfl⟩⟩

theorem load?_item_eq_some_iff {k : Scalar} : s.load? (.item a k) = some v ↔
    ∃ c, s.heap.get? a = some c ∧ Evaluation.lookup c.layer (.scalar k) = .ok v := by
  cases hc : s.heap.get? a with
  | none =>
      have hempty : s.heap.layer (.cell a) = .list [] := by rw [Heap.layer, hc]
      rw [load?, hempty]
      constructor
      · intro h
        obtain ⟨i, -, hi⟩ := lookup_list_eq_ok_iff.mp (eq_ok_of_toOption h)
        cases hi
      · rintro ⟨c, hc, -⟩
        cases hc
  | some c =>
      rw [load?, Heap.layer_cell hc]
      constructor
      · exact fun h => ⟨c, rfl, eq_ok_of_toOption h⟩
      · rintro ⟨_, ⟨⟩, h⟩
        rw [h]
        rfl

theorem exists_assign? (hload : s.load? p = some v) (w : Value) : ∃ t, s.assign? p w = some t := by
  cases p with
  | name n => exact ⟨_, rfl⟩
  | item a k =>
      obtain ⟨c, hc, hlookup⟩ := load?_item_eq_some_iff.mp hload
      obtain ⟨d, hd, -⟩ := Cell.exists_assign? hlookup w
      exact ⟨_, assign?_item_eq_some_iff.mpr ⟨c, d, hc, hd, rfl⟩⟩

/-- Of two assignments to a target the second counts. -/
theorem exists_assign?_same (hload : s.load? p = some v) (ht : s.assign? p v' = some t)
    (hu : s.assign? p w = some u) : ∃ u', t.assign? p w = some u' ∧ u'.Same u := by
  cases p with
  | name n =>
      cases ht
      cases hu
      refine ⟨_, rfl, fun _ => rfl, fun m => ?_⟩
      simp only [lookup?, List.lookup_cons]
      split <;> rfl
  | item a k =>
      obtain ⟨c, hc, hlookup⟩ := load?_item_eq_some_iff.mp hload
      obtain ⟨_, d, hc₁, hd, rfl⟩ := assign?_item_eq_some_iff.mp ht
      obtain ⟨_, e, hc₂, he, rfl⟩ := assign?_item_eq_some_iff.mp hu
      cases hc.symm.trans hc₁
      cases hc.symm.trans hc₂
      obtain ⟨d', hd', hlast⟩ := Cell.exists_assign? hlookup v'
      cases hd.symm.trans hd'
      have hnext : (s.write a d).heap.get? a = some d := by rw [get?_write hc, if_pos rfl]
      refine ⟨_, assign?_item_eq_some_iff.mpr ⟨d, e, hnext, (hlast w).trans he, rfl⟩, fun b => ?_,
        fun _ => rfl⟩
      rw [get?_write hnext, get?_write hc, get?_write hc]
      split <;> rfl

theorem get?_assign? (ha : ∀ k, p ≠ .item a k) (ht : s.assign? p v = some t) :
    t.heap.get? a = s.heap.get? a := by
  cases p with
  | name n =>
      cases ht
      rfl
  | item b k =>
      obtain ⟨c, d, hc, -, rfl⟩ := assign?_item_eq_some_iff.mp ht
      rw [get?_write hc, if_neg]
      rintro rfl
      exact ha k rfl

theorem load?_write (ha : ∀ k, p ≠ .item a k) (hc : s.heap.get? a = some c) (d : Cell) :
    (s.write a d).load? p = s.load? p := by
  cases p with
  | name n => rfl
  | item b k =>
      have hba : b ≠ a := by
        rintro rfl
        exact ha k rfl
      have hcell : (s.write a d).heap.get? b = s.heap.get? b := by rw [get?_write hc, if_neg hba]
      rw [load?, load?, Heap.layer, Heap.layer, hcell]

/-- A cell that the target is not in can be written before or after. -/
theorem assign?_write (ha : ∀ k, p ≠ .item a k) (hc : s.heap.get? a = some c) {d : Cell}
    (ht : s.assign? p v = some t) (hu : (s.write a d).assign? p v = some u) : u.Same (t.write a d) := by
  cases p with
  | name n =>
      cases ht
      cases hu
      exact ⟨fun _ => rfl, fun _ => rfl⟩
  | item b k =>
      have hab : b ≠ a := by
        rintro rfl
        exact ha k rfl
      obtain ⟨e, e', he, he', rfl⟩ := assign?_item_eq_some_iff.mp ht
      obtain ⟨f, f', hf, hf', rfl⟩ := assign?_item_eq_some_iff.mp hu
      have hb : (s.write a d).heap.get? b = some e := by rw [get?_write hc, if_neg hab, he]
      cases hb.symm.trans hf
      cases he'.symm.trans hf'
      have ha' : (s.write b e').heap.get? a = some c := by rw [get?_write he, if_neg hab.symm, hc]
      refine ⟨fun x => ?_, fun _ => rfl⟩
      rw [get?_write hb, get?_write hc, get?_write ha', get?_write he]
      by_cases hxa : x = a
      · rw [if_pos hxa, if_pos hxa, if_neg (hxa ▸ hab.symm)]
      · rw [if_neg hxa, if_neg hxa]

end Store

end PersistedOps.Script
