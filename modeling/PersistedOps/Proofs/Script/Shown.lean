import Mathlib.Data.List.Perm.Subperm
import PersistedOps.Proofs.Entries
import PersistedOps.Proofs.Script.Ends
import PersistedOps.Proofs.Script.Expressions

/-!
Values that messages can show. An integer beyond the digit limit has no text, and it is the only thing
that keeps a value from being shown: a list or dictionary inside itself is shown as dots. A unit in
whose source no integer is beyond the limit never comes to hold one, so each of its messages can show
what it has to.
-/

namespace PersistedOps

/-- A scalar has a written form. -/
def Scalar.Showable (s : Scalar) : Prop := s.shown?.isSome = true

namespace Script

def Value.Showable : Value → Prop
  | .scalar s => s.Showable
  | .cell _ => True

def Cell.Showable : Cell → Prop
  | .list items => ∀ v ∈ items, v.Showable
  | .dict entries => ∀ e ∈ entries, e.1.Showable ∧ e.2.Showable

/-- All scalars in the cells of a heap have a written form. -/
def Heap.Showable (h : Heap) : Prop := ∀ address c, h.get? address = some c → c.Showable

namespace Heap

variable {h : Heap}

theorem showable_of_layer_list (hshow : h.Showable) {v : Value} {items : List Value}
    (hlayer : h.layer v = .list items) : ∀ w ∈ items, w.Showable := by
  cases v with
  | scalar s => cases hlayer
  | cell address =>
      rw [layer] at hlayer
      split at hlayer
      · next found hfound =>
        cases hlayer
        exact hshow address _ hfound
      · cases hlayer
      · cases hlayer
        simp

theorem showable_of_layer_dict (hshow : h.Showable) {v : Value} {entries : Entries Value}
    (hlayer : h.layer v = .dict entries) : ∀ e ∈ entries, e.1.Showable ∧ e.2.Showable := by
  cases v with
  | scalar s => cases hlayer
  | cell address =>
      rw [layer] at hlayer
      split at hlayer
      · cases hlayer
      · next found hfound =>
        cases hlayer
        exact hshow address _ hfound
      · cases hlayer

/-- A value that has parts is a cell that is there. -/
theorem exists_cell_of_layer {v w : Value}
    (hpart : (∃ items, h.layer v = .list items ∧ w ∈ items) ∨
      ∃ entries key, h.layer v = .dict entries ∧ (key, w) ∈ entries) :
    ∃ address < h.cells.size, v = .cell address := by
  cases v with
  | scalar s =>
      rcases hpart with ⟨items, hlayer, -⟩ | ⟨entries, key, hlayer, -⟩ <;> cases hlayer
  | cell address =>
      refine ⟨address, ?_, rfl⟩
      by_contra hsize
      have hlayer : h.layer (.cell address) = .list [] := by
        rw [layer, get?, Array.getElem?_eq_none (Nat.le_of_not_lt hsize)]
      rw [hlayer] at hpart
      rcases hpart with ⟨items, heq, hw⟩ | ⟨entries, key, heq, -⟩
      · cases heq
        cases hw
      · cases heq

/-- There are no more distinct values among cells than cells. -/
theorem length_le_size {around : List Value} (hnodup : around.Nodup)
    (hcells : ∀ v ∈ around, ∃ address < h.cells.size, v = .cell address) :
    around.length ≤ h.cells.size := by
  have hsubset : around ⊆ (List.range h.cells.size).map Value.cell := by
    intro v hv
    obtain ⟨address, haddress, rfl⟩ := hcells v hv
    exact List.mem_map.mpr ⟨address, List.mem_range.mpr haddress, rfl⟩
  have hlength := (List.subperm_of_subset hnodup hsubset).length_le
  rwa [List.length_map, List.length_range] at hlength

theorem isSome_mapM {α β : Type} {f : α → Option β} {l : List α}
    (h : ∀ a ∈ l, (f a).isSome = true) : (l.mapM f).isSome = true := by
  induction l with
  | nil => rfl
  | cons a l ih =>
      obtain ⟨ha, hl⟩ := List.forall_mem_cons.mp h
      obtain ⟨b, hb⟩ := Option.isSome_iff_exists.mp ha
      obtain ⟨bs, hbs⟩ := Option.isSome_iff_exists.mp (ih hl)
      rw [List.mapM_cons, hb, hbs]
      rfl

/-- What is being shown around a value are distinct cells, so the depth never runs out. -/
theorem isSome_show? (hshow : h.Showable) {depth : Nat} {around : List Value} {v : Value}
    (hv : v.Showable) (hnodup : around.Nodup)
    (hcells : ∀ w ∈ around, ∃ address < h.cells.size, w = .cell address)
    (hdepth : h.cells.size < depth + around.length) : (h.show? depth around v).isSome = true := by
  -- The values around are different cells, so there are no more of them than cells; the depth outlasts
  -- them.
  induction depth generalizing around v with
  | zero =>
      have hlength := length_le_size hnodup hcells
      omega
  | succ depth ih =>
      have hinside {w : Value} (hnew : v ∉ around) (hw : w.Showable)
          (hpart : (∃ items, h.layer v = .list items ∧ w ∈ items) ∨
            ∃ entries key, h.layer v = .dict entries ∧ (key, w) ∈ entries) :
          (h.show? depth (v :: around) w).isSome = true := by
        refine ih hw (List.nodup_cons.mpr ⟨hnew, hnodup⟩) ?_ ?_
        · exact List.forall_mem_cons.mpr ⟨exists_cell_of_layer hpart, hcells⟩
        · rw [List.length_cons]
          omega
      rw [show?]
      split
      · next s hlayer =>
        cases v with
        | scalar t =>
            cases hlayer
            exact hv
        | cell address =>
            rw [layer] at hlayer
            split at hlayer <;> cases hlayer
      · next items hlayer =>
        split
        · rfl
        · next hnew =>
          have hitems : (items.mapM (h.show? depth (v :: around))).isSome = true :=
            isSome_mapM fun w hw =>
              hinside hnew (showable_of_layer_list hshow hlayer w hw) (.inl ⟨items, hlayer, hw⟩)
          obtain ⟨shown, hshown⟩ := Option.isSome_iff_exists.mp hitems
          rw [hshown]
          rfl
      · next entries hlayer =>
        split
        · rfl
        · next hnew =>
          have hentries : (entries.mapM fun e : Scalar × Value => do
              return (← e.1.shown?) ++ ": " ++ (← h.show? depth (v :: around) e.2)).isSome =
                true := by
            refine isSome_mapM fun e he => ?_
            obtain ⟨hkey, hvalue⟩ := showable_of_layer_dict hshow hlayer e he
            obtain ⟨key, hkey⟩ := Option.isSome_iff_exists.mp hkey
            obtain ⟨shown, hshown⟩ := Option.isSome_iff_exists.mp
              (hinside hnew hvalue (.inr ⟨entries, e.1, hlayer, he⟩))
            rw [hkey, hshown]
            rfl
          obtain ⟨shown, hshown⟩ := Option.isSome_iff_exists.mp hentries
          rw [hshown]
          rfl

theorem isSome_shown? (hshow : h.Showable) {v : Value} (hv : v.Showable) :
    (h.shown? v).isSome = true := by
  refine isSome_show? hshow hv List.nodup_nil (by simp) ?_
  rw [depth, List.length_nil]
  omega

end Heap

/-! Evaluation -/

/-- All scalars that a state holds have a written form. -/
structure Sandbox.Showable (s : Sandbox) : Prop where
  heap : s.heap.Showable
  bindings : ∀ e ∈ s.bindings, e.2.Showable

theorem Sandbox.showable_initial : Sandbox.initial.Showable where
  heap address c h := by
    rw [initial, Heap.get?, Heap.empty, List.getElem?_toArray] at h
    cases h
  bindings := by simp [initial]

theorem Sandbox.Showable.allocate {s : Sandbox} (h : s.Showable) {c : Cell} (hc : c.Showable) :
    Sandbox.Showable { s with heap := (s.heap.allocate c).2 } where
  heap address d hd := by
    rw [Heap.allocate, Heap.get?, Array.getElem?_push] at hd
    split at hd
    · cases hd
      exact hc
    · exact h.heap address d hd
  bindings := h.bindings

theorem Sandbox.Showable.write {s : Sandbox} (h : s.Showable) (address : Nat) {c : Cell}
    (hc : c.Showable) : Sandbox.Showable { s with heap := s.heap.set address c } where
  heap a d hd := by
    rw [Heap.set, Heap.get?, Array.getElem?_setIfInBounds] at hd
    split at hd
    · split at hd
      · cases hd
        exact hc
      · cases hd
    · exact h.heap a d hd
  bindings := h.bindings

theorem Sandbox.Showable.bind {s : Sandbox} (h : s.Showable) (name : String) {v : Value}
    (hv : v.Showable) : (s.bind name v).Showable where
  heap := h.heap
  bindings := List.forall_mem_cons.mpr ⟨hv, h.bindings⟩

theorem Sandbox.Showable.lookup {s : Sandbox} (h : s.Showable) {name : String} {v : Value}
    (hv : s.lookup? name = some v) : v.Showable := by
  obtain ⟨l₁, l₂, heq, -⟩ := List.lookup_eq_some_iff.mp hv
  exact h.bindings (name, v) (by simp [heq])

namespace Evaluation

variable {α : Type} {s : Sandbox}

/-- An evaluation that gives a showable value, and leaves only such, if it ends as it should; and that
does not halt for want of a message. -/
abbrev Shows (m : Evaluation Value) (s : Sandbox) : Prop :=
  Ends (· ≠ .unexpected) m s fun v s' => v.Showable ∧ s'.Showable

theorem ends_failShowing {line : Nat} {shown? : Option String} {f : String → Fault}
    {Q : α → Sandbox → Prop} (h : shown?.isSome = true) :
    Ends (· ≠ .unexpected) (failShowing line shown? f) s Q := by
  obtain ⟨shown, rfl⟩ := Option.isSome_iff_exists.mp h
  exact Halt.noConfusion

theorem shows_fail {line : Nat} {f : Fault} {Q : α → Sandbox → Prop} :
    Ends (· ≠ .unexpected) (fail line f) s Q :=
  Halt.noConfusion

theorem showable_of_points (points : List Nat) : (Scalar.ofPoints points).Showable := by
  rw [Scalar.ofPoints]
  split <;> rfl

theorem showable_of_append? {a b sum : Scalar} (h : a.append? b = some sum) : sum.Showable := by
  unfold Scalar.append? at h
  split at h
  · cases h
    rfl
  · obtain ⟨front, -, h⟩ := Option.bind_eq_some_iff.mp h
    obtain ⟨back, -, h⟩ := Option.bind_eq_some_iff.mp h
    cases h
    exact showable_of_points _

theorem showable_int_iff {n : Int} :
    (Scalar.int n).Showable ↔ n.natAbs < Nat.pow 10 Scalar.digitLimit := by
  rw [Scalar.Showable, Scalar.shown?, Scalar.decimal?]
  split <;> simp_all

theorem showable_of_layer_scalar {h : Heap} {v : Value} (hv : v.Showable) {t : Scalar}
    (hlayer : h.layer v = .scalar t) : t.Showable := by
  cases v with
  | scalar r =>
      cases hlayer
      exact hv
  | cell address =>
      rw [Heap.layer] at hlayer
      split at hlayer <;> cases hlayer

theorem shows_add {line : Nat} {v w : Value} (hs : s.Showable) : Shows (add line v w) s := by
  unfold add
  simp only [ends_bind, ends_layerOf]
  split
  · next xs ys hx hy =>
    rw [ends_allocate]
    refine ⟨trivial, hs.allocate ?_⟩
    intro u hu
    rcases List.mem_append.mp hu with hu | hu
    · exact Heap.showable_of_layer_list hs.heap hx u hu
    · exact Heap.showable_of_layer_list hs.heap hy u hu
  · split
    · next sum hsum => exact ⟨showable_of_append? hsum, hs⟩
    · exact shows_fail
  · exact shows_fail

theorem shows_negate {line : Nat} {v : Value} (hs : s.Showable) (hv : v.Showable) :
    Shows (negate line v) s := by
  unfold negate
  rw [Shows, ends_bind, ends_layerOf]
  split
  · next n hn =>
    refine ⟨showable_int_iff.mpr ?_, hs⟩
    rw [Int.natAbs_neg]
    exact showable_int_iff.mp (showable_of_layer_scalar hv hn)
  · exact ⟨rfl, hs⟩
  · exact shows_fail

theorem ends_keyOf {line : Nat} {v : Value} (hv : v.Showable) :
    Ends (· ≠ .unexpected) (keyOf line v) s fun k s' => k.Showable ∧ s' = s := by
  unfold keyOf
  rw [ends_bind, ends_layerOf]
  split
  · next t ht => exact ⟨showable_of_layer_scalar hv ht, rfl⟩
  · exact shows_fail

theorem showable_of_element {items : List Value} (hitems : ∀ v ∈ items, v.Showable)
    {outside : SubscriptFault} {index : Int} {v : Value}
    (h : element items outside index = .ok v) : v.Showable := by
  rw [element] at h
  split at h
  · cases h
  · split at h
    · next found hfound =>
      cases h
      obtain ⟨i, -, hi⟩ := Option.bind_eq_some_iff.mp hfound
      exact hitems _ (List.mem_of_getElem? hi)
    · cases h

theorem showable_of_lookup {h : Heap} (hshow : h.Showable) {container key : Value} {v : Value}
    (hlookup : lookup (h.layer container) (h.layer key) = .ok v) : v.Showable := by
  unfold lookup at hlookup
  split at hlookup
  · next entries k hentries hk =>
    split at hlookup
    · next found hfound =>
      cases hlookup
      obtain ⟨e, he, rfl⟩ := Option.map_eq_some_iff.mp hfound
      exact (Heap.showable_of_layer_dict hshow hentries e (List.mem_of_find?_eq_some he)).2
    · cases hlookup
  · cases hlookup
  · next items hitems =>
    split at hlookup
    · exact showable_of_element (Heap.showable_of_layer_list hshow hitems) hlookup
    · cases hlookup
  · split at hlookup
    · next points n hpoints hn =>
      cases hpoint : element points .textRange n with
      | error reason =>
          rw [hpoint] at hlookup
          cases hlookup
      | ok point =>
          rw [hpoint] at hlookup
          cases hlookup
          exact showable_of_points _
    · cases hlookup
    · cases hlookup

theorem shows_subscript {line : Nat} {container key : Value} (hs : s.Showable)
    (hkey : key.Showable) : Shows (subscript line container key) s := by
  unfold subscript
  simp only [Shows, ends_bind, ends_layerOf]
  split
  · next v hv => exact ⟨showable_of_lookup hs.heap hv, hs⟩
  · simp only [ends_bind, ends_get]
    exact ends_failShowing (Heap.isSome_shown? hs.heap hkey)

theorem showable_put {entries : Entries Value}
    (hentries : ∀ e ∈ entries, e.1.Showable ∧ e.2.Showable) {k : Scalar} {v : Value}
    (hk : k.Showable) (hv : v.Showable) : ∀ e ∈ entries.put k v, e.1.Showable ∧ e.2.Showable := by
  induction entries with
  | nil =>
      intro e he
      cases List.mem_singleton.mp he
      exact ⟨hk, hv⟩
  | cons f entries ih =>
      obtain ⟨hf, hrest⟩ := List.forall_mem_cons.mp hentries
      rw [Entries.put]
      split
      · exact List.forall_mem_cons.mpr ⟨⟨hf.1, hv⟩, hrest⟩
      · exact List.forall_mem_cons.mpr ⟨hf, ih hrest⟩

theorem showable_update {entries others : Entries Value}
    (hentries : ∀ e ∈ entries, e.1.Showable ∧ e.2.Showable)
    (hothers : ∀ e ∈ others, e.1.Showable ∧ e.2.Showable) :
    ∀ e ∈ entries.update others, e.1.Showable ∧ e.2.Showable := by
  induction others generalizing entries with
  | nil => exact hentries
  | cons f others ih =>
      obtain ⟨hf, hrest⟩ := List.forall_mem_cons.mp hothers
      exact ih (showable_put hentries hf.1 hf.2) hrest

theorem shows_assignInto {line : Nat} {container key value : Value} (hs : s.Showable)
    (hkey : key.Showable) (hvalue : value.Showable) :
    Ends (· ≠ .unexpected) (assignInto line container key value) s fun _ s' => s'.Showable := by
  unfold assignInto
  simp only [ends_bind, ends_layerOf]
  split
  · next address entries hentries =>
    refine (ends_keyOf hkey).bind ?_
    rintro k _ ⟨hk, rfl⟩
    exact hs.write _ (showable_put (Heap.showable_of_layer_dict hs.heap hentries) hk hvalue)
  · next address items k hk hitems =>
    split
    · split
      · refine hs.write _ fun v hv => ?_
        rcases List.mem_or_eq_of_mem_set hv with hv | rfl
        · exact Heap.showable_of_layer_list hs.heap hitems v hv
        · exact hvalue
      · exact ends_failShowing (showable_of_layer_scalar hkey hk)
    · exact shows_fail
  · exact shows_fail

theorem shows_require {line : Nat} {reference : Value} (hs : s.Showable) :
    Shows (require line reference) s := by
  unfold require
  rw [Shows, ends_bind, ends_layerOf]
  split
  · next r hr =>
    split
    · simp only [ends_bind, ends_modify, placeholder, ends_allocate]
      have hrequired : (s.require r).Showable := by
        rw [Sandbox.require]
        split
        · exact hs
        · exact ⟨hs.heap, hs.bindings⟩
      refine ⟨trivial, (hrequired.allocate (by simp [Cell.Showable])).allocate ?_⟩
      simp [Cell.Showable, Value.Showable, Scalar.Showable, Scalar.shown?, Heap.allocate]
    · exact shows_fail
  · exact shows_fail

end Evaluation

/-! Sources -/

/-- A literal has a written form: its integer, if it is one, is within the digit limit. -/
def Literal.Showable : Literal → Prop
  | .int n => n < Nat.pow 10 Scalar.digitLimit
  | .text s => s.Showable
  | _ => True

mutual

/-- The literals of an expression. -/
def Expr.literals : Expr → List Literal
  | .literal _ l => [l]
  | .name _ _ | .other _ _ => []
  | .list _ items | .tuple _ items => literalsIn items
  | .dict _ parts => literalsInParts parts
  | .subscript _ container key => container.literals ++ key.literals
  | .call _ function arguments _ => function.literals ++ literalsIn arguments
  | .negate _ operand | .starred _ operand => operand.literals
  | .add _ left right => left.literals ++ right.literals

def literalsIn : List Expr → List Literal
  | [] => []
  | e :: rest => e.literals ++ literalsIn rest

def literalsInParts : List (Option Expr × Expr) → List Literal
  | [] => []
  | (none, other) :: rest => other.literals ++ literalsInParts rest
  | (some key, value) :: rest => key.literals ++ value.literals ++ literalsInParts rest

end

def Statement.literals : Statement → List Literal
  | .assign _ targets value => literalsIn targets ++ value.literals
  | .augmented _ target _ value => target.literals ++ value.literals
  | .expression _ value => value.literals
  | .pass _ | .other _ _ => []

theorem literalsIn_subset {e : Expr} {es : List Expr} (h : e ∈ es) : e.literals ⊆ literalsIn es := by
  induction es with
  | nil => cases h
  | cons f es ih =>
      rw [literalsIn]
      rcases List.mem_cons.mp h with rfl | h
      · exact List.subset_append_left _ _
      · exact List.Subset.trans (ih h) (List.subset_append_right _ _)

namespace Evaluation

theorem shows_literal {s : Sandbox} (hs : s.Showable) {line : Nat} {l : Literal} (h : l.Showable) :
    Shows (literal line l) s := by
  cases l with
  | null => exact ⟨rfl, hs⟩
  | bool b => exact ⟨rfl, hs⟩
  | int n =>
      refine ⟨showable_int_iff.mpr ?_, hs⟩
      rw [Int.natAbs_natCast]
      exact h
  | float x => exact ⟨rfl, hs⟩
  | text t => exact ⟨h, hs⟩
  | bytes => exact shows_fail
  | imaginary => exact shows_fail
  | ellipsis => exact shows_fail

/-- Evaluating an expression whose literals can be shown gives a value that can be shown. -/
theorem shows_expression (e : Expr) (h : ∀ l ∈ e.literals, l.Showable) {s : Sandbox}
    (hs : s.Showable) : Shows (expression e) s := by
  -- Lists of expressions and of dictionary parts go along with the expressions that hold them.
  revert s
  induction e using Expr.induction
    (Q := fun es => (∀ l ∈ literalsIn es, l.Showable) → ∀ {s}, Sandbox.Showable s →
      Ends (· ≠ .unexpected) (expressions es) s fun vs s' => (∀ v ∈ vs, v.Showable) ∧ s'.Showable)
    (R := fun parts => (∀ l ∈ literalsInParts parts, l.Showable) → ∀ line acc,
      (∀ e ∈ acc, e.1.Showable ∧ e.2.Showable) → ∀ {s}, Sandbox.Showable s →
      Ends (· ≠ .unexpected) (entries line acc parts) s fun es s' =>
        (∀ e ∈ es, e.1.Showable ∧ e.2.Showable) ∧ s'.Showable) with
  | literal l v =>
      intro s hs
      rw [expression]
      exact shows_literal hs (h v List.mem_cons_self)
  | name l n =>
      intro s hs
      rw [expression, Shows, ends_bind, ends_get]
      split
      · next v hv => exact ⟨hs.lookup hv, hs⟩
      · exact shows_fail
  | list l items ih =>
      intro s hs
      rw [expression]
      split
      · exact shows_fail
      · exact (ih h hs).bind fun vs s' ⟨hvs, hs'⟩ => ⟨trivial, hs'.allocate hvs⟩
  | tuple l items ih =>
      intro s hs
      rw [expression]
      split
      · exact shows_fail
      · exact (ih h hs).bind fun vs s' ⟨hvs, hs'⟩ => ⟨trivial, hs'.allocate hvs⟩
  | dict l parts ih =>
      intro s hs
      rw [expression]
      exact (ih h l [] (by simp) hs).bind fun es s' ⟨hes, hs'⟩ => ⟨trivial, hs'.allocate hes⟩
  | subscript l container key ihcontainer ihkey =>
      intro s hs
      rw [Expr.literals, List.forall_mem_append] at h
      rw [expression]
      refine (ihcontainer h.1 hs).bind fun c s' hc => ?_
      exact (ihkey h.2 hc.2).bind fun k s' hk => shows_subscript hk.2 hk.1
  | call l function arguments keywords ih =>
      intro s hs
      rw [Expr.literals, List.forall_mem_append] at h
      unfold expression
      split
      · exact shows_fail
      · split
        · next argument =>
          refine (ih argument List.mem_cons_self ?_ hs).bind fun v s' hv => shows_require hv.2
          intro l hl
          exact h.2 l (literalsIn_subset List.mem_cons_self hl)
        · exact shows_fail
  | negate l operand ih =>
      intro s hs
      rw [expression]
      exact (ih h hs).bind fun v s' hv => shows_negate hv.2 hv.1
  | add l left right ihleft ihright =>
      intro s hs
      rw [Expr.literals, List.forall_mem_append] at h
      rw [expression]
      refine (ihleft h.1 hs).bind fun a s' ha => ?_
      exact (ihright h.2 ha.2).bind fun b s' hb => shows_add hb.2
  | starred l value =>
      intro s hs
      rw [expression]
      exact shows_fail
  | other l kind =>
      intro s hs
      rw [expression]
      exact shows_fail
  | nil =>
      rename_i h s hs
      rw [expressions]
      exact ⟨by simp, hs⟩
  | cons e rest ihe ihrest =>
      rename_i h s hs
      rw [literalsIn, List.forall_mem_append] at h
      rw [expressions]
      refine (ihe h.1 hs).bind fun v s' hv => ?_
      exact (ihrest h.2 hv.2).bind fun vs s' hvs => ⟨List.forall_mem_cons.mpr ⟨hv.1, hvs.1⟩, hvs.2⟩
  | done =>
      rename_i h line acc hacc s hs
      rw [entries]
      exact ⟨hacc, hs⟩
  | unpack other rest ihother ihrest =>
      rename_i h line acc hacc s hs
      rw [literalsInParts, List.forall_mem_append] at h
      rw [entries]
      refine (ihother h.1 hs).bind fun v s' hv => ?_
      rw [ends_bind, ends_layerOf]
      split
      · next others hothers =>
        exact ihrest h.2 line _
          (showable_update hacc (Heap.showable_of_layer_dict hv.2.heap hothers)) hv.2
      · exact shows_fail
  | entry key value rest ihkey ihvalue ihrest =>
      rename_i h line acc hacc s hs
      rw [literalsInParts, List.forall_mem_append, List.forall_mem_append] at h
      rw [entries]
      refine (ihvalue h.1.2 hs).bind fun v s' hv => ?_
      refine (ihkey h.1.1 hv.2).bind fun u s' hu => ?_
      refine (ends_keyOf hu.1).bind ?_
      rintro k _ ⟨hk, rfl⟩
      exact ihrest h.2 line _ (showable_put hacc hk hv.1) hu.2

theorem shows_assign {target : Expr} (h : ∀ l ∈ target.literals, l.Showable) {value : Value}
    (hvalue : value.Showable) {s : Sandbox} (hs : s.Showable) :
    Ends (· ≠ .unexpected) (assign value target) s fun _ s' => s'.Showable := by
  cases target with
  | name l n =>
      rw [assign]
      split
      · exact shows_fail
      · exact hs.bind n hvalue
  | subscript l container key =>
      rw [Expr.literals, List.forall_mem_append] at h
      rw [assign]
      refine (shows_expression container h.1 hs).bind fun c s' hc => ?_
      exact (shows_expression key h.2 hc.2).bind fun k s' hk => shows_assignInto hk.2 hk.1 hvalue
  | _ => exact shows_fail

theorem shows_statement {statement : Statement} (h : ∀ l ∈ statement.literals, l.Showable)
    {s : Sandbox} (hs : s.Showable) :
    Ends (· ≠ .unexpected) (Evaluation.statement statement) s fun _ s' => s'.Showable := by
  cases statement with
  | assign l targets value =>
      rw [Statement.literals, List.forall_mem_append] at h
      refine (shows_expression value h.2 hs).bind fun v s' hv => ?_
      exact ends_forM hv.2 fun target htarget s hs =>
        shows_assign (fun l hl => h.1 l (literalsIn_subset htarget hl)) hv.1 hs
  | augmented l target operator value =>
      rw [Statement.literals, List.forall_mem_append] at h
      cases operator with
      | add =>
          refine (shows_expression target h.1 hs).bind fun current s' hcurrent => ?_
          refine (shows_expression value h.2 hcurrent.2).bind fun more s' hmore => ?_
          exact (shows_add hmore.2).bind fun sum s' hsum => shows_assign h.1 hsum.1 hsum.2
      | _ => exact shows_fail
  | expression l value => exact (shows_expression value h hs).bind fun v s' hv => hv.2
  | pass l => exact hs
  | other l kind => exact shows_fail

/-- Statements whose literals can be shown never halt for want of a message. -/
theorem run_ne_unexpected {statements : List Statement}
    (h : ∀ statement ∈ statements, ∀ l ∈ statement.literals, l.Showable) :
    run statements ≠ .error .unexpected := by
  have hends : Ends (· ≠ .unexpected) (statements.forM statement) Sandbox.initial
      fun _ s' => s'.Showable :=
    ends_forM Sandbox.showable_initial fun statement hstatement s hs =>
      shows_statement (h statement hstatement) hs
  intro hrun
  rw [run] at hrun
  cases hresult : StateT.run (statements.forM statement) Sandbox.initial with
  | ok r =>
      rw [hresult] at hrun
      cases hrun
  | error reason =>
      rw [hresult] at hrun
      cases hrun
      exact hends.of_halt hresult rfl

end Evaluation

end Script

end PersistedOps
