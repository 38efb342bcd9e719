import Mathlib.Data.List.Perm.Subperm
import Mathlib.Logic.Relation
import PersistedOps.Proofs.Document.Descent
import PersistedOps.Proofs.Script.Shown
import PersistedOps.Proofs.Script.Store
import PersistedOps.Script.Extract

/-!
What can go wrong in a unit. Whatever a unit does, it gives a document or it is told why not, with two
exceptions: a message that would have to show an integer beyond the digit limit, and a document that
holds itself where it is read.
-/

namespace PersistedOps.Script

open Decode Relation

namespace Heap

variable {h : Heap}

/-- The reading of a document comes to a value that the reading of this value comes to again. -/
def Circular (h : Heap) (v : Value) : Prop :=
  ∃ d x, Lists h.view v d ∧ ReflTransGen (Part h.view) d x ∧ TransGen (Part h.view) x x

theorem exists_cell_of_part {v w : Value} (hpart : Part h.view v w) :
    ∃ address < h.cells.size, v = .cell address := by
  cases hpart with
  | item layer mem => exact exists_cell_of_layer (.inl ⟨_, layer, mem⟩)
  | entry layer plain mem => exact exists_cell_of_layer (.inr ⟨_, _, layer, mem⟩)
  | field layer node mem own known => exact exists_cell_of_layer (.inr ⟨_, _, layer, mem⟩)

/-- Whoever goes down further than there are cells comes to a cell again. The cells behind are kept, all
of them above the value that has been reached. -/
theorem exists_circle_of_descends {n : Nat} {v : Value} {behind : List Value}
    (hdescends : Descends h.view n v) (hnodup : behind.Nodup)
    (hcells : ∀ w ∈ behind, ∃ address < h.cells.size, w = .cell address)
    (habove : ∀ w ∈ behind, TransGen (Part h.view) w v)
    (hlength : h.cells.size < n + behind.length) :
    ∃ x, ReflTransGen (Part h.view) v x ∧ TransGen (Part h.view) x x := by
  induction n generalizing v behind with
  | zero =>
      have hle := length_le_size hnodup hcells
      omega
  | succ n ih =>
      by_cases hagain : v ∈ behind
      · exact ⟨v, .refl, habove v hagain⟩
      · obtain ⟨w, hpart, hdescends⟩ := hdescends
        have hnodup' : (v :: behind).Nodup := List.nodup_cons.mpr ⟨hagain, hnodup⟩
        obtain ⟨x, hreach, hcircle⟩ := ih hdescends hnodup'
          (List.forall_mem_cons.mpr ⟨exists_cell_of_part hpart, hcells⟩)
          (List.forall_mem_cons.mpr ⟨.single hpart, fun u hu => (habove u hu).tail hpart⟩)
          (by rw [List.length_cons]; omega)
        exact ⟨x, .head hpart hreach, hcircle⟩

/-- A document that holds no part of itself is read to its end. -/
theorem document_ne_endless {v : Value} (hcircular : ¬h.Circular v) :
    document h.view h.depth v ≠ .error .endless := by
  intro hendless
  obtain ⟨d, hlists, hdescends⟩ := exists_descends_of_document_eq_endless hendless
  obtain ⟨x, hreach, hcircle⟩ := exists_circle_of_descends hdescends List.nodup_nil (by simp)
    (by simp) (by rw [depth, List.length_nil]; omega)
  exact hcircular ⟨d, x, hlists, hreach, hcircle⟩

end Heap

/-- A source keeps clear of what no failure tells: its literals have a written form, and what it exports
does not hold itself. -/
structure Plain (source : String) : Prop where
  shown : ∀ statements, parse source = .ok statements →
    ∀ statement ∈ statements, ∀ l ∈ statement.literals, l.Showable
  finite : ∀ statements s v, parse source = .ok statements → Evaluation.run statements = .ok s →
    s.lookup? exportsName = some v → ¬s.heap.Circular v

theorem message?_isSome_of_ne_endless {e : DecodeError} (h : e ≠ .endless) :
    e.message?.isSome = true := by
  cases e with
  | endless => exact (h rfl).elim
  | _ => rfl

/-- A state that a plain source leaves exports a document, or it is told why not. -/
theorem Sandbox.exported_eq {s : Sandbox} (file : String)
    (h : ∀ v, s.lookup? exportsName = some v → ¬s.heap.Circular v) :
    (∃ d, s.exported file = .ok d) ∨ ∃ fault, s.exported file = .error (.extraction fault file none) := by
  rw [exported]
  split
  · exact .inr ⟨_, rfl⟩
  · next v hv =>
    split
    · next d hd => exact .inl ⟨d, rfl⟩
    · next e he =>
      have hends : e ≠ .endless := by
        rintro rfl
        exact Heap.document_ne_endless (h v hv) he
      obtain ⟨reason, hreason⟩ := Option.isSome_iff_exists.mp (message?_isSome_of_ne_endless hends)
      rw [hreason]
      exact .inr ⟨_, rfl⟩

/-- Extraction gives a unit or the failure of an extraction, from every source without null characters
that keeps clear of integers beyond the digit limit and of documents that hold themselves. -/
theorem extract_ok_or_extraction {file source : String} (hnull : '\x00' ∉ source.toList)
    (hplain : Plain source) :
    (∃ unit, extract file source = .ok unit) ∨
      ∃ fault line, extract file source = .error (.extraction fault file line) := by
  rw [extract, if_neg hnull]
  split
  · exact .inr ⟨_, _, rfl⟩
  · next statements hparse =>
    split
    · next reason hreason =>
      cases reason with
      | fault f line => exact .inr ⟨f, some line, rfl⟩
      | unexpected =>
          exact (Evaluation.run_ne_unexpected (hplain.shown statements hparse) hreason).elim
    · next s hs =>
      have hfinite (v : Value) (hv : s.lookup? exportsName = some v) : ¬s.heap.Circular v :=
        hplain.finite statements s v hparse hs hv
      rcases Sandbox.exported_eq file hfinite with ⟨d, hd⟩ | ⟨fault, hfault⟩
      · rw [hd]
        exact .inl ⟨_, rfl⟩
      · rw [hfault]
        exact .inr ⟨fault, none, rfl⟩

/-! Sources that build their values from the inside out -/

/-- Each cell holds only cells that were there before it. -/
def Heap.isLayered (h : Heap) : Bool :=
  (List.range h.cells.size).all fun a => (h.get? a).all fun c => c.values.all fun w =>
    match w with
    | .scalar _ => true
    | .cell b => b < a

theorem Heap.lt_of_part {h : Heap} (hlayered : h.isLayered = true) {a b : Nat}
    (hpart : Part h.view (.cell a) (.cell b)) : b < a := by
  obtain ⟨address, hsize, heq⟩ := exists_cell_of_part hpart
  cases heq
  have hcell := List.all_eq_true.mp hlayered a (List.mem_range.mpr hsize)
  have held (c : Cell) (hc : h.get? a = some c) (hb : .cell b ∈ c.values) : b < a := by
    rw [hc] at hcell
    exact of_decide_eq_true (List.all_eq_true.mp hcell _ hb)
  have hlist {items : List Value} (hlayer : h.layer (.cell a) = .list items)
      (hmem : .cell b ∈ items) : b < a := by
    rw [layer] at hlayer
    split at hlayer
    · next found hfound =>
      cases hlayer
      exact held _ hfound hmem
    · cases hlayer
    · cases hlayer
      cases hmem
  have hdict {entries : Entries Value} {key : Scalar} (hlayer : h.layer (.cell a) = .dict entries)
      (hmem : (key, .cell b) ∈ entries) : b < a := by
    rw [layer] at hlayer
    split at hlayer
    · cases hlayer
    · next found hfound =>
      cases hlayer
      exact held _ hfound (List.mem_map.mpr ⟨_, hmem, rfl⟩)
    · cases hlayer
  cases hpart with
  | item layer mem => exact hlist layer mem
  | entry layer plain mem => exact hdict layer mem
  | field layer node mem own known => exact hdict layer mem

theorem Heap.not_circular_of_layered {h : Heap} (hlayered : h.isLayered = true) (v : Value) :
    ¬h.Circular v := by
  -- Along parts addresses go down, so no walk comes back.
  have hdown {x y : Value} (hwalk : TransGen (Part h.view) x y) :
      ∀ a b, x = .cell a → y = .cell b → b < a := by
    induction hwalk with
    | single hpart =>
        rintro a b rfl rfl
        exact lt_of_part hlayered hpart
    | tail _ hpart ih =>
        rintro a c rfl rfl
        obtain ⟨b, -, rfl⟩ := exists_cell_of_part hpart
        exact Nat.lt_trans (lt_of_part hlayered hpart) (ih a b rfl rfl)
  rintro ⟨d, x, -, -, hcircle⟩
  obtain ⟨y, hpart, -⟩ := TransGen.head'_iff.mp hcircle
  obtain ⟨a, -, rfl⟩ := exists_cell_of_part hpart
  exact Nat.lt_irrefl a (hdown hcircle a a rfl rfl)

def Literal.isText : Literal → Bool
  | .text (.text _) => true
  | _ => false

theorem Literal.showable_of_isText {l : Literal} (h : l.isText = true) : l.Showable := by
  unfold isText at h
  split at h
  · rfl
  · cases h

/-- A unit that names a part of its document before it exports it. -/
def namedSource : String :=
  "f=\x7b'kind':'Name'\x7d\nexports=\x7b'kind':'Document','definitions':[f,f]\x7d"

theorem extract_ok_or_extraction_named :
    '\x00' ∉ namedSource.toList ∧ Plain namedSource ∧
      ((∃ unit, extract "<unit>" namedSource = .ok unit) ∨
        ∃ fault line, extract "<unit>" namedSource = .error (.extraction fault "<unit>" line)) := by
  have hnull : '\x00' ∉ namedSource.toList := by decide +kernel
  have hcheck : ((parse namedSource).toOption.all fun statements =>
      (statements.flatMap Statement.literals).all Literal.isText &&
        (Evaluation.run statements).toOption.all fun s => s.heap.isLayered) = true := by
    decide +kernel
  have hplain : Plain namedSource := by
    refine ⟨fun statements hparse statement hstatement l hl => ?_,
      fun statements s v hparse hs _ => ?_⟩
    · rw [hparse] at hcheck
      obtain ⟨htexts, -⟩ := Bool.and_eq_true_iff.mp hcheck
      exact Literal.showable_of_isText
        (List.all_eq_true.mp htexts l (List.mem_flatMap.mpr ⟨statement, hstatement, hl⟩))
    · rw [hparse] at hcheck
      obtain ⟨-, hlayered⟩ := Bool.and_eq_true_iff.mp hcheck
      rw [hs] at hlayered
      exact Heap.not_circular_of_layered hlayered v
  exact ⟨hnull, hplain, extract_ok_or_extraction hnull hplain⟩

/-- Whether a result is a failure that no class describes. -/
def escapes {α : Type} : Except Failure α → Bool
  | .ok _ => false
  | .error f => f.class?.isNone

theorem eq_unexpected_of_escapes {α : Type} {x : Except Failure α} (h : escapes x = true) :
    x = .error .unexpected := by
  cases x with
  | ok a => cases h
  | error f =>
      cases f with
      | unexpected => rfl
      | _ => cases h

/-- A unit whose document lists itself. -/
def circularSource : String := "exports=\x7b'kind':'Document'\x7d\nexports['definitions']=[exports]"

/-- A document that lists itself is neither extracted nor refused. -/
theorem extract_circular : '\x00' ∉ circularSource.toList ∧
    (∃ statements, parse circularSource = .ok statements) ∧
      extract "<unit>" circularSource = .error .unexpected := by
  have hescapes : extract "<unit>" circularSource = .error .unexpected :=
    eq_unexpected_of_escapes (by decide +kernel)
  refine ⟨by decide +kernel, ?_, hescapes⟩
  cases hparse : parse circularSource with
  | ok statements => exact ⟨statements, rfl⟩
  | error line =>
      rw [extract, if_neg (by decide +kernel), hparse] at hescapes
      cases hescapes

end PersistedOps.Script
