import PersistedOps.Proofs.Document.Merging
import PersistedOps.Proofs.Script.Following
import PersistedOps.Proofs.Script.Runs

/-!
The calls that pull in units. A unit has no branches and no loops, so what it requires is told by going
through it once. There are two ways: the sandbox finds the value of an entry before its key, and the
target of an augmented assignment twice; an execution finds a key before its value and a target once.

The sandbox notes the references of the calls as it makes them, and each call gets a placeholder of its
own.
-/

namespace PersistedOps.Script

/-- A call that has been made: the reference it was given, and the two cells of the placeholder that it
gave. -/
structure Call where
  reference : Scalar
  placeholder : Nat
  definitions : Nat
deriving DecidableEq, Repr

def Call.cells (c : Call) : List Nat := [c.placeholder, c.definitions]

/-- The ways to go through a unit. -/
inductive Way where
  /-- As the sandbox evaluates it. -/
  | evaluated
  /-- As it is executed directly. -/
  | executed
deriving DecidableEq, Repr

namespace Way

variable {α : Type}

/-- What is found for an entry of a dictionary display. -/
def entry (way : Way) (key value : List α) : List α :=
  match way with
  | evaluated => value ++ key
  | executed => key ++ value

/-- What is found when an augmented assignment comes back to its target. -/
def again (way : Way) (target : List α) : List α :=
  match way with
  | evaluated => target
  | executed => []

end Way

namespace Evaluation

/-- What there is to tell after an evaluation, unless it halts. -/
def after {α : Type} (m : Evaluation α) (s : Sandbox) (f : α → Sandbox → List Call) : List Call :=
  match StateT.run m s with
  | .ok (a, s') => f a s'
  | .error _ => []

/-- The call that was given a reference and gave a placeholder. -/
def called (reference placeholder : Value) (s : Sandbox) : List Call :=
  match reference, placeholder with
  | .scalar r, .cell a =>
    match lookup (s.heap.layer (.cell a)) (.scalar (.text "definitions")) with
    | .ok (.cell d) => [⟨r, a, d⟩]
    | _ => []
  | _, _ => []

mutual

/-- The calls in an expression, as the sandbox makes them; the way tells in which order. -/
def calls (way : Way) : Expr → Sandbox → List Call
  | .literal _ _, _ | .name _ _, _ | .starred _ _, _ | .other _ _, _ => []
  | .list _ items, s | .tuple _ items, s => callsOfAll way items s
  | .dict _ parts, s => callsOfParts way parts s
  | .subscript _ left right, s | .add _ left right, s =>
    calls way left s ++ after (expression left) s fun _ => calls way right
  | .call l _ arguments _, s => match arguments with
    | [argument] => calls way argument s ++ after (expression argument) s fun r s₁ =>
        after (require l r) s₁ (called r)
    | _ => []
  | .negate _ operand, s => calls way operand s

def callsOfAll (way : Way) : List Expr → Sandbox → List Call
  | [], _ => []
  | e :: rest, s => calls way e s ++ after (expression e) s fun _ => callsOfAll way rest

def callsOfParts (way : Way) : List (Option Expr × Expr) → Sandbox → List Call
  | [], _ => []
  | (none, other) :: rest, s =>
    calls way other s ++ after (expression other) s fun _ => callsOfParts way rest
  | (some key, value) :: rest, s =>
    way.entry (after (expression value) s fun _ => calls way key) (calls way value s) ++
      after (expression value) s fun _ s₁ => after (expression key) s₁ fun _ => callsOfParts way rest

end

def callsOfTargets (way : Way) (v : Value) : List Expr → Sandbox → List Call
  | [], _ => []
  | target :: rest, s =>
    calls way target s ++ after (assign v target) s fun _ => callsOfTargets way v rest

def callsOfStatement (way : Way) : Statement → Sandbox → List Call
  | .assign _ targets value, s =>
    calls way value s ++ after (expression value) s fun v => callsOfTargets way v targets
  | .augmented l target _ value, s =>
    calls way target s ++ after (expression target) s fun current s₁ => calls way value s₁ ++
      after (expression value) s₁ fun more s₂ => after (add l current more) s₂ fun _ s₃ =>
        way.again (calls way target s₃)
  | .expression _ value, s => calls way value s
  | .pass _, _ | .other _ _, _ => []

def callsOfStatements (way : Way) : List Statement → Sandbox → List Call
  | [], _ => []
  | st :: rest, s => callsOfStatement way st s ++ after (statement st) s fun _ => callsOfStatements way rest

variable {s s' s'' : Sandbox} {v w : Value} {l : Nat}

theorem after_of_run {α : Type} {m : Evaluation α} {a : α} {f : α → Sandbox → List Call}
    (h : StateT.run m s = .ok (a, s')) : after m s f = f a s' := by
  rw [after, h]

theorem calls_call {way : Way} {function argument : Expr} {keywords : Bool} :
    calls way (.call l function [argument] keywords) s = calls way argument s ++
      after (expression argument) s fun r s₁ => after (require l r) s₁ (called r) := by
  rw [calls.eq_def]

/-! ### What the sandbox notes -/

/-- Between two states the sandbox has made these calls. -/
structure Made (s s' : Sandbox) (made : List Call) : Prop where
  references : ∀ before, s.references = before.eraseDups →
    s'.references = (before ++ made.map (·.reference)).eraseDups
  named : ∀ c ∈ made, c.reference.isText = true ∧ c.reference.truthy = true
  size_le : s.heap.cells.size ≤ s'.heap.cells.size
  new : ∀ c ∈ made, ∀ a ∈ c.cells, s.heap.cells.size ≤ a ∧ a < s'.heap.cells.size
  apart : made.Pairwise fun c d => c.cells.Disjoint d.cells

namespace Made

variable {made more : List Call}

theorem none (hreferences : s'.references = s.references) (hsize : s.heap.cells.size ≤ s'.heap.cells.size) :
    Made s s' [] where
  references before h := by
    rw [hreferences, h, List.map_nil, List.append_nil]
  named c hc := by cases hc
  size_le := hsize
  new c hc := by cases hc
  apart := .nil

theorem refl (s : Sandbox) : Made s s [] := none rfl (Nat.le_refl _)

theorem trans (h : Made s s' made) (h' : Made s' s'' more) : Made s s'' (made ++ more) where
  references before hbefore := by
    rw [List.map_append, ← List.append_assoc]
    exact h'.references _ (h.references _ hbefore)
  named := List.forall_mem_append.mpr ⟨h.named, h'.named⟩
  size_le := Nat.le_trans h.size_le h'.size_le
  new := by
    refine List.forall_mem_append.mpr ⟨fun c hc a ha => ?_, fun c hc a ha => ?_⟩
    · obtain ⟨hle, hlt⟩ := h.new c hc a ha
      exact ⟨hle, Nat.lt_of_lt_of_le hlt h'.size_le⟩
    · obtain ⟨hle, hlt⟩ := h'.new c hc a ha
      exact ⟨Nat.le_trans h.size_le hle, hlt⟩
  apart := by
    refine List.pairwise_append.mpr ⟨h.apart, h'.apart, fun c hc d hd a hac had => ?_⟩
    have hlt := (h.new c hc a hac).2
    have hle := (h'.new d hd a had).1
    omega

/-- What makes no calls does not matter. -/
theorem quiet (h : Made s s' made) (h' : Made s' s'' []) : Made s s'' made := by
  simpa using h.trans h'

end Made

theorem references_require {r : Scalar} {before : List Scalar} (h : s.references = before.eraseDups) :
    (s.require r).references = (before ++ [r]).eraseDups := by
  rw [eraseDups_concat, Sandbox.require, h]
  simp only [List.mem_eraseDups]
  split <;> simp_all

/-! ### Operations make no calls -/

theorem made_allocate {c : Cell} (h : StateT.run (allocate c) s = .ok (v, s')) : Made s s' [] := by
  cases h
  exact .none rfl (by simp)

theorem made_subscript {c k : Value} (h : StateT.run (subscript l c k) s = .ok (v, s')) :
    Made s s' [] := by
  obtain ⟨rfl, -⟩ := Execution.ends_subscript.of_run h
  exact .refl _

theorem made_negate (h : StateT.run (negate l w) s = .ok (v, s')) : Made s s' [] := by
  obtain ⟨rfl, -⟩ := cases_of_run_negate h
  exact .refl _

theorem made_add {a b : Value} (h : StateT.run (add l a b) s = .ok (v, s')) : Made s s' [] := by
  obtain ⟨xs, ys, -, -, hnew⟩ | ⟨_, _, _, -, -, -, -, rfl⟩ := cases_of_run_add h
  · exact made_allocate hnew
  · exact .refl _

theorem made_write {b : Nat} {c : Cell} : Made s { s with heap := s.heap.set b c } [] :=
  .none rfl (by simp [Heap.set])

theorem made_assignInto {container key : Value}
    (h : StateT.run (assignInto l container key v) s = .ok ((), s')) : Made s s' [] := by
  have hassign : Ends (fun _ => True) (assignInto l container key v) s fun _ s' => Made s s' [] := by
    unfold assignInto
    simp only [ends_bind, ends_layerOf]
    split
    · refine Execution.ends_keyOf.bind ?_
      rintro k _ ⟨rfl, -⟩
      exact made_write
    · split
      · split
        · exact made_write
        · exact Execution.ends_failShowing
      · exact trivial
    · exact trivial
  exact hassign.of_run h

/-- A placeholder stands in two new cells. -/
theorem run_placeholder (s : Sandbox) : StateT.run placeholder s
    = .ok (.cell (s.heap.cells.size + 1), { s with heap :=
        ((s.heap.allocate (.list [])).2.allocate (Execution.placeholderCell s.heap.cells.size)).2 }) := by
  have hsize : (s.heap.allocate (.list [])).2.cells.size = s.heap.cells.size + 1 := Array.size_push _
  rw [← hsize]
  rfl

/-- A call notes its reference and gives a placeholder in two new cells. -/
theorem exists_of_run_call_require {r : Value} (h : StateT.run (require l r) s = .ok (v, s')) :
    ∃ x, r = .scalar x ∧ x.isText = true ∧ x.truthy = true ∧ v = .cell (s.heap.cells.size + 1) ∧
      called r v s' = [⟨x, s.heap.cells.size + 1, s.heap.cells.size⟩] ∧
      s'.references = (s.require x).references ∧ s'.store = (s.store.allocate (.list [])).allocate
        (Execution.placeholderCell s.heap.cells.size) := by
  obtain ⟨x, rfl, htext, htruthy, hplaceholder⟩ := exists_of_run_require h
  have hstore := Execution.store_require (s := s) x
  have hheap : (s.require x).heap = s.heap := congrArg Store.heap hstore
  rw [run_placeholder, hheap] at hplaceholder
  cases hplaceholder
  have hsize : (s.heap.allocate (.list [])).2.cells.size = s.heap.cells.size + 1 := Array.size_push _
  have hcell : ((s.heap.allocate (.list [])).2.allocate
      (Execution.placeholderCell s.heap.cells.size)).2.get? (s.heap.cells.size + 1)
        = some (Execution.placeholderCell s.heap.cells.size) := by
    rw [Heap.get?_allocate, if_pos hsize.symm]
  refine ⟨x, rfl, htext, htruthy, rfl, ?_, rfl, ?_⟩
  · simp only [called, Heap.layer_cell hcell]
    rfl
  · exact congrArg (Store.mk _) (congrArg Store.bindings hstore)

/-- A call of its own. -/
theorem made_require {r : Value} (h : StateT.run (require l r) s = .ok (v, s')) :
    Made s s' (called r v s') := by
  obtain ⟨x, -, htext, htruthy, -, hcalled, hreferences, hstore⟩ := exists_of_run_call_require h
  have hsize : s'.heap.cells.size = s.heap.cells.size + 2 := by
    have hheap := congrArg (fun store : Store => store.heap.cells.size) hstore
    simpa [Sandbox.store, Store.allocate, Heap.allocate] using hheap
  rw [hcalled]
  refine ⟨fun before hbefore => ?_, ?_, ?_, ?_, List.pairwise_singleton _ _⟩
  · rw [hreferences]
    exact references_require hbefore
  · simpa using ⟨htext, htruthy⟩
  · omega
  · simp only [forall_eq, Call.cells, List.mem_cons, List.not_mem_nil, or_false, forall_eq_or_imp]
    omega

/-! ### What is evaluated makes its calls -/

theorem made_expression (e : Expr) : ∀ s v s', StateT.run (expression e) s = .ok (v, s') →
    Made s s' (calls .evaluated e s) := by
  -- Lists of expressions and parts of dictionary displays go along.
  induction e using Expr.induction
    (Q := fun es => ∀ s vs s', StateT.run (expressions es) s = .ok (vs, s') →
      Made s s' (callsOfAll .evaluated es s))
    (R := fun parts => ∀ l acc s es s', StateT.run (entries l acc parts) s = .ok (es, s') →
      Made s s' (callsOfParts .evaluated parts s)) with
  | literal l v =>
      intro s w s' h
      rw [expression] at h
      have hs : s' = s := by cases v <;> cases h <;> rfl
      rw [hs, calls]
      exact .refl s
  | name l n =>
      intro s v s' h
      rw [expression, run_bind_eq_ok_iff] at h
      obtain ⟨_, _, ⟨⟩, h⟩ := h
      split at h <;> cases h
      rw [calls]
      exact .refl s
  | list l items ih =>
      intro s v s' h
      obtain ⟨vs, s₁, hitems, hnew⟩ := exists_of_run_list h
      rw [calls]
      exact (ih s vs s₁ hitems).quiet (made_allocate hnew)
  | tuple l items ih =>
      intro s v s' h
      obtain ⟨vs, s₁, hitems, hnew⟩ := exists_of_run_tuple h
      rw [calls]
      exact (ih s vs s₁ hitems).quiet (made_allocate hnew)
  | dict l parts ih =>
      intro s v s' h
      obtain ⟨es, s₁, hparts, hnew⟩ := exists_of_run_dict h
      rw [calls]
      exact (ih l [] s es s₁ hparts).quiet (made_allocate hnew)
  | subscript l container key ihcontainer ihkey =>
      intro s v s' h
      obtain ⟨c, s₁, k, s₂, hc, hk, hfound⟩ := exists_of_run_subscript h
      rw [calls, after_of_run hc]
      exact ((ihcontainer s c s₁ hc).trans (ihkey s₁ k s₂ hk)).quiet (made_subscript hfound)
  | call l function arguments keywords ih =>
      intro s v s' h
      obtain ⟨argument, r, s₁, rfl, hr, hrequire⟩ := exists_of_run_call h
      rw [calls_call, after_of_run hr, after_of_run hrequire]
      exact (ih argument List.mem_cons_self s r s₁ hr).trans (made_require hrequire)
  | negate l operand ih =>
      intro s v s' h
      obtain ⟨w, s₁, hw, hnegate⟩ := exists_of_run_negate h
      rw [calls]
      exact (ih s w s₁ hw).quiet (made_negate hnegate)
  | add l left right ihleft ihright =>
      intro s v s' h
      obtain ⟨a, s₁, b, s₂, ha, hb, hsum⟩ := exists_of_run_add h
      rw [calls, after_of_run ha]
      exact ((ihleft s a s₁ ha).trans (ihright s₁ b s₂ hb)).quiet (made_add hsum)
  | starred l value =>
      intro s v s' h
      rw [expression] at h
      cases h
  | other l kind =>
      intro s v s' h
      rw [expression] at h
      cases h
  | nil =>
      rename_i s vs s' h
      rw [expressions] at h
      cases h
      rw [callsOfAll]
      exact .refl s
  | cons e rest ihe ihrest =>
      rename_i s vs s' h
      obtain ⟨w, ws, s₁, hw, hws, -⟩ := exists_of_run_expressions_cons h
      rw [callsOfAll, after_of_run hw]
      exact (ihe s w s₁ hw).trans (ihrest s₁ ws s' hws)
  | done =>
      rename_i l acc s es s' h
      rw [entries] at h
      cases h
      rw [callsOfParts]
      exact .refl s
  | unpack other rest ihother ihrest =>
      rename_i l acc s es s' h
      obtain ⟨w, s₁, others, hw, -, hrest⟩ := exists_of_run_entries_unpack h
      rw [callsOfParts, after_of_run hw]
      exact (ihother s w s₁ hw).trans (ihrest _ _ s₁ es s' hrest)
  | entry key value rest ihkey ihvalue ihrest =>
      rename_i l acc s es s' h
      obtain ⟨w, s₁, u, s₂, k, hw, hu, -, hrest⟩ := exists_of_run_entries_entry h
      rw [callsOfParts, after_of_run hw, after_of_run hw, after_of_run hu]
      exact ((ihvalue s w s₁ hw).trans (ihkey s₁ u s₂ hu)).trans (ihrest _ _ s₂ es s' hrest)

theorem made_assign {target : Expr} (h : StateT.run (assign w target) s = .ok ((), s')) :
    Made s s' (calls .evaluated target s) := by
  cases target with
  | name l n =>
      obtain rfl := eq_bind_of_run_assign_name h
      rw [calls]
      exact .none rfl (Nat.le_refl _)
  | subscript l container key =>
      obtain ⟨c, s₁, k, s₂, hc, hk, hassign⟩ := exists_of_run_assign_subscript h
      rw [calls, after_of_run hc]
      exact ((made_expression container s c s₁ hc).trans (made_expression key s₁ k s₂ hk)).quiet
        (made_assignInto hassign)
  | _ => cases h

theorem made_assigns {targets : List Expr} (h : StateT.run (targets.forM (assign w)) s = .ok ((), s')) :
    Made s s' (callsOfTargets .evaluated w targets s) := by
  induction targets generalizing s with
  | nil =>
      cases h
      exact .refl _
  | cons target rest ih =>
      obtain ⟨s₁, htarget, hrest⟩ := run_forM_cons_eq_ok_iff.mp h
      rw [callsOfTargets, after_of_run htarget]
      exact (made_assign htarget).trans (ih hrest)

theorem made_statement {st : Statement} (h : StateT.run (statement st) s = .ok ((), s')) :
    Made s s' (callsOfStatement .evaluated st s) := by
  cases st with
  | assign l targets value =>
      obtain ⟨w, s₁, hw, htargets⟩ := exists_of_run_assignment h
      rw [callsOfStatement, after_of_run hw]
      exact (made_expression value s w s₁ hw).trans (made_assigns htargets)
  | augmented l target operator value =>
      obtain ⟨current, s₁, more, s₂, sum, s₃, hcurrent, hmore, hsum, hassign⟩ := exists_of_run_augmented h
      rw [callsOfStatement, after_of_run hcurrent, after_of_run hmore, after_of_run hsum]
      exact (made_expression target s current s₁ hcurrent).trans
        (((made_expression value s₁ more s₂ hmore).quiet (made_add hsum)).trans (made_assign hassign))
  | expression l value =>
      obtain ⟨w, hw⟩ := exists_of_run_expression h
      exact made_expression value s w s' hw
  | pass l =>
      cases h
      exact .refl s
  | other l kind => cases h

theorem made_statements {statements : List Statement}
    (h : StateT.run (statements.forM statement) s = .ok ((), s')) :
    Made s s' (callsOfStatements .evaluated statements s) := by
  induction statements generalizing s with
  | nil =>
      cases h
      exact .refl _
  | cons st rest ih =>
      obtain ⟨s₁, hst, hrest⟩ := run_forM_cons_eq_ok_iff.mp h
      rw [callsOfStatements, after_of_run hst]
      exact (made_statement hst).trans (ih hrest)

end Evaluation

end PersistedOps.Script
