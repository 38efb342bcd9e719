import PersistedOps.Proofs.Script.Calls

/-!
What a unit says does not depend on what it requires. Two units that differ in the references they spell
out are evaluated in lockstep: the sandbox notes other references, and nothing reads its notes. So both
halt alike, or both come to the same document.
-/

namespace PersistedOps.Script

/-! ### Units without their references -/

/-- A reference that any other may be exchanged for. -/
def someReference : Scalar := .text "unit"

namespace Expr

/-- The reference that an argument spells out. -/
def spelled? : Expr → Option Scalar
  | literal _ (.text r) => if r.isText && r.truthy then some r else none
  | _ => none

mutual

/-- The expression with one and the same reference wherever a call spells out its own. -/
def unnamed : Expr → Expr
  | literal l v => literal l v
  | name l n => name l n
  | list l items => list l (unnamedIn items)
  | tuple l items => tuple l (unnamedIn items)
  | dict l parts => dict l (unnamedInParts parts)
  | subscript l container key => subscript l container.unnamed key.unnamed
  | call l function arguments keywords => call l function.unnamed
      (if Evaluation.callsRequire function then unnamedArguments arguments else unnamedIn arguments) keywords
  | negate l operand => negate l operand.unnamed
  | add l left right => add l left.unnamed right.unnamed
  | starred l value => starred l value.unnamed
  | other l kind => other l kind

def unnamedIn : List Expr → List Expr
  | [] => []
  | e :: rest => e.unnamed :: unnamedIn rest

def unnamedArguments : List Expr → List Expr
  | [] => []
  | e :: rest => (if e.spelled?.isSome then literal e.line (.text someReference) else e.unnamed)
      :: unnamedArguments rest

def unnamedInParts : List (Option Expr × Expr) → List (Option Expr × Expr)
  | [] => []
  | (none, unpacked) :: rest => (none, unpacked.unnamed) :: unnamedInParts rest
  | (some key, value) :: rest => (some key.unnamed, value.unnamed) :: unnamedInParts rest

end

/-- The argument of a call without the reference that it spells out. -/
def unnamedArgument (e : Expr) : Expr :=
  if e.spelled?.isSome then literal e.line (.text someReference) else e.unnamed

theorem unnamedArguments_singleton (e : Expr) : unnamedArguments [e] = [e.unnamedArgument] := by
  rw [unnamedArguments, unnamedArguments, unnamedArgument]

theorem unnamedArgument_of_spelled {e : Expr} {r : Scalar} (h : e.spelled? = some r) :
    e.unnamedArgument = literal e.line (.text someReference) := by
  rw [unnamedArgument, h, if_pos (by rfl)]

theorem unnamedArgument_of_computed {e : Expr} (h : e.spelled? = none) : e.unnamedArgument = e.unnamed := by
  rw [unnamedArgument, h, if_neg (by simp)]

theorem spelled?_unnamed (e : Expr) : e.unnamed.spelled? = e.spelled? := by
  cases e <;> rw [unnamed] <;> rfl

theorem isStarred_unnamed (e : Expr) : Evaluation.isStarred e.unnamed = Evaluation.isStarred e := by
  cases e <;> rw [unnamed] <;> rfl

theorem any_isStarred_unnamedIn (es : List Expr) :
    (unnamedIn es).any Evaluation.isStarred = es.any Evaluation.isStarred := by
  induction es with
  | nil => rw [unnamedIn]
  | cons e rest ih => rw [unnamedIn, List.any_cons, List.any_cons, isStarred_unnamed, ih]

theorem callsRequire_unnamed (e : Expr) : Evaluation.callsRequire e.unnamed = Evaluation.callsRequire e := by
  cases e <;> rw [unnamed] <;> rfl

end Expr

/-- The statement with one and the same reference wherever a call spells out its own. -/
def Statement.unnamed : Statement → Statement
  | .assign l targets value => .assign l (targets.map Expr.unnamed) value.unnamed
  | .augmented l target operator value => .augmented l target.unnamed operator value.unnamed
  | .expression l value => .expression l value.unnamed
  | .pass l => .pass l
  | .other l kind => .other l kind

namespace Evaluation

/-! ### Lockstep -/

variable {α β : Type} {s t s' t' : Sandbox} {l : Nat}

/-- What an evaluation comes to, apart from the references that it notes. -/
def outcome (m : Evaluation α) (s : Sandbox) : Except Halt (α × Store) :=
  (StateT.run m s).map fun r => (r.1, r.2.store)

/-- Two evaluations that come to the same, whatever references have been noted before. -/
def SameOutcome (m n : Evaluation α) : Prop :=
  ∀ s t, s.store = t.store → outcome m s = outcome n t

theorem SameOutcome.bind {m n : Evaluation α} {f g : α → Evaluation β} (h : SameOutcome m n)
    (hf : ∀ a, SameOutcome (f a) (g a)) : SameOutcome (m >>= f) (n >>= g) := by
  intro s t hstore
  have hfirst := h s t hstore
  rw [outcome, outcome] at hfirst ⊢
  rw [StateT.run_bind, StateT.run_bind]
  cases hm : StateT.run m s with
  | error reason =>
      cases hn : StateT.run n t with
      | error reason' =>
          rw [hm, hn] at hfirst
          cases hfirst
          rfl
      | ok r =>
          rw [hm, hn] at hfirst
          cases hfirst
  | ok r =>
      cases hn : StateT.run n t with
      | error reason =>
          rw [hm, hn] at hfirst
          cases hfirst
      | ok r' =>
          rw [hm, hn] at hfirst
          obtain ⟨a, s₁⟩ := r
          obtain ⟨b, t₁⟩ := r'
          obtain ⟨rfl, hstore₁⟩ : a = b ∧ s₁.store = t₁.store := by simpa [Except.map] using hfirst
          exact hf a s₁ t₁ hstore₁

theorem sameOutcome_pure (a : α) : SameOutcome (pure a : Evaluation α) (pure a) := by
  intro s t hstore
  exact congrArg (fun store => Except.ok (a, store)) hstore

theorem sameOutcome_throw (reason : Halt) : SameOutcome (throw reason : Evaluation α) (throw reason) :=
  fun _ _ _ => rfl

theorem sameOutcome_failShowing (shown? : Option String) (f : String → Fault) :
    SameOutcome (failShowing l shown? f : Evaluation α) (failShowing l shown? f) := by
  cases shown? <;> exact sameOutcome_throw _

theorem sameOutcome_forM {γ : Type} {f : α → Evaluation Unit} {g : γ → Evaluation Unit} {change : α → γ}
    (h : ∀ a, SameOutcome (f a) (g (change a))) (as : List α) :
    SameOutcome (as.forM f) ((as.map change).forM g) := by
  induction as with
  | nil => exact sameOutcome_pure ()
  | cons a as ih => exact (h a).bind fun _ => ih

/-! Operations read the heap and the names alone -/

theorem sameOutcome_layerOf (v : Value) : SameOutcome (layerOf v) (layerOf v) := by
  rintro ⟨heap, bindings, _⟩ ⟨_, _, _⟩ ⟨⟩
  rfl

theorem sameOutcome_allocate (c : Cell) : SameOutcome (allocate c) (allocate c) := by
  rintro ⟨heap, bindings, _⟩ ⟨_, _, _⟩ ⟨⟩
  rfl

theorem sameOutcome_write (address : Nat) (c : Cell) : SameOutcome (write address c) (write address c) := by
  rintro ⟨heap, bindings, _⟩ ⟨_, _, _⟩ ⟨⟩
  rfl

theorem sameOutcome_bindName (n : String) (v : Value) :
    SameOutcome (modify (·.bind n v)) (modify (·.bind n v)) := by
  rintro ⟨heap, bindings, _⟩ ⟨_, _, _⟩ ⟨⟩
  rfl

theorem sameOutcome_placeholder : SameOutcome placeholder placeholder :=
  (sameOutcome_allocate _).bind fun _ => sameOutcome_allocate _

theorem sameOutcome_keyOf (v : Value) : SameOutcome (keyOf l v) (keyOf l v) := by
  refine (sameOutcome_layerOf v).bind fun layer => ?_
  cases layer with
  | scalar k => exact sameOutcome_pure k
  | _ => exact sameOutcome_throw _

theorem sameOutcome_add (a b : Value) : SameOutcome (add l a b) (add l a b) := by
  refine (sameOutcome_layerOf a).bind fun x => (sameOutcome_layerOf b).bind fun y => ?_
  split
  · exact sameOutcome_allocate _
  · split
    · exact sameOutcome_pure _
    · exact sameOutcome_throw _
  · exact sameOutcome_throw _

theorem sameOutcome_negate (a : Value) : SameOutcome (negate l a) (negate l a) := by
  refine (sameOutcome_layerOf a).bind fun x => ?_
  split
  · exact sameOutcome_pure _
  · exact sameOutcome_pure _
  · exact sameOutcome_throw _

theorem sameOutcome_subscript (c k : Value) : SameOutcome (subscript l c k) (subscript l c k) := by
  refine (sameOutcome_layerOf c).bind fun x => (sameOutcome_layerOf k).bind fun y => ?_
  split
  · exact sameOutcome_pure _
  · rintro ⟨heap, bindings, _⟩ ⟨_, _, _⟩ ⟨⟩
    exact sameOutcome_failShowing _ _ _ _ rfl

theorem sameOutcome_assignInto (c k v : Value) : SameOutcome (assignInto l c k v) (assignInto l c k v) := by
  refine (sameOutcome_layerOf c).bind fun x => (sameOutcome_layerOf k).bind fun y => ?_
  split
  · exact (sameOutcome_keyOf k).bind fun _ => sameOutcome_write _ _
  · split
    · split
      · exact sameOutcome_write _ _
      · exact sameOutcome_failShowing _ _
    · exact sameOutcome_throw _
  · exact sameOutcome_throw _

theorem sameOutcome_note (r r' : Scalar) : SameOutcome (modify (·.require r)) (modify (·.require r')) := by
  intro s t hstore
  have hnoted : (s.require r).store = (t.require r').store := by
    rw [Execution.store_require, Execution.store_require, hstore]
  exact congrArg (fun store => Except.ok ((), store)) hnoted

theorem sameOutcome_require (v : Value) : SameOutcome (require l v) (require l v) := by
  refine (sameOutcome_layerOf v).bind fun layer => ?_
  split
  · split
    · exact (sameOutcome_note _ _).bind fun _ => sameOutcome_placeholder
    · exact sameOutcome_throw _
  · exact sameOutcome_throw _

theorem run_require {r : Scalar} (h : (r.isText && r.truthy) = true) (s : Sandbox) :
    StateT.run (require l (.scalar r)) s = StateT.run placeholder (s.require r) := by
  show StateT.run (if (r.isText && r.truthy) = true then modify (·.require r) >>= fun _ => placeholder
    else fail l .requireText) s = _
  rw [if_pos h]
  rfl

/-- A reference is as good as any other. -/
theorem sameOutcome_require_exchanged {r r' : Scalar} (h : (r.isText && r.truthy) = true)
    (h' : (r'.isText && r'.truthy) = true) :
    SameOutcome (require l (.scalar r)) (require l (.scalar r')) := by
  intro s t hstore
  rw [outcome, outcome, run_require h, run_require h']
  refine sameOutcome_placeholder (s.require r) (t.require r') ?_
  rw [Execution.store_require, Execution.store_require, hstore]

/-! ### Expressions and statements -/

theorem exists_of_spelled? {e : Expr} {r : Scalar} (h : e.spelled? = some r) :
    (∃ l, e = .literal l (.text r)) ∧ (r.isText && r.truthy) = true := by
  unfold Expr.spelled? at h
  split at h
  · next l x =>
    split at h
    · next hx =>
      cases h
      exact ⟨⟨l, rfl⟩, hx⟩
    · cases h
  · cases h

theorem expression_text (r : Scalar) : expression (.literal l (.text r)) = pure (.scalar r) := by
  rw [expression]
  rfl

theorem sameOutcome_argument {argument : Expr}
    (h : SameOutcome (expression argument) (expression argument.unnamed)) :
    SameOutcome (expression argument >>= require l) (expression argument.unnamedArgument >>= require l) := by
  cases hspelled : argument.spelled? with
  | some r =>
      rw [Expr.unnamedArgument_of_spelled hspelled]
      obtain ⟨⟨m, rfl⟩, hnamed⟩ := exists_of_spelled? hspelled
      rw [expression_text, expression_text, pure_bind, pure_bind]
      exact sameOutcome_require_exchanged hnamed (by decide)
  | none =>
      rw [Expr.unnamedArgument_of_computed hspelled]
      exact h.bind fun v => sameOutcome_require v

theorem expression_call {function argument : Expr} (h : callsRequire function = true) :
    expression (.call l function [argument] false) = expression argument >>= require l := by
  rw [expression.eq_def]
  simp only [h]
  rfl

theorem sameOutcome_call {function : Expr} {arguments : List Expr} {keywords : Bool}
    (h : ∀ e ∈ arguments, SameOutcome (expression e) (expression e.unnamed)) :
    SameOutcome (expression (.call l function arguments keywords))
      (expression (Expr.call l function arguments keywords).unnamed) := by
  rw [Expr.unnamed]
  cases hcalls : callsRequire function with
  | false =>
      have hfail (es : List Expr) (f : Expr) (hf : callsRequire f = false) :
          expression (.call l f es keywords) = fail l .onlyRequireCalls := by
        rw [expression.eq_def]
        simp only [hf]
        rfl
      rw [hfail _ _ hcalls, hfail _ _ ((Expr.callsRequire_unnamed function).trans hcalls)]
      exact sameOutcome_throw _
  | true =>
      have hcalls' := (Expr.callsRequire_unnamed function).trans hcalls
      rw [if_pos rfl]
      match arguments, keywords, h with
      | [argument], false, h =>
          rw [Expr.unnamedArguments_singleton, expression_call hcalls, expression_call hcalls']
          exact sameOutcome_argument (h argument List.mem_cons_self)
      | [argument], true, _ =>
          rw [Expr.unnamedArguments_singleton, expression.eq_def, expression.eq_def]
          simp only [hcalls, hcalls']
          exact sameOutcome_throw _
      | [], _, _ =>
          rw [Expr.unnamedArguments, expression.eq_def, expression.eq_def]
          simp only [hcalls, hcalls']
          exact sameOutcome_throw _
      | _ :: _ :: _, _, _ =>
          rw [Expr.unnamedArguments, Expr.unnamedArguments, expression.eq_def, expression.eq_def]
          simp only [hcalls, hcalls']
          exact sameOutcome_throw _

/-- An expression is evaluated in lockstep with the same expression without its references. -/
theorem sameOutcome_expression (e : Expr) : SameOutcome (expression e) (expression e.unnamed) := by
  -- Lists of expressions and parts of dictionary displays go along.
  induction e using Expr.induction
    (Q := fun es => SameOutcome (expressions es) (expressions (Expr.unnamedIn es)))
    (R := fun parts => ∀ l acc, SameOutcome (entries l acc parts) (entries l acc (Expr.unnamedInParts parts))) with
  | literal l v =>
      rw [Expr.unnamed, expression]
      cases v with
      | bytes | imaginary | ellipsis => exact sameOutcome_throw _
      | _ => exact sameOutcome_pure _
  | name l n =>
      rw [Expr.unnamed, expression]
      rintro ⟨heap, bindings, _⟩ ⟨_, _, _⟩ ⟨⟩
      simp only [outcome, StateT.run_bind, StateT.run_get, pure_bind, Sandbox.lookup?]
      cases bindings.lookup n with
      | none => rfl
      | some v => rfl
  | list l items ih =>
      rw [Expr.unnamed, expression, expression, Expr.any_isStarred_unnamedIn]
      split
      · exact sameOutcome_throw _
      · exact ih.bind fun vs => sameOutcome_allocate _
  | tuple l items ih =>
      rw [Expr.unnamed, expression, expression, Expr.any_isStarred_unnamedIn]
      split
      · exact sameOutcome_throw _
      · exact ih.bind fun vs => sameOutcome_allocate _
  | dict l parts ih =>
      rw [Expr.unnamed, expression, expression]
      exact (ih l []).bind fun es => sameOutcome_allocate _
  | subscript l container key ihcontainer ihkey =>
      rw [Expr.unnamed, expression, expression]
      exact ihcontainer.bind fun c => ihkey.bind fun k => sameOutcome_subscript c k
  | call l function arguments keywords ih => exact sameOutcome_call ih
  | negate l operand ih =>
      rw [Expr.unnamed, expression, expression]
      exact ih.bind fun v => sameOutcome_negate v
  | add l left right ihleft ihright =>
      rw [Expr.unnamed, expression, expression]
      exact ihleft.bind fun a => ihright.bind fun b => sameOutcome_add a b
  | starred l value =>
      rw [Expr.unnamed, expression, expression]
      exact sameOutcome_throw _
  | other l kind =>
      rw [Expr.unnamed, expression]
      exact sameOutcome_throw _
  | nil =>
      rw [Expr.unnamedIn, expressions]
      exact sameOutcome_pure _
  | cons e rest ihe ihrest =>
      rw [Expr.unnamedIn, expressions, expressions]
      exact ihe.bind fun v => ihrest.bind fun vs => sameOutcome_pure _
  | done =>
      rw [Expr.unnamedInParts, entries]
      exact sameOutcome_pure _
  | unpack other rest ihother ihrest =>
      rw [Expr.unnamedInParts, entries, entries]
      refine ihother.bind fun v => (sameOutcome_layerOf v).bind fun layer => ?_
      cases layer with
      | dict others => exact ihrest _ _
      | _ => exact sameOutcome_throw _
  | entry key value rest ihkey ihvalue ihrest =>
      rw [Expr.unnamedInParts, entries, entries]
      exact ihvalue.bind fun v => ihkey.bind fun u => (sameOutcome_keyOf u).bind fun k => ihrest _ _

theorem sameOutcome_assign (v : Value) (target : Expr) :
    SameOutcome (assign v target) (assign v target.unnamed) := by
  cases target with
  | name l n =>
      rw [Expr.unnamed, assign]
      split
      · exact sameOutcome_throw _
      · exact sameOutcome_bindName n v
  | subscript l container key =>
      rw [Expr.unnamed, assign, assign]
      exact (sameOutcome_expression container).bind fun c => (sameOutcome_expression key).bind fun k =>
        sameOutcome_assignInto c k v
  | _ =>
      rw [Expr.unnamed]
      exact sameOutcome_throw _

theorem sameOutcome_statement (st : Statement) : SameOutcome (statement st) (statement st.unnamed) := by
  cases st with
  | assign l targets value =>
      rw [Statement.unnamed, statement, statement]
      exact (sameOutcome_expression value).bind fun v => sameOutcome_forM (sameOutcome_assign v) targets
  | augmented l target operator value =>
      cases operator with
      | add =>
          rw [Statement.unnamed, statement, statement]
          exact (sameOutcome_expression target).bind fun current => (sameOutcome_expression value).bind fun more =>
            (sameOutcome_add current more).bind fun sum => sameOutcome_assign sum target
      | _ => exact sameOutcome_throw _
  | expression l value =>
      rw [Statement.unnamed, statement, statement]
      exact (sameOutcome_expression value).bind fun _ => sameOutcome_pure ()
  | pass l => exact sameOutcome_pure ()
  | other l kind => exact sameOutcome_throw _

end Evaluation

end PersistedOps.Script
