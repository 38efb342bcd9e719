import PersistedOps.Proofs.Script.Reading

/-!
Readings inside a line. An expression that takes no line end and no change of indentation never looks
past the end of the line it begins on, so it reads the same whatever lines come behind.
-/

namespace PersistedOps.Script

variable {Rule : Type → Type} {α β : Type}

/-- A token that stands inside a line. -/
def TokenKind.isInner : TokenKind → Bool
  | newline | indent | dedent | finish => false
  | _ => true

/-- Tokens up to the end of a line. -/
def EndsLine (tokens : List Token) : Prop := ∃ line t, tokens = line ++ [t] ∧ t.kind = .newline

theorem EndsLine.tail {t : Token} {tokens : List Token} (h : EndsLine (t :: tokens))
    (ht : t.kind ≠ .newline) : EndsLine tokens := by
  obtain ⟨line, last, heq, hlast⟩ := h
  cases line with
  | nil =>
      cases heq
      exact absurd hlast ht
  | cons _ line =>
      cases heq
      exact ⟨line, last, rfl, hlast⟩

theorem EndsLine.exists_cons {tokens : List Token} (h : EndsLine tokens) : ∃ t rest, tokens = t :: rest := by
  obtain ⟨line, last, rfl, -⟩ := h
  cases line with
  | nil => exact ⟨last, [], rfl⟩
  | cons t line => exact ⟨t, line ++ [last], rfl⟩

/-- Behind a line's end, a text of lines is at its own end or goes on with lines. -/
theorem EndsLine.tail_or {t : Token} {tokens : List Token} (h : EndsLine (t :: tokens)) :
    tokens = [] ∨ EndsLine tokens := by
  obtain ⟨line, last, heq, hlast⟩ := h
  cases line with
  | nil =>
      cases heq
      exact .inl rfl
  | cons _ line =>
      cases heq
      exact .inr ⟨line, last, rfl, hlast⟩

namespace Peg

open Outcome

/-- Whether an expression takes inner tokens alone, given which rules do. -/
def isInline (inline : {α : Type} → Rule α → Bool) : {α : Type} → Peg Rule α → Bool
  | _, .pure _ | _, .line => true
  | _, .token accept => [TokenKind.newline, .indent, .dedent, .finish].all fun k => (accept k).isNone
  | _, .rule r => inline r
  | _, .map _ p | _, .many p | _, .ahead p | _, .notAhead p | _, .judge _ p | _, .diagnosing p
  | _, .nested _ _ p | _, .suspect _ p _ => isInline inline p
  | _, .seq p q => isInline inline p && isInline inline q
  | _, .orElse p q => isInline inline p && isInline inline q

/-- Two outcomes that differ only in the lines behind: both stopped in front of the same tokens, and
have taken inner tokens alone. -/
inductive Alike (x y before : List Token) : Outcome α → Outcome α → Prop
  | done {a : α} {position depth reach : Nat} (used : List Token) {after : List Token}
      (split : before = used ++ after) (inner : ∀ t ∈ used, t.kind.isInner) (ends : EndsLine after) :
      Alike x y before (.done a ⟨position, depth, after ++ x⟩ reach)
        (.done a ⟨position, depth, after ++ y⟩ reach)
  | failed {reach : Nat} : Alike x y before (.failed reach) (.failed reach)
  | mistake {line : Nat} : Alike x y before (.mistake line) (.mistake line)

variable {x y before : List Token} {o o' : Outcome α} {position depth : Nat}

theorem Alike.stay {a : α} {reach : Nat} (ends : EndsLine before) :
    Alike x y before (.done a ⟨position, depth, before ++ x⟩ reach)
      (.done a ⟨position, depth, before ++ y⟩ reach) :=
  .done [] rfl (by simp) ends

theorem Alike.andThen {next next' : α → Place → Outcome β} (h : Alike x y before o o')
    (hnext : ∀ a position depth after, EndsLine after →
      Alike x y after (next a ⟨position, depth, after ++ x⟩) (next' a ⟨position, depth, after ++ y⟩)) :
    Alike x y before (o.andThen next) (o'.andThen next') := by
  cases h with
  | failed => exact .failed
  | mistake => exact .mistake
  | @done a position depth reach used after split inner ends =>
      subst split
      rw [Outcome.andThen, Outcome.andThen]
      have hmore := hnext a position depth after ends
      generalize next a ⟨position, depth, after ++ x⟩ = more at hmore ⊢
      generalize next' a ⟨position, depth, after ++ y⟩ = more' at hmore ⊢
      cases hmore with
      | failed => exact .failed
      | mistake => exact .mistake
      | @done b position depth reach used' after' split' inner' ends' =>
          subst split'
          refine .done (used ++ used') (List.append_assoc _ _ _).symm ?_ ends'
          exact List.forall_mem_append.mpr ⟨inner, inner'⟩

/-- An outcome of which only the result counts, at the place where it began. -/
theorem Alike.back {b : α → β} (h : Alike x y before o o') (ends : EndsLine before) :
    Alike x y before
      (o.andThen fun a _ => .done (b a) ⟨position, depth, before ++ x⟩ position)
      (o'.andThen fun a _ => .done (b a) ⟨position, depth, before ++ y⟩ position) := by
  cases h with
  | failed => exact .failed
  | mistake => exact .mistake
  | done => exact .stay ends

theorem lineAt_eq {after : List Token} (ends : EndsLine after) :
    lineAt ⟨position, depth, after ++ x⟩ = lineAt ⟨position, depth, after ++ y⟩ := by
  obtain ⟨t, rest, rfl⟩ := ends.exists_cons
  rfl

variable {g : Reading Rule} {inline : {α : Type} → Rule α → Bool}

/-- Inside a line, what comes behind the line does not matter. -/
theorem run_alike (plain : g.diagnosing = false)
    (hinline : ∀ {α : Type} (r : Rule α), inline r → (g.grammar r).isInline inline) {fuel : Nat}
    (p : Peg Rule α) (hp : p.isInline inline) (ends : EndsLine before) :
    Alike x y before (run g fuel p ⟨position, depth, before ++ x⟩)
      (run g fuel p ⟨position, depth, before ++ y⟩) := by
  -- By induction on the fuel, for all expressions at once. Whatever has been read, what is left still ends
  -- the line, so the two sides have not come apart.
  induction fuel generalizing α before position depth with
  | zero =>
      rw [run, run, lineAt_eq ends]
      exact .mistake
  | succ fuel ih =>
      cases p with
      | pure a => exact .stay ends
      | line =>
          obtain ⟨t, rest, rfl⟩ := ends.exists_cons
          exact .stay ends
      | token accept =>
          obtain ⟨t, rest, rfl⟩ := ends.exists_cons
          cases ha : accept t.kind with
          | none =>
              have hrun : ∀ z, run g (fuel + 1) (.token accept) ⟨position, depth, t :: rest ++ z⟩
                  = .failed (position + 1) := fun z => by simp only [run, List.cons_append, ha]
              rw [hrun, hrun]
              exact .failed
          | some a =>
              have hrun : ∀ z, run g (fuel + 1) (.token accept) ⟨position, depth, t :: rest ++ z⟩
                  = .done a ⟨position + 1, t.depth, rest ++ z⟩ (position + 1) :=
                fun z => by simp only [run, List.cons_append, ha]
              rw [hrun, hrun]
              -- Only a sign inside the line is accepted here, so the line goes on behind it.
              have hkind : t.kind.isInner := by
                simp only [isInline, List.all_cons, List.all_nil, Bool.and_eq_true] at hp
                obtain ⟨hnewline, hindent, hdedent, hfinish, -⟩ := hp
                cases hk : t.kind <;> simp_all [TokenKind.isInner]
              refine .done [t] rfl (by simpa using hkind) (ends.tail ?_)
              intro hk
              rw [hk] at hkind
              cases hkind
      | rule r => exact ih _ (hinline r hp) ends
      | map f p =>
          rw [run_map, run_map]
          exact (ih p hp ends).andThen fun a _ _ _ ends' => .stay ends'
      | seq p q =>
          obtain ⟨hp, hq⟩ := Bool.and_eq_true_iff.mp hp
          rw [run_seq, run_seq]
          refine (ih p hp ends).andThen fun f _ _ _ ends' => ?_
          exact (ih q hq ends').andThen fun a _ _ _ ends'' => .stay ends''
      | orElse p q =>
          obtain ⟨hp, hq⟩ := Bool.and_eq_true_iff.mp hp
          rw [run_orElse, run_orElse]
          have hleft : Alike x y before (run g fuel p ⟨position, depth, before ++ x⟩)
              (run g fuel p ⟨position, depth, before ++ y⟩) := ih p hp ends
          have hright : Alike x y before (run g fuel q ⟨position, depth, before ++ x⟩)
              (run g fuel q ⟨position, depth, before ++ y⟩) := ih q hq ends
          generalize run g fuel p ⟨position, depth, before ++ x⟩ = o at hleft ⊢
          generalize run g fuel p ⟨position, depth, before ++ y⟩ = o' at hleft ⊢
          generalize run g fuel q ⟨position, depth, before ++ x⟩ = other at hright ⊢
          generalize run g fuel q ⟨position, depth, before ++ y⟩ = other' at hright ⊢
          cases hleft with
          | done used split inner ends' => exact .done used split inner ends'
          | mistake => exact .mistake
          | failed =>
              cases hright with
              | done used split inner ends' => exact .done used split inner ends'
              | mistake => exact .mistake
              | failed => exact .failed
      | many p =>
          rw [run_many, run_many]
          have hone : Alike x y before (run g fuel p ⟨position, depth, before ++ x⟩)
              (run g fuel p ⟨position, depth, before ++ y⟩) := ih p hp ends
          generalize run g fuel p ⟨position, depth, before ++ x⟩ = o at hone ⊢
          generalize run g fuel p ⟨position, depth, before ++ y⟩ = o' at hone ⊢
          cases hone with
          | failed => exact .stay ends
          | mistake => exact .mistake
          | @done a position' depth' reach used after split inner ends' =>
              simp only
              split
              · refine Alike.andThen (.done used split inner ends') fun a _ _ _ behind => ?_
                exact (ih (.many p) hp behind).andThen fun as _ _ _ behind' => .stay behind'
              · exact .stay ends
      | ahead p =>
          rw [run_ahead, run_ahead]
          exact (ih p hp ends).back ends
      | notAhead p =>
          rw [run_notAhead, run_notAhead]
          have hone : Alike x y before (run g fuel p ⟨position, depth, before ++ x⟩)
              (run g fuel p ⟨position, depth, before ++ y⟩) := ih p hp ends
          generalize run g fuel p ⟨position, depth, before ++ x⟩ = o at hone ⊢
          generalize run g fuel p ⟨position, depth, before ++ y⟩ = o' at hone ⊢
          cases hone with
          | done => exact .failed
          | failed => exact .stay ends
          | mistake => exact .mistake
      | judge f p =>
          rw [run_judge, run_judge]
          refine (ih p hp ends).andThen fun a position' depth' after ends' => ?_
          rw [lineAt_eq (x := x) (y := y) ends']
          generalize f a (lineAt ⟨position', depth', after ++ y⟩) = judged
          cases judged with
          | ok b => exact .stay ends'
          | error l => exact .mistake
      | diagnosing p =>
          rw [run_diagnosing plain, run_diagnosing plain]
          exact .failed
      | nested parts inner p =>
          rw [run_nested, run_nested, lineAt_eq ends]
          refine (ih p hp ends).andThen fun a _ _ _ ends' => ?_
          split
          · exact .stay ends'
          · exact .mistake
      | suspect exempt p behind =>
          rw [run_suspect plain, run_suspect plain]
          exact (ih p hp ends).andThen fun a _ _ _ ends' => .stay ends'

/-- What is read inside a line is read there whatever comes behind the line. -/
theorem Reads.alike (plain : g.diagnosing = false)
    (hinline : ∀ {α : Type} (r : Rule α), inline r → (g.grammar r).isInline inline) {fuel : Nat}
    {p : Peg Rule α} {a : α} {next : Place} (hp : p.isInline inline) (ends : EndsLine before)
    (h : Reads g fuel p ⟨position, depth, before ++ x⟩ a next) :
    ∃ used after, before = used ++ after ∧ (∀ t ∈ used, t.kind.isInner) ∧ EndsLine after ∧
      next.rest = after ++ x ∧
      Reads g fuel p ⟨position, depth, before ++ y⟩ a ⟨next.position, next.depth, after ++ y⟩ := by
  obtain ⟨reach, h⟩ := h
  have halike : Alike x y before (run g fuel p ⟨position, depth, before ++ x⟩)
      (run g fuel p ⟨position, depth, before ++ y⟩) := run_alike plain hinline p hp ends
  rw [h] at halike
  generalize hrun : run g fuel p ⟨position, depth, before ++ y⟩ = o' at halike
  cases halike with
  | done used split inner ends' => exact ⟨used, _, split, inner, ends', rfl, reach, hrun⟩

theorem Fails.alike (plain : g.diagnosing = false)
    (hinline : ∀ {α : Type} (r : Rule α), inline r → (g.grammar r).isInline inline) {fuel : Nat}
    {p : Peg Rule α} (hp : p.isInline inline) (ends : EndsLine before)
    (h : Fails g fuel p ⟨position, depth, before ++ x⟩) :
    Fails g fuel p ⟨position, depth, before ++ y⟩ := by
  obtain ⟨reach, h⟩ := h
  have halike : Alike x y before (run g fuel p ⟨position, depth, before ++ x⟩)
      (run g fuel p ⟨position, depth, before ++ y⟩) := run_alike plain hinline p hp ends
  rw [h] at halike
  generalize hrun : run g fuel p ⟨position, depth, before ++ y⟩ = o' at halike
  cases halike with
  | failed => exact ⟨reach, hrun⟩

end Peg

end PersistedOps.Script
