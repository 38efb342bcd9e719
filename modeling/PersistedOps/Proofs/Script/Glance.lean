import PersistedOps.Proofs.Script.Reading

/-!
What the next token alone decides. Most alternatives of a grammar are over at their first token, which
is seen from the expression and the kind of that token without a run.
-/

namespace PersistedOps.Script

variable {Rule : Type → Type} {α β : Type}

/-- What an expression does in front of a token: it fails, it has a result and goes nowhere, or it may
read on. -/
inductive Glance where
  | fails
  | stays
  | goesOn
deriving DecidableEq, Repr

namespace Peg

/-- What an expression does in front of a token of a kind, as far as some depth tells. -/
def glance (g : Reading Rule) (k : TokenKind) : (depth : Nat) → {α : Type} → Peg Rule α → Glance
  | 0, _, _ => .goesOn
  | depth + 1, _, p => match p with
    | .pure _ | .line => .stays
    | .token accept => if (accept k).isNone then .fails else .goesOn
    | .rule r => glance g k depth (g.grammar r)
    | .map _ p | .ahead p | .suspect _ p _ => glance g k depth p
    | .seq p q => match glance g k depth p with
      | .stays => glance g k depth q
      | seen => seen
    | .orElse p q => match glance g k depth p with
      | .fails => glance g k depth q
      | seen => seen
    | .many p => match glance g k depth p with
      | .goesOn => .goesOn
      | _ => .stays
    | .notAhead p => match glance g k depth p with
      | .fails => .stays
      | .stays => .fails
      | .goesOn => .goesOn
    | .judge _ p | .nested _ _ p => match glance g k depth p with
      | .fails => .fails
      | _ => .goesOn
    | .diagnosing _ => .fails

variable {g : Reading Rule} {p : Peg Rule α} {place : Place} {t : Token} {rest : List Token}

/-- What is seen at a glance holds of the reading. -/
theorem glance_spec (plain : g.diagnosing = false) (hrest : place.rest = t :: rest) (depth : Nat)
    (p : Peg Rule α) : (glance g t.kind depth p = .fails → Fails g depth p place) ∧
      (glance g t.kind depth p = .stays → ∃ a, Reads g depth p place a place) := by
  -- A reading that a glance decides goes no deeper than the glance, so its fuel is the depth.
  induction depth generalizing α with
  | zero => exact ⟨nofun, nofun⟩
  | succ depth ih =>
      cases p with
      | pure a => exact ⟨nofun, fun _ => ⟨a, reads_pure a⟩⟩
      | line => exact ⟨nofun, fun _ => ⟨t.line, reads_line hrest⟩⟩
      | token accept =>
          rw [glance]
          split
          · rename_i hnone
            exact ⟨fun _ => fails_token hrest (Option.isNone_iff_eq_none.mp hnone), nofun⟩
          · exact ⟨nofun, nofun⟩
      | rule r => exact ih (g.grammar r)
      | map f p =>
          obtain ⟨hfails, hstays⟩ := ih p
          refine ⟨fun h => fails_map (hfails h), fun h => ?_⟩
          obtain ⟨a, hreads⟩ := hstays h
          exact ⟨f a, reads_map hreads⟩
      | seq p q =>
          obtain ⟨hfails, hstays⟩ := ih p
          rw [glance]
          cases hp : glance g t.kind depth p with
          | fails => exact ⟨fun _ => fails_seq_left (hfails hp), nofun⟩
          | goesOn => exact ⟨nofun, nofun⟩
          | stays =>
              obtain ⟨f, hreads⟩ := hstays hp
              obtain ⟨hfails', hstays'⟩ := ih q
              refine ⟨fun h => fails_seq_right hreads (hfails' h), fun h => ?_⟩
              obtain ⟨a, hreads'⟩ := hstays' h
              exact ⟨f a, reads_seq hreads hreads'⟩
      | orElse p q =>
          obtain ⟨hfails, hstays⟩ := ih p
          rw [glance]
          cases hp : glance g t.kind depth p with
          | stays => exact ⟨nofun, fun _ => (hstays hp).imp fun _ hreads => reads_orElse_left hreads⟩
          | goesOn => exact ⟨nofun, nofun⟩
          | fails =>
              obtain ⟨hfails', hstays'⟩ := ih q
              exact ⟨fun h => fails_orElse (hfails hp) (hfails' h),
                fun h => (hstays' h).imp fun _ hreads => reads_orElse_right (hfails hp) hreads⟩
      | many p =>
          obtain ⟨hfails, hstays⟩ := ih p
          rw [glance]
          cases hp : glance g t.kind depth p with
          | fails => exact ⟨nofun, fun _ => ⟨[], reads_many_nil (hfails hp)⟩⟩
          | goesOn => exact ⟨nofun, nofun⟩
          | stays =>
              obtain ⟨a, hreads⟩ := hstays hp
              exact ⟨nofun, fun _ => ⟨[], reads_many_idle hreads⟩⟩
      | ahead p =>
          obtain ⟨hfails, hstays⟩ := ih p
          refine ⟨fun h => fails_ahead (hfails h), fun h => ?_⟩
          obtain ⟨a, hreads⟩ := hstays h
          exact ⟨(), reads_ahead hreads⟩
      | notAhead p =>
          obtain ⟨hfails, hstays⟩ := ih p
          rw [glance]
          cases hp : glance g t.kind depth p with
          | fails => exact ⟨nofun, fun _ => ⟨(), reads_notAhead (hfails hp)⟩⟩
          | goesOn => exact ⟨nofun, nofun⟩
          | stays =>
              obtain ⟨a, hreads⟩ := hstays hp
              exact ⟨fun _ => fails_notAhead hreads, nofun⟩
      | judge f p =>
          rw [glance]
          cases hp : glance g t.kind depth p with
          | fails => exact ⟨fun _ => fails_judge ((ih p).1 hp), nofun⟩
          | _ => exact ⟨nofun, nofun⟩
      | nested parts inner p =>
          rw [glance]
          cases hp : glance g t.kind depth p with
          | fails => exact ⟨fun _ => fails_nested ((ih p).1 hp), nofun⟩
          | _ => exact ⟨nofun, nofun⟩
      | diagnosing p => exact ⟨fun _ => fails_diagnosing plain, nofun⟩
      | suspect exempt p behind =>
          obtain ⟨hfails, hstays⟩ := ih p
          exact ⟨fun h => fails_suspect plain (hfails h),
            fun h => (hstays h).imp fun _ hreads => reads_suspect plain hreads⟩

theorem fails_of_glance (plain : g.diagnosing = false) (hrest : place.rest = t :: rest)
    {depth fuel : Nat} (h : glance g t.kind depth p = .fails) (hle : depth ≤ fuel) :
    Fails g fuel p place :=
  ((glance_spec plain hrest depth p).1 h).mono plain hle

end Peg

end PersistedOps.Script
