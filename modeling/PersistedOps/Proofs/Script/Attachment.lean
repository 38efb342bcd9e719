import PersistedOps.Proofs.Script.Operand
import PersistedOps.Script.Parse
import PersistedOps.Script.Statement

/-!
The line that attaches an identifier, as tokens and as a statement.
-/

namespace PersistedOps.Script

open Peg Grammar

/-- A text literal at a line. -/
def Expr.text (l : Nat) (s : Scalar) : Expr := .literal l (.text s)

/-- The statement that stores an identifier on an exported operation. -/
def attachment (l : Nat) (operation key identifier : Scalar) : Statement :=
  .assign l [.subscript l (.subscript l (.name l exportsName) (.text l operation)) (.text l key)]
    (.text l identifier)

/-- Bodies of literals that spell texts. -/
def Spells (l : Nat) (body : List Char) (s : Scalar) : Prop :=
  TextLiteral.value l [⟨l, {}, body⟩] = some (.text l s)

/-- A quoted key in brackets. -/
def keyTokens (l : Nat) (body : List Char) : List Token :=
  [⟨.sign "[", l, 1⟩, ⟨.text {} body, l, 1⟩, ⟨.sign "]", l, 0⟩]

/-- The tokens of the line that attaches an identifier. -/
def attachmentTokens (l : Nat) (operation key identifier : List Char) : List Token :=
  ⟨.name exportsName, l, 0⟩ :: (keyTokens l operation ++ keyTokens l key
    ++ [⟨.sign "=", l, 0⟩, ⟨.text {} identifier, l, 0⟩, ⟨.newline, l, 0⟩])

variable {l n : Nat} {operation key identifier : List Char} {o k i : Scalar} {place : Place}
  {rest : List Token}

/-- The place that the line assigns to. -/
theorem reads_place (ho : Spells l operation o) (hk : Spells l key k)
    (hrest : place.rest = attachmentTokens l operation key identifier ++ rest) :
    Reads reading (n + 300) (.rule .starExpressions) place
      (.subscript l (.subscript l (.name l exportsName) (.text l o)) (.text l k))
      ⟨place.position + 7, 0,
        [⟨.sign "=", l, 0⟩, ⟨.text {} identifier, l, 0⟩, ⟨.newline, l, 0⟩] ++ rest⟩ := by
  have hopens : Opens place := ⟨_, _, hrest, nofun, nofun⟩
  have hcloses : Closes ⟨place.position + 7, 0,
      [⟨.sign "=", l, 0⟩, ⟨.text {} identifier, l, 0⟩, ⟨.newline, l, 0⟩] ++ rest⟩ :=
    ⟨_, _, rfl, by simp [closers]⟩
  have hline : ∀ {m : Nat}, Reads reading (m + 1) .line place l place := reads_line hrest
  have hname : Reads reading (n + 160) (ref .atom) place (.name l exportsName)
      ⟨place.position + 1, 0, keyTokens l operation ++ keyTokens l key
        ++ [⟨.sign "=", l, 0⟩, ⟨.text {} identifier, l, 0⟩, ⟨.newline, l, 0⟩] ++ rest⟩ :=
    reads_rule (reads_orElse_left (reads_seq (reads_map hline) (reads_token (a := exportsName) hrest rfl)))
  have hfirst : Reads reading (n + 160) trailer
      ⟨place.position + 1, 0, keyTokens l operation ++ keyTokens l key
        ++ [⟨.sign "=", l, 0⟩, ⟨.text {} identifier, l, 0⟩, ⟨.newline, l, 0⟩] ++ rest⟩
      (fun l' container => .subscript l' container (.text l o))
      ⟨place.position + 4, 0, keyTokens l key
        ++ [⟨.sign "=", l, 0⟩, ⟨.text {} identifier, l, 0⟩, ⟨.newline, l, 0⟩] ++ rest⟩ :=
    reads_subscript (n := n + 20) rfl ho
  have hsecond : Reads reading (n + 159) trailer
      ⟨place.position + 4, 0, keyTokens l key
        ++ [⟨.sign "=", l, 0⟩, ⟨.text {} identifier, l, 0⟩, ⟨.newline, l, 0⟩] ++ rest⟩
      (fun l' container => .subscript l' container (.text l k))
      ⟨place.position + 7, 0,
        [⟨.sign "=", l, 0⟩, ⟨.text {} identifier, l, 0⟩, ⟨.newline, l, 0⟩] ++ rest⟩ :=
    reads_subscript (n := n + 19) rfl hk
  have hend : Fails reading (n + 158) trailer ⟨place.position + 7, 0,
      [⟨.sign "=", l, 0⟩, ⟨.text {} identifier, l, 0⟩, ⟨.newline, l, 0⟩] ++ rest⟩ :=
    hcloses.fails 12 (by decide) (by omega)
  have htrailers := reads_many_cons hfirst (by simp)
    (reads_many_cons hsecond (by simp) (reads_many_nil hend))
  have hprimary : Reads reading (n + 163) (.rule .primary) place
      (.subscript l (.subscript l (.name l exportsName) (.text l o)) (.text l k))
      ⟨place.position + 7, 0,
        [⟨.sign "=", l, 0⟩, ⟨.text {} identifier, l, 0⟩, ⟨.newline, l, 0⟩] ++ rest⟩ :=
    reads_rule (reads_seq (reads_seq (reads_map hline) hname) htrailers)
  exact (reads_operand hopens hcloses (n := n + 154) hprimary).2.mono rfl (by omega)

/-- The tokens from the sign of the assignment on. -/
def valueTokens (l : Nat) (identifier : List Char) : List Token :=
  [⟨.sign "=", l, 0⟩, ⟨.text {} identifier, l, 0⟩, ⟨.newline, l, 0⟩]

/-- The statement is an assignment, and nothing that comes before assignments in the grammar. -/
theorem reads_simple (ho : Spells l operation o) (hk : Spells l key k) (hi : Spells l identifier i)
    (hrest : place.rest = attachmentTokens l operation key identifier ++ rest) :
    Reads reading (n + 350) (.rule .simple) place (attachment l o k i)
      ⟨place.position + 9, 0, ⟨.newline, l, 0⟩ :: rest⟩ := by
  have hopens : Opens place := ⟨_, _, hrest, nofun, nofun⟩
  have hline : ∀ {m : Nat}, Reads reading (m + 1) .line place l place := reads_line hrest
  have hplace : ∀ {m : Nat}, Reads reading (m + 300) (.rule .starExpressions) place
      (.subscript l (.subscript l (.name l exportsName) (.text l o)) (.text l k))
      ⟨place.position + 7, 0, valueTokens l identifier ++ rest⟩ := reads_place ho hk hrest
  have hclosed : Closes ⟨place.position + 9, 0, ⟨.newline, l, 0⟩ :: rest⟩ := ⟨_, _, rfl, by simp [closers]⟩
  have hvalue : ∀ {m : Nat}, Reads reading (m + 300) (.rule .starExpressions)
      ⟨place.position + 8, 0, ⟨.text {} identifier, l, 0⟩ :: ⟨.newline, l, 0⟩ :: rest⟩ (.text l i)
      ⟨place.position + 9, 0, ⟨.newline, l, 0⟩ :: rest⟩ := by
    intro m
    exact (reads_operand (opens_text rfl) hclosed (n := m + 180) (reads_text (n := m + 169) rfl hclosed hi)).2
  have htarget : Reads reading (n + 333) (.judge (bindable true) (ref .starExpressions <* sign "="))
      place (.subscript l (.subscript l (.name l exportsName) (.text l o)) (.text l k))
      ⟨place.position + 8, 0, ⟨.text {} identifier, l, 0⟩ :: ⟨.newline, l, 0⟩ :: rest⟩ :=
    reads_judge (reads_left (hplace (m := n + 30)) (reads_sign (t := ⟨.sign "=", l, 0⟩) rfl rfl)) rfl
  have hlast : Fails reading (n + 332) (.judge (bindable true) (ref .starExpressions <* sign "="))
      ⟨place.position + 8, 0, ⟨.text {} identifier, l, 0⟩ :: ⟨.newline, l, 0⟩ :: rest⟩ :=
    fails_judge (fails_left_of_reads (hvalue (m := n + 29)) (fails_sign rfl (by simp)))
  have hright : Reads reading (n + 335) rightSide
      ⟨place.position + 8, 0, ⟨.text {} identifier, l, 0⟩ :: ⟨.newline, l, 0⟩ :: rest⟩ (.text l i)
      ⟨place.position + 9, 0, ⟨.newline, l, 0⟩ :: rest⟩ := by
    refine reads_orElse_right (fails_rule (fails_orElse ?_ ?_)) (hvalue (m := n + 34))
    · exact fails_left (fails_left (fails_left_of_reads (reads_map (reads_line rfl))
        (fails_keyword rfl (by simp))))
    · exact fails_left (fails_left_of_reads (reads_map (reads_line rfl)) (fails_keyword rfl (by simp)))
  have hassignment : Reads reading (n + 336) assignment place _
      ⟨place.position + 9, 0, ⟨.newline, l, 0⟩ :: rest⟩ :=
    reads_seq (reads_seq (reads_map hline) (reads_many_cons htarget (by simp) (reads_many_nil hlast))) hright
  have hannotation : Fails reading (n + 337) annotation place := by
    refine fails_left (fails_left (fails_seq_right (reads_map hline) (fails_judge ?_)))
    exact fails_left_of_reads (hplace (m := n + 29)) (fails_sign rfl (by simp))
  have haugmented : Fails reading (n + 336) augmented place := by
    refine fails_seq_left (fails_seq_right (reads_map hline) (fails_judge ?_))
    exact fails_seq_right (reads_map (hplace (m := n + 31))) (fails_token rfl rfl)
  -- All alternatives before an assignment fail: most at their keyword, the others behind the target.
  refine reads_rule (reads_orElse_right ?_ ?_)
  · exact fails_left_of_reads (reads_map hline) (hopens.fails_keyword "pass")
  have hkeyword : ∀ {m : Nat} {kind : StatementKind} (w : String),
      Fails reading (m + 4) (stated kind (keyword w)) place :=
    fun w => fails_stated hrest (hopens.fails_keyword w)
  have hkeywords : ∀ {m : Nat} {kind : StatementKind} (w : String) (p : G Unit),
      Fails reading (m + 6) (stated kind (keyword w *> p)) place :=
    fun w p => fails_stated hrest (fails_right (hopens.fails_keyword w))
  refine reads_orElse_right (hkeyword "break") (reads_orElse_right (hkeyword "continue") ?_)
  refine reads_orElse_right (hkeywords "return" _) (reads_orElse_right (hkeywords "import" _) ?_)
  refine reads_orElse_right ?_ (reads_orElse_right (hkeywords "raise" _) ?_)
  · exact fails_stated hrest (fails_right (fails_right (fails_right (hopens.fails_keyword "from"))))
  refine reads_orElse_right (hkeywords "del" _) (reads_orElse_right ?_ ?_)
  · exact fails_stated hrest (fails_right (fails_right (hopens.fails_keyword "assert")))
  refine reads_orElse_right (hkeywords "global" _) (reads_orElse_right (hkeywords "nonlocal" _) ?_)
  exact reads_orElse_right hannotation (reads_orElse_right haugmented hassignment)

/-- The line is read as one statement, wherever it stands. -/
theorem reads_attachment (ho : Spells l operation o) (hk : Spells l key k) (hi : Spells l identifier i)
    {position depth : Nat} {t : Token} (ht : t.kind = .finish) :
    ∃ next, Reads reading (n + 360) (.many (.rule .statement))
      ⟨position, depth, attachmentTokens l operation key identifier ++ [t]⟩ [[attachment l o k i]] next ∧
      next.rest = [t] := by
  have hsimple : Reads reading (n + 350) (.rule .simple)
      ⟨position, depth, attachmentTokens l operation key identifier ++ [t]⟩ (attachment l o k i)
      ⟨position + 9, 0, [⟨.newline, l, 0⟩, t]⟩ := reads_simple ho hk hi rfl
  have hitems : Reads reading (n + 352) (sepBy1 (ref .simple) (sign ";"))
      ⟨position, depth, attachmentTokens l operation key identifier ++ [t]⟩ [attachment l o k i]
      ⟨position + 9, 0, [⟨.newline, l, 0⟩, t]⟩ :=
    reads_seq (reads_map hsimple) (reads_many_nil (fails_right (fails_sign rfl (by simp))))
  have hline : Reads reading (n + 357) (.rule .simpleLine)
      ⟨position, depth, attachmentTokens l operation key identifier ++ [t]⟩ [attachment l o k i]
      ⟨position + 10, 0, [t]⟩ :=
    reads_rule (reads_left (reads_left hitems (reads_opt_none (fails_sign rfl (by simp))))
      (reads_kind (t := ⟨.newline, l, 0⟩) rfl rfl))
  have hglance : glance reading (.name exportsName) 60 (.rule .compound) = .fails := by decide
  have hcompound : Fails reading 60 (.rule .compound)
      ⟨position, depth, attachmentTokens l operation key identifier ++ [t]⟩ :=
    fails_of_glance rfl rfl hglance (Nat.le_refl _)
  have hstatement : Reads reading (n + 359) (.rule .statement)
      ⟨position, depth, attachmentTokens l operation key identifier ++ [t]⟩ [attachment l o k i]
      ⟨position + 10, 0, [t]⟩ :=
    reads_rule (reads_orElse_right (fails_map (hcompound.mono (n := n + 356) rfl (by omega))) hline)
  have hend : Fails reading 330 (.rule .statement) ⟨position + 10, 0, [t]⟩ :=
    fails_of_glance rfl rfl (ht ▸ glance_statement .finish (by simp)) (Nat.le_refl _)
  refine ⟨⟨position + 10, 0, [t]⟩, reads_many_cons hstatement (by simp) ?_, rfl⟩
  exact reads_many_nil (hend.mono rfl (by omega))

/-- Lines of statements up to the last token are a unit. -/
theorem readTokens_of_lines {tokens : List Token} {t : Token} {lines : List (List Statement)} {next : Place}
    (hlines : Reads reading n (.many (.rule .statement)) ⟨0, 0, tokens⟩ lines next)
    (hnext : next.rest = [t]) (ht : t.kind = .finish) (hdepth : n + 4 ≤ readingDepth tokens.length) :
    ∃ place reach, readTokens false tokens = .done lines.flatten place reach := by
  have hfile : Reads reading (n + 4) (.rule .file) ⟨0, 0, tokens⟩ lines.flatten
      ⟨next.position + 1, t.depth, []⟩ :=
    reads_rule (reads_left (reads_map hlines) (reads_kind hnext ht))
  obtain ⟨reach, hread⟩ := hfile.mono rfl hdepth
  exact ⟨_, reach, hread⟩

/-- The tokens of the line alone are those of a unit of one statement. -/
theorem readTokens_attachment (ho : Spells l operation o) (hk : Spells l key k) (hi : Spells l identifier i)
    {t : Token} (ht : t.kind = .finish) :
    ∃ place reach, readTokens false (attachmentTokens l operation key identifier ++ [t])
      = .done [attachment l o k i] place reach := by
  obtain ⟨next, hlines, hnext⟩ : ∃ next, Reads reading 360 (.many (.rule .statement))
      ⟨0, 0, attachmentTokens l operation key identifier ++ [t]⟩ [[attachment l o k i]] next ∧
      next.rest = [t] := reads_attachment (n := 0) ho hk hi ht
  exact readTokens_of_lines hlines hnext ht (by rw [readingDepth]; omega)

/-- Tokens that read as statements that units may use have no open block at their end, and the line behind
them reads as one statement more. -/
theorem readTokens_attached {before : List Token} {dedent finish finish' : Token} {count reach : Nat}
    {statements : List Statement} (hbefore : before = [] ∨ EndsLine before)
    (hinner : ∀ t ∈ before, t.kind ≠ .finish) (hdedent : dedent.kind = .dedent)
    (hfinish : finish.kind = .finish) (hfinish' : finish'.kind = .finish)
    (h : readTokens false (before ++ (List.replicate count dedent ++ [finish]))
      = .done statements place reach) (hplain : ∀ s ∈ statements, ∀ l k, s ≠ .other l k) :
    count = 0 ∧ ∀ {l operation key identifier o k i}, Spells l operation o → Spells l key k →
      Spells l identifier i → ∃ place reach,
        readTokens false (before ++ (attachmentTokens l operation key identifier ++ [finish']))
          = .done (statements ++ [attachment l o k i]) place reach := by
  obtain ⟨m, hm⟩ : ∃ m, readingDepth (before ++ (List.replicate count dedent ++ [finish])).length = m + 4 :=
    ⟨_, (Nat.sub_add_cancel (by rw [readingDepth]; omega)).symm⟩
  rw [readTokens, hm] at h
  have hfile : Reads reading (m + 3) file ⟨0, 0, before ++ (List.replicate count dedent ++ [finish])⟩
      statements place := ⟨reach, h⟩
  obtain ⟨_, mid, hmap, hend⟩ := hfile.of_left
  obtain ⟨lines, hlines, rfl⟩ := hmap.of_map
  obtain ⟨t, rest, hmid, ht, rfl⟩ := hend.of_kind
  obtain ⟨u, behind, hx, hu⟩ : ∃ u behind, List.replicate count dedent ++ [finish] = u :: behind ∧
      (u.kind = .dedent ∨ u.kind = .finish) := by
    cases count with
    | zero => exact ⟨finish, [], rfl, .inr hfinish⟩
    | succ count => exact ⟨dedent, _, rfl, .inl hdedent⟩
  -- The lines read end in front of the first token behind them. It is no dedent, so no block is open there.
  obtain ⟨hu', -, hmores⟩ := reads_lines hbefore hinner hx hu hlines ⟨t, rest, hmid, ht⟩ hplain
  have hcount : count = 0 := by
    cases count with
    | zero => rfl
    | succ count =>
        obtain ⟨rfl, -⟩ := List.cons.inj hx
        rw [hdedent] at hu'
        cases hu'
  refine ⟨hcount, fun {l operation key identifier o k i} ho hk hi => ?_⟩
  have hindent : ∀ t ∈ attachmentTokens l operation key identifier ++ [finish'], t.kind ≠ .indent := by
    simp [attachmentTokens, keyTokens, hfinish']
  obtain ⟨next, hmany, hnext⟩ := hmores (c := 350) (by simp) hindent fun position depth =>
    reads_attachment (n := 40) ho hk hi hfinish'
  -- The longer source is given more depth, enough for the line that was added.
  have hdepth : m + 404 ≤ readingDepth
      (before ++ (attachmentTokens l operation key identifier ++ [finish'])).length := by
    subst hcount
    simp only [readingDepth, List.length_append, List.length_replicate, attachmentTokens, keyTokens,
      List.length_cons, List.length_nil] at hm ⊢
    omega
  obtain ⟨place', reach', hread⟩ := readTokens_of_lines hmany hnext hfinish' hdepth
  rw [List.flatten_append] at hread
  exact ⟨place', reach', hread⟩

end PersistedOps.Script
