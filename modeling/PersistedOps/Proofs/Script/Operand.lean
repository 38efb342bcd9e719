import PersistedOps.Proofs.Script.Statement

/-!
Single values read as whole expressions. A primary expression between a token that begins no operator
and a closing sign is what every rule of the expressions above it reads there.
-/

namespace PersistedOps.Script

open Peg Grammar

variable {place next : Place} {n : Nat} {e : Expr}

/-- A place in front of a name or a literal. -/
def Opens (place : Place) : Prop :=
  ∃ t rest, place.rest = t :: rest ∧ (∀ w, t.kind ≠ .keyword w) ∧ ∀ s, t.kind ≠ .sign s

/-- The tokens that end an expression. -/
def closers : List TokenKind := [.sign "]", .sign "=", .newline]

/-- A place where an expression ends. -/
def Closes (place : Place) : Prop := ∃ u rest, place.rest = u :: rest ∧ u.kind ∈ closers

section

variable {α : Type} {p : G α}

theorem Closes.fails (h : Closes place) (depth : Nat)
    (hp : ∀ k ∈ closers, glance reading k depth p = .fails) (hle : depth ≤ n) :
    Fails reading n p place := by
  obtain ⟨u, rest, hrest, hu⟩ := h
  exact fails_of_glance rfl hrest (hp u.kind hu) hle

theorem Opens.line (h : Opens place) : ∃ l, ∀ {n : Nat}, Reads reading (n + 1) .line place l place := by
  obtain ⟨t, rest, hrest, -⟩ := h
  exact ⟨t.line, reads_line hrest⟩

theorem Opens.fails_keyword (h : Opens place) (w : String) : Fails reading (n + 1) (keyword w) place := by
  obtain ⟨t, rest, hrest, hkeyword, -⟩ := h
  exact Peg.fails_keyword hrest (hkeyword w)

theorem Opens.fails_sign (h : Opens place) (s : String) : Fails reading (n + 1) (sign s) place := by
  obtain ⟨t, rest, hrest, -, hsign⟩ := h
  exact Peg.fails_sign hrest (hsign s)

end

/-! ### Operators -/

theorem reads_opt_none {α : Type} {p : G α} (h : Fails reading n p place) :
    Reads reading (n + 2) (opt p) place none place :=
  reads_orElse_right (fails_map h) (reads_pure none)

theorem reads_chain {α : Type} {kind : ExpressionKind} {operand : G Expr} {operator : G α}
    (ho : Opens place) (h : Reads reading (n + 2) operand place e next)
    (hoperator : Fails reading n operator next) :
    Reads reading (n + 4) (chain kind operand operator) place e next := by
  obtain ⟨l, hline⟩ := ho.line
  exact reads_seq (reads_seq (reads_map hline) h) (reads_many_nil (fails_right hoperator))

theorem reads_power (ho : Opens place) (hc : Closes next)
    (h : Reads reading (n + 9) (.rule .primary) place e next) :
    Reads reading (n + 13) (.rule .power) place e next := by
  obtain ⟨l, hline⟩ := ho.line
  have hawaited : Reads reading (n + 10) awaitedPrimary place e next := by
    refine reads_orElse_right ?_ h
    exact fails_left (fails_left_of_reads (reads_map hline) (ho.fails_keyword "await"))
  have hstars : Fails reading (n + 8) (sign "**" *> ref .factor) next :=
    hc.fails 8 (by decide) (Nat.le_add_left 8 n)
  exact reads_rule (reads_seq (reads_seq (reads_map hline) hawaited) (reads_map (reads_opt_none hstars)))

theorem reads_factor (ho : Opens place) (h : Reads reading (n + 7) (.rule .power) place e next) :
    Reads reading (n + 10) (.rule .factor) place e next := by
  obtain ⟨l, hline⟩ := ho.line
  have hminus : Fails reading (n + 8) (Expr.negate <$> .line <* sign "-" <*> ref .factor) place :=
    fails_seq_left (fails_left_of_reads (reads_map hline) (ho.fails_sign "-"))
  have hunary : Fails reading (n + 7) (unaryOther (sign "+" <|> sign "~") (ref .factor)) place :=
    fails_left (fails_left_of_reads (reads_map hline)
      (fails_orElse (ho.fails_sign "+") (ho.fails_sign "~")))
  exact reads_rule (reads_orElse_right hminus (reads_orElse_right hunary h))

/-- The operators from products to comparisons, none of which stands where an expression ends. -/
theorem reads_comparison (ho : Opens place) (hc : Closes next)
    (h : Reads reading (n + 2) (.rule .factor) place e next) :
    Reads reading (n + 42) (.rule .comparison) place e next := by
  obtain ⟨l, hline⟩ := ho.line
  have hterm : Reads reading (n + 15) (.rule .term) place e next :=
    reads_rule (reads_chain ho (h.mono (n := n + 12) rfl (by omega))
      (hc.fails 5 (by decide) (by omega)))
  have hsigns : Fails reading (n + 15)
      ((·, ·) <$> (gives true (sign "+") <|> gives false (sign "-")) <*> ref .term) next :=
    hc.fails 10 (by decide) (by omega)
  have hsum : Reads reading (n + 18) (.rule .sum) place e next :=
    reads_rule (reads_seq (reads_seq (reads_map hline) hterm) (reads_many_nil hsigns))
  have hshift : Reads reading (n + 21) (.rule .shift) place e next :=
    reads_rule (reads_chain ho hsum (hc.fails 5 (by decide) (by omega)))
  have hbitAnd : Reads reading (n + 24) (.rule .bitAnd) place e next :=
    reads_rule (reads_chain ho hshift (hc.fails 5 (by decide) (by omega)))
  have hbitXor : Reads reading (n + 27) (.rule .bitXor) place e next :=
    reads_rule (reads_chain ho hbitAnd (hc.fails 5 (by decide) (by omega)))
  have hbitOr : Reads reading (n + 30) (.rule .bitOr) place e next :=
    reads_rule (reads_chain ho hbitXor (hc.fails 5 (by decide) (by omega)))
  exact reads_rule (reads_chain ho (hbitOr.mono (n := n + 39) rfl (by omega))
    (hc.fails 20 (by decide) (by omega)))

theorem reads_expression (ho : Opens place) (hc : Closes next)
    (h : Reads reading (n + 2) (.rule .comparison) place e next) :
    Reads reading (n + 42) (.rule .expression) place e next := by
  obtain ⟨l, hline⟩ := ho.line
  have hnot : Fails reading (n + 9) (unaryOther (keyword "not") (ref .inversion)) place :=
    fails_left (fails_left_of_reads (reads_map hline) (ho.fails_keyword "not"))
  have hinversion : Reads reading (n + 11) (.rule .inversion) place e next :=
    reads_rule (reads_orElse_right hnot (h.mono rfl (by omega)))
  have hconjunction : Reads reading (n + 14) (.rule .conjunction) place e next :=
    reads_rule (reads_chain ho hinversion (hc.fails 5 (by decide) (by omega)))
  have hdisjunction : Reads reading (n + 17) (.rule .disjunction) place e next :=
    reads_rule (reads_chain ho hconjunction (hc.fails 5 (by decide) (by omega)))
  have hcondition : Fails reading (n + 20) condition next :=
    hc.fails 20 (by decide) (by omega)
  have hconditional : Reads reading (n + 39) conditional place e next := by
    have hparts : Reads reading (n + 38) ((fun l first condition =>
        (l, joined .ifExp l first condition.toList, condition.getD false))
          <$> .line <*> ref .disjunction <*> opt condition) place (l, e, false) next :=
      reads_seq (reads_seq (reads_map hline) (hdisjunction.mono (n := n + 36) rfl (by omega)))
        (reads_opt_none (hcondition.mono (n := n + 35) rfl (by omega)))
    exact reads_judge hparts rfl
  exact reads_rule (reads_orElse_left (reads_suspect rfl hconditional))

/-- A single expression between its ends is all there is on its side of an assignment. -/
theorem reads_starExpressions (ho : Opens place) (hc : Closes next)
    (h : Reads reading (n + 2) (.rule .expression) place e next) :
    Reads reading (n + 22) (.rule .starExpressions) place e next := by
  obtain ⟨l, hline⟩ := ho.line
  have hstarred : Fails reading (n + 12) (starred (ref .bitOr)) place :=
    fails_seq_left (fails_left_of_reads (reads_map hline) (ho.fails_sign "*"))
  have hitem : Reads reading (n + 13) starExpression place e next :=
    reads_orElse_right hstarred (h.mono rfl (by omega))
  have hcomma : ∀ {α : Type} (p : G α), Fails reading (n + 14) (comma *> p) next := by
    intro α p
    exact fails_right (hc.fails 5 (by decide) (by omega))
  have hitems : Reads reading (n + 16) (sepBy1 starExpression comma) place [e] next :=
    reads_seq (reads_map (hitem.mono rfl (by omega))) (reads_many_nil (hcomma _))
  have hlisted : Reads reading (n + 18) (listed starExpression) place ([e], false) next := by
    refine reads_seq (reads_map hitems) (reads_opt_none ?_)
    exact hc.fails 5 (by decide) (by omega)
  have htupled : Reads reading (n + 19) (tupled starExpression) place e next :=
    reads_seq (reads_map hline) hlisted
  exact Reads.mono (m := n + 20) rfl (reads_rule htupled) (by omega)

/-- A primary expression is read alike by all rules above it. -/
theorem reads_operand (ho : Opens place) (hc : Closes next)
    (h : Reads reading (n + 9) (.rule .primary) place e next) :
    Reads reading (n + 100) (.rule .expression) place e next ∧
      Reads reading (n + 120) (.rule .starExpressions) place e next := by
  have hfactor : Reads reading (n + 16) (.rule .factor) place e next :=
    reads_factor ho (reads_power ho hc h)
  have hcomparison : Reads reading (n + 56) (.rule .comparison) place e next :=
    reads_comparison ho hc hfactor
  have hexpression : Reads reading (n + 96) (.rule .expression) place e next :=
    reads_expression ho hc hcomparison
  have hexpression' : Reads reading (n + 100) (.rule .expression) place e next :=
    hexpression.mono rfl (by omega)
  exact ⟨hexpression', reads_starExpressions ho hc hexpression'⟩

/-! ### Literals, names and subscripts -/

variable {body : List Char} {l depth : Nat} {rest : List Token}

theorem opens_text (hrest : place.rest = ⟨.text {} body, l, depth⟩ :: rest) : Opens place :=
  ⟨_, rest, hrest, nofun, nofun⟩

theorem reads_text (hrest : place.rest = ⟨.text {} body, l, depth⟩ :: rest)
    (hc : Closes ⟨place.position + 1, depth, rest⟩)
    (hvalue : TextLiteral.value l [⟨l, {}, body⟩] = some e) :
    Reads reading (n + 20) (.rule .primary) place e ⟨place.position + 1, depth, rest⟩ := by
  have hline : ∀ {m : Nat}, Reads reading (m + 1) .line place l place := reads_line hrest
  have hpart : Reads reading (n + 9) textPart place ⟨l, {}, body⟩ ⟨place.position + 1, depth, rest⟩ :=
    reads_seq (reads_map hline) (reads_token (a := (({}, body) : TextFlags × List Char)) hrest rfl)
  have hmore : Fails reading (n + 9) textPart ⟨place.position + 1, depth, rest⟩ :=
    hc.fails 5 (by decide) (by omega)
  have hparts : Reads reading (n + 11) (many1 textPart) place [⟨l, {}, body⟩]
      ⟨place.position + 1, depth, rest⟩ :=
    reads_seq (reads_map hpart) (reads_many_nil hmore)
  have htexts : Reads reading (n + 13) texts place e ⟨place.position + 1, depth, rest⟩ := by
    refine reads_judge (reads_nested hparts rfl) ?_
    simp only [List.head?_cons, Option.map_some, Option.getD_some, hvalue]
  have hname : Fails reading (n + 15) (Expr.name <$> .line <*> identifier) place :=
    fails_seq_right (reads_map hline) (fails_token hrest rfl)
  have hnumeral : Fails reading (n + 14) numeral place :=
    fails_judge (fails_seq_right (reads_map hline) (fails_token hrest rfl))
  have hatom : Reads reading (n + 16) atom place e ⟨place.position + 1, depth, rest⟩ :=
    reads_orElse_right hname (reads_orElse_right hnumeral (reads_orElse_left htexts))
  have htrailer : Fails reading (n + 17) trailer ⟨place.position + 1, depth, rest⟩ :=
    hc.fails 12 (by decide) (by omega)
  exact reads_rule (reads_seq (reads_seq (reads_map hline) (reads_rule hatom)) (reads_many_nil htrailer))

/-- A literal in square brackets is read as a key. -/
theorem reads_slices {v : Literal} (hrest : place.rest = ⟨.text {} body, l, depth⟩ :: rest)
    (hc : Closes ⟨place.position + 1, depth, rest⟩)
    (hvalue : TextLiteral.value l [⟨l, {}, body⟩] = some (.literal l v)) :
    Reads reading (n + 130) (.rule .slices) place (.literal l v) ⟨place.position + 1, depth, rest⟩ := by
  have ho : Opens place := opens_text hrest
  have hline : ∀ {m : Nat}, Reads reading (m + 1) .line place l place := reads_line hrest
  have hexpression : Reads reading (n + 111) (.rule .expression) place (.literal l v)
      ⟨place.position + 1, depth, rest⟩ :=
    (reads_operand ho hc (reads_text (n := n) hrest hc hvalue)).1
  have hcolon : Fails reading (n + 110) (colon *> sliceTail) ⟨place.position + 1, depth, rest⟩ :=
    hc.fails 8 (by decide) (by omega)
  have hlone : Reads reading (n + 114) (joined .slice <$> .line <*> ref .expression
      <*> (Option.toList <$> opt (colon *> sliceTail))) place (.literal l v)
      ⟨place.position + 1, depth, rest⟩ :=
    reads_seq (reads_seq (reads_map hline) (hexpression.mono (n := n + 112) rfl (by omega)))
      (reads_map (reads_opt_none hcolon))
  have hempty : Fails reading (n + 115) (node .slice <$> .line <* colon <* sliceTail) place :=
    fails_left (fails_left_of_reads (reads_map hline) (ho.fails_sign ":"))
  have hassigned : Fails reading (n + 114) assigned place := by
    refine fails_left (fails_left (fails_left_of_reads (reads_map hline) ?_))
    exact fails_token hrest rfl
  have hslice : Reads reading (n + 116) slice place (.literal l v) ⟨place.position + 1, depth, rest⟩ :=
    reads_orElse_right hempty (reads_orElse_right hassigned hlone)
  have hitem : Reads reading (n + 119) (slice <|> starred (ref .expression)) place (.literal l v)
      ⟨place.position + 1, depth, rest⟩ :=
    reads_orElse_left (hslice.mono (n := n + 118) rfl (by omega))
  have hcomma : Fails reading (n + 119) (comma *> (slice <|> starred (ref .expression)))
      ⟨place.position + 1, depth, rest⟩ :=
    hc.fails 8 (by decide) (by omega)
  have hcomma' : Fails reading (n + 119) comma ⟨place.position + 1, depth, rest⟩ :=
    hc.fails 5 (by decide) (by omega)
  have hlisted : Reads reading (n + 123) (listed (slice <|> starred (ref .expression))) place
      ([.literal l v], false) ⟨place.position + 1, depth, rest⟩ := by
    have hitems : Reads reading (n + 121) (sepBy1 (slice <|> starred (ref .expression)) comma) place
        [.literal l v] ⟨place.position + 1, depth, rest⟩ :=
      reads_seq (reads_map hitem) (reads_many_nil hcomma)
    exact reads_seq (reads_map hitems) (reads_opt_none (hcomma'.mono (n := n + 120) rfl (by omega)))
  have hslices : Reads reading (n + 124) slices place _ ⟨place.position + 1, depth, rest⟩ :=
    reads_seq (reads_map hline) hlisted
  exact Reads.mono (m := n + 125) rfl (reads_rule hslices) (by omega)

/-- A subscript by a literal, behind a primary expression. -/
theorem reads_subscript {v : Literal} {depth' depth'' : Nat}
    (hrest : place.rest = ⟨.sign "[", l, depth'⟩ :: ⟨.text {} body, l, depth⟩ :: ⟨.sign "]", l, depth''⟩ :: rest)
    (hvalue : TextLiteral.value l [⟨l, {}, body⟩] = some (.literal l v)) :
    Reads reading (n + 140) trailer place (fun l' container => .subscript l' container (.literal l v))
      ⟨place.position + 3, depth'', rest⟩ := by
  have hc : Closes ⟨place.position + 2, depth, ⟨.sign "]", l, depth''⟩ :: rest⟩ :=
    ⟨_, _, rfl, by simp [closers]⟩
  have hkey : Reads reading (n + 134) (sign "[" *> ref .slices) place (.literal l v)
      ⟨place.position + 2, depth, ⟨.sign "]", l, depth''⟩ :: rest⟩ :=
    reads_right (reads_sign hrest rfl) (reads_slices (n := n + 3) rfl hc hvalue)
  have hbrackets : Reads reading (n + 136) (sign "[" *> ref .slices <* sign "]") place (.literal l v)
      ⟨place.position + 3, depth'', rest⟩ :=
    reads_left hkey (reads_sign (t := ⟨.sign "]", l, depth''⟩) rfl rfl)
  have hdot : Fails reading (n + 139)
      ((fun _ l _ => node .attribute l) <$> (sign "." *> identifier) : G (Nat → Expr → Expr)) place :=
    fails_map (fails_right (fails_sign hrest (by simp)))
  have hcall : Fails reading (n + 138)
      ((fun args l f => .call l f args.1 args.2) <$> (sign "(" *> callArguments) : G (Nat → Expr → Expr))
      place :=
    fails_map (fails_right (fails_sign hrest (by simp)))
  exact reads_orElse_right hdot (reads_orElse_right hcall (reads_map (hbrackets.mono rfl (by omega))))

end PersistedOps.Script
