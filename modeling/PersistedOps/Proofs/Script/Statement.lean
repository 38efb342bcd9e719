import PersistedOps.Proofs.Script.Glance
import PersistedOps.Proofs.Script.Inline
import PersistedOps.Script.Grammar

/-!
Sources of lines. Where the statements of a source are all simple ones, each on a line of its own, more
lines behind them leave their reading as it is.
-/

namespace PersistedOps.Script

open Peg Grammar

/-- The reading of sources that looks for no mistakes. -/
abbrev reading : Reading Rule := ⟨grammar, false⟩

/-- The rules that read inside a line. -/
def Rule.isInline : {α : Type} → Rule α → Bool
  | _, .block | _, .otherwise | _, .compound | _, .simpleLine | _, .statement | _, .file => false
  | _, _ => true

theorem isInline_grammar {α : Type} (r : Rule α) (h : r.isInline) :
    (grammar r).isInline Rule.isInline := by
  cases r with
  | block | otherwise | compound | simpleLine | statement | file => cases h
  | arguments first keywords unpacked =>
      cases first <;> cases keywords <;> cases unpacked <;> rfl
  | parameters annotated first slash defaulted =>
      cases annotated <;> cases first <;> cases slash <;> cases defaulted <;> rfl
  | keywordParameters annotated => cases annotated <;> rfl
  | _ => rfl

/-- The tokens at which compound statements begin, other than matches. -/
def compoundHeads : List TokenKind :=
  [.keyword "def", .keyword "class", .keyword "async", .sign "@", .keyword "if", .keyword "with",
    .keyword "for", .keyword "try", .keyword "while"]

/-- No simple statement begins as a compound one does. -/
theorem glance_simpleLine : ∀ k ∈ compoundHeads, glance reading k 320 (.rule .simpleLine) = .fails := by
  decide

variable {place next : Place} {t : Token} {rest : List Token}

theorem fails_stated {n : Nat} {k : StatementKind} {p : G Unit} (hrest : place.rest = t :: rest)
    (h : Fails reading (n + 3) p place) : Fails reading (n + 4) (stated k p) place :=
  fails_left_of_reads (reads_map (reads_line hrest)) h

/-- At other tokens a compound statement can be a match alone. -/
theorem fails_compound {n : Nat} (hrest : place.rest = t :: rest) (ht : t.kind ∉ compoundHeads)
    (hmatch : Fails reading (n + 31) (stated .matchStmt matchStatement) place) :
    Fails reading (n + 40) compound place := by
  have hkeyword : ∀ {m : Nat} (w : String), .keyword w ∈ compoundHeads →
      Fails reading (m + 1) (keyword w) place :=
    fun w hw => fails_keyword hrest fun heq => ht (heq ▸ hw)
  have hdefinition : ∀ {m : Nat}, Fails reading (m + 30) definition place := by
    intro m
    refine fails_orElse (fails_stated hrest ?_)
      (fails_orElse (fails_stated hrest ?_) (fails_stated hrest ?_))
    · unfold function functionHead
      repeat apply fails_right
      exact hkeyword _ (by decide)
    · unfold classBlock
      repeat apply fails_right
      exact hkeyword _ (by decide)
    · exact fails_right (hkeyword _ (by decide))
  have hdecorators : Fails reading (n + 36) decorators place := by
    refine fails_map (fails_seq_left (fails_map ?_))
    repeat apply fails_right
    exact fails_sign hrest fun heq => ht (heq ▸ by decide)
  have hwith : Fails reading (n + 35) withBlock place := by
    unfold withBlock
    repeat apply fails_right
    exact hkeyword _ (by decide)
  have hfor : Fails reading (n + 33) forLoop place := by
    unfold forLoop forHead
    repeat apply fails_right
    exact hkeyword _ (by decide)
  have htry : Fails reading (n + 32) tryStatement place := by
    refine fails_seq_left (fails_left_of_reads (reads_map (reads_line hrest)) ?_)
    unfold tryHead
    repeat apply fails_right
    exact hkeyword _ (by decide)
  -- In the order of the grammar. Each statement fails at its keyword; the one for a match is given.
  refine fails_orElse hdefinition (fails_orElse (fails_right hdecorators) ?_)
  refine fails_orElse (fails_stated hrest ?_) (fails_orElse (fails_stated hrest hwith) ?_)
  · repeat apply fails_right
    exact hkeyword _ (by decide)
  refine fails_orElse (fails_stated hrest (fails_right (hkeyword _ (by decide)))) ?_
  refine fails_orElse (fails_stated hrest hfor) ?_
  refine fails_orElse (fails_stated hrest (fails_right (hkeyword _ (by decide)))) ?_
  refine fails_orElse htry (fails_orElse (fails_stated hrest ?_) hmatch)
  repeat apply fails_right
  exact hkeyword _ (by decide)

/-- A compound statement is none that units may use. -/
theorem exists_other {n : Nat} {s : Statement} (h : Reads reading n (.rule .compound) place s next) :
    ∃ l k, s = .other l k := by
  have hstated : ∀ {n : Nat} {k : StatementKind} {p : G Unit} {s : Statement} {place next : Place},
      Reads reading (n + 3) (stated k p) place s next → ∃ l k, s = .other l k := by
    intro n k p s place next h
    obtain ⟨_, _, hline, -⟩ := h.of_left
    obtain ⟨l, -, rfl⟩ := hline.of_map
    exact ⟨l, k, rfl⟩
  have hdefinition : ∀ {n : Nat} {s : Statement} {place next : Place},
      Reads reading (n + 5) definition place s next → ∃ l k, s = .other l k := by
    intro n s place next h
    obtain h | ⟨-, h⟩ := h.of_orElse
    · exact hstated h
    obtain h | ⟨-, h⟩ := h.of_orElse <;> exact hstated h
  have h : Reads reading (n + 19) compound place s next := h.mono (n := n + 20) rfl (Nat.le_add_right n 20)
  obtain h | ⟨-, h⟩ := h.of_orElse
  · exact hdefinition h
  obtain h | ⟨-, h⟩ := h.of_orElse
  · obtain ⟨_, _, -, h⟩ := h.of_right
    exact hdefinition h
  obtain h | ⟨-, h⟩ := h.of_orElse
  · exact hstated h
  obtain h | ⟨-, h⟩ := h.of_orElse
  · exact hstated h
  obtain h | ⟨-, h⟩ := h.of_orElse
  · exact hstated h
  obtain h | ⟨-, h⟩ := h.of_orElse
  · exact hstated h
  obtain h | ⟨-, h⟩ := h.of_orElse
  · exact hstated h
  obtain h | ⟨-, h⟩ := h.of_orElse
  · obtain ⟨f, _, k, hhead, -, rfl⟩ := h.of_seq
    obtain ⟨_, _, hline, -⟩ := hhead.of_left
    obtain ⟨l, -, rfl⟩ := hline.of_map
    exact ⟨l, k, rfl⟩
  obtain h | ⟨-, h⟩ := h.of_orElse <;> exact hstated h

/-! ### One line -/

variable {before x y : List Token} {position depth n : Nat} {statements : List Statement}

/-- What a line of simple statements takes is one line. -/
theorem Peg.Reads.of_simpleLine (ends : EndsLine before)
    (h : Reads reading n (.rule .simpleLine) ⟨position, depth, before ++ x⟩ statements next) :
    ∃ used t after, before = used ++ t :: after ∧ (∀ t ∈ used, t.kind.isInner) ∧ t.kind = .newline ∧
      (after = [] ∨ EndsLine after) ∧ next.rest = after ++ x ∧ ∀ y,
      Reads reading (n + 3) (.rule .simpleLine) ⟨position, depth, before ++ y⟩ statements
        ⟨next.position, next.depth, after ++ y⟩ := by
  have h : Reads reading (n + 2) simpleLine ⟨position, depth, before ++ x⟩ statements next :=
    h.mono (n := n + 3) rfl (Nat.le_add_right n 3)
  obtain ⟨_, mid, hitems, hend⟩ := h.of_left
  have halike := fun z => hitems.alike (y := z) rfl isInline_grammar rfl ends
  obtain ⟨used, after, rfl, hused, ends', hmid, -⟩ := halike x
  obtain ⟨t, rest, hrest, ht, rfl⟩ := hend.of_kind
  obtain ⟨t', after', rfl⟩ := ends'.exists_cons
  obtain ⟨rfl, rfl⟩ := List.cons.inj (hrest.symm.trans hmid)
  refine ⟨used, t, after', rfl, hused, ht, ends'.tail_or, rfl, fun z => ?_⟩
  obtain ⟨_, after'', -, -, -, hmid', hreads⟩ := halike z
  rw [← List.append_cancel_right (hmid.symm.trans hmid')] at hreads
  exact reads_rule (reads_left hreads (reads_kind rfl ht))

/-- The head of a match statement, up to its line's end. -/
def matchHead : G Unit := softKeyword "match" *> tupled (ref .starNamed) *> colon

/-- Where no line is indented, a match statement ends at its head. -/
theorem fails_matchStatement (h : Settles reading n matchHead place)
    (hindent : ∀ a mid, Reads reading n matchHead place a mid → ∀ t ∈ mid.rest, t.kind ≠ .indent)
    (hrest : ∀ a mid, Reads reading n matchHead place a mid → ∃ t u rest, mid.rest = t :: u :: rest) :
    Fails reading (n + 8) matchStatement place := by
  refine fails_right (fails_right ?_)
  obtain h | ⟨a, mid, h⟩ := h
  · exact fails_right (fails_right h)
  · obtain ⟨t, u, rest, hmid⟩ := hrest a mid h
    by_cases ht : t.kind = .newline
    · refine fails_right_of_reads (reads_right h (reads_kind hmid ht)) (fails_kind rfl ?_)
      exact hindent a mid h u (by simp [hmid])
    · exact fails_right (fails_right_of_reads h (fails_kind hmid ht))

/-- A line on which no compound statement could stand holds none with other lines behind it either, as
long as none of these is indented. -/
theorem fails_compound_of_alike (ends : EndsLine before) (hrest : before = t :: rest)
    (ht : t.kind ∉ compoundHeads) (hindent : ∀ t ∈ before ++ y, t.kind ≠ .indent) (hy : y ≠ [])
    (h : Fails reading n (.rule .compound) ⟨position, depth, before ++ x⟩) :
    Fails reading (n + 41) (.rule .compound) ⟨position, depth, before ++ y⟩ := by
  have hbehind : ∀ z, (Place.mk position depth (before ++ z)).rest = t :: (rest ++ z) :=
    fun z => by rw [hrest]; rfl
  refine fails_rule (fails_compound (hbehind y) ht (fails_stated (hbehind y) ?_))
  have h : Fails reading (n + 40) compound ⟨position, depth, before ++ x⟩ :=
    h.mono (n := n + 41) rfl (Nat.le_add_right n 41)
  have hmatch : Fails reading (n + 31) (stated .matchStmt matchStatement)
      ⟨position, depth, before ++ x⟩ :=
    h.of_orElse.2.of_orElse.2.of_orElse.2.of_orElse.2.of_orElse.2.of_orElse.2.of_orElse.2.of_orElse.2.of_orElse.2
  have hsettles : Settles reading (n + 22) matchHead ⟨position, depth, before ++ x⟩ := by
    have hstatement := Settles.right (.inl hmatch) (reads_map (reads_map (reads_line (hbehind x))))
    exact hstatement.of_right.of_right.of_right.of_right
  have halike : ∀ z a mid, Reads reading (n + 22) matchHead ⟨position, depth, before ++ z⟩ a mid →
      ∃ used after, before = used ++ after ∧ EndsLine after ∧ mid.rest = after ++ z := by
    intro z a mid hreads
    obtain ⟨used, after, hsplit, -, ends', hmid, -⟩ :=
      hreads.alike (y := z) rfl isInline_grammar rfl ends
    exact ⟨used, after, hsplit, ends', hmid⟩
  refine fails_matchStatement ?_ (fun a mid hreads u hu => ?_) fun a mid hreads => ?_
  · obtain hfails | ⟨a, mid, hreads⟩ := hsettles
    · exact .inl (hfails.alike rfl isInline_grammar rfl ends)
    · obtain ⟨_, _, -, -, -, -, hreads⟩ := hreads.alike (y := y) rfl isInline_grammar rfl ends
      exact .inr ⟨a, _, hreads⟩
  · obtain ⟨used, after, hsplit, -, hmid⟩ := halike y a mid hreads
    refine hindent u ?_
    rw [hsplit, List.append_assoc, ← hmid]
    exact List.mem_append_right _ hu
  · obtain ⟨used, after, -, ends', hmid⟩ := halike y a mid hreads
    obtain ⟨u, after, rfl⟩ := ends'.exists_cons
    obtain ⟨v, behind, hv⟩ := List.exists_cons_of_ne_nil (l := after ++ y) (by simp [hy])
    exact ⟨u, v, behind, by rw [hmid, List.cons_append, hv]⟩

/-! ### All lines -/

/-- No statement begins where a block or the source ends. -/
theorem glance_statement :
    ∀ k ∈ [TokenKind.dedent, .finish], glance reading k 330 (.rule .statement) = .fails := by
  decide

/-- A line whose statements are none that units may not use is one of simple statements. -/
theorem Peg.Reads.of_statement (hplain : ∀ s ∈ statements, ∀ l k, s ≠ .other l k)
    (h : Reads reading n (.rule .statement) place statements next) :
    Fails reading n (.rule .compound) place ∧
      Reads reading (n + 1) (.rule .simpleLine) place statements next := by
  have h : Reads reading (n + 2) statement place statements next :=
    h.mono (n := n + 3) rfl (Nat.le_add_right n 3)
  obtain h | ⟨hcompound, hsimple⟩ := h.of_orElse
  · obtain ⟨s, hs, rfl⟩ := h.of_map
    obtain ⟨l, k, rfl⟩ := exists_other hs
    exact absurd rfl (hplain _ (List.mem_singleton_self _) l k)
  · exact ⟨hcompound.of_map, hsimple⟩

/-- Lines of simple statements have no open block behind them, and more lines are read behind them. -/
theorem reads_lines {lines : List (List Statement)} {u : Token} {behind : List Token}
    (hbefore : before = [] ∨ EndsLine before) (hfinish : ∀ t ∈ before, t.kind ≠ .finish)
    (hx : x = u :: behind) (hu : u.kind = .dedent ∨ u.kind = .finish)
    (h : Reads reading n (.many (.rule .statement)) ⟨position, depth, before ++ x⟩ lines next)
    (hnext : ∃ t rest, next.rest = t :: rest ∧ t.kind = .finish)
    (hplain : ∀ s ∈ lines.flatten, ∀ l k, s ≠ .other l k) :
    u.kind = .finish ∧ (∀ t ∈ before, t.kind ≠ .indent) ∧
      ∀ {y z : List Token} {more : List (List Statement)} {c : Nat}, y ≠ [] → (∀ t ∈ y, t.kind ≠ .indent) →
        (∀ position depth, ∃ next, Reads reading (c + 50) (.many (.rule .statement))
          ⟨position, depth, y⟩ more next ∧ next.rest = z) →
        ∃ next, Reads reading (n + (c + 50)) (.many (.rule .statement))
          ⟨position, depth, before ++ y⟩ (lines ++ more) next ∧ next.rest = z := by
  -- The induction is on the lines read; each takes one line of tokens.
  induction lines generalizing before position depth n with
  | nil =>
      cases n with
      | zero => exact absurd h not_reads_zero
      | succ n =>
          obtain ⟨-, rfl⟩ | ⟨_, _, _, -, -, -, hcons⟩ := h.of_many
          · obtain ⟨t, rest, hrest, ht⟩ := hnext
            obtain rfl | ends := hbefore
            · obtain ⟨rfl, -⟩ := List.cons.inj (hrest.symm.trans hx)
              refine ⟨ht, by simp, fun _ _ hmore => ?_⟩
              obtain ⟨next, hreads, hz⟩ := hmore position depth
              exact ⟨next, hreads.mono rfl (Nat.le_add_left _ _), hz⟩
            · obtain ⟨t', before, rfl⟩ := ends.exists_cons
              obtain ⟨rfl, -⟩ := List.cons.inj hrest
              exact absurd ht (hfinish _ List.mem_cons_self)
          · cases hcons
  | cons line lines ih =>
      cases n with
      | zero => exact absurd h not_reads_zero
      | succ n =>
          obtain ⟨hnil, -⟩ | ⟨_, mid, _, hline, hless, hlines, hcons⟩ := h.of_many
          · cases hnil
          cases hcons
          obtain rfl | ends := hbefore
          · -- Nothing is left to read from.
            have hfails : Fails reading 330 (.rule .statement) ⟨position, depth, [] ++ x⟩ := by
              refine fails_of_glance rfl hx (glance_statement u.kind ?_) (Nat.le_refl _)
              simpa using hu
            exact absurd hline (hfails.not_reads rfl)
          · rw [List.flatten_cons] at hplain
            obtain ⟨hplain, hplains⟩ := List.forall_mem_append.mp hplain
            obtain ⟨hcompound, hsimple⟩ := hline.of_statement hplain
            obtain ⟨used, t, after, hsplit, hused, ht, hafter, hmid, hsimples⟩ := hsimple.of_simpleLine ends
            obtain ⟨position', depth', rest⟩ := mid
            cases hmid
            obtain ⟨hu', hafters, hmores⟩ :=
              ih hafter (fun v hv => hfinish v (by simp [hsplit, hv])) hlines hplains
            have hindents : ∀ v ∈ before, v.kind ≠ .indent := by
              rw [hsplit, List.forall_mem_append, List.forall_mem_cons]
              refine ⟨fun v hv hk => ?_, by simp [ht], hafters⟩
              have hinner := hused v hv
              rw [hk] at hinner
              cases hinner
            refine ⟨hu', hindents, fun {y z more c} hy hindent hmore => ?_⟩
            obtain ⟨next', hreads, hz⟩ := hmores hy hindent hmore
            refine ⟨next', ?_, hz⟩
            obtain ⟨first, rest, hfirst⟩ := ends.exists_cons
            have hhead : first.kind ∉ compoundHeads := by
              intro hk
              have hrest : before ++ x = first :: (rest ++ x) := by rw [hfirst, List.cons_append]
              exact (fails_of_glance rfl hrest (glance_simpleLine _ hk) (Nat.le_refl _)).not_reads rfl hsimple
            have hfails : Fails reading (n + 41) (.rule .compound) ⟨position, depth, before ++ y⟩ :=
              fails_compound_of_alike ends hfirst hhead (List.forall_mem_append.mpr ⟨hindents, hindent⟩)
                hy hcompound
            have hsimple : Reads reading (n + 42) (.rule .simpleLine) ⟨position, depth, before ++ y⟩ line
                ⟨position', depth', after ++ y⟩ := (hsimples y).mono rfl (by omega)
            have hstatement : Reads reading (n + 44) (.rule .statement) ⟨position, depth, before ++ y⟩ line
                ⟨position', depth', after ++ y⟩ := reads_rule (reads_orElse_right (fails_map hfails) hsimple)
            have hcons := reads_many_cons (hstatement.mono (n := n + (c + 50)) rfl (by omega)) hless hreads
            rw [Nat.add_right_comm]
            exact hcons

end PersistedOps.Script
