import PersistedOps.Proofs.Script.Appended

/-!
A source with a line behind it. Whatever the source ends with, reading it comes to a line's beginning with
all brackets closed, and the line is read from there; so a unit with the line that attaches an identifier
behind it is the unit's statements and one more.
-/

namespace PersistedOps.Script

theorem EndsLine.append_left {tokens : List Token} (h : EndsLine tokens) (more : List Token) :
    EndsLine (more ++ tokens) := by
  obtain ⟨line, t, rfl, ht⟩ := h
  exact ⟨more ++ line, t, (List.append_assoc ..).symm, ht⟩

namespace Lexer

variable {c next : Cursor} {fresh : Bool} {tokens : List Token} {ending : Ending} {cs ds : List Char}

/-! ### Reading on behind a source -/

/-- The tokens at the end of a source with so many blocks open. -/
def closingTokens (blocks line : Nat) : List Token :=
  List.replicate blocks ⟨.dedent, line - 1, 0⟩ ++ [⟨.finish, line - 1, 0⟩]

theorem stepFresh_nil {line : Nat} {indents : List (Nat × Nat)} {brackets : List (Char × Nat)} :
    stepFresh ⟨[], line, indents, brackets⟩ = if brackets.isEmpty then
      .last (List.replicate indents.length ⟨.dedent, line - 1, brackets.length⟩
        ++ [⟨.finish, line - 1, brackets.length⟩]) .complete
    else .last [] (.unfinished (line - 1)) := rfl

/-- Inside a line a source does not end. -/
theorem stepWithin_ne_complete (h : EndsInBreak c.rest) (heq : stepWithin c = .last tokens ending) :
    ending ≠ .complete := by
  obtain ⟨first, more, hfirst⟩ := (h.dropWhile (p := isBlank) (by decide)).exists_cons
  have hends : EndsInBreak (first :: more) := hfirst ▸ h.dropWhile (by decide)
  by_cases hcomment : first = '#'
  · subst hcomment
    rw [stepWithin_comment hfirst] at heq
    cases heq
  by_cases hbreak : first = '\n'
  · subst hbreak
    rw [stepWithin_break hfirst] at heq
    cases heq
  by_cases hback : first = '\\'
  · subst hback
    obtain ⟨d, rest, rfl⟩ := (hends.tail (by decide)).exists_cons
    by_cases hd : d = '\n'
    · subst hd
      by_cases hrest : rest = []
      · subst hrest
        rw [stepWithin, hfirst] at heq
        cases heq
        simp
      · rw [stepWithin_joined hfirst hrest] at heq
        cases heq
    · rw [stepWithin_stuck hfirst hd] at heq
      cases heq
      simp
  · rw [stepWithin_word hfirst ⟨hcomment, hbreak, hback⟩, stepWord] at heq
    split at heq
    · rw [stepText] at heq
      split at heq <;> cases heq
      simp
    split at heq
    · rw [stepNumber] at heq
      split at heq <;> cases heq
      simp
    split at heq
    · rw [stepName] at heq
      split at heq
      · cases heq
      split at heq <;> cases heq
      simp
    · rw [stepSign] at heq
      split at heq
      · cases heq
        simp
      split at heq <;> cases heq
      simp

/-- A source that is read to its end is read up to the beginning of a line, where no bracket is open; so is
every longer source. -/
theorem exists_takes {fuel : Nat} (hrest : Remains c.rest fresh)
    (hending : (run fuel c fresh).ending = .complete) :
    ∃ n before line indents, n < fuel ∧
      (run fuel c fresh).tokens = before ++ closingTokens indents.length line ∧
      (∀ t ∈ before, t.kind ≠ .finish) ∧
      ((before = [] ∧ fresh = true ∧ c.brackets = []) ∨ EndsLine before) ∧
      ∀ ds, Takes n (c.extend ds) fresh before ⟨ds, line, indents, []⟩ true := by
  induction fuel generalizing c fresh with
  | zero => cases hending
  | succ fuel ih =>
      -- A step that takes tokens leaves the same in a longer source.
      have later {tokens : List Token} {next : Cursor} {fresh' : Bool}
          (hstep : (if fresh then stepFresh c else stepWithin c) = .more tokens next fresh')
          (hnext : Remains next.rest fresh') (hyields : Yields c fresh tokens next fresh')
          (hextend : ∀ ds, Takes 1 (c.extend ds) fresh tokens (next.extend ds) fresh') :
          ∃ n before line indents, n < fuel + 1 ∧
            (run (fuel + 1) c fresh).tokens = before ++ closingTokens indents.length line ∧
            (∀ t ∈ before, t.kind ≠ .finish) ∧
            ((before = [] ∧ fresh = true ∧ c.brackets = []) ∨ EndsLine before) ∧
            ∀ ds, Takes n (c.extend ds) fresh before ⟨ds, line, indents, []⟩ true := by
        have hrun : run (fuel + 1) c fresh
            = { run fuel next fresh' with tokens := tokens ++ (run fuel next fresh').tokens } := by
          rw [run, hstep]
        rw [hrun] at hending ⊢
        obtain ⟨n, before, line, indents, hn, htokens, hfinish, hends, htakes⟩ := ih hnext hending
        refine ⟨n + 1, tokens ++ before, line, indents, by omega, ?_, ?_, ?_,
          fun ds => (hextend ds).trans (htakes ds)⟩
        · simp only [htokens, List.append_assoc]
        · exact List.forall_mem_append.mpr ⟨hyields.unfinished, hfinish⟩
        · obtain ⟨rfl, hfresh', hbrackets⟩ | hends := hends
          · obtain hnone | ⟨t, rfl, ht⟩ := hyields.ends hfresh' hbrackets
            · simpa using .inl hnone
            · exact .inr ⟨[], t, rfl, ht⟩
          · exact .inr (hends.append_left tokens)
      obtain hbreak | ⟨hnil, rfl⟩ := hrest
      · cases fresh with
        | true =>
            cases hstep : stepFresh c with
            | last tokens ending =>
                have hrun : (run (fuel + 1) c true).ending = ending := by rw [run, if_pos rfl, hstep]
                exact absurd (hrun.symm.trans hending) (stepFresh_ne_complete hbreak hstep)
            | more tokens next fresh' =>
                obtain ⟨hnext, hyields, hextend⟩ := stepFresh_extend hbreak hstep
                exact later ((if_pos rfl).trans hstep) hnext hyields fun ds => .margin (hextend ds)
        | false =>
            cases hstep : stepWithin c with
            | last tokens ending =>
                have hrun : (run (fuel + 1) c false).ending = ending := by
                  rw [run, if_neg (by decide), hstep]
                exact absurd (hrun.symm.trans hending) (stepWithin_ne_complete hbreak hstep)
            | more tokens next fresh' =>
                obtain ⟨hnext, hyields, hextend⟩ := stepWithin_extend hbreak hstep
                exact later ((if_neg (by decide)).trans hstep) hnext hyields fun ds => .within (hextend ds)
      · obtain ⟨rest, line, indents, brackets⟩ := c
        cases hnil
        rw [run, if_pos rfl, stepFresh_nil] at hending ⊢
        cases brackets with
        | cons b brackets => cases hending
        | nil =>
            exact ⟨0, [], line, indents, Nat.succ_pos _, rfl, by simp, .inl ⟨rfl, rfl, rfl⟩, fun ds fuel => rfl⟩

/-! ### The characters of a source with a line behind it -/

theorem normalizeLines_singleton {c : Char} (hreturn : c ≠ '\r') (hbreak : c ≠ '\n') :
    normalizeLines [c] = [c, '\n'] := by
  rw [normalizeLines]
  · exact hreturn
  · exact hbreak

theorem normalizeLines_cons_cons {c : Char} (hreturn : c ≠ '\r') (d : Char) (rest : List Char) :
    normalizeLines (c :: d :: rest) = c :: normalizeLines (d :: rest) := by
  rw [normalizeLines]
  · exact fun heq _ => hreturn heq
  · exact hreturn

theorem normalizeLines_return {c : Char} (hbreak : c ≠ '\n') (rest : List Char) :
    normalizeLines ('\r' :: c :: rest) = '\n' :: normalizeLines (c :: rest) := by
  rw [normalizeLines]
  exact hbreak

theorem normalizeLines_break (hds : ds ≠ []) : normalizeLines ('\n' :: ds) = '\n' :: normalizeLines ds := by
  obtain ⟨d, ds, rfl⟩ := List.exists_cons_of_ne_nil hds
  rfl

/-- Lines go on behind a source as they begin. A source that ends in a line end has a blank line then. -/
theorem exists_normalizeLines_append (hcs : cs ≠ []) (hds : ds ≠ []) :
    ∃ blank, (blank = [] ∨ blank = ['\n']) ∧
      normalizeLines (cs ++ '\n' :: ds) = normalizeLines cs ++ (blank ++ normalizeLines ds) := by
  have hbreak := normalizeLines_break hds
  -- A character in front stays in front.
  have onward {c : Char} {cs' rest : List Char} (hcs : normalizeLines cs' = c :: normalizeLines rest)
      (happend : normalizeLines (cs' ++ '\n' :: ds) = c :: normalizeLines (rest ++ '\n' :: ds))
      (hrest : ∃ blank, (blank = [] ∨ blank = ['\n']) ∧
        normalizeLines (rest ++ '\n' :: ds) = normalizeLines rest ++ (blank ++ normalizeLines ds)) :
      ∃ blank, (blank = [] ∨ blank = ['\n']) ∧
        normalizeLines (cs' ++ '\n' :: ds) = normalizeLines cs' ++ (blank ++ normalizeLines ds) := by
    obtain ⟨blank, hblank, heq⟩ := hrest
    exact ⟨blank, hblank, by rw [hcs, happend, heq, List.cons_append]⟩
  induction cs using normalizeLines.induct with
  | case1 => exact absurd rfl hcs
  | case2 => exact ⟨[], .inl rfl, rfl⟩
  | case3 => exact ⟨['\n'], .inr rfl, congrArg ('\n' :: ·) hbreak⟩
  | case4 c hreturn hline =>
      refine ⟨[], .inl rfl, ?_⟩
      rw [normalizeLines_singleton hreturn hline]
      exact (normalizeLines_cons_cons hreturn _ _).trans (congrArg (c :: ·) hbreak)
  | case5 rest ih =>
      by_cases hrest : rest = []
      · subst hrest
        exact ⟨['\n'], .inr rfl, congrArg ('\n' :: ·) hbreak⟩
      · exact onward rfl rfl (ih hrest)
  | case6 c rest hc ih =>
      exact onward (normalizeLines_return hc _) (normalizeLines_return hc _) (ih (by simp))
  | case7 c d rest hjoined hreturn ih =>
      exact onward (normalizeLines_cons_cons hreturn _ _) (normalizeLines_cons_cons hreturn _ _)
        (ih (by simp))

theorem endsInBreak_normalizeLines (hcs : cs ≠ []) : EndsInBreak (normalizeLines cs) := by
  have onward {c : Char} {cs : List Char} (h : EndsInBreak cs) : EndsInBreak (c :: cs) := by
    obtain ⟨d, ds, rfl⟩ := h.exists_cons
    exact List.getLast?_cons_cons.trans h
  induction cs using normalizeLines.induct with
  | case1 => exact absurd rfl hcs
  | case2 => rfl
  | case3 => rfl
  | case4 c hreturn hline =>
      rw [normalizeLines_singleton hreturn hline]
      rfl
  | case5 rest ih =>
      by_cases hrest : rest = []
      · subst hrest
        rfl
      · exact onward (ih hrest)
  | case6 c rest hc ih => exact normalizeLines_return hc rest ▸ onward (ih (by simp))
  | case7 c d rest hjoined hreturn ih =>
      exact normalizeLines_cons_cons hreturn d rest ▸ onward (ih (by simp))

/-- The characters that the tokens of a source are read from. -/
def linesOf (source : String) : List Char :=
  if (normalizeLines source.toList).isEmpty then ['\n'] else normalizeLines source.toList

theorem lex_eq_run (source : String) :
    lex source = run (2 * (linesOf source).length + 2) ⟨linesOf source, 1, [], []⟩ true := rfl

theorem linesOf_of_ne_nil {source : String} (h : source.toList ≠ []) :
    linesOf source = normalizeLines source.toList := by
  rw [linesOf, if_neg]
  rw [List.isEmpty_iff]
  exact (endsInBreak_normalizeLines h).ne_nil

theorem endsInBreak_linesOf (source : String) : EndsInBreak (linesOf source) := by
  by_cases h : source.toList = []
  · rw [linesOf, h]
    rfl
  · rw [linesOf_of_ne_nil h]
    exact endsInBreak_normalizeLines h

/-- Where a line is put behind a source, it stands behind the source's lines, maybe with a blank line
between. -/
theorem exists_linesOf_append (source line : String) (hline : ∀ c ∈ line.toList, c ≠ '\n' ∧ c ≠ '\r')
    (hne : line.toList ≠ []) : ∃ blank, (blank = [] ∨ blank = ['\n']) ∧
      linesOf (source ++ ("\n" ++ line)) = linesOf source ++ (blank ++ (line.toList ++ ['\n'])) := by
  have htext : (source ++ ("\n" ++ line)).toList = source.toList ++ '\n' :: line.toList := by simp
  rw [linesOf_of_ne_nil (by simp [htext]), htext, ← normalizeLines_line hline hne]
  by_cases h : source.toList = []
  · refine ⟨[], .inl rfl, ?_⟩
    rw [linesOf, h, List.nil_append, normalizeLines_break hne]
    rfl
  · rw [linesOf_of_ne_nil h]
    exact exists_normalizeLines_append h hne

/-! ### The line that attaches an identifier behind a source -/

variable {operation identifier : String}

theorem ne_break_of_mem_documentIdStatement {c : Char}
    (h : c ∈ (documentIdStatement operation identifier).toList) : c ≠ '\n' ∧ c ≠ '\r' := by
  have hprintable := isPrintableAscii_of_mem_documentIdStatement h
  constructor <;> rintro rfl <;> exact absurd hprintable (by decide)

theorem le_length_documentIdStatement (operation identifier : String) :
    7 ≤ (documentIdStatement operation identifier).toList.length := by
  rw [toList_documentIdStatement]
  simp [exportsName]

/-- The line's tokens come behind those of a source in which no block is open at the end. -/
theorem exists_lex_append {source : String} (hending : (lex source).ending = .complete) :
    ∃ before blocks line, (lex source).tokens = before ++ closingTokens blocks line ∧
      (before = [] ∨ EndsLine before) ∧ (∀ t ∈ before, t.kind ≠ .finish) ∧
      (blocks = 0 → ∀ operation identifier, ∃ l finish, finish.kind = .finish ∧
        lex (source ++ ("\n" ++ documentIdStatement operation identifier))
          = ⟨before ++ (attachmentTokens l (quotedBody operation) (quotedBody documentIdKey)
              (quotedBody identifier) ++ [finish]), .complete, none⟩) := by
  rw [lex_eq_run] at hending ⊢
  obtain ⟨n, before, line, indents, hn, htokens, hfinish, hends, htakes⟩ :=
    exists_takes (.inl (endsInBreak_linesOf source)) hending
  refine ⟨before, indents.length, line, htokens, hends.imp_left (·.1), hfinish, fun hblocks => ?_⟩
  obtain rfl := List.eq_nil_of_length_eq_zero hblocks
  intro operation identifier
  have hlength := le_length_documentIdStatement operation identifier
  obtain ⟨blank, hblank, hlines⟩ := exists_linesOf_append source (documentIdStatement operation identifier)
    (fun _ => ne_break_of_mem_documentIdStatement) (List.ne_nil_of_length_pos (by omega))
  -- A blank line is passed over.
  have hblanks (rest : List Char) :
      Takes blank.length ⟨blank ++ rest, line, [], []⟩ true [] ⟨rest, line + blank.length, [], []⟩ true := by
    obtain rfl | rfl := hblank
    · exact fun fuel => rfl
    · exact .margin rfl
  have hline : Takes 11 ⟨(documentIdStatement operation identifier).toList ++ ['\n'],
      line + blank.length, [], []⟩ true
      (attachmentTokens (line + blank.length) (quotedBody operation) (quotedBody documentIdKey)
        (quotedBody identifier)) ⟨[], line + blank.length + 1, [], []⟩ true :=
    takes_documentIdStatement operation identifier
  have hall := ((htakes _).trans (hblanks _)).trans hline
  refine ⟨line + blank.length, ⟨.finish, line + blank.length, 0⟩, rfl, ?_⟩
  have hsteps : 1 + (11 + (blank.length + n)) ≤ 2 * (linesOf (source ++ ("\n" ++
      documentIdStatement operation identifier))).length + 2 := by
    rw [hlines]
    simp only [List.length_append, List.length_singleton]
    omega
  obtain ⟨fuel, hfuel⟩ := Nat.exists_eq_add_of_le' hsteps
  rw [← Nat.add_assoc] at hfuel
  rw [lex_eq_run, hfuel, hlines]
  refine (hall (fuel + 1)).trans ?_
  simp only [List.append_nil, List.append_assoc]
  rfl

end Lexer

/-- A unit with the line behind it is the unit's statements and the one that attaches the identifier. -/
theorem exists_parse_append {source : String} {statements : List Statement}
    (h : parse source = .ok statements) (hplain : ∀ s ∈ statements, ∀ l k, s ≠ .other l k)
    (operation identifier : String) :
    ∃ l, parse (source ++ ("\n" ++ documentIdStatement operation identifier))
      = .ok (statements ++ [attachment l (spelled operation) (.text documentIdKey) (spelled identifier)]) := by
  have hkey (l : Nat) : Spells l (quotedBody documentIdKey) (.text documentIdKey) := by
    have hspelled : spelled documentIdKey = .text documentIdKey := by decide
    exact hspelled ▸ spells_quotedBody l documentIdKey
  obtain ⟨hending, place, reach, hread⟩ : (Lexer.lex source).ending = .complete ∧ ∃ place reach,
      readTokens false (Lexer.lex source).tokens = .done statements place reach := by
    rw [parse] at h
    split at h
    · next hending hread =>
      cases h
      exact ⟨hending, _, _, hread⟩
    · cases h
  obtain ⟨before, blocks, line, htokens, hbefore, hinner, hlex⟩ := Lexer.exists_lex_append hending
  rw [htokens] at hread
  have hend : (⟨.finish, line, 0⟩ : Token).kind = .finish := rfl
  obtain ⟨hblocks, -⟩ := readTokens_attached hbefore hinner rfl rfl hend hread hplain
  obtain ⟨l, finish, hfinish, hlex⟩ := hlex hblocks operation identifier
  obtain ⟨-, hattached⟩ := readTokens_attached hbefore hinner rfl rfl hfinish hread hplain
  obtain ⟨place', reach', hread'⟩ := hattached (spells_quotedBody l operation) (hkey l)
    (spells_quotedBody l identifier)
  refine ⟨l, ?_⟩
  rw [parse, hlex]
  simp only [hread']

end PersistedOps.Script
