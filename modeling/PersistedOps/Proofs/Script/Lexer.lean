import PersistedOps.Proofs.Script.Inline
import PersistedOps.Proofs.Script.Scanning

/-!
Tokens of a source with more lines behind it. Each step of reading takes the same from a longer source,
so the tokens of the longer source are those of the shorter one up to its end, and go on with those of
the lines behind.
-/

namespace PersistedOps.Script

/-- The same place in a source that goes on. -/
def Cursor.extend (c : Cursor) (ds : List Char) : Cursor := { c with rest := c.rest ++ ds }

namespace Lexer

variable {c next : Cursor} {fresh fresh' : Bool} {tokens : List Token} {ds : List Char}

/-! ### Line beginnings -/

section

variable {column narrow joined line : Nat} {cs : List Char} {margin : Margin}

theorem scanMargin_of_ne {d : Char} (hd : d ≠ ' ' ∧ d ≠ '\t' ∧ d ≠ '\x0c' ∧ d ≠ '\\') (rest : List Char) :
    scanMargin column narrow joined line (d :: rest)
      = .ok ⟨column, narrow, joined, d :: rest, line⟩ := by
  obtain ⟨hspace, htab, hfeed, hback⟩ := hd
  rw [scanMargin.eq_def]
  split <;> rename_i heq
  · exact absurd (List.cons.inj heq).1 hspace
  · exact absurd (List.cons.inj heq).1 htab
  · exact absurd (List.cons.inj heq).1 hfeed
  · exact absurd (List.cons.inj heq).1 hback
  · exact absurd (List.cons.inj heq).1 hback
  · exact absurd (List.cons.inj heq).1 hback
  · rfl

/-- A line's margin is read before the line ends. -/
theorem local_scanMargin (h : EndsInBreak cs) (heq : scanMargin column narrow joined line cs = .ok margin) :
    EndsInBreak margin.rest ∧ ∀ ds, scanMargin column narrow joined line (cs ++ ds)
      = .ok { margin with rest := margin.rest ++ ds } := by
  induction column, narrow, joined, line, cs using scanMargin.induct with
  | case1 column narrow joined line rest ih => exact ih (h.tail (by decide)) heq
  | case2 column narrow joined line rest ih => exact ih (h.tail (by decide)) heq
  | case3 column narrow joined line rest ih => exact ih (h.tail (by decide)) heq
  | case4 column narrow joined line d rest ih =>
      exact ih ((h.tail (by decide)).tail_of_ne_nil (by simp)) heq
  | case5 column narrow joined line => cases heq
  | case6 column narrow joined line tail hmore hend =>
      rw [scanMargin] at heq
      · cases heq
      · exact hmore
      · exact hend
  | case7 column narrow joined line rest hspace htab hfeed _ _ hback =>
      obtain ⟨d, rest, rfl⟩ := h.exists_cons
      have hd : d ≠ ' ' ∧ d ≠ '\t' ∧ d ≠ '\x0c' ∧ d ≠ '\\' :=
        ⟨fun hd => hspace rest (hd ▸ rfl), fun hd => htab rest (hd ▸ rfl), fun hd => hfeed rest (hd ▸ rfl),
          fun hd => hback rest (hd ▸ rfl)⟩
      rw [scanMargin_of_ne hd] at heq
      cases heq
      exact ⟨h, fun ds => scanMargin_of_ne hd (rest ++ ds)⟩

/-- A margin that cannot be read is no end of a source. -/
theorem scanMargin_ne_complete {ending : Ending}
    (heq : scanMargin column narrow joined line cs = .error ending) : ending ≠ .complete := by
  induction column, narrow, joined, line, cs using scanMargin.induct with
  | case1 column narrow joined line rest ih => exact ih heq
  | case2 column narrow joined line rest ih => exact ih heq
  | case3 column narrow joined line rest ih => exact ih heq
  | case4 column narrow joined line d rest ih => exact ih heq
  | case5 column narrow joined line =>
      cases heq
      nofun
  | case6 column narrow joined line tail hmore hend =>
      rw [scanMargin] at heq
      · cases heq
        nofun
      · exact hmore
      · exact hend
  | case7 column narrow joined line rest hspace htab hfeed hjoin hlast hback =>
      rw [scanMargin] at heq
      · cases heq
      · exact hspace
      · exact htab
      · exact hfeed
      · exact hjoin
      · exact hlast
      · exact hback

end

/-- What a step in front of more text leaves: text that ends in a break, or none at a line's beginning. -/
def Remains (rest : List Char) (fresh : Bool) : Prop := EndsInBreak rest ∨ (rest = [] ∧ fresh = true)

/-- The tokens of a step never end the source, and a step that comes to a line's beginning outside all
brackets either takes the line's end or passes over a blank line. -/
structure Yields (c : Cursor) (fresh : Bool) (tokens : List Token) (next : Cursor) (fresh' : Bool) :
    Prop where
  unfinished : ∀ t ∈ tokens, t.kind ≠ .finish
  ends : fresh' = true → next.brackets = [] →
    (tokens = [] ∧ fresh = true ∧ c.brackets = []) ∨ ∃ t, tokens = [t] ∧ t.kind = .newline

/-- A line beginning whose margin has text behind it. -/
theorem stepFresh_eq {column narrow joined line : Nat} {first : Char} {more : List Char}
    (hmargin : scanMargin 0 0 0 c.line c.rest = .ok ⟨column, narrow, joined, first :: more, line⟩) :
    stepFresh c
      = if first = '#' ∨ first = '\n' then
          .more [] { c with rest := ((first :: more).dropWhile (· ≠ '\n')).drop 1, line := line + 1 } true
        else if !c.brackets.isEmpty then .more [] { c with rest := first :: more, line } false
        else match indentation { c with line } (if joined = 0 then column else joined)
            (if joined = 0 then narrow else joined) with
          | some (tokens, indents) => .more tokens { c with rest := first :: more, line, indents } false
          | none => .last [] (.stuck line) := by
  rw [stepFresh, hmargin]
  by_cases hblank : first = '#' ∨ first = '\n'
  · rw [if_pos hblank]
    exact if_pos hblank
  · rw [if_neg hblank]
    refine (if_neg hblank).trans ?_
    by_cases hbrackets : (!c.brackets.isEmpty) = true
    · exact (if_pos hbrackets).trans (if_pos hbrackets).symm
    · refine (if_neg hbrackets).trans (Eq.trans ?_ (if_neg hbrackets).symm)
      by_cases hjoined : joined = 0
      · simp only [if_pos hjoined]
        rfl
      · simp only [if_neg hjoined]
        rfl

/-- Indentation is told by tokens that end nothing. -/
theorem indentation_unfinished {column narrow : Nat} {indents : List (Nat × Nat)}
    (h : indentation c column narrow = some (tokens, indents)) : ∀ t ∈ tokens, t.kind ≠ .finish := by
  rw [indentation] at h
  split at h
  rename_i inner innerNarrow hinner
  split at h
  · split at h
    · cases h
      simp
    · cases h
  · split at h
    · split at h
      · cases h
        simp [Cursor.token]
      · cases h
    · split at h
      rename_i count left hleft
      split at h
      · cases h
        intro t ht
        rw [(List.mem_replicate.mp ht).2]
        nofun
      · cases h

theorem stepFresh_extend (h : EndsInBreak c.rest) (heq : stepFresh c = .more tokens next fresh) :
    Remains next.rest fresh ∧ Yields c true tokens next fresh ∧
      ∀ ds, stepFresh (c.extend ds) = .more tokens (next.extend ds) fresh := by
  cases hmargin : scanMargin 0 0 0 c.line c.rest with
  | error ending =>
      rw [stepFresh, hmargin] at heq
      cases heq
  | ok margin =>
      obtain ⟨hrest, hmargins⟩ := local_scanMargin h hmargin
      obtain ⟨column, narrow, joined, rest, line⟩ := margin
      dsimp only at hrest
      obtain ⟨first, more, rfl⟩ := hrest.exists_cons
      rw [stepFresh_eq hmargin] at heq
      have hextend : ∀ ds, stepFresh (c.extend ds) = _ := fun ds => stepFresh_eq (hmargins ds)
      split at heq
      · -- A blank line ends at its break, and what is added stands behind that.
        rename_i hblank
        cases heq
        obtain ⟨d, after, hafter⟩ := (hrest.dropWhile (p := (· ≠ '\n')) (by simp)).exists_cons
        have hbreak : EndsInBreak (d :: after) := hafter ▸ hrest.dropWhile (by simp)
        refine ⟨?_, ⟨by simp, fun _ hbrackets => .inl ⟨rfl, rfl, hbrackets⟩⟩, fun ds => ?_⟩
        · rw [hafter, List.drop_one, List.tail_cons]
          by_cases hnil : after = []
          · exact .inr ⟨hnil, rfl⟩
          · exact .inl (hbreak.tail_of_ne_nil hnil)
        · have hdrop : ((first :: more).append ds).dropWhile (· ≠ '\n') = d :: (after ++ ds) := by
            refine (takeWhile_append_of_endsInBreak hrest (by simp) ds).2.trans ?_
            rw [hafter, List.cons_append]
          rw [hextend, if_pos hblank, hafter]
          refine congrArg (fun rest => Step.more [] ⟨rest, line + 1, c.indents, c.brackets⟩ true) ?_
          exact congrArg (List.drop 1) hdrop
      · rename_i hblank
        split at heq
        · -- Inside brackets the margin is of no account. Else it opens and closes blocks, whatever follows it.
          rename_i hbrackets
          cases heq
          refine ⟨.inl hrest, ⟨by simp, nofun⟩, fun ds => ?_⟩
          rw [hextend, if_neg hblank]
          exact if_pos hbrackets
        · rename_i hbrackets
          split at heq
          · rename_i ts indents hindentation
            cases heq
            refine ⟨.inl hrest, ⟨indentation_unfinished hindentation, nofun⟩, fun ds => ?_⟩
            rw [hextend, if_neg hblank]
            refine (if_neg hbrackets).trans ?_
            have hsame : indentation { c.extend ds with line } (if joined = 0 then column else joined)
                (if joined = 0 then narrow else joined) = some (tokens, indents) := hindentation
            rw [hsame]
            rfl
          · cases heq

/-- A line's beginning that is followed by text is not the end. -/
theorem stepFresh_ne_complete (h : EndsInBreak c.rest) {ending : Ending}
    (heq : stepFresh c = .last tokens ending) : ending ≠ .complete := by
  cases hmargin : scanMargin 0 0 0 c.line c.rest with
  | error ending' =>
      rw [stepFresh, hmargin] at heq
      cases heq
      exact scanMargin_ne_complete hmargin
  | ok margin =>
      obtain ⟨hrest, -⟩ := local_scanMargin h hmargin
      obtain ⟨column, narrow, joined, rest, line⟩ := margin
      obtain ⟨first, more, rfl⟩ := hrest.exists_cons
      rw [stepFresh_eq hmargin] at heq
      split at heq
      · cases heq
      split at heq
      · cases heq
      split at heq
      · cases heq
      · cases heq
        nofun

/-! ### Inside lines -/

/-- A step from a place stays inside the line and takes no end of the source, however the text goes on. -/
structure Inside (step : Cursor → Step) (c : Cursor) (tokens : List Token) (next : Cursor) (fresh : Bool) :
    Prop where
  inside : fresh = false
  rest : EndsInBreak next.rest
  unfinished : ∀ t ∈ tokens, t.kind ≠ .finish
  extend : ∀ ds, step (c.extend ds) = .more tokens (next.extend ds) false

theorem stepText_inside {flags : TextFlags} {q : Char} {quoted : List Char} (hq : q ≠ '\n')
    (h : EndsInBreak (q :: quoted)) (heq : stepText c flags (q :: quoted) = .more tokens next fresh) :
    fresh = false ∧ EndsInBreak next.rest ∧ (∀ t ∈ tokens, t.kind ≠ .finish) ∧
      ∀ ds, stepText (c.extend ds) flags (q :: quoted ++ ds) = .more tokens (next.extend ds) false := by
  rw [stepText] at heq
  split at heq
  · rename_i body rest hbody
    cases heq
    obtain ⟨hrest, hbodies⟩ := local_scanQuoted hq h hbody
    refine ⟨rfl, hrest, by simp [Cursor.token], fun ds => ?_⟩
    rw [stepText, hbodies]
    rfl
  · cases heq

theorem stepNumber_inside (h : EndsInBreak c.rest) (heq : stepNumber c = .more tokens next fresh) :
    Inside stepNumber c tokens next fresh := by
  rw [stepNumber] at heq
  split at heq
  · rename_i value rest hvalue
    cases heq
    obtain ⟨hrest, hvalues⟩ := Numeral.local_scan h hvalue
    refine ⟨rfl, hrest, by simp [Cursor.token], fun ds => ?_⟩
    have hscan : Numeral.scan (c.extend ds).rest = some (value, rest ++ ds) := hvalues ds
    rw [stepNumber, hscan]
    rfl
  · cases heq

theorem stepName_inside (h : EndsInBreak c.rest) (heq : stepName c = .more tokens next fresh) :
    Inside stepName c tokens next fresh := by
  have hrest : EndsInBreak (c.rest.dropWhile Numeral.isNameChar) := h.dropWhile (by decide)
  have hspelling : ∀ ds, (c.extend ds).rest.takeWhile Numeral.isNameChar
      = c.rest.takeWhile Numeral.isNameChar ∧ (c.extend ds).rest.dropWhile Numeral.isNameChar
      = c.rest.dropWhile Numeral.isNameChar ++ ds :=
    takeWhile_append_of_endsInBreak h (by decide)
  rw [stepName] at heq
  split at heq
  · rename_i hword
    cases heq
    refine ⟨rfl, hrest, by simp [Cursor.token], fun ds => ?_⟩
    rw [stepName, (hspelling ds).1, (hspelling ds).2]
    exact if_pos hword
  · rename_i hword
    split at heq
    · rename_i hidentifier
      cases heq
      refine ⟨rfl, hrest, by simp [Cursor.token], fun ds => ?_⟩
      rw [stepName, (hspelling ds).1, (hspelling ds).2]
      exact (if_neg hword).trans (if_pos hidentifier)
    · cases heq

theorem stepSign_inside (h : EndsInBreak c.rest) (heq : stepSign c = .more tokens next fresh) :
    Inside stepSign c tokens next fresh := by
  rw [stepSign] at heq
  split at heq
  · cases heq
  · rename_i sign rest hsign
    obtain ⟨hrest, hsigns⟩ := local_scanSign h hsign
    split at heq
    · cases heq
    · rename_i brackets hbrackets
      cases heq
      refine ⟨rfl, hrest, by simp [Cursor.token], fun ds => ?_⟩
      have hscan : scanSign (c.extend ds).rest = some (sign, rest ++ ds) := hsigns ds
      have hafter : bracketsAfter sign (c.extend ds).line (c.extend ds).brackets = some brackets := hbrackets
      rw [stepSign, hscan]
      simp only [hafter]
      rfl

section

variable {first : Char} {more : List Char}

/-- A step in front of a character that is no comment, line end or backslash. -/
def stepWord (c : Cursor) (first : Char) (more : List Char) : Step :=
  match scanFlags {} true (first :: more) with
  | some (flags, quoted) => stepText { c with rest := first :: more } flags quoted
  | none =>
    if first.isDigit ∨ (first = '.' ∧ more.head?.any Char.isDigit) then
      stepNumber { c with rest := first :: more }
    else if Numeral.isNameChar first then stepName { c with rest := first :: more }
    else stepSign { c with rest := first :: more }

theorem stepWithin_comment (h : c.rest.dropWhile isBlank = '#' :: more) :
    stepWithin c = .more [] { c with rest := more.dropWhile (· ≠ '\n') } false := by
  rw [stepWithin, h]
  rfl

theorem stepWithin_break (h : c.rest.dropWhile isBlank = '\n' :: more) :
    stepWithin c = .more (if c.brackets.isEmpty then [c.token .newline] else [])
      { c with rest := more, line := c.line + 1 } true := by
  rw [stepWithin, h]
  rfl

theorem stepWithin_joined (h : c.rest.dropWhile isBlank = '\\' :: '\n' :: more) (hmore : more ≠ []) :
    stepWithin c = .more [] { c with rest := more, line := c.line + 1 } false := by
  rw [stepWithin, h]
  exact if_neg (by simpa using hmore)

theorem stepWithin_stuck {d : Char} (h : c.rest.dropWhile isBlank = '\\' :: d :: more) (hd : d ≠ '\n') :
    stepWithin c = .last [] (.stuck c.line) := by
  rw [stepWithin, h]
  dsimp only
  split <;> rename_i heq
  · cases heq
  · cases heq
  · cases heq
  · exact absurd (List.cons.inj (List.cons.inj heq).2).1 hd
  · rfl
  · rename_i hback
    exact (hback (List.cons.inj heq).1.symm).elim

theorem stepWithin_word (h : c.rest.dropWhile isBlank = first :: more)
    (hfirst : first ≠ '#' ∧ first ≠ '\n' ∧ first ≠ '\\') : stepWithin c = stepWord c first more := by
  rw [stepWithin, h]
  obtain ⟨hcomment, hbreak, hback⟩ := hfirst
  dsimp only
  split <;> rename_i heq
  · cases heq
  · exact absurd (List.cons.inj heq).1 hcomment
  · exact absurd (List.cons.inj heq).1 hbreak
  · exact absurd (List.cons.inj heq).1 hback
  · exact absurd (List.cons.inj heq).1 hback
  · cases heq
    rfl

theorem stepWord_inside (h : EndsInBreak (first :: more))
    (heq : stepWord c first more = .more tokens next fresh) :
    fresh = false ∧ EndsInBreak next.rest ∧ (∀ t ∈ tokens, t.kind ≠ .finish) ∧
      ∀ ds, stepWord (c.extend ds) first (more ++ ds) = .more tokens (next.extend ds) false := by
  have hflags : ∀ ds, scanFlags {} true (first :: (more ++ ds)) = _ := local_scanFlags h
  rw [stepWord] at heq
  split at heq
  · rename_i flags quoted hquoted
    obtain ⟨hends, q, rest, rfl, hq⟩ := quoted_of_scanFlags h hquoted
    obtain ⟨hfresh, hrest, hunfinished, hextend⟩ := stepText_inside hq hends heq
    refine ⟨hfresh, hrest, hunfinished, fun ds => ?_⟩
    rw [stepWord, hflags, hquoted]
    exact hextend ds
  · rename_i hquoted
    -- At a point the character behind it decides, and that is never one of those added.
    have hnumber : ∀ ds, (first.isDigit ∨ (first = '.' ∧ (more ++ ds).head?.any Char.isDigit))
        ↔ (first.isDigit ∨ (first = '.' ∧ more.head?.any Char.isDigit)) := by
      intro ds
      by_cases hpoint : first = '.'
      · obtain ⟨d, rest, rfl⟩ := (h.tail (hpoint ▸ by decide)).exists_cons
        rfl
      · simp [hpoint]
    have hstep : ∀ ds, stepWord (c.extend ds) first (more ++ ds) =
        if first.isDigit ∨ (first = '.' ∧ more.head?.any Char.isDigit) then
          stepNumber (Cursor.extend { c with rest := first :: more } ds)
        else if Numeral.isNameChar first then stepName (Cursor.extend { c with rest := first :: more } ds)
        else stepSign (Cursor.extend { c with rest := first :: more } ds) := by
      intro ds
      rw [stepWord, hflags, hquoted]
      simp only [Option.map_none, hnumber ds]
      rfl
    split at heq
    · rename_i hdigit
      obtain ⟨hfresh, hrest, hunfinished, hextend⟩ := stepNumber_inside h heq
      exact ⟨hfresh, hrest, hunfinished, fun ds => (hstep ds).trans ((if_pos hdigit).trans (hextend ds))⟩
    · rename_i hdigit
      split at heq
      · rename_i hname
        obtain ⟨hfresh, hrest, hunfinished, hextend⟩ := stepName_inside h heq
        exact ⟨hfresh, hrest, hunfinished, fun ds =>
          (hstep ds).trans ((if_neg hdigit).trans ((if_pos hname).trans (hextend ds)))⟩
      · rename_i hname
        obtain ⟨hfresh, hrest, hunfinished, hextend⟩ := stepSign_inside h heq
        exact ⟨hfresh, hrest, hunfinished, fun ds =>
          (hstep ds).trans ((if_neg hdigit).trans ((if_neg hname).trans (hextend ds)))⟩

end

theorem stepWithin_extend (h : EndsInBreak c.rest) (heq : stepWithin c = .more tokens next fresh) :
    Remains next.rest fresh ∧ Yields c false tokens next fresh ∧
      ∀ ds, stepWithin (c.extend ds) = .more tokens (next.extend ds) fresh := by
  obtain ⟨first, more, hfirst⟩ := (h.dropWhile (p := isBlank) (by decide)).exists_cons
  have hends : EndsInBreak (first :: more) := hfirst ▸ h.dropWhile (by decide)
  have hblanks : ∀ ds, (c.extend ds).rest.dropWhile isBlank = first :: (more ++ ds) := by
    intro ds
    rw [← List.cons_append, ← hfirst]
    exact (takeWhile_append_of_endsInBreak h (by decide) ds).2
  by_cases hcomment : first = '#'
  · subst hcomment
    rw [stepWithin_comment hfirst] at heq
    cases heq
    have hmore : EndsInBreak more := hends.tail (by decide)
    refine ⟨.inl (hmore.dropWhile (by simp)), ⟨by simp, nofun⟩, fun ds => ?_⟩
    rw [stepWithin_comment (hblanks ds), (takeWhile_append_of_endsInBreak hmore (by simp) ds).2]
    rfl
  by_cases hbreak : first = '\n'
  · subst hbreak
    rw [stepWithin_break hfirst] at heq
    cases heq
    refine ⟨?_, ⟨?_, fun _ hbrackets => .inr ⟨c.token .newline, ?_, rfl⟩⟩, fun ds => ?_⟩
    · by_cases hnil : more = []
      · exact .inr ⟨hnil, rfl⟩
      · exact .inl (hends.tail_of_ne_nil hnil)
    · intro t ht
      split at ht
      · obtain rfl := List.mem_singleton.mp ht
        nofun
      · cases ht
    · exact if_pos (List.isEmpty_iff.mpr hbrackets)
    · exact stepWithin_break (hblanks ds)
  by_cases hback : first = '\\'
  · subst hback
    obtain ⟨d, rest, rfl⟩ := (hends.tail (by decide)).exists_cons
    -- A joined line needs a further one, which the text has to have without what is added.
    by_cases hd : d = '\n'
    · subst hd
      by_cases hrest : rest = []
      · subst hrest
        rw [stepWithin, hfirst] at heq
        cases heq
      · rw [stepWithin_joined hfirst hrest] at heq
        cases heq
        refine ⟨.inl ((hends.tail (by decide)).tail_of_ne_nil hrest), ⟨by simp, nofun⟩, fun ds => ?_⟩
        exact stepWithin_joined (hblanks ds) (by simp [hrest])
    · rw [stepWithin_stuck hfirst hd] at heq
      cases heq
  · have hword : first ≠ '#' ∧ first ≠ '\n' ∧ first ≠ '\\' := ⟨hcomment, hbreak, hback⟩
    rw [stepWithin_word hfirst hword] at heq
    obtain ⟨rfl, hrest, hunfinished, hextend⟩ := stepWord_inside hends heq
    refine ⟨.inl hrest, ⟨hunfinished, nofun⟩, fun ds => ?_⟩
    exact (stepWithin_word (hblanks ds) hword).trans (hextend ds)

end Lexer

end PersistedOps.Script
