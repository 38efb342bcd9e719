import Mathlib.Data.List.Find
import PersistedOps.Script.Lexer

/-!
Scanning inside a line. Every scanner stops before the end of the line, unless it is inside a text
literal, so on text that ends in a line break it takes the same from any longer text.
-/

namespace PersistedOps.Script

/-- Text that ends in a line break. -/
def EndsInBreak (cs : List Char) : Prop := cs.getLast? = some '\n'

namespace EndsInBreak

variable {c : Char} {cs ds : List Char}

theorem ne_nil (h : EndsInBreak cs) : cs ≠ [] := by
  rintro rfl
  cases h

theorem exists_cons (h : EndsInBreak cs) : ∃ c ds, cs = c :: ds :=
  List.exists_cons_of_ne_nil h.ne_nil

theorem tail_of_ne_nil (h : EndsInBreak (c :: cs)) (hcs : cs ≠ []) : EndsInBreak cs := by
  obtain ⟨d, ds, rfl⟩ := List.exists_cons_of_ne_nil hcs
  exact (List.getLast?_cons_cons ▸ h : (d :: ds).getLast? = some '\n')

theorem tail (h : EndsInBreak (c :: cs)) (hc : c ≠ '\n') : EndsInBreak cs := by
  refine h.tail_of_ne_nil ?_
  rintro rfl
  exact hc (Option.some.inj h)

theorem of_append {word : List Char} (h : EndsInBreak (word ++ cs)) (hword : '\n' ∉ word) :
    EndsInBreak cs := by
  induction word with
  | nil => exact h
  | cons w word ih =>
      rw [List.mem_cons, not_or] at hword
      exact ih (EndsInBreak.tail h (Ne.symm hword.1)) hword.2

theorem dropWhile {p : Char → Bool} (h : EndsInBreak cs) (hp : p '\n' = false) :
    EndsInBreak (cs.dropWhile p) := by
  induction cs with
  | nil => exact h
  | cons c cs ih =>
      rw [List.dropWhile_cons]
      split
      · rename_i hc
        refine ih (h.tail ?_)
        rintro rfl
        rw [hp] at hc
        cases hc
      · exact h

end EndsInBreak

/-- Text that ends in a break has one, so a run of other characters ends before it. -/
theorem takeWhile_append_of_endsInBreak {p : Char → Bool} {cs : List Char} (h : EndsInBreak cs)
    (hp : p '\n' = false) (ds : List Char) :
    (cs ++ ds).takeWhile p = cs.takeWhile p ∧ (cs ++ ds).dropWhile p = cs.dropWhile p ++ ds := by
  induction cs with
  | nil => exact absurd rfl h.ne_nil
  | cons c cs ih =>
      rw [List.cons_append, List.takeWhile_cons, List.takeWhile_cons, List.dropWhile_cons,
        List.dropWhile_cons]
      by_cases hc : p c
      · have htail : EndsInBreak cs := by
          refine h.tail ?_
          rintro rfl
          rw [hp] at hc
          cases hc
        obtain ⟨htake, hdrop⟩ := ih htail
        simp [hc, htake, hdrop]
      · simp [hc]

/-- A word without a break stands in front of text or of any longer text. -/
theorem isPrefixOf_append {word cs : List Char} (hword : '\n' ∉ word) (h : EndsInBreak cs) (ds : List Char) :
    word.isPrefixOf (cs ++ ds) = word.isPrefixOf cs := by
  induction word generalizing cs with
  | nil => simp
  | cons w word ih =>
      obtain ⟨c, cs, rfl⟩ := h.exists_cons
      rw [List.mem_cons, not_or] at hword
      obtain ⟨hw, hword⟩ := hword
      rw [List.cons_append, List.isPrefixOf_cons_cons, List.isPrefixOf_cons_cons]
      by_cases hc : w = c
      · rw [ih hword (h.tail (hc ▸ Ne.symm hw))]
      · rw [beq_false_of_ne hc, Bool.false_and, Bool.false_and]

/-- A scanner that stops before the last break takes the same from any longer text. -/
def Local {α : Type} (scan : List Char → Option (α × List Char)) : Prop :=
  ∀ ⦃cs a rest⦄, EndsInBreak cs → scan cs = some (a, rest) →
    EndsInBreak rest ∧ ∀ ds, scan (cs ++ ds) = some (a, rest ++ ds)

namespace Local

variable {α β : Type}

theorem pure (a : α) : Local fun cs => some (a, cs) := by
  intro cs b rest h heq
  cases heq
  exact ⟨h, fun _ => rfl⟩

theorem none : Local fun _ => (none : Option (α × List Char)) := nofun

theorem bind {scan : List Char → Option (α × List Char)} {next : α → List Char → Option (β × List Char)}
    (h : Local scan) (hnext : ∀ a, Local (next a)) :
    Local fun cs => (scan cs).bind fun r => next r.1 r.2 := by
  intro cs b rest hcs heq
  obtain ⟨⟨a, mid⟩, hscan, hmore⟩ := Option.bind_eq_some_iff.mp heq
  obtain ⟨hmid, hscans⟩ := h hcs hscan
  obtain ⟨hrest, hmores⟩ := hnext a hmid hmore
  refine ⟨hrest, fun ds => ?_⟩
  simp only [hscans ds, Option.bind_some]
  exact hmores ds

theorem map {scan : List Char → Option (α × List Char)} (h : Local scan) (f : α → β) :
    Local fun cs => (scan cs).map fun r => (f r.1, r.2) := by
  intro cs b rest hcs heq
  obtain ⟨⟨a, mid⟩, hscan, hmap⟩ := Option.map_eq_some_iff.mp heq
  cases hmap
  obtain ⟨hmid, hscans⟩ := h hcs hscan
  exact ⟨hmid, fun ds => by simp only [hscans ds, Option.map_some]⟩

end Local

/-! ### Text literals -/

namespace Lexer

variable {quote : Char}

theorem scanShort_escape (c : Char) (rest : List Char) : scanShort quote ('\\' :: c :: rest)
    = (scanShort quote rest).map fun r => ('\\' :: c :: r.1, r.2) := rfl

theorem scanShort_cons {c : Char} (hc : c ≠ '\\') (rest : List Char) : scanShort quote (c :: rest)
    = if c = quote then some ([], rest)
      else if c = '\n' then none else (scanShort quote rest).map fun r => (c :: r.1, r.2) := by
  rw [scanShort]
  exact fun _ _ heq => absurd heq hc

theorem local_scanShort (hquote : quote ≠ '\n') : Local (scanShort quote) := by
  intro cs
  induction cs using scanShort.induct quote with
  | case1 => nofun
  | case2 c rest ih =>
      intro body more h heq
      rw [scanShort_escape] at heq
      obtain ⟨⟨body', more'⟩, hscan, hmap⟩ := Option.map_eq_some_iff.mp heq
      cases hmap
      -- The escaped character may be the last break, but then no quote would follow.
      have hrest : rest ≠ [] := by
        rintro rfl
        cases hscan
      obtain ⟨hmore, hscans⟩ := ih ((h.tail (by decide)).tail_of_ne_nil hrest) hscan
      refine ⟨hmore, fun ds => ?_⟩
      rw [List.cons_append, List.cons_append, scanShort_escape, hscans ds]
      rfl
  | case3 rest hesc =>
      intro body more h heq
      have hrest := h.tail hquote
      have hc : quote ≠ '\\' := fun hc => by
        obtain ⟨d, ds, rfl⟩ := hrest.exists_cons
        exact hesc d ds hc rfl
      rw [scanShort_cons hc, if_pos rfl] at heq
      cases heq
      exact ⟨hrest, fun ds => by rw [List.cons_append, scanShort_cons hc, if_pos rfl]⟩
  | case4 rest hesc hc =>
      intro body more h heq
      rw [scanShort_cons (by decide), if_neg hc, if_pos rfl] at heq
      cases heq
  | case5 c rest hesc hc hbreak ih =>
      intro body more h heq
      have hrest := h.tail hbreak
      have hback : c ≠ '\\' := fun hc => by
        obtain ⟨d, ds, rfl⟩ := hrest.exists_cons
        exact hesc d ds hc rfl
      rw [scanShort_cons hback, if_neg hc, if_neg hbreak] at heq
      obtain ⟨⟨body', more'⟩, hscan, hmap⟩ := Option.map_eq_some_iff.mp heq
      cases hmap
      obtain ⟨hmore, hscans⟩ := ih hrest hscan
      refine ⟨hmore, fun ds => ?_⟩
      rw [List.cons_append, scanShort_cons hback, if_neg hc, if_neg hbreak, hscans ds]
      rfl

theorem scanLong_escape (c : Char) (rest : List Char) : scanLong quote ('\\' :: c :: rest)
    = (scanLong quote rest).map fun r => ('\\' :: c :: r.1, r.2) := by
  rw [scanLong]

/-- Text of fewer than three characters holds no three quotes. -/
theorem scanLong_of_length_lt {cs : List Char} (h : cs.length < 3) : scanLong quote cs = none := by
  match cs, h with
  | [], _ => rfl
  | [c], _ => simp [scanLong]
  | [c, d], _ =>
      by_cases hc : c = '\\'
      · subst hc
        rw [scanLong_escape]
        rfl
      · rw [scanLong] <;> simp [scanLong, hc]

theorem scanLong_cons {c : Char} (hc : c ≠ '\\') (d e : Char) (after : List Char) :
    scanLong quote (c :: d :: e :: after)
      = if c = quote ∧ d = quote ∧ e = quote then some ([], after)
        else (scanLong quote (d :: e :: after)).map fun r => (c :: r.1, r.2) := by
  rw [scanLong]
  exact fun _ _ heq => absurd heq hc

theorem local_scanLong (hquote : quote ≠ '\n') : Local (scanLong quote) := by
  intro cs
  induction cs using scanLong.induct quote with
  | case1 => nofun
  | case2 c rest ih =>
      intro body more h heq
      rw [scanLong_escape] at heq
      obtain ⟨⟨body', more'⟩, hscan, hmap⟩ := Option.map_eq_some_iff.mp heq
      cases hmap
      -- The escaped character may be the last break, but then no quotes would follow.
      have hrest : rest ≠ [] := by
        rintro rfl
        cases hscan
      obtain ⟨hmore, hscans⟩ := ih ((h.tail (by decide)).tail_of_ne_nil hrest) hscan
      refine ⟨hmore, fun ds => ?_⟩
      rw [List.cons_append, List.cons_append, scanLong_escape, hscans ds]
      rfl
  | case3 c d e after hquotes hesc =>
      intro body more h heq
      have hc : c ≠ '\\' := fun hc => hesc d (e :: after) hc rfl
      rw [scanLong_cons hc, if_pos hquotes] at heq
      cases heq
      obtain ⟨rfl, rfl, rfl⟩ := hquotes
      refine ⟨((h.tail hquote).tail hquote).tail hquote, fun ds => ?_⟩
      rw [List.cons_append, List.cons_append, List.cons_append, scanLong_cons hc,
        if_pos ⟨rfl, rfl, rfl⟩]
  | case4 c d e after hquotes hesc ih =>
      intro body more h heq
      have hc : c ≠ '\\' := fun hc => hesc d (e :: after) hc rfl
      rw [scanLong_cons hc, if_neg hquotes] at heq
      obtain ⟨⟨body', more'⟩, hscan, hmap⟩ := Option.map_eq_some_iff.mp heq
      cases hmap
      obtain ⟨hmore, hscans⟩ := ih (h.tail_of_ne_nil (by simp)) hscan
      refine ⟨hmore, fun ds => ?_⟩
      have hscan' := hscans ds
      rw [List.cons_append, List.cons_append] at hscan'
      rw [List.cons_append, List.cons_append, List.cons_append, scanLong_cons hc, if_neg hquotes, hscan']
      rfl
  | case5 c rest hesc hshort ih =>
      intro body more h heq
      rw [scanLong_of_length_lt] at heq
      · cases heq
      · match rest with
        | [] => simp
        | [d] => simp
        | d :: e :: after => exact absurd rfl (hshort d e after)

theorem local_scanQuoted {cs body rest : List Char} {q : Char} (hq : q ≠ '\n') (h : EndsInBreak (q :: cs))
    (heq : scanQuoted (q :: cs) = some (body, rest)) :
    EndsInBreak rest ∧ ∀ ds, scanQuoted (q :: cs ++ ds) = some (body, rest ++ ds) := by
  have hcs := h.tail hq
  match cs with
  | [] => exact absurd rfl hcs.ne_nil
  | [a] =>
      obtain rfl : a = '\n' := Option.some.inj hcs
      rw [show scanQuoted [q, '\n'] = scanShort q ['\n'] from rfl, scanShort_cons (by decide),
        if_neg hq.symm, if_pos rfl] at heq
      cases heq
  | a :: b :: more =>
      rw [scanQuoted] at heq
      split at heq
      · rename_i hquotes
        obtain ⟨rfl, rfl⟩ := hquotes
        obtain ⟨hrest, hscans⟩ := local_scanLong hq ((hcs.tail hq).tail hq) heq
        refine ⟨hrest, fun ds => ?_⟩
        rw [← hscans ds]
        exact if_pos ⟨rfl, rfl⟩
      · rename_i hquotes
        obtain ⟨hrest, hscans⟩ := local_scanShort hq hcs heq
        refine ⟨hrest, fun ds => ?_⟩
        rw [← hscans ds]
        exact if_neg hquotes

/-- Flags are read off the letters in front of a quote. -/
theorem local_scanFlags {flags : TextFlags} {plain : Bool} {cs : List Char} (h : EndsInBreak cs)
    (ds : List Char) : scanFlags flags plain (cs ++ ds)
      = (scanFlags flags plain cs).map fun r => (r.1, r.2 ++ ds) := by
  induction cs generalizing flags plain with
  | nil => exact absurd rfl h.ne_nil
  | cons c cs ih =>
      rw [List.cons_append, scanFlags, scanFlags]
      split
      · rfl
      · cases hflag : flag? flags plain c with
        | none => rfl
        | some r =>
            refine ih (h.tail ?_)
            rintro rfl
            simp [flag?] at hflag

/-- What follows flags is a quote. -/
theorem quoted_of_scanFlags {flags flags' : TextFlags} {plain : Bool} {cs quoted : List Char}
    (h : EndsInBreak cs) (heq : scanFlags flags plain cs = some (flags', quoted)) :
    EndsInBreak quoted ∧ ∃ q more, quoted = q :: more ∧ q ≠ '\n' := by
  induction cs generalizing flags plain with
  | nil => cases heq
  | cons c cs ih =>
      rw [scanFlags] at heq
      split at heq
      · rename_i hquote
        cases heq
        refine ⟨h, c, cs, rfl, ?_⟩
        rintro rfl
        simp at hquote
      · cases hflag : flag? flags plain c with
        | none =>
            rw [hflag] at heq
            cases heq
        | some r =>
            rw [hflag] at heq
            refine ih (h.tail ?_) heq
            rintro rfl
            simp [flag?] at hflag

/-! ### Signs -/

/-- No sign holds a line break. -/
theorem not_mem_sign : ∀ s ∈ longSigns ++ pairSigns, '\n' ∉ s.toList := by decide

theorem local_scanSign : Local scanSign := by
  intro cs sign rest h heq
  have hfind : ∀ ds, (longSigns ++ pairSigns).find? (fun s => s.toList.isPrefixOf (cs ++ ds))
      = (longSigns ++ pairSigns).find? fun s => s.toList.isPrefixOf cs :=
    fun ds => List.find?_congr fun s hs => isPrefixOf_append (not_mem_sign s hs) h ds
  rw [scanSign.eq_def] at heq
  cases hsign : (longSigns ++ pairSigns).find? fun s => s.toList.isPrefixOf cs with
  | some s =>
      rw [hsign] at heq
      cases heq
      have hprefix : sign.toList.isPrefixOf cs := by simpa using List.find?_some hsign
      obtain ⟨more, rfl⟩ := List.isPrefixOf_iff_prefix.mp hprefix
      have hdrop : ∀ ds, (sign.toList ++ ds).drop sign.length = ds := fun ds => by
        rw [← String.length_toList, List.drop_left]
      rw [hdrop]
      refine ⟨h.of_append (not_mem_sign sign (List.mem_of_find?_eq_some hsign)), fun ds => ?_⟩
      rw [scanSign.eq_def, hfind, hsign, List.append_assoc]
      simp only [hdrop]
  | none =>
      rw [hsign] at heq
      obtain ⟨c, more, rfl⟩ := h.exists_cons
      simp only at heq
      split at heq
      · rename_i hprintable
        cases heq
        have hc : c ≠ '\n' := by
          rintro rfl
          exact absurd hprintable.1 (by decide)
        refine ⟨h.tail hc, fun ds => ?_⟩
        rw [scanSign.eq_def, hfind, hsign]
        exact if_pos hprintable
      · cases heq

end Lexer

/-! ### Numbers -/

namespace Numeral

theorem takeDigits_cons (isDigit : Char → Bool) (c : Char) (rest : List Char) :
    takeDigits isDigit (c :: rest)
      = if isDigit c then (takeDigits isDigit rest).map fun r => (c :: r.1, r.2)
        else if c = '_' then match rest with
          | d :: _ => if isDigit d then takeDigits isDigit rest else none
          | [] => none
        else some ([], c :: rest) := by
  exact (takeDigits.eq_def isDigit (c :: rest)).trans rfl

theorem local_takeDigits {isDigit : Char → Bool} (hdigit : isDigit '\n' = false) :
    Local (takeDigits isDigit) := by
  intro cs
  induction cs with
  | nil => exact fun _ _ h => absurd rfl h.ne_nil
  | cons c rest ih =>
      intro digits more h heq
      rw [takeDigits_cons] at heq
      split at heq
      · rename_i hc
        have hrest : EndsInBreak rest := by
          refine h.tail ?_
          rintro rfl
          rw [hdigit] at hc
          cases hc
        obtain ⟨⟨digits', more'⟩, hscan, hmap⟩ := Option.map_eq_some_iff.mp heq
        cases hmap
        obtain ⟨hmore, hscans⟩ := ih hrest hscan
        refine ⟨hmore, fun ds => ?_⟩
        rw [List.cons_append, takeDigits_cons, if_pos hc, hscans ds]
        rfl
      · rename_i hc
        split at heq
        · rename_i hunder
          have hrest : EndsInBreak rest := h.tail (hunder ▸ by decide)
          obtain ⟨d, tail, rfl⟩ := hrest.exists_cons
          simp only at heq
          split at heq
          · rename_i hd
            obtain ⟨hmore, hscans⟩ := ih hrest heq
            refine ⟨hmore, fun ds => ?_⟩
            rw [List.cons_append, takeDigits_cons, if_neg hc, if_pos hunder, ← hscans ds]
            exact if_pos hd
          · cases heq
        · rename_i hunder
          cases heq
          refine ⟨h, fun ds => ?_⟩
          rw [List.cons_append, takeDigits_cons, if_neg hc, if_neg hunder]

theorem head?_append {cs : List Char} (h : EndsInBreak cs) (ds : List Char) :
    (cs ++ ds).head? = cs.head? := by
  obtain ⟨c, more, rfl⟩ := h.exists_cons
  rfl

/-- No word that may follow a number holds a line break. -/
theorem not_mem_follower : ∀ w ∈ followers, '\n' ∉ w.toList := by decide

theorem endsBefore_append {cs : List Char} (h : EndsInBreak cs) (ds : List Char) :
    endsBefore (cs ++ ds) = endsBefore cs := by
  have hany : (followers.any fun w => w.toList.isPrefixOf (cs ++ ds))
      = followers.any fun w => w.toList.isPrefixOf cs := by
    rw [Bool.eq_iff_iff, List.any_eq_true, List.any_eq_true]
    refine exists_congr fun w => and_congr_right fun hw => ?_
    rw [isPrefixOf_append (not_mem_follower w hw) h]
  rw [endsBefore, endsBefore, hany, head?_append h]

theorem local_finish (value : Numeral) : Local (finish value) := by
  intro cs a rest h heq
  rw [finish] at heq
  split at heq
  · rename_i hends
    cases heq
    refine ⟨h, fun ds => ?_⟩
    rw [finish, endsBefore_append h, if_pos hends]
  · cases heq

theorem scanSuffix_cons (value : Numeral) (c : Char) (rest : List Char) :
    scanSuffix value (c :: rest)
      = if c = 'j' ∨ c = 'J' then finish .imaginary rest else finish value (c :: rest) := by
  by_cases hj : c = 'j'
  · subst hj
    rfl
  · by_cases hJ : c = 'J'
    · subst hJ
      rfl
    · rw [if_neg (by simp [hj, hJ]), scanSuffix]
      · exact fun _ heq => hj (List.cons.inj heq).1
      · exact fun _ heq => hJ (List.cons.inj heq).1

theorem local_scanSuffix (value : Numeral) : Local (scanSuffix value) := by
  intro cs a rest h heq
  obtain ⟨c, more, rfl⟩ := h.exists_cons
  rw [scanSuffix_cons] at heq
  split at heq
  · rename_i hc
    obtain ⟨hrest, hscans⟩ := local_finish _ (h.tail (by rintro rfl; simp at hc)) heq
    refine ⟨hrest, fun ds => ?_⟩
    rw [List.cons_append, scanSuffix_cons, if_pos hc, hscans ds]
  · rename_i hc
    obtain ⟨hrest, hscans⟩ := local_finish _ h heq
    refine ⟨hrest, fun ds => ?_⟩
    rw [List.cons_append, scanSuffix_cons, if_neg hc, ← List.cons_append, hscans ds]

/-- The value of a float with the digits of its exponent. -/
def withPower (whole fraction : List Char) (negative : Bool) (digits : List Char) : Numeral :=
  .float (.ofDecimal false (Json.digitsToNat (whole ++ fraction))
    ((if negative then -(Json.digitsToNat digits : Int) else Json.digitsToNat digits) - fraction.length))

/-- The digits of an exponent and what ends the number. -/
def scanPower (whole fraction : List Char) (negative : Bool) (cs : List Char) :
    Option (Numeral × List Char) :=
  (takeDigits Char.isDigit cs).bind fun r => scanSuffix (withPower whole fraction negative r.1) r.2

theorem local_scanPower (whole fraction : List Char) (negative : Bool) :
    Local (scanPower whole fraction negative) := by
  have hdigits : Local (takeDigits Char.isDigit) := local_takeDigits rfl
  exact hdigits.bind fun ds => local_scanSuffix (withPower whole fraction negative ds)

section

variable {whole fraction : List Char} {value : Numeral} {e : Char}

theorem scanExponent_of_ne (he : ¬ (e = 'e' ∨ e = 'E')) (rest : List Char) :
    scanExponent whole fraction value (e :: rest) = scanSuffix value (e :: rest) := by
  rw [scanExponent.eq_def]
  simp only [if_neg he]

/-- An exponent has a sign, or it has none. -/
theorem scanExponent_cons (he : e = 'e' ∨ e = 'E') (d : Char) (more : List Char) :
    scanExponent whole fraction value (e :: d :: more)
      = if d = '+' ∨ d = '-' then match more with
          | c :: _ => if c.isDigit then scanPower whole fraction (d = '-') more else none
          | [] => finish value [e, d]
        else if d.isDigit then scanPower whole fraction false (d :: more)
        else finish value (e :: d :: more) := by
  rw [scanExponent.eq_def]
  simp only [if_pos he]
  by_cases hplus : d = '+'
  · subst hplus
    cases more <;> rfl
  · by_cases hminus : d = '-'
    · subst hminus
      cases more <;> rfl
    · rw [if_neg (by simp [hplus, hminus])]
      split
      · rename_i heq
        exact absurd (List.cons.inj heq).1 hplus
      · rename_i heq
        exact absurd (List.cons.inj heq).1 hminus
      · rename_i heq
        cases heq
        rfl
      · rename_i heq
        cases heq

theorem local_scanExponent : Local (scanExponent whole fraction value) := by
  intro cs a rest h heq
  obtain ⟨e, more, rfl⟩ := h.exists_cons
  by_cases he : e = 'e' ∨ e = 'E'
  · have hmore : EndsInBreak more := h.tail (by rintro rfl; simp at he)
    obtain ⟨d, more, rfl⟩ := hmore.exists_cons
    rw [scanExponent_cons he] at heq
    split at heq
    · rename_i hd
      have hrest : EndsInBreak more := hmore.tail (by rintro rfl; simp at hd)
      obtain ⟨c, more, rfl⟩ := hrest.exists_cons
      simp only at heq
      split at heq
      · rename_i hc
        obtain ⟨hend, hscans⟩ := local_scanPower _ _ _ hrest heq
        refine ⟨hend, fun ds => ?_⟩
        rw [List.cons_append, List.cons_append, scanExponent_cons he, if_pos hd, ← hscans ds]
        exact if_pos hc
      · cases heq
    · rename_i hd
      split at heq
      · rename_i hdigit
        obtain ⟨hend, hscans⟩ := local_scanPower _ _ _ hmore heq
        refine ⟨hend, fun ds => ?_⟩
        rw [List.cons_append, List.cons_append, scanExponent_cons he, if_neg hd, if_pos hdigit, ← hscans ds,
          List.cons_append]
      · rename_i hdigit
        obtain ⟨hend, hscans⟩ := local_finish _ h heq
        refine ⟨hend, fun ds => ?_⟩
        rw [List.cons_append, List.cons_append, scanExponent_cons he, if_neg hd, if_neg hdigit, ← hscans ds,
          List.cons_append, List.cons_append]
  · rw [scanExponent_of_ne he] at heq
    obtain ⟨hend, hscans⟩ := local_scanSuffix _ h heq
    refine ⟨hend, fun ds => ?_⟩
    rw [List.cons_append, scanExponent_of_ne he, ← hscans ds, List.cons_append]

/-- The value of a float by its digits alone. -/
def withFraction (whole digits : List Char) : Numeral :=
  .float (.ofDecimal false (Json.digitsToNat (whole ++ digits)) (-digits.length))

theorem scanFraction_cons (d : Char) (cs : List Char) : scanFraction whole (d :: cs)
    = if d.isDigit then (takeDigits Char.isDigit (d :: cs)).bind fun r =>
        scanExponent whole r.1 (withFraction whole r.1) r.2
      else scanExponent whole [] (withFraction whole []) (d :: cs) := by
  rw [scanFraction.eq_def]
  by_cases hd : d.isDigit
  · simp only [if_pos hd]
    rfl
  · simp only [if_neg hd]
    rfl

theorem local_scanFraction : Local (scanFraction whole) := by
  intro cs a rest h heq
  obtain ⟨d, cs, rfl⟩ := h.exists_cons
  rw [scanFraction_cons] at heq
  have hdigits : Local (takeDigits Char.isDigit) := local_takeDigits rfl
  split at heq
  · rename_i hd
    have hboth : Local fun cs => (takeDigits Char.isDigit cs).bind fun r =>
        scanExponent whole r.1 (withFraction whole r.1) r.2 := by
      have hnext : ∀ digits, Local (scanExponent whole digits (withFraction whole digits)) :=
        fun _ => local_scanExponent
      exact hdigits.bind hnext
    obtain ⟨hend, hscans⟩ := hboth h heq
    refine ⟨hend, fun ds => ?_⟩
    rw [List.cons_append, scanFraction_cons, if_pos hd, ← hscans ds, List.cons_append]
  · rename_i hd
    obtain ⟨hend, hscans⟩ := local_scanExponent h heq
    refine ⟨hend, fun ds => ?_⟩
    rw [List.cons_append, scanFraction_cons, if_neg hd, ← hscans ds, List.cons_append]

/-- Whether an exponent stands here is seen before the line ends. -/
theorem beginsExponent_append {cs : List Char} (he : e ≠ '\n') (h : EndsInBreak (e :: cs)) (ds : List Char) :
    beginsExponent (e :: cs ++ ds) = beginsExponent (e :: cs) := by
  have hcs := h.tail he
  obtain ⟨d, more, rfl⟩ := hcs.exists_cons
  by_cases hd : d = '+' ∨ d = '-'
  · have hmore : EndsInBreak more := hcs.tail (by rintro rfl; simp at hd)
    obtain ⟨c, more, rfl⟩ := hmore.exists_cons
    obtain rfl | rfl := hd <;> rfl
  · have hbegins : ∀ more, beginsExponent (e :: d :: more) = ((e == 'e' || e == 'E') && d.isDigit) := by
      intro more
      rw [not_or] at hd
      rw [beginsExponent.eq_def]
      split
      · rename_i heq
        exact absurd (List.cons.inj (List.cons.inj heq).2).1 hd.1
      · rename_i heq
        exact absurd (List.cons.inj (List.cons.inj heq).2).1 hd.2
      · rename_i heq
        cases heq
        rfl
      · rename_i hcons
        exact absurd rfl (hcons e d more)
    rw [List.cons_append, List.cons_append, hbegins, hbegins]

theorem scanTail_cons {c : Char} (hc : c ≠ '.') (more : List Char) : scanTail whole (c :: more)
    = if c = 'e' ∨ c = 'E' then
        if (whole.head? == some '0' && whole.any (· ≠ '0')) && !beginsExponent (c :: more) then none
        else scanExponent whole [] (decimal whole) (c :: more)
      else if c = 'j' ∨ c = 'J' then scanSuffix .imaginary (c :: more)
      else if whole.head? == some '0' && whole.any (· ≠ '0') then none
      else finish (decimal whole) (c :: more) := by
  rw [scanTail.eq_def]
  split
  · rename_i heq
    exact absurd (List.cons.inj heq).1 hc
  · rename_i heq
    cases heq
    rfl
  · rename_i heq
    cases heq

theorem local_scanTail : Local (scanTail whole) := by
  intro cs a rest h heq
  obtain ⟨c, more, rfl⟩ := h.exists_cons
  by_cases hc : c = '.'
  · subst hc
    exact local_scanFraction (h.tail (by decide)) heq
  · rw [scanTail_cons hc] at heq
    have hscan : ∀ ds, scanTail whole (c :: more ++ ds) = _ := fun ds => scanTail_cons hc (more ++ ds)
    split at heq
    · rename_i he
      split at heq
      · cases heq
      · rename_i hzeros
        obtain ⟨hend, hscans⟩ := local_scanExponent h heq
        refine ⟨hend, fun ds => ?_⟩
        rw [hscan, if_pos he, ← List.cons_append,
          beginsExponent_append (by rintro rfl; simp at he) h, if_neg hzeros, hscans]
    · rename_i he
      split at heq
      · rename_i hj
        obtain ⟨hend, hscans⟩ := local_scanSuffix _ h heq
        refine ⟨hend, fun ds => ?_⟩
        rw [hscan, if_neg he, if_pos hj, ← List.cons_append, hscans]
      · rename_i hj
        split at heq
        · cases heq
        · rename_i hzeros
          obtain ⟨hend, hscans⟩ := local_finish _ h heq
          refine ⟨hend, fun ds => ?_⟩
          rw [hscan, if_neg he, if_neg hj, if_neg hzeros, ← List.cons_append, hscans]

theorem local_scanRadix {base : Nat} {isDigit : Char → Bool} (hdigit : isDigit '\n' = false) :
    Local (scanRadix base isDigit) := by
  intro cs a rest h heq
  rw [scanRadix.eq_def] at heq
  split at heq
  · rename_i d digits more hscan
    obtain ⟨hmore, hscans⟩ := local_takeDigits hdigit h hscan
    split at heq
    · cases heq
    · rename_i hhead
      obtain ⟨hend, hfinish⟩ := local_finish _ hmore heq
      refine ⟨hend, fun ds => ?_⟩
      rw [scanRadix.eq_def, hscans]
      simp only [head?_append hmore, if_neg hhead, hfinish]
  · cases heq

/-- The digits of a decimal number and what follows them. -/
def scanDecimal (cs : List Char) : Option (Numeral × List Char) :=
  (takeDigits Char.isDigit cs).bind fun r => scanTail r.1 r.2

theorem local_scanDecimal : Local scanDecimal := by
  have hdigits : Local (takeDigits Char.isDigit) := local_takeDigits rfl
  exact hdigits.bind fun _ => local_scanTail

/-- Numbers in other bases begin with a zero and a letter. -/
theorem scan_zero (d : Char) (more : List Char) : scan ('0' :: d :: more)
    = if d = 'x' ∨ d = 'X' then scanRadix 16 (fun c => (Hex.digit? c).isSome) more
      else if d = 'o' ∨ d = 'O' then scanRadix 8 (fun c => '0' ≤ c && c ≤ '7') more
      else if d = 'b' ∨ d = 'B' then scanRadix 2 (fun c => c == '0' || c == '1') more
      else scanDecimal ('0' :: d :: more) := by
  rw [scan.eq_def]
  split <;> rename_i heq
  · cases heq
  any_goals
    cases heq
    rfl
  rename_i hx hX ho hO hb
  have hletters : ∀ c, (∀ rest, '0' :: d :: more = '0' :: c :: rest → False) → d ≠ c :=
    fun c hc hd => hc more (hd ▸ rfl)
  rw [if_neg (by simp [hletters _ hx, hletters _ hX]), if_neg (by simp [hletters _ ho, hletters _ hO]),
    if_neg (by simp [hletters _ hb, hletters _ heq])]
  rfl

theorem scan_cons {c : Char} (hpoint : c ≠ '.') (hzero : c ≠ '0') (more : List Char) :
    scan (c :: more) = scanDecimal (c :: more) := by
  rw [scan.eq_def]
  split <;> rename_i heq
  · exact absurd (List.cons.inj heq).1 hpoint
  any_goals exact absurd (List.cons.inj heq).1 hzero
  rfl

theorem local_scan : Local scan := by
  intro cs a rest h heq
  obtain ⟨c, more, rfl⟩ := h.exists_cons
  by_cases hpoint : c = '.'
  · subst hpoint
    exact local_scanFraction (h.tail (by decide)) heq
  by_cases hzero : c = '0'
  · subst hzero
    have hmore : EndsInBreak more := h.tail (by decide)
    obtain ⟨d, more, rfl⟩ := hmore.exists_cons
    have hrest : d ≠ '\n' → EndsInBreak more := hmore.tail
    rw [scan_zero] at heq
    have hscan : ∀ ds, scan ('0' :: d :: more ++ ds) = _ := fun ds => scan_zero d (more ++ ds)
    split at heq
    · rename_i hx
      obtain ⟨hend, hscans⟩ := local_scanRadix (by decide) (hrest (by rintro rfl; simp at hx)) heq
      exact ⟨hend, fun ds => by rw [hscan, if_pos hx, hscans]⟩
    split at heq
    · rename_i hx ho
      obtain ⟨hend, hscans⟩ := local_scanRadix (by decide) (hrest (by rintro rfl; simp at ho)) heq
      exact ⟨hend, fun ds => by rw [hscan, if_neg hx, if_pos ho, hscans]⟩
    split at heq
    · rename_i hx ho hb
      obtain ⟨hend, hscans⟩ := local_scanRadix (by decide) (hrest (by rintro rfl; simp at hb)) heq
      exact ⟨hend, fun ds => by rw [hscan, if_neg hx, if_neg ho, if_pos hb, hscans]⟩
    · rename_i hx ho hb
      obtain ⟨hend, hscans⟩ := local_scanDecimal h heq
      refine ⟨hend, fun ds => ?_⟩
      rw [hscan, if_neg hx, if_neg ho, if_neg hb, ← hscans ds, List.cons_append, List.cons_append]
  · rw [scan_cons hpoint hzero] at heq
    obtain ⟨hend, hscans⟩ := local_scanDecimal h heq
    refine ⟨hend, fun ds => ?_⟩
    rw [List.cons_append, scan_cons hpoint hzero, ← hscans ds, List.cons_append]

end

end Numeral

end PersistedOps.Script
