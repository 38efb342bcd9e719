import PersistedOps.Document.Signature

/-!
The lexemes of a text, and the shortest line that has them. Reducing a text keeps its lexemes and
nothing else: one space between two words, none anywhere else.
-/

namespace PersistedOps

open Signature (isWord dropSpaceAfter dropSpaceBefore reduce)
open Text (isBlank collapseBlanks trimBlanks)

/-- A run of word characters, a punctuation character, or a string literal as a whole. -/
inductive Lexeme where
  | word (w : List Char)
  | mark (c : Char)
  | text (s : String)
deriving DecidableEq

namespace Lexeme

/-- The word that a run of characters makes, if there are any. -/
def ofRun : List Char → List Lexeme
  | [] => []
  | w => [.word w]

/-- Words and punctuation behind a run of word characters. Quotes are punctuation here. -/
def scanFrom (run : List Char) : List Char → List Lexeme
  | [] => ofRun run
  | c :: cs =>
    if isWord c then scanFrom (run ++ [c]) cs
    else if isBlank c then ofRun run ++ scanFrom [] cs
    else ofRun run ++ .mark c :: scanFrom [] cs

/-- The words and the punctuation of a text. -/
def scan (cs : List Char) : List Lexeme := scanFrom [] cs

/-- Lexemes in a line, behind a word or not. Only words that meet are set apart. -/
def renderFrom (afterWord : Bool) : List Lexeme → List Char
  | [] => []
  | .word w :: ts => (if afterWord then [' '] else []) ++ w ++ renderFrom true ts
  | .mark c :: ts => c :: renderFrom false ts
  | .text s :: ts => (JsonQuoted.unicode s).toList ++ renderFrom false ts

/-- Lexemes in a line. -/
def render (ts : List Lexeme) : List Char := renderFrom false ts

@[simp] theorem ofRun_nil : ofRun [] = [] := rfl

theorem ofRun_of_ne_nil {w : List Char} (h : w ≠ []) : ofRun w = [.word w] := by
  cases w with
  | nil => exact absurd rfl h
  | cons c cs => rfl

/-! ### Scanning -/

theorem isBlank_space : isBlank ' ' := by decide

theorem toNat_of_isAlpha {c : Char} (h : c.isAlpha) :
    (0x41 ≤ c.toNat ∧ c.toNat ≤ 0x5a) ∨ (0x61 ≤ c.toNat ∧ c.toNat ≤ 0x7a) := by
  delta Char.isAlpha Char.isUpper Char.isLower at h
  simp only [Bool.or_eq_true, Bool.and_eq_true, decide_eq_true_eq] at h
  exact h

theorem toNat_of_isDigit {c : Char} (h : c.isDigit) : 0x30 ≤ c.toNat ∧ c.toNat ≤ 0x39 := by
  simp only [Char.isDigit, Bool.and_eq_true, decide_eq_true_eq] at h
  exact h

theorem toNat_of_isWord {c : Char} (h : isWord c) : (0x30 ≤ c.toNat ∧ c.toNat ≤ 0x39)
    ∨ (0x41 ≤ c.toNat ∧ c.toNat ≤ 0x5a) ∨ c.toNat = 0x5f ∨ (0x61 ≤ c.toNat ∧ c.toNat ≤ 0x7a) := by
  simp only [isWord, Char.isAlphanum, Bool.or_eq_true, beq_iff_eq] at h
  obtain (hletter | hdigit) | rfl := h
  · have hrange := toNat_of_isAlpha hletter
    omega
  · exact .inl (toNat_of_isDigit hdigit)
  · exact .inr (.inr (.inl rfl))

theorem not_isBlank_of_isWord {c : Char} (h : isWord c) : isBlank c = false := by
  have hrange := toNat_of_isWord h
  simp only [isBlank, Bool.or_eq_false_iff, Bool.and_eq_false_iff, decide_eq_false_iff_not,
    beq_eq_false_iff_ne]
  omega

theorem not_isWord_of_isBlank {c : Char} (h : isBlank c) : isWord c = false := by
  cases hword : isWord c with
  | false => rfl
  | true => exact absurd h (by simp [not_isBlank_of_isWord hword])

@[simp] theorem scan_nil : scan [] = [] := rfl

theorem scanFrom_of_not_isWord {c : Char} (run cs : List Char) (h : isWord c = false) :
    scanFrom run (c :: cs) = ofRun run ++ scan (c :: cs) := by
  simp only [scan, scanFrom, h, Bool.false_eq_true, if_false, ofRun_nil, List.nil_append]
  split <;> rfl

theorem scan_blank {c : Char} (cs : List Char) (h : isBlank c) : scan (c :: cs) = scan cs := by
  simp [scan, scanFrom, not_isWord_of_isBlank h, h]

theorem scan_mark {c : Char} (cs : List Char) (hword : isWord c = false)
    (hblank : isBlank c = false) : scan (c :: cs) = .mark c :: scan cs := by
  simp [scan, scanFrom, hword, hblank]

theorem scanFrom_append {c : Char} (run xs ys : List Char) (h : isWord c = false) :
    scanFrom run (xs ++ c :: ys) = scanFrom run xs ++ scan (c :: ys) := by
  induction xs generalizing run with
  | nil => exact scanFrom_of_not_isWord run ys h
  | cons x xs ih =>
      simp only [List.cons_append, scanFrom]
      split
      · exact ih _
      · split <;> simp [ih]

/-- No lexeme reaches over a character that is no word character. -/
theorem scan_append_cons {c : Char} (xs ys : List Char) (h : isWord c = false) :
    scan (xs ++ c :: ys) = scan xs ++ scan (c :: ys) :=
  scanFrom_append [] xs ys h

theorem scanFrom_word (run w : List Char) (h : ∀ c ∈ w, isWord c) :
    scanFrom run w = ofRun (run ++ w) := by
  induction w generalizing run with
  | nil => simp [scanFrom]
  | cons c w ih =>
      simp only [scanFrom, h c (by simp), if_true]
      rw [ih _ fun d hd => h d (by simp [hd]), List.append_assoc, List.singleton_append]

theorem scan_word {w : List Char} (hne : w ≠ []) (h : ∀ c ∈ w, isWord c) : scan w = [.word w] := by
  rw [scan, scanFrom_word [] w h, List.nil_append, ofRun_of_ne_nil hne]

/-! ### Reducing -/

/-- A text in which each gap is a space or nothing, as `keep` has it of the characters around. -/
def spaced (keep : Option Char → Option Char → Bool) (previous : Option Char) (gap : Bool) :
    List Char → List Char
  | [] => if gap && keep previous none then [' '] else []
  | c :: cs =>
    if isBlank c then spaced keep previous true cs
    else (if gap && keep previous (some c) then [' '] else []) ++ c :: spaced keep (some c) false cs

variable {keep : Option Char → Option Char → Bool}

/-- How a gap in front of a character is spelled. -/
theorem spaced_cons {c : Char} (previous : Option Char) (gap : Bool) (cs : List Char)
    (h : isBlank c = false) : spaced keep previous gap (c :: cs) =
      (if gap && keep previous (some c) then [' '] else []) ++ c :: spaced keep (some c) false cs := by
  simp [spaced, h]

theorem spaced_blank {c : Char} (previous : Option Char) (gap : Bool) (cs : List Char)
    (h : isBlank c) : spaced keep previous gap (c :: cs) = spaced keep previous true cs := by
  simp [spaced, h]

theorem collapseBlanks_nil : collapseBlanks [] = [] := rfl

theorem collapseBlanks_cons (c : Char) (cs : List Char) : collapseBlanks (c :: cs) =
    if isBlank c then
      if cs.head?.any isBlank then collapseBlanks cs else ' ' :: collapseBlanks cs
    else c :: collapseBlanks cs := by
  cases cs <;> rfl

theorem collapseBlanks_eq (cs : List Char) :
    collapseBlanks cs = spaced (fun _ _ => true) none false cs := by
  have keepAll (previous : Option Char) (gap : Bool) : ∀ cs : List Char,
      spaced (fun _ _ => true) previous gap cs = if gap then collapseBlanks (' ' :: cs)
        else collapseBlanks cs := by
    intro cs
    induction cs generalizing previous gap with
    | nil => cases gap <;> rfl
    | cons c cs ih =>
        cases hc : isBlank c with
        | true =>
            rw [spaced_blank _ _ _ hc, ih]
            cases gap <;> cases cs <;> simp [collapseBlanks_nil, collapseBlanks_cons, isBlank_space, hc]
        | false =>
            rw [spaced_cons _ _ _ hc, ih]
            cases gap <;> cases cs <;> simp [collapseBlanks_nil, collapseBlanks_cons, isBlank_space, hc]
  exact (keepAll none false cs).symm

/-- The gaps that are left behind word characters alone. -/
def keepBehindWord (previous _next : Option Char) : Bool := previous.all isWord

/-- The gaps that are left between word characters, and those at the ends. -/
def keepAround (previous next : Option Char) : Bool := previous.all isWord && next.all isWord

/-- The gaps that are left when nothing is at the start. -/
def keepAtEnd (previous next : Option Char) : Bool := previous.any isWord && next.all isWord

/-- The gaps between word characters. -/
def keepBetween (previous next : Option Char) : Bool := previous.any isWord && next.any isWord

theorem dropSpaceAfter_cons_of_ne {c d : Char} (cs : List Char) (h : d ≠ ' ') :
    dropSpaceAfter (c :: d :: cs) = c :: dropSpaceAfter (d :: cs) := by
  rw [dropSpaceAfter]
  simpa using h

theorem dropSpaceBefore_cons_of_ne {c : Char} (cs : List Char) (h : c ≠ ' ') :
    dropSpaceBefore (c :: cs) = c :: dropSpaceBefore cs := by
  rw [dropSpaceBefore]
  intro d rest hc
  exact absurd hc h

theorem ne_space_of_not_isBlank {c : Char} (h : isBlank c = false) : c ≠ ' ' := by
  rintro rfl
  exact absurd h (by decide)

theorem dropSpaceAfter_spaced (cs : List Char) :
    dropSpaceAfter (spaced (fun _ _ => true) none false cs) = spaced keepBehindWord none false cs := by
  -- Behind a character the space is judged by it; the first gap has none in front and stays.
  have behind (d : Char) (gap : Bool) : ∀ cs : List Char,
      dropSpaceAfter (d :: spaced (fun _ _ => true) (some d) gap cs)
        = d :: spaced keepBehindWord (some d) gap cs := by
    intro cs
    induction cs generalizing d gap with
    | nil =>
        cases gap <;> cases hd : isWord d <;> simp [spaced, dropSpaceAfter, keepBehindWord, hd]
    | cons c cs ih =>
        cases hc : isBlank c with
        | true => rw [spaced_blank _ _ _ hc, spaced_blank _ _ _ hc, ih]
        | false =>
            have hne := ne_space_of_not_isBlank hc
            rw [spaced_cons _ _ _ hc, spaced_cons _ _ _ hc]
            cases gap with
            | false => simp [dropSpaceAfter_cons_of_ne, hne, ih]
            | true =>
                cases hd : isWord d <;>
                  simp [dropSpaceAfter, dropSpaceAfter_cons_of_ne, hne, hd, ih, keepBehindWord]
  have first (gap : Bool) : ∀ cs : List Char, dropSpaceAfter (spaced (fun _ _ => true) none gap cs)
      = spaced keepBehindWord none gap cs := by
    intro cs
    induction cs generalizing gap with
    | nil => cases gap <;> rfl
    | cons c cs ih =>
        cases hc : isBlank c with
        | true => rw [spaced_blank _ _ _ hc, spaced_blank _ _ _ hc, ih]
        | false =>
            have hne := ne_space_of_not_isBlank hc
            rw [spaced_cons _ _ _ hc, spaced_cons _ _ _ hc]
            cases gap <;> simp [dropSpaceAfter_cons_of_ne, hne, behind, keepBehindWord]
  exact first false cs

theorem dropSpaceBefore_spaced (previous : Option Char) (gap : Bool) (cs : List Char) :
    dropSpaceBefore (spaced keepBehindWord previous gap cs) = spaced keepAround previous gap cs := by
  induction cs generalizing previous gap with
  | nil =>
      cases h : gap && previous.all isWord <;>
        simp [spaced, dropSpaceBefore, keepBehindWord, keepAround, h]
  | cons c cs ih =>
      cases hc : isBlank c with
      | true => rw [spaced_blank _ _ _ hc, spaced_blank _ _ _ hc, ih]
      | false =>
          have hne := ne_space_of_not_isBlank hc
          rw [spaced_cons _ _ _ hc, spaced_cons _ _ _ hc]
          cases h : gap && previous.all isWord <;> cases hword : isWord c <;>
            simp [dropSpaceBefore, dropSpaceBefore_cons_of_ne, hne, ih, keepBehindWord, keepAround,
              h, hword]

theorem spaced_some_congr {keep keep' : Option Char → Option Char → Bool}
    (h : ∀ c next, keep (some c) next = keep' (some c) next) (c : Char) (gap : Bool)
    (cs : List Char) : spaced keep (some c) gap cs = spaced keep' (some c) gap cs := by
  induction cs generalizing c gap with
  | nil => simp [spaced, h]
  | cons d cs ih => simp [spaced, h, ih]

theorem dropWhile_spaced (gap : Bool) (cs : List Char) :
    (spaced keepAround none gap cs).dropWhile isBlank = spaced keepAtEnd none gap cs := by
  induction cs generalizing gap with
  | nil => cases gap <;> simp [spaced, keepAround, keepAtEnd, isBlank_space]
  | cons c cs ih =>
      cases hc : isBlank c with
      | true => rw [spaced_blank _ _ _ hc, spaced_blank _ _ _ hc, ih]
      | false =>
          have hrest := spaced_some_congr
            (fun c next => (by simp [keepAround, keepAtEnd] :
              keepAround (some c) next = keepAtEnd (some c) next)) c false cs
          rw [spaced_cons _ _ _ hc, spaced_cons _ _ _ hc, hrest]
          cases h : gap && isWord c <;> simp [keepAround, keepAtEnd, isBlank_space, hc, h]

/-- Drops blanks at the end. -/
def trimEnd (cs : List Char) : List Char := (cs.reverse.dropWhile isBlank).reverse

theorem trimEnd_cons {c : Char} (cs : List Char) (h : isBlank c = false ∨ trimEnd cs ≠ []) :
    trimEnd (c :: cs) = c :: trimEnd cs := by
  simp only [trimEnd, List.reverse_cons, List.dropWhile_append] at h ⊢
  split
  · rename_i hempty
    have hnil : List.dropWhile isBlank cs.reverse = [] := by simpa using hempty
    obtain hc | hne := h
    · simp [hnil, hc]
    · simp [hnil] at hne
  · simp

theorem trimEnd_spaced (previous : Option Char) (gap : Bool) (cs : List Char) :
    trimEnd (spaced keepAtEnd previous gap cs) = spaced keepBetween previous gap cs := by
  induction cs generalizing previous gap with
  | nil =>
      cases h : gap && previous.any isWord <;>
        simp [spaced, keepAtEnd, keepBetween, trimEnd, isBlank_space, h]
  | cons c cs ih =>
      cases hc : isBlank c with
      | true => rw [spaced_blank _ _ _ hc, spaced_blank _ _ _ hc, ih]
      | false =>
          have htail : trimEnd (c :: spaced keepAtEnd (some c) false cs)
              = c :: spaced keepBetween (some c) false cs := by
            rw [trimEnd_cons _ (.inl hc), ih]
          rw [spaced_cons _ _ _ hc, spaced_cons _ _ _ hc]
          cases hkeep : gap && keepAtEnd previous (some c) with
          | true =>
              have hkeep' : gap && keepBetween previous (some c) := hkeep
              rw [if_pos rfl, if_pos hkeep', List.singleton_append, List.singleton_append,
                trimEnd_cons _ (.inr (by simp [htail])), htail]
          | false =>
              have hkeep' : (gap && keepBetween previous (some c)) = false := hkeep
              rw [hkeep', if_neg (by simp), List.nil_append, List.nil_append, htail]

theorem reduce_eq_spaced (text : String) :
    reduce text = spaced keepBetween none false text.toList := by
  rw [reduce, collapseBlanks_eq, dropSpaceAfter_spaced, dropSpaceBefore_spaced, trimBlanks,
    dropWhile_spaced]
  exact trimEnd_spaced none false text.toList

/-- The lexemes of a text, rendered, are the text with the gaps between word characters. -/
theorem renderFrom_scanFrom (cs : List Char) :
    (∀ (previous : Option Char) (gap : Bool), (previous.any isWord → gap) →
      renderFrom (previous.any isWord) (scanFrom [] cs) = spaced keepBetween previous gap cs) ∧
    ∀ (afterWord : Bool) (run : List Char) (c : Char), run ≠ [] → isWord c →
      renderFrom afterWord (scanFrom run cs)
        = (if afterWord then [' '] else []) ++ run ++ spaced keepBetween (some c) false cs := by
  -- Both statements at once: between words the last character counts, inside a word the run so far.
  induction cs with
  | nil =>
      constructor
      · intro previous gap _
        simp [scanFrom, renderFrom, spaced, keepBetween]
      · intro afterWord run c hrun _
        simp [scanFrom, ofRun_of_ne_nil hrun, renderFrom, spaced]
  | cons d cs ih =>
      obtain ⟨ihfree, ihrun⟩ := ih
      cases hblank : isBlank d with
      | true =>
          have hword := not_isWord_of_isBlank hblank
          constructor
          · intro previous gap _
            simpa [scanFrom, hword, hblank, spaced_blank] using ihfree previous true (by simp)
          · intro afterWord run c hrun hc
            have hrest := ihfree (some c) true (by simp)
            simp only [Option.any_some, hc] at hrest
            simp [scanFrom, hword, hblank, spaced_blank, ofRun_of_ne_nil hrun, renderFrom, hrest]
      | false =>
          cases hword : isWord d with
          | true =>
              constructor
              · intro previous gap hgap
                have hrest := ihrun (previous.any isWord) [d] d (by simp) hword
                rw [spaced_cons _ _ _ hblank]
                cases hp : previous.any isWord with
                | true =>
                    rw [hp] at hrest
                    simp [scanFrom, hword, hrest, hp, hgap hp, keepBetween]
                | false =>
                    rw [hp] at hrest
                    simp [scanFrom, hword, hrest, hp, keepBetween]
              · intro afterWord run c hrun hc
                have hrest := ihrun afterWord (run ++ [d]) d (by simp) hword
                rw [spaced_cons _ _ _ hblank]
                simp [scanFrom, hword, hrest]
          | false =>
              have hrest := ihfree (some d) false (by simp [hword])
              simp only [Option.any_some, hword] at hrest
              constructor
              · intro previous gap _
                rw [spaced_cons _ _ _ hblank]
                simp [scanFrom, hword, hblank, renderFrom, hrest, keepBetween]
              · intro afterWord run c hrun hc
                rw [spaced_cons _ _ _ hblank]
                simp [scanFrom, hword, hblank, ofRun_of_ne_nil hrun, renderFrom, hrest, keepBetween]

/-- A reduced text is its lexemes in a line. -/
theorem reduce_eq_render (text : String) : reduce text = render (scan text.toList) := by
  rw [reduce_eq_spaced]
  exact ((renderFrom_scanFrom text.toList).1 none false (by simp)).symm

end Lexeme

end PersistedOps
