import Mathlib.Data.List.Basic
import PersistedOps.Proofs.Document.Restore
import PersistedOps.Proofs.Document.WellFormed

/-!
The lexemes of names and numbers. A number is a word and further words behind points and signs; where
it ends is told by the word before and the mark behind.
-/

namespace PersistedOps

open Signature (isWord)

/-! ### Names -/

theorem isWord_of_isAlpha {c : Char} (h : c.isAlpha) : isWord c := by
  simp [isWord, Char.isAlphanum, h]

theorem isWord_of_isDigit {c : Char} (h : c.isDigit) : isWord c := by
  simp [isWord, Char.isAlphanum, h]

theorem IsName.of_toList {n : String} {c : Char} {cs : List Char} (hn : n.toList = c :: cs)
    (hc : c.isAlpha) (hcs : cs.all isWord) : IsName n :=
  ⟨c, cs, hn, .inl hc, List.all_eq_true.mp hcs⟩

theorem isName_on : IsName "on" := .of_toList rfl rfl rfl

theorem isName_fragment : IsName "fragment" := .of_toList rfl rfl rfl

theorem isName_word (o : OperationType) : IsName o.word := by
  cases o <;> exact .of_toList rfl rfl rfl

theorem IsName.ne_empty {n : String} (h : IsName n) : n ≠ "" := by
  obtain ⟨c, cs, hn, -⟩ := h
  rintro rfl
  simp at hn

theorem IsName.isWord {n : String} (h : IsName n) : ∀ c ∈ n.toList, isWord c := by
  obtain ⟨c, cs, hn, hfirst, hrest⟩ := h
  rw [hn]
  refine List.forall_mem_cons.mpr ⟨?_, hrest⟩
  obtain hletter | rfl := hfirst
  · exact isWord_of_isAlpha hletter
  · decide

/-- A name does not begin like a number. -/
theorem IsName.not_isDigit {n : String} (h : IsName n) :
    ∀ c ∈ n.toList.head?, c.isDigit = false := by
  obtain ⟨c, cs, hn, hfirst, -⟩ := h
  rw [hn]
  intro d hd
  obtain rfl : c = d := by simpa using hd
  obtain hletter | rfl := hfirst
  · cases hdigit : c.isDigit with
    | false => rfl
    | true =>
        have hdigits := Lexeme.toNat_of_isDigit hdigit
        have hletters := Lexeme.toNat_of_isAlpha hletter
        omega
  · decide

namespace Lexeme

/-! ### Numbers -/

/-- The words of a number behind its first, each with the mark in front of it. -/
abbrev Tail := List (Char × List Char)

def Tail.chars (tail : Tail) : List Char := tail.flatMap fun e => e.1 :: e.2

def Tail.line (tail : Tail) : List Lexeme := tail.flatMap fun e => [.mark e.1, .word e.2]

/-- Whether a mark takes the word behind it into the number whose last word is the previous. -/
def continues (previous : List Char) (c : Char) : Bool :=
  c == '.' || ((c == '+' || c == '-')
    && (previous.getLast? == some 'e' || previous.getLast? == some 'E'))

/-- Words that belong to a number behind the previous one, up to its end. -/
inductive Continued : List Char → Tail → Prop
  | done {previous : List Char} (h : ∀ c ∈ previous.getLast?, c.isDigit) : Continued previous []
  | more {previous w : List Char} {c : Char} {tail : Tail} (h : continues previous c)
      (hne : w ≠ []) (hw : ∀ d ∈ w, isWord d) (rest : Continued w tail) :
      Continued previous ((c, w) :: tail)

/-- What the tail of a number holds, and what follows it. -/
def readTail (previous : List Char) : List Lexeme → List Char × List Lexeme
  | .mark c :: .word w :: ts =>
    if continues previous c then (c :: (w ++ (readTail w ts).1), (readTail w ts).2)
    else ([], .mark c :: .word w :: ts)
  | ts => ([], ts)

theorem not_continues_of_isDigit {previous : List Char} {c : Char}
    (h : ∀ d ∈ previous.getLast?, d.isDigit) (hc : c ≠ '.') : continues previous c = false := by
  have hlast : previous.getLast? ≠ some 'e' ∧ previous.getLast? ≠ some 'E' :=
    ⟨fun he => absurd (h 'e' he) (by decide), fun he => absurd (h 'E' he) (by decide)⟩
  simp [continues, hc, hlast]

/-- The tail of a number is read up to where it ends. -/
theorem readTail_line {previous : List Char} {tail : Tail} {rest : List Lexeme}
    (h : Continued previous tail) (hrest : ∀ w ts, rest ≠ .mark '.' :: .word w :: ts) :
    readTail previous (tail.line ++ rest) = (tail.chars, rest) := by
  induction h with
  | @done previous h =>
      match rest with
      | [] | .word _ :: _ | .text _ :: _ | [.mark _] | .mark _ :: .mark _ :: _
      | .mark _ :: .text _ :: _ => rfl
      | .mark c :: .word w :: ts =>
          have hc : continues previous c = false :=
            not_continues_of_isDigit h fun heq => hrest w ts (by rw [heq])
          simp [Tail.line, Tail.chars, readTail, hc]
  | @more previous w c tail h hne hw _ ih =>
      simp only [Tail.line, Tail.chars, List.flatMap_cons, List.cons_append, List.nil_append] at ih ⊢
      rw [readTail, if_pos h, ih]

/-- A word that begins with a digit and what continues it. -/
structure IsNumber (w : List Char) (tail : Tail) : Prop where
  digit : ∃ c ∈ w.head?, c.isDigit
  word : ∀ c ∈ w, isWord c
  continued : Continued w tail

theorem IsNumber.ne_nil {w : List Char} {tail : Tail} (h : IsNumber w tail) : w ≠ [] := by
  obtain ⟨c, hc, -⟩ := h.digit
  rintro rfl
  simp at hc

/-- A number behind its sign. -/
def numberChars (negative : Bool) (w : List Char) (tail : Tail) : List Char :=
  (if negative then ['-'] else []) ++ (w ++ tail.chars)

def numberLine (negative : Bool) (w : List Char) (tail : Tail) : List Lexeme :=
  (if negative then [.mark '-'] else []) ++ .word w :: tail.line

theorem isNumber_digits {ds : List Char} (h : IsDigits ds) : IsNumber ds [] := by
  obtain ⟨hne, hdigits⟩ := h
  obtain ⟨d, ds, rfl⟩ := List.exists_cons_of_ne_nil hne
  exact ⟨⟨d, rfl, hdigits d (by simp)⟩, fun c hc => isWord_of_isDigit (hdigits c hc),
    .done fun c hc => hdigits c (List.mem_of_mem_getLast? hc)⟩

/-- Digits and the exponent behind them are one word, or two about the sign. -/
theorem exists_isNumber {ds exponent : List Char} (hds : IsDigits ds)
    (h : exponent = [] ∨ IsExponent exponent) :
    ∃ w tail, ds ++ exponent = w ++ Tail.chars tail ∧ IsNumber w tail := by
  obtain rfl | ⟨e, he, sign, hsign, es, hes, rfl⟩ := h
  · exact ⟨ds, [], rfl, isNumber_digits hds⟩
  · have hrun := isNumber_digits hds
    have hexponent := isNumber_digits hes
    have hletter : isWord e := by
      simp only [List.mem_cons, List.not_mem_nil, or_false] at he
      obtain rfl | rfl := he <;> decide
    obtain ⟨d, hd, hdigit⟩ := hrun.digit
    have hhead (rest : List Char) : d ∈ (ds ++ rest).head? := List.mem_head?_append_of_mem_head? hd
    have hmany {rest : List Char} (hrest : ∀ c ∈ rest, isWord c) : ∀ c ∈ ds ++ e :: rest, isWord c := by
      intro c hc
      rcases List.mem_append.mp hc with hc | hc
      · exact hrun.word c hc
      · rcases List.mem_cons.mp hc with rfl | hc
        · exact hletter
        · exact hrest c hc
    by_cases hnone : sign = []
    · subst hnone
      refine ⟨ds ++ e :: es, [], by simp [Tail.chars], ⟨d, hhead _, hdigit⟩, hmany hexponent.word,
        .done fun c hc => hes.2 c (List.mem_of_mem_getLast? ?_)⟩
      rwa [List.getLast?_append, List.getLast?_cons_of_ne_nil hes.1,
        List.getLast?_eq_some_getLast hes.1, Option.some_or, ← List.getLast?_eq_some_getLast] at hc
    · obtain ⟨c, hc, rfl⟩ : ∃ c ∈ ['+', '-'], sign = [c] := by simpa [hnone] using hsign
      have htaken : continues (ds ++ [e]) c := by
        simp only [List.mem_cons, List.not_mem_nil, or_false] at hc he
        obtain rfl | rfl := hc <;> obtain rfl | rfl := he <;> simp [continues]
      exact ⟨ds ++ [e], [(c, es)], by simp [Tail.chars], ⟨d, hhead _, hdigit⟩, hmany (by simp),
        .more htaken hes.1 hexponent.word hexponent.continued⟩

theorem isNumber_of_isInt {cs : List Char} (h : IsInt cs) :
    ∃ negative w, cs = numberChars negative w [] ∧ IsNumber w [] := by
  obtain ⟨sign, hsign, ds, hds, -, rfl⟩ := h
  simp only [List.mem_cons, List.not_mem_nil, or_false] at hsign
  obtain rfl | rfl := hsign
  · exact ⟨false, ds, by simp [numberChars, Tail.chars], isNumber_digits hds⟩
  · exact ⟨true, ds, by simp [numberChars, Tail.chars], isNumber_digits hds⟩

theorem isNumber_of_isFloat {cs : List Char} (h : IsFloat cs) :
    ∃ negative w tail, cs = numberChars negative w tail ∧ IsNumber w tail := by
  obtain ⟨whole, fraction, exponent, ⟨sign, hsign, ds, hds, -, rfl⟩, hfraction, hexponent, -, rfl⟩ := h
  have hrun : ∃ w tail, ds ++ fraction ++ exponent = w ++ Tail.chars tail ∧ IsNumber w tail := by
    obtain rfl | ⟨fs, hfs, rfl⟩ := hfraction
    · simpa using exists_isNumber hds hexponent
    · obtain ⟨w, tail, heq, hw⟩ := exists_isNumber hfs hexponent
      have hdigits := isNumber_digits hds
      refine ⟨ds, ('.', w) :: tail, ?_, hdigits.digit, hdigits.word,
        .more rfl hw.ne_nil hw.word hw.continued⟩
      simp [Tail.chars, heq]
  obtain ⟨w, tail, heq, hw⟩ := hrun
  simp only [List.mem_cons, List.not_mem_nil, or_false] at hsign
  obtain rfl | rfl := hsign
  · exact ⟨false, w, tail, by simpa [numberChars] using heq, hw⟩
  · exact ⟨true, w, tail, by simpa [numberChars] using heq, hw⟩

/-- Whether a number is written with a fraction or an exponent. -/
def isFloat (cs : List Char) : Bool := cs.any fun c => c == '.' || c == 'e' || c == 'E'

theorem isFloat_digits {ds : List Char} (h : IsDigits ds) : isFloat ds = false := by
  rw [isFloat, List.any_eq_false]
  intro c hc
  have hdigit := h.2 c hc
  simp only [Bool.or_eq_true, beq_iff_eq]
  rintro ((rfl | rfl) | rfl) <;> exact absurd hdigit (by decide)

theorem isFloat_of_isInt {cs : List Char} (h : IsInt cs) : isFloat cs = false := by
  obtain ⟨sign, hsign, ds, hds, -, rfl⟩ := h
  simp only [List.mem_cons, List.not_mem_nil, or_false] at hsign
  have hdigits := isFloat_digits hds
  obtain rfl | rfl := hsign
  · exact hdigits
  · simpa [isFloat] using hdigits

theorem isFloat_of_isFloat {cs : List Char} (h : IsFloat cs) : isFloat cs := by
  obtain ⟨whole, fraction, exponent, -, hfraction, hexponent, hsome, rfl⟩ := h
  rw [isFloat, List.any_append, List.any_append]
  obtain rfl | ⟨fs, -, rfl⟩ := hfraction
  · obtain rfl | ⟨e, he, sign, -, es, -, rfl⟩ := hexponent
    · simp at hsome
    · simp only [List.mem_cons, List.not_mem_nil, or_false] at he
      obtain rfl | rfl := he <;> simp
  · simp

end Lexeme

end PersistedOps
