import Mathlib.Data.List.Chain
import PersistedOps.Proofs.Document.Numeral

/-!
How a text is laid out in lexemes. Names, numbers, punctuation and literals follow one another with
blanks between them or none. What a literal looks like between its quotes is left open, so that one
account serves a document as it is printed, one whose literals are digits, and one on a single line.
-/

namespace PersistedOps

open Signature (isWord)
open Text (isBlank)

namespace Lexeme

/-- The characters that printing uses for punctuation, the comma, points and quotes apart. -/
def isPunctuation (c : Char) : Bool :=
  ['!', '$', '(', ')', ':', '=', '@', '[', ']', '\x7b', '\x7d'].contains c

/-- What may stand behind any text: no word goes on and no number, and no quote is doubled. -/
def isStop (c : Char) : Bool := !isWord c && c != '.' && c != '"'

/-- The blanks that printing puts between lexemes. -/
def isGapChar (c : Char) : Bool := c == ' ' || c == '\n'

/-- The text is empty or begins with what may stand behind any other. -/
def Stops (cs : List Char) : Prop := ∀ c ∈ cs.head?, isStop c

theorem stop_of_isPunctuation {c : Char} (h : isPunctuation c) : isStop c ∧ isBlank c = false := by
  have hall : ∀ d ∈ ['!', '$', '(', ')', ':', '=', '@', '[', ']', '\x7b', '\x7d'],
      isStop d && !isBlank d := List.all_eq_true.mp (by decide)
  simpa using hall c (by simpa [isPunctuation] using h)

theorem stop_of_isGapChar {c : Char} (h : isGapChar c) : isStop c ∧ isBlank c := by
  simp only [isGapChar, Bool.or_eq_true, beq_iff_eq] at h
  obtain rfl | rfl := h <;> decide

theorem not_isWord_of_isStop {c : Char} (h : isStop c) : isWord c = false := by
  simp only [isStop, Bool.and_eq_true, Bool.not_eq_true'] at h
  exact h.1.1

theorem ne_of_isStop {c : Char} (h : isStop c) : c ≠ '.' ∧ c ≠ '"' := by
  simp only [isStop, Bool.and_eq_true, bne_iff_ne] at h
  exact ⟨h.1.2, h.2⟩

/-- A mark inside a number or in front of it. -/
theorem proper_of_continues {previous : List Char} {c : Char} (h : continues previous c) :
    Proper (.mark c) := by
  simp only [continues, Bool.or_eq_true, Bool.and_eq_true, beq_iff_eq] at h
  obtain rfl | ⟨rfl | rfl, -⟩ := h <;> exact ⟨by decide, by decide, by decide⟩

theorem proper_mark {c : Char} (h : isPunctuation c ∨ c = ',') : Proper (.mark c) := by
  obtain h | rfl := h
  · obtain ⟨hstop, hblank⟩ := stop_of_isPunctuation h
    exact ⟨not_isWord_of_isStop hstop, hblank, (ne_of_isStop hstop).2⟩
  · exact ⟨by decide, by decide, by decide⟩

theorem mem_tail_chars {previous : List Char} {tail : Tail} (h : Continued previous tail) :
    ∀ c ∈ tail.chars, isWord c ∨ c = '.' ∨ c = '+' ∨ c = '-' := by
  induction h with
  | done _ => simp [Tail.chars]
  | @more previous w c tail h _ hw _ ih =>
      have hmark : c = '.' ∨ c = '+' ∨ c = '-' := by
        simp only [continues, Bool.or_eq_true, Bool.and_eq_true, beq_iff_eq] at h
        exact h.imp_right And.left
      intro d hd
      simp only [Tail.chars, List.flatMap_cons, List.cons_append, List.mem_cons,
        List.mem_append] at hd ih
      obtain rfl | hd | hd := hd
      · exact .inr hmark
      · exact .inl (hw d hd)
      · exact ih d hd

/-- A number stands on one line. -/
theorem IsNumber.not_mem_break {negative : Bool} {w : List Char} {tail : Tail} (h : IsNumber w tail) :
    '\n' ∉ numberChars negative w tail := by
  intro hmem
  rcases List.mem_append.mp hmem with hsign | hmem
  · cases negative <;> simp at hsign
  · rcases List.mem_append.mp hmem with hw | htail
    · exact absurd (h.word _ hw) (by decide)
    · exact absurd (mem_tail_chars h.continued _ htail) (by decide)

/-- The characters are the lexemes in a row, with literals that look as `body` has them between their
quotes. A number at the end asks for `j` to be other than zero. -/
inductive Laid (body : String → List Char) (j : Nat) : List Char → List Lexeme → Prop
  | nil : Laid body j [] []
  | gap {c : Char} {cs : List Char} {line : List Lexeme} (h : isGapChar c)
      (rest : Laid body j cs line) : Laid body j (c :: cs) line
  | mark {c : Char} {cs : List Char} {line : List Lexeme} (h : isPunctuation c ∨ c = ',')
      (rest : Laid body j cs line) : Laid body j (c :: cs) (.mark c :: line)
  | dots {cs : List Char} {line : List Lexeme} (rest : Laid body j cs line) :
      Laid body j ('.' :: '.' :: '.' :: cs) (.mark '.' :: .mark '.' :: .mark '.' :: line)
  | name {n : String} {cs : List Char} {line : List Lexeme} (h : IsName n)
      (ends : ∀ c ∈ cs.head?, isWord c = false) (rest : Laid body j cs line) :
      Laid body j (n.toList ++ cs) (.word n.toList :: line)
  | number {negative : Bool} {w cs : List Char} {tail : Tail} {line : List Lexeme}
      (h : IsInt (numberChars negative w tail) ∨ IsFloat (numberChars negative w tail))
      (parts : IsNumber w tail) (ends : ∀ c ∈ cs.head?, isWord c = false ∧ c ≠ '.')
      (undotted : line.head? ≠ some (.mark '.')) (last : line = [] → j ≠ 0)
      (rest : Laid body j cs line) :
      Laid body j (numberChars negative w tail ++ cs) (numberLine negative w tail ++ line)
  | text {s : String} {cs : List Char} {line : List Lexeme} (ends : s = "" → cs.head? ≠ some '"')
      (rest : Laid body j cs line) :
      Laid body j ('"' :: (body s ++ '"' :: cs)) (.text s :: line)

/-- An empty literal and another one behind it. Side by side their quotes open a block. -/
def Glued (a b : Lexeme) : Prop := a = .text "" ∧ ∃ s, b = .text s

/-- No literal comes right behind an empty one. -/
def Apart (line : List Lexeme) : Prop := line.IsChain (¬ Glued · ·)

theorem not_glued_left {a b : Lexeme} (h : a ≠ .text "") : ¬ Glued a b := fun hglued => h hglued.1

theorem not_glued_right {a b : Lexeme} (h : ∀ s, b ≠ .text s) : ¬ Glued a b := by
  rintro ⟨-, s, hs⟩
  exact h s hs

theorem Apart.cons {t : Lexeme} {line : List Lexeme} (ht : t ≠ .text "") (h : Apart line) :
    Apart (t :: line) :=
  List.isChain_cons.mpr ⟨fun _ _ => not_glued_left ht, h⟩

namespace Laid

variable {body : String → List Char} {j k : Nat} {cs xs ys : List Char} {line l m : List Lexeme}

theorem mono (h : Laid body j cs line) (hjk : j ≤ k) : Laid body k cs line := by
  induction h with
  | nil => exact .nil
  | gap h _ ih => exact .gap h ih
  | mark h _ ih => exact .mark h ih
  | dots _ ih => exact .dots ih
  | name h ends _ ih => exact .name h ends ih
  | number h parts ends undotted last _ ih =>
      exact .number h parts ends undotted (fun hnil => by have := last hnil; omega) ih
  | text ends _ ih => exact .text ends ih

theorem line_eq_nil (h : Laid body j [] line) : line = [] := by
  generalize hcs : ([] : List Char) = cs at h
  cases h with
  | nil => rfl
  | gap | mark | dots | text => simp at hcs
  | name h =>
      have hne := mt String.toList_eq_nil_iff.mp h.ne_empty
      simp [hne] at hcs
  | number _ parts => simp [numberChars, parts.ne_nil] at hcs

/-- A word that is no number is laid out as itself alone. -/
theorem eq_word (h : Laid body j cs line) (hne : cs ≠ []) (hword : ∀ c ∈ cs, isWord c)
    (hfirst : ∀ c ∈ cs.head?, c.isDigit = false) : line = [.word cs] := by
  cases h with
  | nil => exact absurd rfl hne
  | gap h =>
      have hstop := not_isWord_of_isStop (stop_of_isGapChar h).1
      simp [hstop] at hword
  | mark h =>
      have hstop := (proper_mark h).1
      simp [hstop] at hword
  | dots => exact absurd (hword '.' (by simp)) (by decide)
  | @name n cs line h ends rest =>
      cases cs with
      | nil =>
          obtain rfl := rest.line_eq_nil
          rw [List.append_nil]
      | cons c cs => exact absurd (hword c (by simp)) (by simp [ends c rfl])
  | @number negative w cs tail line _ parts =>
      cases negative with
      | true => exact absurd (hword '-' (by simp [numberChars])) (by decide)
      | false =>
          obtain ⟨d, hd, hdigit⟩ := parts.digit
          have hhead : d ∈ (w ++ (tail.chars ++ cs)).head? := List.mem_head?_append_of_mem_head? hd
          have hno := hfirst d (by simpa [numberChars] using hhead)
          exact absurd hdigit (by simp [hno])
  | text => exact absurd (hword '"' (by simp)) (by decide)

/-- What may stand behind any text is laid out behind it. A number in front of points is out of place. -/
theorem append (hx : Laid body j xs l) (hy : Laid body k ys m) (hstops : Stops ys)
    (hdots : m.head? = some (.mark '.') → j = 0) (hlast : m = [] → j ≠ 0 → k ≠ 0) :
    Laid body k (xs ++ ys) (l ++ m) := by
  have hends {q : Char → Prop} {cs : List Char} (h : ∀ c ∈ cs.head?, q c)
      (hstop : ∀ c, isStop c → q c) : ∀ c ∈ (cs ++ ys).head?, q c := by
    intro c hc
    cases cs with
    | nil => exact hstop c (hstops c hc)
    | cons d cs => exact h c hc
  induction hx with
  | nil => exact hy
  | gap h _ ih => exact .gap h ih
  | mark h _ ih => exact .mark h ih
  | dots _ ih => exact .dots ih
  | name h ends _ ih =>
      rw [List.append_assoc]
      exact .name h (hends ends fun c hc => not_isWord_of_isStop hc) ih
  | @number negative w cs tail line h parts ends undotted last _ ih =>
      rw [List.append_assoc, List.append_assoc]
      refine .number h parts
        (hends ends fun c hc => ⟨not_isWord_of_isStop hc, (ne_of_isStop hc).1⟩) ?_ ?_ ih
      · intro hhead
        cases line with
        | nil => exact last rfl (hdots hhead)
        | cons => exact undotted hhead
      · intro hnil
        obtain ⟨hline, hm⟩ := List.append_eq_nil_iff.mp hnil
        exact hlast hm (last hline)
  | @text s cs line ends _ ih =>
      rw [List.cons_append, List.append_assoc, List.cons_append]
      refine .text (fun hs => ?_) ih
      have hne := hends (fun c hc => (by rintro rfl; exact ends hs hc : c ≠ '"'))
        fun c hc => (ne_of_isStop hc).2
      exact fun hc => hne '"' hc rfl

/-! ### Indenting -/

/-- A text with two spaces more in front of each of its lines but the first. -/
def deepen (cs : List Char) : List Char := cs.flatMap fun c => if c = '\n' then ['\n', ' ', ' '] else [c]

theorem deepen_append (xs ys : List Char) : deepen (xs ++ ys) = deepen xs ++ deepen ys :=
  List.flatMap_append

theorem deepen_cons_of_ne {c : Char} (cs : List Char) (h : c ≠ '\n') :
    deepen (c :: cs) = c :: deepen cs := by
  simp [deepen, h]

theorem deepen_of_not_mem {w : List Char} (h : '\n' ∉ w) : deepen w = w := by
  induction w with
  | nil => rfl
  | cons c w ih =>
      obtain ⟨hc, hw⟩ : '\n' ≠ c ∧ '\n' ∉ w := by simpa using h
      rw [deepen_cons_of_ne w hc.symm, ih hw]

theorem head?_deepen (cs : List Char) : (deepen cs).head? = cs.head? := by
  cases cs with
  | nil => rfl
  | cons c cs =>
      by_cases hc : c = '\n'
      · simp [deepen, hc]
      · rw [deepen_cons_of_ne cs hc, List.head?_cons, List.head?_cons]

theorem not_mem_of_forall_isWord {w : List Char} (h : ∀ c ∈ w, isWord c) : '\n' ∉ w :=
  fun hmem => absurd (h '\n' hmem) (by decide)

/-- Indenting keeps the layout of a text unless it breaks a literal. -/
theorem deepened (hbody : ∀ s, '\n' ∉ body s) (h : Laid body j cs line) :
    Laid body j (deepen cs) line := by
  induction h with
  | nil => exact .nil
  | @gap c cs line h _ ih =>
      by_cases hc : c = '\n'
      · subst hc
        exact .gap rfl (.gap rfl (.gap rfl ih))
      · rw [deepen_cons_of_ne cs hc]
        exact .gap h ih
  | @mark c cs line h _ ih =>
      have hc : c ≠ '\n' := by
        rintro rfl
        exact absurd h (by decide)
      rw [deepen_cons_of_ne cs hc]
      exact .mark h ih
  | dots _ ih => exact .dots ih
  | name h ends _ ih =>
      rw [deepen_append, deepen_of_not_mem (not_mem_of_forall_isWord h.isWord)]
      exact .name h (by rwa [head?_deepen]) ih
  | number h parts ends undotted last _ ih =>
      rw [deepen_append, deepen_of_not_mem parts.not_mem_break]
      exact .number h parts (by rwa [head?_deepen]) undotted last ih
  | @text s cs line ends _ ih =>
      rw [deepen_cons_of_ne _ (by decide), deepen_append, deepen_of_not_mem (hbody s),
        deepen_cons_of_ne _ (by decide)]
      exact .text (by rwa [head?_deepen]) ih

/-! ### Digits -/

theorem scan_append_word {w : List Char} (hne : w ≠ []) (hw : ∀ c ∈ w, isWord c)
    (hends : ∀ c ∈ cs.head?, isWord c = false) : scan (w ++ cs) = .word w :: scan cs := by
  cases cs with
  | nil => simpa using scan_word hne hw
  | cons c cs =>
      rw [scan_append_cons w cs (hends c rfl), scan_word hne hw]
      rfl

theorem scan_proper_mark {c : Char} (cs : List Char) (h : Proper (.mark c)) :
    scan (c :: cs) = .mark c :: scan cs :=
  scan_mark cs h.1 h.2.1

theorem scan_tail {previous : List Char} {tail : Tail} (h : Continued previous tail)
    (hends : ∀ c ∈ cs.head?, isWord c = false) :
    scan (tail.chars ++ cs) = tail.line ++ scan cs ∧
      ∀ c ∈ (tail.chars ++ cs).head?, isWord c = false := by
  induction h with
  | done _ => exact ⟨rfl, hends⟩
  | @more previous w c tail h hne hw _ ih =>
      obtain ⟨hscan, hhead⟩ := ih
      have hmark := proper_of_continues h
      simp only [Tail.chars, Tail.line, List.flatMap_cons, List.cons_append, List.append_assoc,
        List.nil_append] at hscan hhead ⊢
      refine ⟨?_, by simpa using hmark.1⟩
      rw [scan_proper_mark _ hmark, scan_append_word hne hw hhead, hscan]

theorem scan_number {negative : Bool} {w : List Char} {tail : Tail} (h : IsNumber w tail)
    (hends : ∀ c ∈ cs.head?, isWord c = false) :
    scan (numberChars negative w tail ++ cs) = numberLine negative w tail ++ scan cs := by
  obtain ⟨hscan, hhead⟩ := scan_tail h.continued hends
  have hword : scan (w ++ tail.chars ++ cs) = .word w :: tail.line ++ scan cs := by
    rw [List.append_assoc, scan_append_word h.ne_nil h.word hhead, hscan]
    rfl
  cases negative with
  | false => exact hword
  | true =>
      show scan ('-' :: (w ++ tail.chars ++ cs)) = _
      rw [scan_mark _ (by decide) (by decide), hword]
      rfl

theorem proper_tail {previous : List Char} {tail : Tail} (h : Continued previous tail) :
    ∀ t ∈ tail.line, Proper t := by
  induction h with
  | done _ => simp [Tail.line]
  | more h hne hw _ ih =>
      simp only [Tail.line, List.flatMap_cons, List.cons_append, List.nil_append] at ih ⊢
      exact List.forall_mem_cons.mpr ⟨proper_of_continues h, List.forall_mem_cons.mpr ⟨⟨hne, hw⟩, ih⟩⟩

theorem proper_number {negative : Bool} {w : List Char} {tail : Tail} (h : IsNumber w tail) :
    ∀ t ∈ numberLine negative w tail, Proper t := by
  have hword : ∀ t ∈ .word w :: tail.line, Proper t :=
    List.forall_mem_cons.mpr ⟨⟨h.ne_nil, h.word⟩, proper_tail h.continued⟩
  cases negative with
  | false => exact hword
  | true => exact List.forall_mem_cons.mpr ⟨⟨by decide, by decide, by decide⟩, hword⟩

theorem proper (h : Laid body j cs line) : ∀ t ∈ line, Proper t := by
  have hdot : Proper (.mark '.') := ⟨by decide, by decide, by decide⟩
  induction h with
  | nil => simp
  | gap _ _ ih => exact ih
  | mark h _ ih => exact List.forall_mem_cons.mpr ⟨proper_mark h, ih⟩
  | dots _ ih =>
      exact List.forall_mem_cons.mpr ⟨hdot, List.forall_mem_cons.mpr ⟨hdot,
        List.forall_mem_cons.mpr ⟨hdot, ih⟩⟩⟩
  | name h _ _ ih =>
      exact List.forall_mem_cons.mpr
        ⟨⟨mt String.toList_eq_nil_iff.mp h.ne_empty, h.isWord⟩, ih⟩
  | number _ parts _ _ _ _ ih =>
      exact List.forall_mem_append.mpr ⟨proper_number parts, ih⟩
  | text _ _ ih => exact List.forall_mem_cons.mpr ⟨trivial, ih⟩

theorem hexed_number (negative : Bool) (w : List Char) (tail : Tail) :
    (numberLine negative w tail).flatMap hexed = numberLine negative w tail := by
  have htail : tail.line.flatMap hexed = tail.line := by
    induction tail with
    | nil => rfl
    | cons e tail ih => simpa [Tail.line] using ih
  cases negative <;> simp [numberLine, htail]

/-- A text whose literals are digits has the lexemes of its layout. -/
theorem scan_eq (h : Laid (fun s => (Hex.ofText s).toList) j cs line) :
    scan cs = line.flatMap hexed := by
  induction h with
  | nil => rfl
  | gap h _ ih => rw [scan_blank _ (stop_of_isGapChar h).2, ih]
  | mark h _ ih =>
      rw [scan_proper_mark _ (proper_mark h), ih]
      rfl
  | dots _ ih =>
      have hdot : Proper (.mark '.') := ⟨by decide, by decide, by decide⟩
      rw [scan_proper_mark _ hdot, scan_proper_mark _ hdot, scan_proper_mark _ hdot, ih]
      rfl
  | name h ends _ ih =>
      rw [scan_append_word (mt String.toList_eq_nil_iff.mp h.ne_empty) h.isWord ends, ih]
      rfl
  | number _ parts ends _ _ _ ih =>
      rw [scan_number parts fun c hc => (ends c hc).1, ih, List.flatMap_append, hexed_number]
  | @text s cs line _ _ ih =>
      have hrest : scan ((Hex.ofText s).toList ++ '"' :: cs)
          = ofRun (Hex.ofText s).toList ++ .mark '"' :: scan cs := by
        rw [scan_append_cons _ _ (by decide), scan, scanFrom_word [] _ fun c => isWord_of_mem_ofText,
          scan_mark _ (by decide) (by decide)]
        rfl
      rw [scan_mark _ (by decide) (by decide), hrest, ih]
      simp [hexed]

end Laid

end Lexeme

end PersistedOps
